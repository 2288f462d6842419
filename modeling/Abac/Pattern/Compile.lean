import Abac.Pattern.Meaning
import Abac.Pattern.Reader
import Abac.Pattern.Size

/-!
# From a text to a pattern

A text is read as a written form, which must not be nested too deeply; the form is given its
meaning, and the pattern must not be too large.
-/

namespace Abac.Pattern

/-- Read a pattern. -/
def read (text : String) : Except ReadError Pattern := do
  let form ← readForm text
  if !form.fits maxDepth then throw .tooDeep
  let (a, _) ← form.toPattern .initial
  if !a.isSmall then throw .tooLarge
  return a

end Abac.Pattern
