import Abac.Attribute
import Abac.Pattern.Compile
import Abac.Pattern.Search

/-!
# Surroundings

Beside its arguments, code that takes part in an evaluation can consult where attributes come from,
what content can be selected, two settings, and how patterns are read. Every function is given
these, whether it is built in or not.
-/

namespace Abac

/-- A lookup of values in the content of a request, by a path. -/
structure Selector where
  category : Identifier
  path : String
  dataType : DataType
  /-- Whether there must be a value. -/
  mustBePresent : Bool
  deriving DecidableEq, Repr

/-- A reader of patterns: whether a text has a match, or why the pattern cannot be read. -/
abbrev PatternReader := String → Except String (String → Bool)

/-- The built-in reader of patterns. -/
def Pattern.reader : PatternReader := fun pattern =>
  match Pattern.read pattern with
  | .ok p => .ok fun text => p.occursIn text.toList
  | .error e => .error e.message

/-- What an evaluation consults. -/
structure Surroundings where
  /-- Where attributes are looked up. -/
  lookup : LookupKey → Except String LookupAnswer
  /-- Where content is selected from. -/
  select : Selector → Except String LookupAnswer
  /-- Whether results list the policies that apply. -/
  returnPolicyIds : Bool
  /-- Whether events are recorded. -/
  tracing : Bool
  /-- How patterns are read. -/
  patterns : PatternReader

namespace Surroundings

/-- The answer to a selection where there is no content. -/
def noContent (s : Selector) : Except String LookupAnswer :=
  .ok (.failed (.processingError ("Attribute selection is not supported: " ++ s.path)))

/-- The surroundings in which there is nothing to be found. -/
def bare : Surroundings where
  lookup _ := .ok (.found [])
  select := noContent
  returnPolicyIds := false
  tracing := false
  patterns := Pattern.reader

end Surroundings

end Abac
