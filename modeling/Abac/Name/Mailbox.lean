import Abac.Text.Cut
import Abac.Unicode.Case

/-!
# Mailbox names

A mailbox is a local part and a domain with an at sign between them. The local part is compared as
it is written, the domain without regard to the case of the letters A to Z.

A mailbox is matched by a pattern of one of three forms: a whole mailbox, a domain, or a point
and the rest of a domain, which stands for every domain below it.
-/

namespace Abac

/-- A mailbox name. -/
structure Mailbox where
  localPart : List Char
  domain : List Char
  deriving Repr

namespace Mailbox

/-- Why a text is no mailbox name. -/
inductive ReadError where
  /-- There is no at sign. -/
  | missingAt
  /-- A part is empty or there is a second at sign. -/
  | malformed
  deriving DecidableEq, Repr

/-- The wording of a read error. -/
def ReadError.message : ReadError → String
  | .missingAt => "missing '@'"
  | .malformed => "malformed mailbox"

/-- Read a mailbox name. -/
def read (s : List Char) : Except ReadError Mailbox :=
  match Text.cutLast '@' s with
  | none => .error .missingAt
  | some (l, d) =>
    if l.isEmpty || d.isEmpty || l.contains '@' then .error .malformed else .ok ⟨l, d⟩

/-- The text of a mailbox name. -/
def render (m : Mailbox) : List Char := m.localPart ++ '@' :: m.domain

/-- What equality and hashes of a mailbox depend on. -/
def hashKey (m : Mailbox) : List Char × List Char := (m.localPart, Unicode.lowerAscii m.domain)

/-- Whether two texts differ at most in the case of the letters A to Z. -/
def sameDomain (a b : List Char) : Bool := Unicode.lowerAscii a == Unicode.lowerAscii b

instance : BEq Mailbox := ⟨fun a b => a.localPart == b.localPart && sameDomain a.domain b.domain⟩

/-- Whether a pattern matches a mailbox. -/
def matchesPattern (m : Mailbox) (pattern : List Char) : Bool :=
  match Text.cutLast '@' pattern with
  | some (l, d) => m.localPart == l && sameDomain m.domain d
  | none =>
    if pattern.head? = some '.' then
      (Unicode.lowerAscii pattern).isSuffixOf (Unicode.lowerAscii m.domain)
    else sameDomain m.domain pattern

end Mailbox

end Abac
