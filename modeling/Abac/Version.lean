import Abac.Text.Cut
import Abac.Text.Numeral

/-!
# Policy versions

A version is a sequence of 64-bit numbers written with points between them. Versions are ordered as
if every sequence went on with zeros for ever, so `1.0` and `1.0.0` are the same version.
-/

namespace Abac

/-- A dotted version number with at least one component. -/
structure Version where
  /-- The components, most significant first. -/
  components : List UInt64
  /-- There is at least one component. -/
  nonempty : components ≠ []
  deriving Repr

/-- Why a text is no version. -/
inductive VersionError where
  /-- There is no component at all. -/
  | invalidFormat (text : String)
  /-- A component is no number below 2^64. -/
  | invalidComponent (part : String)
  deriving DecidableEq, Repr

/-- The wording of a version error. -/
def VersionError.message : VersionError → String
  | .invalidFormat text => "Invalid version format: " ++ text
  | .invalidComponent part => "Invalid version component: " ++ part

namespace Version

/-- The version of a policy that states none: `1.0`. -/
def initial : Version := ⟨[1, 0], by simp⟩

instance : Inhabited Version := ⟨initial⟩

/-- The version with the given components. -/
def ofComponents (components : List UInt64) : Except VersionError Version :=
  if h : components = [] then .error (.invalidFormat "") else .ok ⟨components, h⟩

/-- Read one component: decimal digits that denote a number below 2^64. -/
def readComponent (part : List Char) : Except VersionError UInt64 :=
  match Text.readBounded 0xFFFFFFFFFFFFFFFF part with
  | some n => .ok (UInt64.ofNat n)
  | none => .error (.invalidComponent (String.ofList part))

/-- Read components from first to last; the first bad one decides the error. -/
def readComponents : List (List Char) → Except VersionError (List UInt64)
  | [] => .ok []
  | part :: rest =>
    match readComponent part with
    | .error e => .error e
    | .ok c => (readComponents rest).map (c :: ·)

/-- Read a dotted version number. -/
def read (text : String) : Except VersionError Version :=
  if text = "" then .error (.invalidFormat text)
  else (readComponents (Text.pieces '.' text.toList)).bind ofComponents

/-- The components up to the last one that is not zero. -/
def significant (v : Version) : List UInt64 := (v.components.reverse.dropWhile (· == 0)).reverse

/-- The order of versions: that of their significant components. -/
def cmp (a b : Version) : Ordering := List.compareLex compare a.significant b.significant

/-- Versions are equal when neither comes before the other. -/
instance : BEq Version := ⟨fun a b => a.cmp b == .eq⟩

/-- What a hash of the version depends on. -/
def hashKey (v : Version) : List UInt64 := v.significant

/-- The text of components with points between them. -/
def renderComponents : List UInt64 → List Char
  | [] => []
  | [c] => Text.digits c.toNat
  | c :: rest => Text.digits c.toNat ++ '.' :: renderComponents rest

/-- The text of a version. -/
def render (v : Version) : String := String.ofList (renderComponents v.components)

end Version

end Abac
