import Abac.Pattern.ReadError
import Abac.Text.Cut
import Abac.Unicode.Break
import Abac.Unicode.Edition
import Abac.Unicode.ScriptExtension

/-!
# Names of character properties

A pattern can ask for the characters of a property by name, or by the name of a property and one of
its values. Names are compared loosely: case, blanks, hyphens, underscores and characters beyond the
first 128 do not count, nor does a leading `is`.
-/

namespace Abac.Pattern

/-- The characters of a name that count, in lower case. -/
def looseChars (s : List Char) : List Char :=
  (s.filter fun c => c.toNat < 0x80 && c != ' ' && c != '_' && c != '-').map Char.toLower

/-- A name as loose matching sees it. The name `isc` keeps its start, as it would be another name
without it. -/
def looseName (s : List Char) : String :=
  match s with
  | a :: b :: rest =>
    if a.toLower = 'i' ∧ b.toLower = 's' then
      if looseChars rest = ['c'] then "isc" else String.ofList (looseChars rest)
    else String.ofList (looseChars s)
  | _ => String.ofList (looseChars s)

/-- The characters that a single name stands for. The names of properties come before those of
general categories, and these before those of scripts. -/
def property? (name : String) : Option CharSet :=
  match Unicode.Property.named? name with
  | some p => some p.set
  | none => (Unicode.Category.named? name).or ((Unicode.Script.named? name).map Unicode.Script.set)

/-- The characters that the name of a property and one of its values stand for. -/
def propertyValue? (name value : String) : Option CharSet :=
  match name with
  | "gc" | "generalcategory" => Unicode.Category.named? value
  | "sc" | "script" => (Unicode.Script.named? value).map Unicode.Script.set
  | "scx" | "scriptextensions" => (Unicode.Script.named? value).map Unicode.Script.usedSet
  | "age" => Unicode.Edition.named? value
  | "gcb" | "graphemeclusterbreak" =>
    (Unicode.GraphemeBreak.named? value).map Unicode.GraphemeBreak.set
  | "wb" | "wordbreak" => (Unicode.WordBreak.named? value).map Unicode.WordBreak.set
  | "sb" | "sentencebreak" =>
    (Unicode.SentenceBreak.named? value).map Unicode.SentenceBreak.set
  | _ => none

/-- The text before the first occurrence of an exclamation mark and an equals sign, and the text
after it. -/
def cutUnequal : List Char → Option (List Char × List Char)
  | '!' :: '=' :: rest => some ([], rest)
  | c :: rest => (cutUnequal rest).map fun p => (c :: p.1, p.2)
  | [] => none

/-- What is asked for by a written property. -/
inductive Query where
  /-- A property with a single name. -/
  | named (name : List Char)
  /-- A property and one of its values; `excluded` asks for the characters without it. -/
  | valued (excluded : Bool) (name value : List Char)

/-- A written property cut at the sign that separates a value from its name. -/
def Query.ofText (s : List Char) : Query :=
  match cutUnequal s with
  | some (name, value) => .valued true name value
  | none =>
    match Text.cutFirst ':' s with
    | some (name, value) => .valued false name value
    | none =>
      match Text.cutFirst '=' s with
      | some (name, value) => .valued false name value
      | none => .named s

/-- Whether what is asked for is excluded. -/
def Query.excluded : Query → Bool
  | .named _ => false
  | .valued excluded _ _ => excluded

/-- The characters that a query names, before any are excluded. -/
def Query.set? : Query → Except ReadError CharSet
  | .named name => ((property? (looseName name)).map .ok).getD (.error .unknownProperty)
  | .valued _ name value =>
    ((propertyValue? (looseName name) (looseName value)).map .ok).getD (.error .unknownProperty)

end Abac.Pattern
