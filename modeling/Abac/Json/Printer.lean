import Abac.Json
import Abac.Text.Numeral

/-!
# Writing JSON

A value is written without blanks. In a string the quote, the backslash and the control characters
below the blank are escaped, and every other character stands for itself.
-/

namespace Abac.Json

/-- A hexadecimal digit in lower case. -/
def hexDigit (n : Nat) : Char := (Nat.toDigits 16 (n % 16)).headD '0'

/-- A character as it stands in a string literal. -/
def escape (c : Char) : List Char :=
  if c = '"' then ['\\', '"']
  else if c = '\\' then ['\\', '\\']
  else if c = '\n' then ['\\', 'n']
  else if c = '\r' then ['\\', 'r']
  else if c = '\t' then ['\\', 't']
  else if c.toNat < 0x20 then
    ['\\', 'u', '0', '0', hexDigit (c.toNat / 16), hexDigit c.toNat]
  else [c]

/-- A string literal. -/
def quoted (s : String) : String :=
  "\"" ++ String.ofList (s.toList.flatMap escape) ++ "\""

mutual

/-- The text of a value. -/
def render : Json → String
  | .null => "null"
  | .bool true => "true"
  | .bool false => "false"
  | .integer n => String.ofList (Text.signedDigits n)
  | .real text => text
  | .string s => quoted s
  | .unpaired => quoted "\uFFFD"
  | .array items => "[" ++ renderItems items ++ "]"
  | .object fields => "\x7b" ++ renderFields fields ++ "\x7d"

/-- The items of an array, with commas between them. -/
def renderItems : List Json → String
  | [] => ""
  | [j] => j.render
  | j :: rest => j.render ++ "," ++ renderItems rest

/-- The fields of an object, with commas between them. -/
def renderFields : List (String × Json) → String
  | [] => ""
  | [(name, j)] => quoted name ++ ":" ++ j.render
  | (name, j) :: rest => quoted name ++ ":" ++ j.render ++ "," ++ renderFields rest

end

end Abac.Json
