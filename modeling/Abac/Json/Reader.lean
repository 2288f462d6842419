import Abac.Json
import Abac.Text.Numeral

/-!
# Reading JSON

The grammar is the strict one: no comments, no trailing commas, no leading zeros, no raw control
characters in strings, nothing after the value but blanks. The three readers of values, items and
fields call each other with less fuel; the length of the text is always enough, because each call
consumes a character.
-/

namespace Abac.Json

/-- The four characters that may stand between tokens. -/
def isGap (c : Char) : Bool := c == ' ' || c == '\t' || c == '\n' || c == '\r'

/-- The text without the gap it starts with. -/
def skipGap (s : List Char) : List Char := s.dropWhile isGap

/-- The value of a hexadecimal digit. -/
def hexValue? (c : Char) : Option Nat :=
  if c.isDigit then some (c.toNat - 48)
  else if 'a' ≤ c ∧ c ≤ 'f' then some (c.toNat - 87)
  else if 'A' ≤ c ∧ c ≤ 'F' then some (c.toNat - 55)
  else none

/-- The number that four hexadecimal digits denote. -/
def hexQuad? (a b c d : Char) : Option Nat :=
  match hexValue? a, hexValue? b, hexValue? c, hexValue? d with
  | some w, some x, some y, some z => some (((w * 16 + x) * 16 + y) * 16 + z)
  | _, _, _, _ => none

/-- What a character after a backslash stands for. -/
def simpleEscape? : Char → Option Char
  | '"' => some '"'
  | '\\' => some '\\'
  | '/' => some '/'
  | 'b' => some '\x08'
  | 'f' => some '\x0c'
  | 'n' => some '\n'
  | 'r' => some '\r'
  | 't' => some '\t'
  | _ => none

/-- The 16-bit units of a string literal, up to its closing quote, and the text after the quote. A
character that was not written as an escape of four digits counts as one unit, whatever its size. -/
def readUnits : List Char → Option (List Nat × List Char)
  | [] => none
  | '"' :: rest => some ([], rest)
  | '\\' :: 'u' :: a :: b :: c :: d :: rest =>
    match hexQuad? a b c d, readUnits rest with
    | some n, some (units, tail) => some (n :: units, tail)
    | _, _ => none
  | '\\' :: e :: rest =>
    match simpleEscape? e, readUnits rest with
    | some x, some (units, tail) => some (x.toNat :: units, tail)
    | _, _ => none
  | c :: rest =>
    if c.toNat < 0x20 then none
    else (readUnits rest).map fun p => (c.toNat :: p.1, p.2)

/-- Join surrogate pairs; `none` if one half stands alone. -/
def joinPairs : List Nat → Option (List Char)
  | [] => some []
  | u :: rest =>
    if 0xD800 ≤ u ∧ u < 0xDC00 then
      match rest with
      | v :: tail =>
        if 0xDC00 ≤ v ∧ v < 0xE000 then
          (joinPairs tail).map (Char.ofNat (0x10000 + (u - 0xD800) * 0x400 + (v - 0xDC00)) :: ·)
        else none
      | [] => none
    else if 0xDC00 ≤ u ∧ u < 0xE000 then none
    else (joinPairs rest).map (Char.ofNat u :: ·)

/-- A string literal whose opening quote has been read. -/
def readString (s : List Char) : Option (Json × List Char) :=
  (readUnits s).map fun p =>
    match joinPairs p.1 with
    | some cs => (.string (String.ofList cs), p.2)
    | none => (.unpaired, p.2)

/-- The digits that a text starts with, if there is at least one, and the rest. -/
def takeDigits (s : List Char) : Option (List Char × List Char) :=
  match s.takeWhile Char.isDigit with
  | [] => none
  | ds => some (ds, s.dropWhile Char.isDigit)

/-- The whole part of a numeral: a zero alone, or digits that do not start with one. -/
def takeWhole (s : List Char) : Option (List Char × List Char) :=
  match s with
  | '0' :: rest => if rest.head?.any Char.isDigit then none else some (['0'], rest)
  | _ => takeDigits s

/-- The fraction of a numeral, empty if there is none. -/
def takeFraction (s : List Char) : Option (List Char × List Char) :=
  match s with
  | '.' :: rest => (takeDigits rest).map fun p => ('.' :: p.1, p.2)
  | _ => some ([], s)

/-- The exponent of a numeral, empty if there is none. -/
def takeExponent (s : List Char) : Option (List Char × List Char) :=
  match s with
  | e :: rest =>
    if e = 'e' ∨ e = 'E' then
      match rest with
      | '+' :: tail => (takeDigits tail).map fun p => (e :: '+' :: p.1, p.2)
      | '-' :: tail => (takeDigits tail).map fun p => (e :: '-' :: p.1, p.2)
      | _ => (takeDigits rest).map fun p => (e :: p.1, p.2)
    else some ([], s)
  | [] => some ([], s)

/-- The value of a numeral. Without fraction and exponent it is an integer if it fits into 64 bits,
with or without sign; a negative zero is none. -/
def numeralValue (negative : Bool) (whole fraction exponent : List Char) : Json :=
  let text := String.ofList ((if negative then ['-'] else []) ++ whole ++ fraction ++ exponent)
  if fraction.isEmpty && exponent.isEmpty then
    let n := Text.ofDigits whole
    if negative then
      if n = 0 ∨ n > 0x8000000000000000 then .real text else .integer (-(n : Int))
    else if n < 0x10000000000000000 then .integer n else .real text
  else .real text

/-- A numeral. -/
def readNumeral (s : List Char) : Option (Json × List Char) :=
  let (negative, body) := match s with
    | '-' :: rest => (true, rest)
    | _ => (false, s)
  (takeWhole body).bind fun (whole, s1) =>
    (takeFraction s1).bind fun (fraction, s2) =>
      (takeExponent s2).map fun (exponent, s3) =>
        (numeralValue negative whole fraction exponent, s3)

mutual

/-- A value at the start of the text, after an optional gap. -/
def readValue : Nat → List Char → Option (Json × List Char)
  | 0, _ => none
  | fuel + 1, s =>
    match skipGap s with
    | 'n' :: 'u' :: 'l' :: 'l' :: rest => some (.null, rest)
    | 't' :: 'r' :: 'u' :: 'e' :: rest => some (.bool true, rest)
    | 'f' :: 'a' :: 'l' :: 's' :: 'e' :: rest => some (.bool false, rest)
    | '"' :: rest => readString rest
    | '[' :: rest =>
      match skipGap rest with
      | ']' :: tail => some (.array [], tail)
      | _ => (readItems fuel rest).map fun p => (.array p.1, p.2)
    | '\x7b' :: rest =>
      match skipGap rest with
      | '\x7d' :: tail => some (.object [], tail)
      | _ => (readFields fuel rest).map fun p => (.object p.1, p.2)
    | t => readNumeral t

/-- One or more items of an array, up to its closing bracket. -/
def readItems : Nat → List Char → Option (List Json × List Char)
  | 0, _ => none
  | fuel + 1, s =>
    match readValue fuel s with
    | none => none
    | some (j, rest) =>
      match skipGap rest with
      | ',' :: tail => (readItems fuel tail).map fun p => (j :: p.1, p.2)
      | ']' :: tail => some ([j], tail)
      | _ => none

/-- One or more fields of an object, up to its closing brace. -/
def readFields : Nat → List Char → Option (List (String × Json) × List Char)
  | 0, _ => none
  | fuel + 1, s =>
    match skipGap s with
    | '"' :: rest =>
      match readString rest with
      | some (.string name, afterName) =>
        match skipGap afterName with
        | ':' :: afterColon =>
          match readValue fuel afterColon with
          | none => none
          | some (j, afterValue) =>
            match skipGap afterValue with
            | ',' :: tail => (readFields fuel tail).map fun p => ((name, j) :: p.1, p.2)
            | '\x7d' :: tail => some ([(name, j)], tail)
            | _ => none
        | _ => none
      | _ => none
    | _ => none

end

/-- The value that a text holds, if it holds exactly one. -/
def read (text : String) : Option Json :=
  let s := text.toList
  match readValue (2 * s.length + 2) s with
  | some (j, rest) => if (skipGap rest).isEmpty then some j else none
  | none => none

end Abac.Json
