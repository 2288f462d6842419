/-!
# Octets

The binary data types are read from the UTF-8 octets of their text: positions and lengths in their
errors count octets, and an octet that does not belong is shown as the character with its number.
-/

namespace Abac.Text

/-- The UTF-8 octets of a text. -/
def octets (s : List Char) : List UInt8 := s.flatMap String.utf8EncodeChar

/-- A character below U+0100 between single quotes. Quotes, the backslash and the usual controls are
written as escapes of one character, and what does not print as its number in braces. -/
def quoteLatin (b : UInt8) : String :=
  let c := Char.ofNat b.toNat
  let body :=
    if b = 0 then "\\0"
    else if c = '\t' then "\\t"
    else if c = '\r' then "\\r"
    else if c = '\n' then "\\n"
    else if c = '\'' then "\\'"
    else if c = '\\' then "\\\\"
    else if b < 0x20 ∨ (0x7F ≤ b ∧ b ≤ 0xA0) ∨ b = 0xAD then
      "\\u\x7b" ++ String.ofList (Nat.toDigits 16 b.toNat) ++ "\x7d"
    else String.singleton c
  "'" ++ body ++ "'"

end Abac.Text
