import Abac.Text.Cut
import Abac.Text.Numeral

/-!
# Internet addresses

An address of version 4 is four octets in decimal with points between them; a leading zero is not
allowed. An address of version 6 is eight groups of up to four hexadecimal digits with colons
between them. Once, two colons may stand for one or more groups of zeros, and an address of version
4 may stand for the last two groups.

An address of version 6 is written in its canonical form: the first of the longest runs of at least
two zero groups is left out, and an address that embeds one of version 4 shows it as such.
-/

namespace Abac

/-- An address of version 4, as four octets. -/
structure Ipv4 where
  a : UInt8
  b : UInt8
  c : UInt8
  d : UInt8
  deriving DecidableEq, Repr

namespace Ipv4

/-- A decimal octet of one to three digits at the start of a text. -/
def takeOctet (s : List Char) : Option (UInt8 × List Char) :=
  let ds := s.takeWhile Char.isDigit
  if ds.isEmpty || ds.length > 3 || (ds.head? == some '0' && ds.length > 1) ||
      Text.ofDigits ds > 255 then none
  else some (UInt8.ofNat (Text.ofDigits ds), s.dropWhile Char.isDigit)

/-- A point and an octet at the start of a text. -/
def takeNext : List Char → Option (UInt8 × List Char)
  | '.' :: r => takeOctet r
  | _ => none

/-- An address at the start of a text, and the rest. -/
def take (s : List Char) : Option (Ipv4 × List Char) := do
  let (a, s) ← takeOctet s
  let (b, s) ← takeNext s
  let (c, s) ← takeNext s
  let (d, s) ← takeNext s
  return (⟨a, b, c, d⟩, s)

/-- Read an address. -/
def read? (s : List Char) : Option Ipv4 :=
  match take s with
  | some (ip, []) => some ip
  | _ => none

/-- The text of an address. -/
def render (ip : Ipv4) : List Char :=
  Text.digits ip.a.toNat ++ '.' :: Text.digits ip.b.toNat ++ '.' :: Text.digits ip.c.toNat ++
    '.' :: Text.digits ip.d.toNat

end Ipv4

/-- An address of version 6, as eight groups of sixteen bits. -/
structure Ipv6 where
  groups : List UInt16
  eight : groups.length = 8
  deriving DecidableEq, Repr

namespace Ipv6

/-- The value of a hexadecimal digit. -/
def hexValue? (c : Char) : Option Nat :=
  if c.isDigit then some (c.toNat - 48)
  else if 'a' ≤ c ∧ c ≤ 'f' then some (c.toNat - 87)
  else if 'A' ≤ c ∧ c ≤ 'F' then some (c.toNat - 55)
  else none

/-- The number that hexadecimal digits denote. -/
def ofHex (s : List Char) : Nat := s.foldl (fun n c => 16 * n + (hexValue? c).getD 0) 0

/-- A group of one to four hexadecimal digits at the start of a text. -/
def takeGroup (s : List Char) : Option (UInt16 × List Char) :=
  let isHex := fun c => (hexValue? c).isSome
  let ds := s.takeWhile isHex
  if ds.isEmpty || ds.length > 4 then none
  else some (UInt16.ofNat (ofHex ds), s.dropWhile isHex)

/-- The text where the next group of a run starts: after a colon, the first group excepted. -/
def nextGroup (first : Bool) (s : List Char) : Option (List Char) :=
  if first then some s else Text.dropHead? ':' s

/-- The two groups that an address of version 4 stands for. -/
def embedded (ip : Ipv4) : List UInt16 :=
  [ip.a.toUInt16 * 256 + ip.b.toUInt16, ip.c.toUInt16 * 256 + ip.d.toUInt16]

/-- A run of groups at the start of a text. -/
structure Run where
  groups : List UInt16
  /-- Whether the run ends in an address of version 4. -/
  endsInV4 : Bool
  rest : List Char

/-- The longest run of at most `room` groups with colons between them. An address of version 4 is
tried before a group where two groups have room; it ends the run. -/
def takeRun : Nat → Bool → List Char → Run
  | 0, _, s => ⟨[], false, s⟩
  | room + 1, first, s =>
    match (if room = 0 then none else (nextGroup first s).bind Ipv4.take) with
    | some (ip, rest) => ⟨embedded ip, true, rest⟩
    | none =>
      match (nextGroup first s).bind takeGroup with
      | some (g, rest) =>
        let tail := takeRun room false rest
        { tail with groups := g :: tail.groups }
      | none => ⟨[], false, s⟩

/-- The address of a number of groups, if there are eight. -/
def ofGroups? (groups : List UInt16) : Option Ipv6 :=
  if h : groups.length = 8 then some ⟨groups, h⟩ else none

/-- Read an address. -/
def read? (s : List Char) : Option Ipv6 :=
  let head := takeRun 8 true s
  if head.groups.length = 8 then
    if head.rest.isEmpty then ofGroups? head.groups else none
  else if head.endsInV4 then none
  else
    match head.rest with
    | ':' :: ':' :: r =>
      let tail := takeRun (7 - head.groups.length) true r
      if tail.rest.isEmpty then
        let gap := 8 - head.groups.length - tail.groups.length
        ofGroups? (head.groups ++ List.replicate gap 0 ++ tail.groups)
      else none
    | _ => none

/-- The address of version 4 that an address embeds, if it does. -/
def embedded? (ip : Ipv6) : Option Ipv4 :=
  match ip.groups with
  | [0, 0, 0, 0, 0, 0xFFFF, x, y] =>
    some ⟨(x / 256).toUInt8, (x % 256).toUInt8, (y / 256).toUInt8, (y % 256).toUInt8⟩
  | _ => none

/-- The length of the run of zeros that a list of groups starts with. -/
def zerosAtStart (groups : List UInt16) : Nat := (groups.takeWhile (· == 0)).length

/-- The start and the length of the first of the longest runs of zeros, counted from `index` on. -/
def longestZeros (index : Nat) : List UInt16 → Nat × Nat
  | [] => (index, 0)
  | g :: rest =>
    let here := zerosAtStart (g :: rest)
    let later := longestZeros (index + 1) rest
    if later.2 > here then later else (index, here)

/-- Groups with colons between them. -/
def renderGroups : List UInt16 → List Char
  | [] => []
  | [g] => Nat.toDigits 16 g.toNat
  | g :: rest => Nat.toDigits 16 g.toNat ++ ':' :: renderGroups rest

/-- The text of an address. -/
def render (ip : Ipv6) : List Char :=
  match ip.embedded? with
  | some v4 => [':', ':', 'f', 'f', 'f', 'f', ':'] ++ v4.render
  | none =>
    let (start, length) := longestZeros 0 ip.groups
    if length > 1 then
      renderGroups (ip.groups.take start) ++ [':', ':'] ++
        renderGroups (ip.groups.drop (start + length))
    else renderGroups ip.groups

end Ipv6

/-- An internet address of either version. -/
inductive Ip where
  | v4 (ip : Ipv4)
  | v6 (ip : Ipv6)
  deriving DecidableEq, Repr

/-- The text of an address without brackets. -/
def Ip.render : Ip → List Char
  | .v4 ip => ip.render
  | .v6 ip => ip.render

/-- The text of an address with brackets around one of version 6. -/
def Ip.bracketed : Ip → List Char
  | .v4 ip => ip.render
  | .v6 ip => '[' :: ip.render ++ [']']

end Abac
