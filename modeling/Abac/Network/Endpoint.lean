import Abac.Network.Address
import Abac.Network.Port

/-!
# Endpoints

An endpoint is an address with an optional mask and port range, or a host name with an optional port
range. An address of version 6 and its mask stand in brackets. A host name consists of labels of
letters, digits and inner hyphens, and may start with a wildcard for one label or more.
-/

namespace Abac

/-- An internet address with an optional mask and port range. -/
structure IpEndpoint where
  address : Ip
  mask : Option Ip
  ports : Option PortRange
  deriving DecidableEq, Repr

namespace IpEndpoint

/-- Why a text is no address. -/
inductive ReadError where
  | invalidV4Address (text : List Char)
  | invalidV4Mask (text : List Char)
  | invalidV6Address (text : List Char)
  | invalidV6Mask (text : List Char)
  | missingOpening
  | missingClosing
  | trailing (text : List Char)
  | ports (e : PortRange.ReadError)
  deriving DecidableEq, Repr

/-- The wording of a read error. -/
def ReadError.message : ReadError → String
  | .invalidV4Address text => "invalid IPv4 address \"" ++ String.ofList text ++ "\""
  | .invalidV4Mask text => "invalid IPv4 mask \"" ++ String.ofList text ++ "\""
  | .invalidV6Address text => "invalid IPv6 address \"" ++ String.ofList text ++ "\""
  | .invalidV6Mask text => "invalid IPv6 mask \"" ++ String.ofList text ++ "\""
  | .missingOpening => "expected '['"
  | .missingClosing => "missing ']'"
  | .trailing text => "unexpected trailing text \"" ++ String.ofList text ++ "\""
  | .ports e => e.message

/-- Read a port range. -/
def readPorts (s : List Char) : Except ReadError PortRange :=
  match PortRange.read s with
  | .ok r => .ok r
  | .error e => .error (.ports e)

/-- Read `a.b.c.d[/mask][:ports]`. The ports are looked at before the address. -/
def readV4 (s : List Char) : Except ReadError IpEndpoint := do
  let (rest, portText) := match Text.cutFirst ':' s with
    | some (a, b) => (a, some b)
    | none => (s, none)
  let ports ← portText.mapM readPorts
  let (addressText, maskText) := match Text.cutFirst '/' rest with
    | some (a, b) => (a, some b)
    | none => (rest, none)
  let some address := Ipv4.read? addressText | throw (.invalidV4Address addressText)
  match maskText with
  | none => return ⟨.v4 address, none, ports⟩
  | some m =>
    let some mask := Ipv4.read? m | throw (.invalidV4Mask m)
    return ⟨.v4 address, some (.v4 mask), ports⟩

/-- What stands between brackets at the start of a text, and what follows them. -/
def bracketed : List Char → Except ReadError (List Char × List Char)
  | '[' :: r =>
    match Text.cutFirst ']' r with
    | some p => .ok p
    | none => .error .missingClosing
  | _ => .error .missingOpening

/-- The mask after an address of version 6, if a slash announces one. -/
def takeV6Mask : List Char → Except ReadError (Option Ip × List Char)
  | '/' :: r => do
    let (text, rest) ← bracketed r
    let some mask := Ipv6.read? text | throw (.invalidV6Mask text)
    return (some (.v6 mask), rest)
  | s => .ok (none, s)

/-- Read `[address][/[mask]][:ports]`. -/
def readV6 (s : List Char) : Except ReadError IpEndpoint := do
  let (text, rest) ← bracketed s
  let some address := Ipv6.read? text | throw (.invalidV6Address text)
  let (mask, rest) ← takeV6Mask rest
  match rest with
  | [] => return ⟨.v6 address, mask, none⟩
  | ':' :: p => return ⟨.v6 address, mask, some (← readPorts p)⟩
  | _ => throw (.trailing rest)

/-- Read an address; one of version 6 starts with a bracket. -/
def read (s : List Char) : Except ReadError IpEndpoint :=
  if s.head? = some '[' then readV6 s else readV4 s

/-- The text of a mask after an address. -/
def renderMask : Option Ip → List Char
  | none => []
  | some m => '/' :: m.bracketed

/-- The text of an address with its mask and ports. -/
def render (e : IpEndpoint) : List Char :=
  e.address.bracketed ++ renderMask e.mask ++ PortRange.renderSuffix e.ports

end IpEndpoint

/-- A host name with an optional port range. -/
structure HostEndpoint where
  host : List Char
  ports : Option PortRange
  deriving DecidableEq, Repr

namespace HostEndpoint

/-- Why a text is no host name. -/
inductive ReadError where
  | invalidHost (text : List Char)
  | ports (e : PortRange.ReadError)
  deriving DecidableEq, Repr

/-- The wording of a read error. -/
def ReadError.message : ReadError → String
  | .invalidHost text => "invalid host name \"" ++ String.ofList text ++ "\""
  | .ports e => e.message

/-- Whether a text is a label of a host name. -/
def isLabel (s : List Char) : Bool :=
  !s.isEmpty && s.head? != some '-' && s.getLast? != some '-' &&
    s.all fun c => c.isAlphanum || c == '-'

/-- The host name without a wildcard at its start. -/
def withoutWildcard : List Char → List Char
  | '*' :: '.' :: r => r
  | s => s

/-- Whether a text is a host name. -/
def isHost (s : List Char) : Bool :=
  !(withoutWildcard s).isEmpty && (Text.pieces '.' (withoutWildcard s)).all isLabel

/-- Read a host name and an optional port range. The ports are looked at first. -/
def read (s : List Char) : Except ReadError HostEndpoint := do
  let (host, portText) := match Text.cutFirst ':' s with
    | some (a, b) => (a, some b)
    | none => (s, none)
  let ports ← portText.mapM fun p =>
    match PortRange.read p with
    | .ok r => .ok r
    | .error e => throw (.ports e)
  if isHost host then return ⟨host, ports⟩ else throw (.invalidHost host)

/-- The text of a host name with its ports. -/
def render (e : HostEndpoint) : List Char := e.host ++ PortRange.renderSuffix e.ports

end HostEndpoint

end Abac
