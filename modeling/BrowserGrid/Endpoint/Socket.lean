import BrowserGrid.Endpoint.Ipv6
import BrowserGrid.Text.Integer
/-!
# Addresses to listen on

A `SocketAddress` is an IP address with a port.  Its text is `1.2.3.4:80` or `[::1]:80`; the numbers
of an IPv4 address have no leading zeros, and an IPv6 address may carry the number of a scope.
-/

namespace BrowserGrid

/-- An IP address with a port. -/
inductive SocketAddress where
  /-- An IPv4 address of two 16-bit pieces. -/
  | v4 (pieces : List Nat) (port : Nat)
  /-- An IPv6 address of eight 16-bit pieces in a scope. -/
  | v6 (pieces : List Nat) (scope port : Nat)
  deriving DecidableEq, Inhabited

namespace SocketAddress

/-- Read a port. -/
def port? (cs : List Char) : Option Nat := (Text.digits? cs).filter (· ≤ Text.maxPort)

/-- Read an IPv4 address with its port. -/
def parseV4? (cs : List Char) : Option SocketAddress := do
  let (host, port) ← Text.cutAtList (· = ':') cs
  return .v4 (← Ipv6.embedded? host) (← port? port)

/-- Read an IPv6 address, which may have a scope. -/
def scoped? (cs : List Char) : Option (List Nat × Nat) := do
  match Text.cutAtList (· = '%') cs with
  | none => return (← Ipv6.parse? cs, 0)
  | some (host, scope) =>
    return (← Ipv6.parse? host, ← (Text.digits? scope).filter (· ≤ Text.maxWord))

/-- Read an IPv6 address between brackets with its port. -/
def parseV6? : List Char → Option SocketAddress
  | '[' :: cs => do
    let (host, rest) ← Text.cutAtList (· = ']') cs
    let (pieces, scope) ← scoped? host
    match rest with
    | ':' :: port => return .v6 pieces scope (← port? port)
    | _ => none
  | _ => none

/-- The address that a text writes. -/
def parse? (s : String) : Option SocketAddress := (parseV4? s.toList).or (parseV6? s.toList)

/-- Four bytes with points between them. -/
def v4Text (pieces : List Nat) : String :=
  ".".intercalate ((pieces.flatMap fun p => [p / 256, p % 256]).map toString)

/-- An IPv6 address; one that stands for an IPv4 address shows it. -/
def v6Text (pieces : List Nat) : String :=
  if pieces.take 6 = [0, 0, 0, 0, 0, 0xffff] then "::ffff:" ++ v4Text (pieces.drop 6)
  else Ipv6.text pieces

/-- The text of an address. -/
def text : SocketAddress → String
  | v4 pieces port => v4Text pieces ++ ":" ++ toString port
  | v6 pieces scope port =>
    let within := if scope = 0 then "" else "%" ++ toString scope
    "[" ++ v6Text pieces ++ within ++ "]:" ++ toString port

end SocketAddress

end BrowserGrid
