import StorageGate.Url.Host
/-!
# Socket addresses

An internet address and a port, as `127.0.0.1:8080` or `[::1]:8080`.  An IPv6 address that stands for an IPv4 one is
written with that one in it, and may have a scope after a percent sign.
-/
namespace StorageGate

/-- An internet address. -/
inductive IpAddress where
  | v4 (address : UInt32)
  /-- A scope of zero is none. -/
  | v6 (address : Ipv6) (scope : UInt32)
deriving DecidableEq, Repr

/-- An internet address and a port. -/
structure SocketAddress where
  ip : IpAddress
  port : UInt16
deriving DecidableEq, Repr

namespace SocketAddress

/-- A run of digits below a bound. -/
def number? (bound : Nat) (text : List Char) : Option Nat :=
  (Numeral.digits? text).filter (· < bound)

/-- An address of four numbers without leading zeros. -/
def ipv4? (text : List Char) : Option UInt32 :=
  match (text.splitOn '.').mapM (Numeral.canonical? 256) with
  | some [a, b, c, d] => some (UInt32.ofNat (((a * 256 + b) * 256 + c) * 256 + d))
  | _ => none

/-- The address and the port of what follows an opening bracket. -/
def bracketed? (text : List Char) : Option SocketAddress := do
  let inside := text.takeWhile (· != ']')
  let port ← match text.dropWhile (· != ']') with
    | ']' :: ':' :: digits => number? 65536 digits
    | _ => none
  let scope ← match inside.dropWhile (· != '%') with
    | [] => some 0
    | _ :: digits => number? size32 digits
  let address ← Host.ipv6? (inside.takeWhile (· != '%'))
  return { ip := .v6 address (UInt32.ofNat scope), port := UInt16.ofNat port }

/-- The socket address of a text. -/
def parse? (text : String) : Option SocketAddress :=
  match text.toList with
  | '[' :: rest => bracketed? rest
  | cs => do
    let address ← ipv4? (cs.takeWhile (· != ':'))
    let port ← match cs.dropWhile (· != ':') with
      | _ :: digits => number? 65536 digits
      | [] => none
    return { ip := .v4 address, port := UInt16.ofNat port }

/-- An IPv6 address as it is written here. -/
def writeIpv6 (address : Ipv6) : List Char :=
  match address.pieces with
  | [0, 0, 0, 0, 0, 0xffff, high, low] =>
    "::ffff:".toList ++ Host.writeIpv4 (UInt32.ofNat (high.toNat * 65536 + low.toNat))
  | _ => Host.writeIpv6 address

/-- The text of a socket address. -/
def text (s : SocketAddress) : String :=
  let port := ':' :: Numeral.write s.port.toNat
  String.ofList <| match s.ip with
    | .v4 address => Host.writeIpv4 address ++ port
    | .v6 address scope =>
      '[' :: writeIpv6 address ++ (if scope = 0 then [] else '%' :: Numeral.write scope.toNat) ++ ']' :: port

end SocketAddress
end StorageGate
