import Modbus.Fault
import Modbus.Net.HostName

namespace Modbus.Net

structure SocketAddress where
  host : IpAddress
  port : UInt16
  /-- The zone of an address of version 6; zero stands for none. -/
  scope : Nat := 0
  deriving DecidableEq, Repr

namespace SocketAddress

def text (a : SocketAddress) : String :=
  match a.host with
  | .v4 .. => a.host.text ++ ":" ++ toString a.port.toNat
  | .v6 .. =>
    let zone := if a.scope = 0 then "" else "%" ++ toString a.scope
    "[" ++ a.host.text ++ zone ++ "]:" ++ toString a.port.toNat

def splitPort (text : List Char) : Option (List Char × List Char) :=
  let port := (text.reverse.takeWhile (· != ':')).reverse
  if port.length < text.length then
    some (text.take (text.length - port.length - 1), port)
  else
    none

def bracketed? (text : List Char) : Option (IpAddress × Nat) :=
  match text with
  | '[' :: rest => if rest.getLast? = some ']' then HostName.zoned? rest.dropLast else none
  | _ => none

def ofText? (text : String) : Option SocketAddress := do
  let (host, port) ← splitPort text.toList
  let port ← port? port
  match IpAddress.v4? host with
  | some host => some { host, port }
  | none =>
    let (host, scope) ← bracketed? host
    return { host, port, scope }

end SocketAddress

inductive Endpoint
  | address (a : SocketAddress)
  | named (host : String) (port : UInt16)
  deriving DecidableEq, Repr

namespace Endpoint

def invalidInput (text : String) : ServerError := .stream (.other "InvalidInput") text

def signedPort? : List Char → Option UInt16
  | '+' :: digits => port? digits
  | digits => port? digits

/-- What is no address needs a port number behind its last colon. -/
def parse (text : String) : Except ServerError Endpoint :=
  match SocketAddress.ofText? text with
  | some a => .ok (.address a)
  | none =>
    match SocketAddress.splitPort text.toList with
    | none => .error (invalidInput "invalid socket address")
    | some (host, port) =>
      match signedPort? port with
      | none => .error (invalidInput "invalid port value")
      | some port => .ok (.named (String.ofList host) port)

def unknownHost : ServerError :=
  .stream (.other "Uncategorized")
    "failed to lookup address information: Name or service not known"

def resolve : Endpoint → Except ServerError SocketAddress
  | address a => .ok a
  | named host port =>
    match HostName.resolve? host with
    | some (host, scope) => .ok { host, port, scope }
    | none => .error unknownHost

end Endpoint

end Modbus.Net
