import Modbus.Net.IpAddress

namespace Modbus.Net.HostName

def largest : Nat := 4294967295

/-- A number whose front tells its radix: sixteen behind `0x`, eight behind any other zero, and else
ten. -/
def part? : List Char → Option Nat
  | '0' :: 'x' :: digits => numeralUpTo? 16 largest digits
  | '0' :: 'X' :: digits => numeralUpTo? 16 largest digits
  | '0' :: digits => numeralUpTo? 8 largest ('0' :: digits)
  | digits => numeralUpTo? 10 largest digits

/-- At most four parts. All but the last stand for an octet each, and the last for all others. -/
def ofParts? (parts : List Nat) : Option IpAddress := do
  let last ← parts.getLast?
  let front := parts.dropLast
  let count := 4 - front.length
  if front.all (· ≤ 255) && last < Nat.pow 256 count then
    match front.map UInt8.ofNat ++ bigEndianOf count last with
    | [a, b, c, d] => some (.v4 a b c d)
    | _ => none
  else none

def v4? (text : List Char) : Option IpAddress := (fields '.' text).mapM part? >>= ofParts?

/-- An address of version 6, and the number of a zone behind it. Zero stands for none. -/
def zoned? (text : List Char) : Option (IpAddress × Nat) :=
  match fields '%' text with
  | [address] => (IpAddress.v6? address).map (·, 0)
  | [address, zone] => do
    let address ← IpAddress.v6? address
    let zone ← numeralUpTo? 10 largest zone
    return (address, zone)
  | _ => none

def resolve? (host : String) : Option (IpAddress × Nat) :=
  match v4? host.toList with
  | some address => some (address, 0)
  | none =>
    if host.toLower = "localhost" then some (.loopback, 0) else zoned? host.toList

end Modbus.Net.HostName
