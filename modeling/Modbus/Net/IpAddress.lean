import Modbus.Net.Numeral
import Modbus.Octets

namespace Modbus.Net

inductive IpAddress
  | v4 (a b c d : UInt8)
  | v6 (groups : List UInt16) (length_groups : groups.length = 8)
  deriving DecidableEq, Repr

namespace IpAddress

def loopback : IpAddress := .v4 127 0 0 1

def octet? (digits : List Char) : Option UInt8 :=
  match digits with
  | '0' :: _ :: _ => none
  | _ => (numeralUpTo? 10 255 digits).map UInt8.ofNat

def octets? (text : List Char) : Option (UInt8 × UInt8 × UInt8 × UInt8) :=
  match (fields '.' text).mapM octet? with
  | some [a, b, c, d] => some (a, b, c, d)
  | _ => none

def v4? (text : List Char) : Option IpAddress :=
  (octets? text).map fun (a, b, c, d) => .v4 a b c d

def group? (digits : List Char) : Option UInt16 :=
  if digits.length ≤ 4 then (numeralUpTo? 16 65535 digits).map UInt16.ofNat else none

def groups? : List (List Char) → Option (List UInt16)
  | [] => some []
  | [last] =>
    match octets? last with
    | some (a, b, c, d) => some [word a b, word c d]
    | none => (group? last).map ([·])
  | f :: fs => do
    let g ← group? f
    let gs ← groups? fs
    return g :: gs

def splitGap : List Char → Option (List Char × List Char)
  | ':' :: ':' :: rest => some ([], rest)
  | c :: rest => (splitGap rest).map fun (front, back) => (c :: front, back)
  | [] => none

def side? (text : List Char) : Option (List UInt16) :=
  match text with
  | [] => some []
  | _ => groups? (fields ':' text)

def ofGroups? (groups : List UInt16) : Option IpAddress :=
  if h : groups.length = 8 then some (.v6 groups h) else none

/-- Eight groups, or fewer around a gap that stands for at least one group of zeros. -/
def v6? (text : List Char) : Option IpAddress :=
  match splitGap text with
  | none => (groups? (fields ':' text)).bind ofGroups?
  | some (front, back) => do
    if front.contains '.' then none
    let front ← side? front
    let back ← side? back
    let given := front.length + back.length
    if given ≤ 7 then ofGroups? (front ++ List.replicate (8 - given) 0 ++ back) else none

def zeroRun (groups : List UInt16) : Nat := (groups.takeWhile (· == 0)).length

def longestZeroRun : List UInt16 → Nat × Nat
  | [] => (0, 0)
  | g :: gs =>
    let here := zeroRun (g :: gs)
    let (start, length) := longestZeroRun gs
    if here ≥ length then (0, here) else (start + 1, length)

def v4Text (a b c d : UInt8) : String :=
  ".".intercalate ([a, b, c, d].map fun o => toString o.toNat)

def groupsText (groups : List UInt16) : String := ":".intercalate (groups.map hexText)

/-- The longest run of at least two groups of zeros is left out. -/
def v6Text (groups : List UInt16) : String :=
  match groups with
  | [0, 0, 0, 0, 0, 0xFFFF, g, h] =>
    "::ffff:" ++ v4Text (highOctet g) (lowOctet g) (highOctet h) (lowOctet h)
  | _ =>
    let (start, length) := longestZeroRun groups
    if length > 1 then
      groupsText (groups.take start) ++ "::" ++ groupsText (groups.drop (start + length))
    else
      groupsText groups

def text : IpAddress → String
  | v4 a b c d => v4Text a b c d
  | v6 groups _ => v6Text groups

end IpAddress

end Modbus.Net
