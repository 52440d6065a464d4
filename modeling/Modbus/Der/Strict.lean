import Modbus.Der.Element

namespace Modbus.Der.Strict

/-! Tags, with the bits for class and construction -/

def boolean : UInt8 := 0x01
def integer : UInt8 := 0x02
def bitString : UInt8 := 0x03
def octetString : UInt8 := 0x04
def null : UInt8 := 0x05
def objectIdentifier : UInt8 := 0x06
def sequence : UInt8 := 0x30

def plainContext (tag : UInt8) : UInt8 := 0x80 ||| tag

def context (tag : UInt8) : UInt8 := 0xA0 ||| tag

/-! Reading -/

/-- A length in one octet, or in one or two octets behind the first if it does not fit into less. -/
def readLength : Octets → Option (Nat × Octets)
  | [] => none
  | b :: rest =>
    if b < 0x80 then some (b.toNat, rest)
    else
      let count := b.toNat - 0x80
      let length := ofBigEndian (rest.take count)
      let least := if count = 1 then 0x80 else 0x100
      if 1 ≤ count && count ≤ 2 && count ≤ rest.length && least ≤ length then
        some (length, rest.drop count)
      else none

def readElement (octets : Octets) : Option (UInt8 × Octets × Octets) :=
  match octets with
  | [] => none
  | tag :: rest => do
    let (length, rest) ← readLength rest
    if tag.toNat % 32 ≠ 31 && length ≤ rest.length then
      some (tag, rest.take length, rest.drop length)
    else none

def read (tag : UInt8) (octets : Octets) : Option (Octets × Octets) := do
  let (actual, content, rest) ← readElement octets
  if actual = tag then some (content, rest) else none

def only (tag : UInt8) (octets : Octets) : Option Octets := do
  let (content, rest) ← read tag octets
  if rest.isEmpty then some content else none

/-- As `read`, where nothing is read unless an element with the tag begins. -/
def readOptional (tag : UInt8) (octets : Octets) : Option (Option Octets × Octets) :=
  if octets.head? = some tag then do
    let (content, rest) ← read tag octets
    return (some content, rest)
  else some (none, octets)

def bits? : Octets → Option Octets
  | 0 :: bits => some bits
  | _ => none

def readBits (octets : Octets) : Option (Octets × Octets) := do
  let (content, rest) ← read bitString octets
  return (← bits? content, rest)

def readNatural (octets : Octets) : Option (Nat × Octets) := do
  let (content, rest) ← read integer octets
  return (← natural? content, rest)

def naturals? (octets : Octets) : Option (List Nat) :=
  match readMany readNatural octets with
  | (naturals, []) => some naturals
  | _ => none

/-! Writing -/

def digits (n : Nat) : Octets := if n = 0 then [] else digits (n / 256) ++ [UInt8.ofNat n]

def encodeLength (n : Nat) : Octets :=
  if n < 0x80 then [UInt8.ofNat n] else UInt8.ofNat (0x80 + (digits n).length) :: digits n

def encode (tag : UInt8) (content : Octets) : Octets :=
  tag :: encodeLength content.length ++ content

/-- A zero goes in front where the first bit would read as a sign. -/
def encodeNatural (n : Nat) : Octets :=
  match digits n with
  | [] => encode integer [0]
  | b :: rest => encode integer (if b < 0x80 then b :: rest else 0 :: b :: rest)

def encodeBits (octets : Octets) : Octets := encode bitString (0 :: octets)

end Modbus.Der.Strict
