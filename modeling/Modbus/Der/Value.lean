import Modbus.Der.Element

namespace Modbus.Der

namespace Tag

def boolean : Nat := 1
def integer : Nat := 2
def bitString : Nat := 3
def octetString : Nat := 4
def utf8String : Nat := 12
def sequence : Nat := 16
def set : Nat := 17
def numericString : Nat := 18
def printableString : Nat := 19
def ia5String : Nat := 22
def utcTime : Nat := 23
def generalizedTime : Nat := 24

end Tag

def readSequence (octets : Octets) : Option (Octets × Octets) := readTagged Tag.sequence octets

def readSet (octets : Octets) : Option (Octets × Octets) := readTagged Tag.set octets

def readOctetString (octets : Octets) : Option (Octets × Octets) :=
  readPrimitive Tag.octetString octets

/-- The content of an object identifier. It stands where nothing else can stand, so that its tag is
not looked at. -/
def readObjectIdentifier (octets : Octets) : Option (Octets × Octets) := do
  let (e, rest) ← readElement octets
  if e.header.constructed then none else some (e.content, rest)

def arcRuns : Octets → List Octets × Octets
  | [] => ([], [])
  | b :: rest =>
    match arcRuns rest with
    | (runs, unfinished) =>
      if b < 0x80 then ([b] :: runs, unfinished)
      else
        match runs with
        | [] => ([], b :: unfinished)
        | run :: runs => ((b :: run) :: runs, unfinished)

/-- The low seven bits of each octet, and of these the last 64. -/
def arcValue (run : Octets) : UInt64 :=
  run.foldl (fun n b => (n <<< 7) + UInt64.ofNat (b.toNat % 128)) 0

/-- The arcs of an object identifier, the first two of which share an octet. An arc that is not
finished counts as it stands, and one that is finished may take 64 bits. -/
def arcs? : Octets → Option (List UInt64)
  | [] => some []
  | [0] => some [0]
  | b :: rest =>
    let (runs, unfinished) := arcRuns rest
    let last := if unfinished.isEmpty then [] else [unfinished]
    if runs.all fun run => 7 * run.length ≤ 64 then
      let first := UInt64.ofNat b.toNat
      some (first / 40 :: first % 40 :: (runs ++ last).map arcValue)
    else none

def readNatural (octets : Octets) : Option (Nat × Octets) := do
  let (content, rest) ← readPrimitive Tag.integer octets
  return (← natural? content, rest)

def trailingZeros (b : UInt8) : Nat := ((List.range 8).takeWhile fun i => !b.toNat.testBit i).length

/-- The octets of a string of bits, given its content. The bits that its last octet does not use are
zero. -/
def bits? : Octets → Option Octets
  | [] => none
  | unused :: bits =>
    match bits.getLast? with
    | none => if unused = 0 then some bits else none
    | some last => if unused.toNat ≤ trailingZeros last then some bits else none

def readBitString (octets : Octets) : Option (Octets × Octets) := do
  let (content, rest) ← readPrimitive Tag.bitString octets
  return (← bits? content, rest)

def readOptionalElement (tag : Nat) (octets : Octets) : Option (Option Element × Octets) :=
  match octets with
  | [] => some (none, [])
  | _ => do
    let (e, rest) ← readElement octets
    if e.header.tagClass = contextClass && e.header.tag = tag then some (some e, rest)
    else some (none, octets)

def readOptional (tag : Nat) (octets : Octets) : Option (Option Octets × Octets) := do
  let (e, rest) ← readOptionalElement tag octets
  return (e.map (·.content), rest)

def skipOptionalBits (tag : Nat) (octets : Octets) : Option Octets := do
  let (e, rest) ← readOptionalElement tag octets
  match e with
  | none => return rest
  | some e =>
    let _ ← bits? e.content
    if e.header.constructed then none else some rest

/-- A truth value, if there is one. Any octet but zero is true. -/
def readOptionalBoolean (octets : Octets) : Bool × Octets :=
  match readTagged Tag.boolean octets with
  | some ([b], rest) => (b != 0, rest)
  | _ => (false, octets)

end Modbus.Der
