import Modbus.Octets

namespace Modbus.Der

/-- The class bits of a tag that has a meaning of its own in its context. -/
def contextClass : UInt8 := 2

structure Header where
  /-- The two class bits. -/
  tagClass : UInt8
  constructed : Bool
  tag : Nat
  length : Nat
  deriving DecidableEq, Repr

structure Element where
  header : Header
  content : Octets
  deriving DecidableEq, Repr

/-- A number in octets of seven bits, the last of which has its high bit clear. At most `octets` of
them are read. -/
def readSevenBits : (octets : Nat) → (value : Nat) → Octets → Option (Nat × Octets)
  | 0, _, _ => none
  | _ + 1, _, [] => none
  | octets + 1, value, b :: rest =>
    let value := value * 128 + b.toNat % 128
    if b < 0x80 then some (value, rest) else readSevenBits octets value rest

/-- A length in one octet, or behind an octet that says how many octets it takes. -/
def readLength : Octets → Option (Nat × Octets)
  | [] => none
  | b :: rest =>
    if b < 0x80 then some (b.toNat, rest)
    else if b = 0x80 || b = 0xFF then none
    else
      let count := b.toNat - 0x80
      let length := ofBigEndian (rest.take count)
      if count ≤ rest.length && length < Nat.pow 2 64 then some (length, rest.drop count) else none

/-- Class bits, whether other elements are held, and the tag. A tag that does not fit into one octet
is taken modulo `2 ^ 32`, from at most five more octets. -/
def readTag : Octets → Option (UInt8 × Bool × Nat × Octets)
  | [] => none
  | b :: rest =>
    let constructed := b.toNat / 32 % 2 == 1
    if b.toNat % 32 = 31 then do
      let (tag, rest) ← readSevenBits 5 0 rest
      return (b >>> 6, constructed, tag % Nat.pow 2 32, rest)
    else some (b >>> 6, constructed, b.toNat % 32, rest)

def readHeader (octets : Octets) : Option (Header × Octets) := do
  let (tagClass, constructed, tag, rest) ← readTag octets
  let (length, rest) ← readLength rest
  return ({ tagClass, constructed, tag, length }, rest)

def readElement (octets : Octets) : Option (Element × Octets) := do
  let (header, rest) ← readHeader octets
  if header.length ≤ rest.length then
    some (⟨header, rest.take header.length⟩, rest.drop header.length)
  else none

def readTagged (tag : Nat) (octets : Octets) : Option (Octets × Octets) := do
  let (e, rest) ← readElement octets
  if e.header.tag = tag then some (e.content, rest) else none

def readPrimitive (tag : Nat) (octets : Octets) : Option (Octets × Octets) := do
  let (e, rest) ← readElement octets
  if e.header.tag = tag && !e.header.constructed then some (e.content, rest) else none

def readMany {α : Type} (one : Octets → Option (α × Octets)) (octets : Octets) : List α × Octets :=
  match one octets with
  | none => ([], octets)
  | some (a, rest) =>
    if rest.length < octets.length then
      let (more, rest) := readMany one rest
      (a :: more, rest)
    else ([], octets)
termination_by octets.length

/-- The value of an integer that is not negative, given its content, which has no superfluous zero
in front. -/
def natural? : Octets → Option Nat
  | [] => none
  | [b] => if b < 0x80 then some b.toNat else none
  | b :: c :: rest =>
    if b < 0x80 && !(b = 0 && c < 0x80) then some (ofBigEndian (b :: c :: rest)) else none

/-- A tag, and a length that is left open or not. Only an element that holds others may leave its
length open. -/
def readOpenHeader (octets : Octets) : Option (Nat × Option Nat × Octets) := do
  let (_, constructed, tag, rest) ← readTag octets
  match rest with
  | 0x80 :: rest => if constructed then some (tag, none, rest) else none
  | _ =>
    let (length, rest) ← readLength rest
    return (tag, some length, rest)

/-- How many elements of open length may be inside one another. -/
def greatestDepth : Nat := 49

/-- What follows the end marks of `depth` elements of open length that are inside one another. An
end mark is an element with tag 0 and without content. -/
def skipOpen (depth : Nat) (octets : Octets) : Option Octets :=
  if depth = 0 then some octets
  else if greatestDepth < depth then none
  else
    match readOpenHeader octets with
    | none => none
    | some (tag, length, rest) =>
      if rest.length < octets.length then
        match length with
        | none => skipOpen (depth + 1) rest
        | some length =>
          if tag = 0 && length = 0 then skipOpen (depth - 1) rest
          else if length ≤ rest.length then skipOpen depth (rest.drop length)
          else none
      else none
termination_by octets.length
decreasing_by
  · assumption
  · assumption
  · simp only [List.length_drop]
    omega

def skipTagged (tag : Nat) (octets : Octets) : Option Octets := do
  let (actual, length, rest) ← readOpenHeader octets
  if actual ≠ tag then none
  match length with
  | none => skipOpen 1 rest
  | some length => if length ≤ rest.length then some (rest.drop length) else none

end Modbus.Der
