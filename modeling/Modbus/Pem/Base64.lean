import Modbus.Fault

namespace Modbus.Base64

inductive Symbol
  | sextet (value : Nat)
  | pad
  deriving DecidableEq, Repr

def isBlank (b : UInt8) : Bool := b = 0x20 || (0x09 ≤ b && b ≤ 0x0D)

def symbol? (b : UInt8) : Option Symbol :=
  if 0x41 ≤ b && b ≤ 0x5A then some (.sextet (b.toNat - 0x41))
  else if 0x61 ≤ b && b ≤ 0x7A then some (.sextet (b.toNat - 0x61 + 26))
  else if 0x30 ≤ b && b ≤ 0x39 then some (.sextet (b.toNat - 0x30 + 52))
  else if b = 0x2B then some (.sextet 62)
  else if b = 0x2F then some (.sextet 63)
  else if b = 0x3D then some .pad
  else none

def Symbol.value? : Symbol → Option Nat
  | sextet value => some value
  | pad => none

def sextets? (symbols : List Symbol) : Option (List Nat) := symbols.mapM Symbol.value?

def blockSize : Nat := 8

/-- The sextets of all blocks but the last, and the symbols of the last, of which some are read
already. Only the last block may have pads. -/
def scan (block : List Symbol) : Octets → Except PemFault (List Nat × List Symbol)
  | [] => .ok ([], block)
  | b :: rest =>
    if isBlank b then scan block rest
    else
      match symbol? b with
      | none => .error (.invalidCharacter b)
      | some s =>
        if block.length < blockSize then scan (block ++ [s]) rest
        else
          match sextets? block with
          | none => .error .prematurePadding
          | some values => do
            let (more, last) ← scan [s] rest
            return (values ++ more, last)

def ending? : List Symbol → Option (List Nat)
  | [] => some []
  | [.sextet a, .sextet b] => some [a, b]
  | [.sextet a, .sextet b, .pad, .pad] => some [a, b]
  | [.sextet a, .sextet b, .sextet c] => some [a, b, c]
  | [.sextet a, .sextet b, .sextet c, .pad] => some [a, b, c]
  | [.sextet a, .sextet b, .sextet c, .sextet d] => some [a, b, c, d]
  | _ => none

def join : List Nat → Octets
  | a :: b :: c :: d :: rest =>
    UInt8.ofNat (a * 4 + b / 16) :: UInt8.ofNat (b * 16 + c / 4) :: UInt8.ofNat (c * 64 + d)
      :: join rest
  | [a, b, c] => [UInt8.ofNat (a * 4 + b / 16), UInt8.ofNat (b * 16 + c / 4)]
  | [a, b] => [UInt8.ofNat (a * 4 + b / 16)]
  | _ => []

/-- The octets of a text. The last block has one group of four or two, of which the first has no
pads. -/
def decode (text : Octets) : Except PemFault Octets := do
  let (values, last) ← scan [] text
  let (front, group) := if last.length ≤ 4 then ([], last) else last.splitAt 4
  match sextets? front with
  | none => throw .prematurePadding
  | some front =>
    match ending? group with
    | none => throw .invalidTrailingPadding
    | some group => return join (values ++ front ++ group)

end Modbus.Base64
