import Modbus.Octets

namespace Modbus.Payload

/-- The octet whose bit `i` is entry `i`; entries from the ninth on are ignored. -/
def packOctet (bits : List Bool) : UInt8 :=
  UInt8.ofNat ((bits.take 8).foldr (fun b n => b.toNat + 2 * n) 0)

def packBits (bits : List Bool) : Octets :=
  match bits with
  | [] => []
  | b :: rest => packOctet (b :: rest) :: packBits (rest.drop 7)
termination_by bits.length
decreasing_by simp only [List.length_cons, List.length_drop]; omega

/-- Bit `i` of the octets, zero behind the last one. -/
def bitAt (octets : Octets) (i : Nat) : Bool :=
  match octets[i / 8]? with
  | some b => b.toNat.testBit (i % 8)
  | none => false

def bitsOf (b : UInt8) : List Bool := (List.range 8).map b.toNat.testBit

def unpackBits : Octets → Nat → List Bool
  | [], count => List.replicate count false
  | b :: rest, count =>
    if count ≤ 8 then (bitsOf b).take count else bitsOf b ++ unpackBits rest (count - 8)

theorem length_bitsOf (b : UInt8) : (bitsOf b).length = 8 := rfl

theorem length_unpackBits (octets : Octets) (count : Nat) :
    (unpackBits octets count).length = count := by
  induction octets generalizing count with
  | nil => simp [unpackBits]
  | cons b rest ih =>
    rw [unpackBits]
    split
    · next h => rw [List.length_take, length_bitsOf]; omega
    · next h => rw [List.length_append, length_bitsOf, ih]; omega

end Modbus.Payload
