import Modbus.Proofs.Payload.Bits

namespace Modbus.Payload

theorem unpackBits_packBits (bits : List Bool) :
    unpackBits (packBits bits) bits.length = bits := by
  apply List.ext_getElem
  · exact length_unpackBits _ _
  · intro i hi hi'
    apply Option.some.inj
    rw [← List.getElem?_eq_getElem hi, getElem?_unpackBits _ hi', bitAt_packBits,
      List.getD_eq_getElem?_getD, List.getElem?_eq_getElem hi', Option.getD_some]

/-- Only the bits that are asked for are looked at. -/
theorem unpackBits_congr {xs ys : Octets} {count : Nat}
    (h : ∀ i < count, bitAt xs i = bitAt ys i) : unpackBits xs count = unpackBits ys count := by
  apply List.ext_getElem?
  intro i
  by_cases hi : i < count
  · rw [getElem?_unpackBits xs hi, getElem?_unpackBits ys hi, h i hi]
  · rw [List.getElem?_eq_none (by rw [length_unpackBits]; omega),
      List.getElem?_eq_none (by rw [length_unpackBits]; omega)]

/-- The octets that hold the first `count` bits, with all bits behind these cleared. -/
def keepBits (octets : Octets) (count : Nat) : Octets :=
  (octets.take ((count + 7) / 8)).mapIdx fun i b =>
    b &&& UInt8.ofNat (Nat.pow 2 (count - 8 * i) - 1)

theorem testBit_mask (b : UInt8) (n : Nat) {i : Nat} (hi : i < 8) :
    (b &&& UInt8.ofNat (Nat.pow 2 n - 1)).toNat.testBit i =
      (decide (i < n) && b.toNat.testBit i) := by
  have hmask : (Nat.pow 2 n - 1).testBit i = decide (i < n) := Nat.testBit_two_pow_sub_one n i
  rw [UInt8.toNat_and, UInt8.toNat_ofNat', Nat.testBit_and, Nat.testBit_mod_two_pow, hmask,
    decide_eq_true hi, Bool.true_and, Bool.and_comm]

theorem length_keepBits {octets : Octets} {count : Nat} (h : count ≤ 8 * octets.length) :
    (keepBits octets count).length = (count + 7) / 8 := by
  rw [keepBits, List.length_mapIdx, List.length_take]
  omega

theorem bitAt_keepBits (octets : Octets) (count i : Nat) :
    bitAt (keepBits octets count) i = (decide (i < count) && bitAt octets i) := by
  rw [bitAt, keepBits, List.getElem?_mapIdx, bitAt]
  by_cases hcount : i / 8 < (count + 7) / 8
  · rw [List.getElem?_take_of_lt hcount]
    cases octets[i / 8]? with
    | none => simp
    | some b =>
      have hmask : i % 8 < count - 8 * (i / 8) ↔ i < count := by omega
      simp only [Option.map_some, testBit_mask b _ (Nat.mod_lt i (by decide)), hmask]
  · have hbehind : ¬ i < count := by omega
    rw [List.getElem?_eq_none (by rw [List.length_take]; omega)]
    simp [hbehind]

/-- Reading bits and packing them again keeps them, and clears what was behind them. -/
theorem packBits_unpackBits {octets : Octets} {count : Nat} (h : count ≤ 8 * octets.length) :
    packBits (unpackBits octets count) = keepBits octets count := by
  apply eq_of_bitAt
  · rw [length_packBits, length_unpackBits, length_keepBits h]
  · intro i _
    rw [bitAt_packBits, bitAt_keepBits, List.getD_eq_getElem?_getD]
    by_cases hi : i < count
    · rw [getElem?_unpackBits octets hi]
      simp [hi]
    · rw [List.getElem?_eq_none (by rw [length_unpackBits]; omega)]
      simp [hi]

end Modbus.Payload
