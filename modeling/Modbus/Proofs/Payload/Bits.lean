import Modbus.Payload.Bits

namespace Modbus.Payload

theorem bitAt_nil (i : Nat) : bitAt [] i = false := rfl

theorem bitAt_cons_of_lt (b : UInt8) (rest : Octets) {i : Nat} (h : i < 8) :
    bitAt (b :: rest) i = b.toNat.testBit i := by
  rw [bitAt, Nat.div_eq_of_lt h, Nat.mod_eq_of_lt h]
  rfl

theorem bitAt_cons_of_le (b : UInt8) (rest : Octets) {i : Nat} (h : 8 ≤ i) :
    bitAt (b :: rest) i = bitAt rest (i - 8) := by
  obtain ⟨j, rfl⟩ := Nat.exists_eq_add_of_le h
  have hdiv : (8 + j) / 8 = j / 8 + 1 := by omega
  rw [Nat.add_sub_cancel_left, bitAt, bitAt, hdiv, Nat.add_mod_left, List.getElem?_cons_succ]

theorem bitAt_of_length_le {octets : Octets} {i : Nat} (h : 8 * octets.length ≤ i) :
    bitAt octets i = false := by
  have hi : octets.length ≤ i / 8 := by omega
  rw [bitAt, List.getElem?_eq_none hi]

theorem bitAt_append_left {xs : Octets} {i : Nat} (h : i < 8 * xs.length) (ys : Octets) :
    bitAt (xs ++ ys) i = bitAt xs i := by
  have hi : i / 8 < xs.length := by omega
  rw [bitAt, List.getElem?_append_left hi, bitAt]

theorem bitAt_append_right {xs : Octets} {i : Nat} (h : 8 * xs.length ≤ i) (ys : Octets) :
    bitAt (xs ++ ys) i = bitAt ys (i - 8 * xs.length) := by
  have hi : xs.length ≤ i / 8 := by omega
  have hdiv : (i - 8 * xs.length) / 8 = i / 8 - xs.length := by omega
  have hmod : (i - 8 * xs.length) % 8 = i % 8 := by omega
  rw [bitAt, List.getElem?_append_right hi, bitAt, hdiv, hmod]

theorem testBit_of_le (b : UInt8) {i : Nat} (h : 8 ≤ i) : b.toNat.testBit i = false :=
  Nat.testBit_lt_two_pow (Nat.lt_of_lt_of_le b.toNat_lt (Nat.pow_le_pow_right (by decide) h))

/-- Octets are told apart by their bits. -/
theorem eq_of_bitAt {xs ys : Octets} (hlength : xs.length = ys.length)
    (h : ∀ i < 8 * xs.length, bitAt xs i = bitAt ys i) : xs = ys := by
  induction xs generalizing ys with
  | nil => exact (List.eq_nil_of_length_eq_zero hlength.symm).symm
  | cons a xs ih =>
    cases ys with
    | nil => cases hlength
    | cons b ys =>
      have hhead : a = b := by
        apply UInt8.toNat_inj.1
        apply Nat.eq_of_testBit_eq
        intro i
        by_cases hi : i < 8
        · rw [← bitAt_cons_of_lt a xs hi, ← bitAt_cons_of_lt b ys hi]
          exact h i (by rw [List.length_cons]; omega)
        · rw [testBit_of_le a (Nat.le_of_not_lt hi), testBit_of_le b (Nat.le_of_not_lt hi)]
      have htail : xs = ys := by
        apply ih (Nat.succ.inj hlength)
        intro i hi
        have hbit := h (8 + i) (by rw [List.length_cons]; omega)
        rwa [bitAt_cons_of_le _ _ (Nat.le_add_right 8 i), bitAt_cons_of_le _ _ (Nat.le_add_right 8 i),
          Nat.add_sub_cancel_left] at hbit
      rw [hhead, htail]

theorem testBit_foldr (bits : List Bool) (i : Nat) :
    (bits.foldr (fun b n => Bool.toNat b + 2 * n) 0).testBit i = bits.getD i false := by
  induction bits generalizing i with
  | nil => simp
  | cons b bits ih =>
    have hb : b.toNat < 2 := Bool.toNat_lt b
    rw [List.foldr_cons, Nat.add_comm]
    cases i with
    | zero => rw [Nat.testBit_zero, Nat.mul_add_mod, List.getD_cons_zero]; cases b <;> rfl
    | succ i =>
      rw [Nat.testBit_succ, Nat.mul_add_div (by decide), Nat.div_eq_of_lt hb, Nat.add_zero, ih,
        List.getD_cons_succ]

theorem testBit_packOctet (bits : List Bool) {i : Nat} (h : i < 8) :
    (packOctet bits).toNat.testBit i = bits.getD i false := by
  rw [packOctet, UInt8.toNat_ofNat', Nat.testBit_mod_two_pow, testBit_foldr, decide_eq_true h,
    Bool.true_and]
  simp [List.getD_eq_getElem?_getD, h]

/-- Packing keeps every bit at its position, and there is nothing but zeros behind the last. -/
theorem bitAt_packBits (bits : List Bool) (i : Nat) :
    bitAt (packBits bits) i = bits.getD i false := by
  fun_induction packBits bits generalizing i with
  | case1 => rfl
  | case2 b rest ih =>
    by_cases h : i < 8
    · rw [bitAt_cons_of_lt _ _ h, testBit_packOctet _ h]
    · obtain ⟨j, rfl⟩ := Nat.exists_eq_add_of_le (Nat.le_of_not_lt h)
      rw [bitAt_cons_of_le _ _ (Nat.le_add_right 8 j), ih, Nat.add_sub_cancel_left]
      simp only [List.getD_eq_getElem?_getD, List.getElem?_drop]
      rw [show 8 + j = 7 + j + 1 by omega, List.getElem?_cons_succ]

theorem length_packBits (bits : List Bool) : (packBits bits).length = (bits.length + 7) / 8 := by
  fun_induction packBits bits with
  | case1 => rfl
  | case2 b rest ih =>
    rw [List.length_cons, ih, List.length_drop, List.length_cons]
    omega

theorem getElem?_bitsOf (b : UInt8) {i : Nat} (h : i < 8) :
    (bitsOf b)[i]? = some (b.toNat.testBit i) := by
  rw [bitsOf, List.getElem?_map, List.getElem?_range h]
  rfl

theorem getElem?_unpackBits (octets : Octets) {count i : Nat} (h : i < count) :
    (unpackBits octets count)[i]? = some (bitAt octets i) := by
  induction octets generalizing count i with
  | nil => rw [unpackBits, List.getElem?_replicate_of_lt h, bitAt_nil]
  | cons b rest ih =>
    rw [unpackBits]
    split
    · next hcount =>
      have hi : i < 8 := Nat.lt_of_lt_of_le h hcount
      rw [List.getElem?_take_of_lt h, getElem?_bitsOf b hi, bitAt_cons_of_lt _ _ hi]
    · next hcount =>
      by_cases hi : i < 8
      · rw [List.getElem?_append_left (by rwa [length_bitsOf]), getElem?_bitsOf b hi,
          bitAt_cons_of_lt _ _ hi]
      · have hle : 8 ≤ i := Nat.le_of_not_lt hi
        rw [List.getElem?_append_right (by rwa [length_bitsOf]), length_bitsOf,
          ih (by omega), bitAt_cons_of_le _ _ hle]

end Modbus.Payload
