import Modbus.Crc
import Modbus.Proofs.Payload.Bits

namespace Modbus.Crc

open Payload

theorem xor_interchange (a b c d : UInt16) : (a ^^^ b) ^^^ (c ^^^ d) = (a ^^^ c) ^^^ (b ^^^ d) := by
  ac_rfl

/-! ### Shifts -/

/-- What a shift adds to the register, by the bit that leaves it. -/
def feedback (bit : Bool) : UInt16 := if bit then generator else 0

theorem feedback_xor (b c : Bool) : feedback (b ^^ c) = feedback b ^^^ feedback c := by
  cases b <;> cases c <;> decide

theorem toNat_half (r : UInt16) : (r >>> 1).toNat = r.toNat / 2 := by
  rw [UInt16.toNat_shiftRight]
  exact Nat.shiftRight_eq_div_pow r.toNat 1

theorem shift_eq (r : UInt16) : shift r = (r >>> 1) ^^^ feedback (r.toNat.testBit 0) := by
  have hlow : r &&& 1 = 1 ↔ r.toNat.testBit 0 = true := by
    rw [← UInt16.toNat_inj, UInt16.toNat_and, ← Nat.mod_two_eq_one_iff_testBit_zero,
      ← Nat.and_one_is_mod]
    rfl
  rw [shift, feedback]
  split
  · next hodd => rw [if_pos (hlow.1 hodd)]
  · next heven => rw [if_neg (mt hlow.2 heven), UInt16.xor_zero]

theorem shift_xor (r s : UInt16) : shift (r ^^^ s) = shift r ^^^ shift s := by
  rw [shift_eq, shift_eq r, shift_eq s, UInt16.toNat_xor, Nat.testBit_xor, feedback_xor,
    UInt16.shiftRight_xor, xor_interchange]

/-- The generator has its leading bit, which no shifted register has. -/
theorem eq_zero_of_shift {r : UInt16} (h : shift r = 0) : r = 0 := by
  rw [shift_eq, UInt16.xor_eq_zero_iff, ← UInt16.toNat_inj, toNat_half, feedback] at h
  have hbound := r.toNat_lt
  apply UInt16.toNat_inj.1
  split at h
  · -- Half a register cannot be equal to the generator.
    have hgenerator : generator.toNat = 40961 := rfl
    omega
  · next heven =>
    rw [← Nat.mod_two_eq_one_iff_testBit_zero] at heven
    have hzero : (0 : UInt16).toNat = 0 := rfl
    omega

theorem shifts_xor (n : Nat) (r s : UInt16) : shifts n (r ^^^ s) = shifts n r ^^^ shifts n s := by
  induction n generalizing r s with
  | zero => rfl
  | succ n ih => rw [shifts, shift_xor, ih, shifts, shifts]

theorem shifts_add (m n : Nat) (r : UInt16) : shifts (m + n) r = shifts n (shifts m r) := by
  induction m generalizing r with
  | zero => rw [Nat.zero_add, shifts]
  | succ m ih => rw [Nat.succ_add, shifts, ih, shifts]

theorem shifts_zero (n : Nat) : shifts n 0 = 0 := by
  induction n with
  | zero => rfl
  | succ n ih => exact ih

theorem eq_zero_of_shifts {n : Nat} {r : UInt16} (h : shifts n r = 0) : r = 0 := by
  induction n generalizing r with
  | zero => exact h
  | succ n ih => exact eq_zero_of_shift (ih h)

theorem shifts_inj {n : Nat} {r s : UInt16} (h : shifts n r = shifts n s) : r = s := by
  rw [← UInt16.xor_eq_zero_iff] at h ⊢
  rw [← shifts_xor] at h
  exact eq_zero_of_shifts h

/-! ### Bits -/

def feed (register : UInt16) (bit : Bool) : UInt16 := shift (register ^^^ bit.toUInt16)

def feedAll (register : UInt16) (bits : List Bool) : UInt16 := bits.foldl feed register

def wordOf (bits : List Bool) : Nat := bits.foldr (fun b n => b.toNat + 2 * n) 0

def lineBits (octets : Octets) : List Bool := unpackBits octets (8 * octets.length)

theorem feedAll_cons (r : UInt16) (b : Bool) (bits : List Bool) :
    feedAll r (b :: bits) = feedAll (feed r b) bits := rfl

theorem feedAll_append (r : UInt16) (front back : List Bool) :
    feedAll r (front ++ back) = feedAll (feedAll r front) back := List.foldl_append

theorem wordOf_cons (b : Bool) (bits : List Bool) : wordOf (b :: bits) = b.toNat + 2 * wordOf bits :=
  rfl

theorem wordOf_lt (bits : List Bool) : wordOf bits < Nat.pow 2 bits.length := by
  induction bits with
  | nil => decide
  | cons b bits ih =>
    have hb := Bool.toNat_lt b
    have hpow : Nat.pow 2 (b :: bits).length = Nat.pow 2 bits.length * 2 := rfl
    rw [wordOf_cons, hpow]
    omega

theorem wordOf_append (front back : List Bool) :
    wordOf (front ++ back) = wordOf front + Nat.pow 2 front.length * wordOf back := by
  induction front with
  | nil => exact ((Nat.zero_add _).trans (Nat.one_mul _)).symm
  | cons b front ih =>
    have hpow : Nat.pow 2 (b :: front).length = 2 * Nat.pow 2 front.length := Nat.mul_comm _ _
    rw [List.cons_append, wordOf_cons, ih, wordOf_cons, hpow, Nat.mul_add, Nat.mul_assoc,
      Nat.add_assoc]

theorem wordOf_bitsOf (b : UInt8) : wordOf (bitsOf b) = b.toNat := by
  apply Nat.eq_of_testBit_eq
  intro i
  refine (testBit_foldr _ i).trans ?_
  rw [List.getD_eq_getElem?_getD]
  by_cases hi : i < 8
  · rw [getElem?_bitsOf b hi, Option.getD_some]
  · rw [List.getElem?_eq_none (Nat.le_of_not_lt hi), testBit_of_le b (Nat.le_of_not_lt hi)]
    rfl

/-- A bit below others is added to them without a carry. -/
theorem ofNat_bit_add (b : Bool) (n : Nat) :
    UInt16.ofNat (b.toNat + 2 * n) = b.toUInt16 ^^^ UInt16.ofNat (2 * n) := by
  cases b with
  | false =>
    rw [Bool.toNat_false, Nat.zero_add]
    exact UInt16.zero_xor.symm
  | true =>
    have hlow : (1 ^^^ 2 * n) % 2 = 1 := Nat.xor_mod_two_eq_one.2 (by omega)
    have hhigh : (1 ^^^ 2 * n) / 2 = n := by
      rw [Nat.xor_div_two, Nat.mul_div_cancel_left n (by decide)]
      exact Nat.zero_xor n
    have hsum : 1 + 2 * n = 1 ^^^ 2 * n := by omega
    rw [Bool.toNat_true, hsum, UInt16.ofNat_xor]
    rfl

theorem shift_double {n : Nat} (h : n < 32768) :
    shift (UInt16.ofNat (2 * n)) = UInt16.ofNat n := by
  have hdouble : (UInt16.ofNat (2 * n)).toNat = 2 * n := by
    rw [UInt16.toNat_ofNat']
    omega
  have heven : (2 * n).testBit 0 = false := by
    rw [Nat.testBit_zero, Nat.mul_mod_right]
    rfl
  rw [shift_eq, hdouble, heven, feedback, if_neg Bool.false_ne_true, UInt16.xor_zero,
    ← UInt16.toNat_inj, toNat_half, hdouble, UInt16.toNat_ofNat']
  omega

/-- Up to sixteen bits may be added at once, before the shifts. -/
theorem feedAll_eq_shifts (r : UInt16) {bits : List Bool} (h : bits.length ≤ 16) :
    feedAll r bits = shifts bits.length (r ^^^ UInt16.ofNat (wordOf bits)) := by
  induction bits generalizing r with
  | nil => exact UInt16.xor_zero.symm
  | cons b bits ih =>
    rw [List.length_cons] at h
    have hword : wordOf bits < 32768 :=
      Nat.lt_of_lt_of_le (wordOf_lt bits) (Nat.pow_le_pow_right (by decide) (Nat.le_of_succ_le_succ h))
    -- The bits above the first one are added a shift later, and twice as high before that shift.
    calc feedAll r (b :: bits)
        = shifts bits.length (feed r b ^^^ UInt16.ofNat (wordOf bits)) := ih _ (by omega)
      _ = shifts bits.length (shift ((r ^^^ b.toUInt16) ^^^ UInt16.ofNat (2 * wordOf bits))) := by
          rw [shift_xor, shift_double hword, feed]
      _ = shifts (b :: bits).length (r ^^^ UInt16.ofNat (wordOf (b :: bits))) := by
          rw [UInt16.xor_assoc, ← ofNat_bit_add, ← wordOf_cons, List.length_cons, shifts]

theorem feed_xor (r s : UInt16) (b : Bool) : feed (r ^^^ s) b = feed r b ^^^ shift s := by
  rw [feed, UInt16.xor_assoc, UInt16.xor_comm s, ← UInt16.xor_assoc, shift_xor, feed]

/-- A change of the register is carried through all shifts that follow. -/
theorem feedAll_xor (r s : UInt16) (bits : List Bool) :
    feedAll (r ^^^ s) bits = feedAll r bits ^^^ shifts bits.length s := by
  induction bits generalizing r s with
  | nil => rfl
  | cons b bits ih => rw [feedAll_cons, feed_xor, ih, feedAll_cons, List.length_cons, shifts]

/-! ### Octets -/

theorem length_lineBits (octets : Octets) : (lineBits octets).length = 8 * octets.length :=
  length_unpackBits octets _

theorem getElem?_lineBits (octets : Octets) {i : Nat} (h : i < 8 * octets.length) :
    (lineBits octets)[i]? = some (bitAt octets i) := getElem?_unpackBits octets h

theorem lineBits_cons (b : UInt8) (octets : Octets) :
    lineBits (b :: octets) = bitsOf b ++ lineBits octets := by
  have hcount : 8 * (b :: octets).length - 8 = 8 * octets.length := by
    rw [List.length_cons]
    omega
  rw [lineBits, unpackBits]
  split
  · next hlast =>
    have hnil : octets = [] := by
      rw [List.length_cons] at hlast
      exact List.eq_nil_of_length_eq_zero (by omega)
    rw [hnil]
    rfl
  · rw [hcount, lineBits]

theorem absorb_eq_feedAll (r : UInt16) (b : UInt8) : absorb r b = feedAll r (bitsOf b) := by
  have hword : UInt16.ofNat b.toNat = b.toUInt16 := by
    rw [← UInt16.toNat_inj, UInt16.toNat_ofNat', UInt8.toNat_toUInt16]
    have hbound := b.toNat_lt
    omega
  rw [feedAll_eq_shifts r (by rw [length_bitsOf]; decide), wordOf_bitsOf, length_bitsOf, hword,
    absorb]

/-- The register takes in octets as it takes in their bits. -/
theorem run_eq_feedAll (r : UInt16) (octets : Octets) : run r octets = feedAll r (lineBits octets) := by
  induction octets generalizing r with
  | nil => rfl
  | cons b octets ih => rw [run_cons, lineBits_cons, feedAll_append, absorb_eq_feedAll, ih]

theorem absorb_xor (r s : UInt16) (a b : UInt8) :
    absorb (r ^^^ s) (a ^^^ b) = absorb r a ^^^ absorb s b := by
  rw [absorb, UInt8.toUInt16_xor, xor_interchange, shifts_xor, absorb, absorb]

/-- The register after the sum of two strings is the sum of the two registers. -/
theorem run_xor (r s : UInt16) {xs ys : Octets} (h : xs.length = ys.length) :
    run (r ^^^ s) (List.zipWith (· ^^^ ·) xs ys) = run r xs ^^^ run s ys := by
  induction xs generalizing r s ys with
  | nil =>
    obtain rfl : ys = [] := List.eq_nil_of_length_eq_zero h.symm
    rfl
  | cons a xs ih =>
    cases ys with
    | nil => cases h
    | cons b ys =>
      rw [List.zipWith_cons_cons, run_cons, absorb_xor, ih _ _ (Nat.succ.inj h), run_cons, run_cons]

/-- Two octets are sixteen bits, and they cancel the register that is equal to their word. -/
theorem run_littleEndian (r w : UInt16) : run r (littleEndian w) = shifts 16 (r ^^^ w) := by
  have hlength : (lineBits (littleEndian w)).length = 16 := by
    rw [length_lineBits, length_littleEndian]
  have hlow : Nat.pow 2 (bitsOf (lowOctet w)).length = 256 := by rw [length_bitsOf]
  have hword : wordOf (lineBits (littleEndian w)) = w.toNat := by
    rw [littleEndian, lineBits_cons, lineBits_cons, wordOf_append, wordOf_append, wordOf_bitsOf,
      wordOf_bitsOf, toNat_lowOctet, toNat_highOctet, hlow]
    have hnil : wordOf (lineBits []) = 0 := rfl
    rw [hnil, Nat.mul_zero, Nat.add_zero]
    exact Nat.mod_add_div w.toNat 256
  rw [run_eq_feedAll, feedAll_eq_shifts r (Nat.le_of_eq hlength), hlength, hword,
    UInt16.ofNat_toNat]

end Modbus.Crc
