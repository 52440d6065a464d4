import Modbus.Proofs.Checksum.Residue

namespace Modbus

open Payload

/-! ### Inverted bits -/

namespace Payload

def invertBit (octets : Octets) (i : Nat) : Octets :=
  octets.modify (i / 8) fun b => b ^^^ UInt8.ofNat (1 <<< (i % 8))

def invert (octets : Octets) (positions : List Nat) : Octets := positions.foldl invertBit octets

theorem length_invertBit (octets : Octets) (i : Nat) : (invertBit octets i).length = octets.length :=
  List.length_modify ..

theorem length_invert (octets : Octets) (positions : List Nat) :
    (invert octets positions).length = octets.length := by
  induction positions generalizing octets with
  | nil => rfl
  | cons i positions ih => exact (ih (invertBit octets i)).trans (length_invertBit octets i)

theorem bitAt_invertBit {octets : Octets} {i : Nat} (h : i < 8 * octets.length) (j : Nat) :
    bitAt (invertBit octets i) j = (bitAt octets j ^^ decide (i = j)) := by
  have hpower : ∀ k < 8, ∀ m < 8, (UInt8.ofNat (1 <<< k)).toNat.testBit m = decide (k = m) := by
    decide
  rw [bitAt, bitAt, invertBit, List.getElem?_modify]
  by_cases hj : j / 8 < octets.length
  · rw [List.getElem?_eq_getElem hj]
    by_cases hsame : i / 8 = j / 8
    · have hbit : decide (i % 8 = j % 8) = decide (i = j) := decide_eq_decide.2 (by omega)
      have hinverted := hpower _ (Nat.mod_lt i (by decide)) _ (Nat.mod_lt j (by decide))
      change (if i / 8 = j / 8 then _ else octets[j / 8]).toNat.testBit (j % 8) = _
      rw [if_pos hsame, UInt8.toNat_xor, Nat.testBit_xor, hinverted, hbit]
    · have hne : ¬ i = j := fun heq => hsame (congrArg (· / 8) heq)
      change (if i / 8 = j / 8 then _ else octets[j / 8]).toNat.testBit (j % 8) = _
      rw [if_neg hsame, decide_eq_false hne, Bool.xor_false]
  · have hne : ¬ i = j := by omega
    rw [List.getElem?_eq_none (Nat.le_of_not_lt hj), decide_eq_false hne]
    rfl

end Payload

namespace Crc

/-! ### Parity -/

def parityBelow : Nat → Nat → Bool
  | 0, _ => false
  | n + 1, m => m.testBit 0 ^^ parityBelow n (m / 2)

def parity (r : UInt16) : Bool := parityBelow 16 r.toNat

theorem parityBelow_xor (n a b : Nat) :
    parityBelow n (a ^^^ b) = (parityBelow n a ^^ parityBelow n b) := by
  induction n generalizing a b with
  | zero => rfl
  | succ n ih =>
    rw [parityBelow, Nat.testBit_xor, Nat.xor_div_two, ih, parityBelow, parityBelow, Bool.xor_assoc,
      Bool.xor_assoc, Bool.xor_left_comm (b.testBit 0)]

theorem parityBelow_succ {n m : Nat} (h : m < Nat.pow 2 n) :
    parityBelow (n + 1) m = parityBelow n m := by
  induction n generalizing m with
  | zero =>
    obtain rfl : m = 0 := Nat.lt_one_iff.1 h
    rfl
  | succ n ih =>
    have hpow : Nat.pow 2 (n + 1) = Nat.pow 2 n * 2 := rfl
    have hhalf : m / 2 < Nat.pow 2 n := by omega
    rw [parityBelow, ih hhalf, parityBelow]

theorem parity_xor (r s : UInt16) : parity (r ^^^ s) = (parity r ^^ parity s) := by
  rw [parity, UInt16.toNat_xor, parityBelow_xor, parity, parity]

/-- The generator has an odd number of terms, and with the bit that leaves the register they are
even. -/
theorem parity_shift (r : UInt16) : parity (shift r) = parity r := by
  have hall : parityBelow (16 + 1) r.toNat = parity r := parityBelow_succ r.toNat_lt
  have hhalf : parity (r >>> 1) = (r.toNat.testBit 0 ^^ parity r) := by
    rw [← hall, parityBelow, parity, toNat_half, ← Bool.xor_assoc, Bool.xor_self, Bool.false_xor]
  have hfeedback : ∀ b, parity (feedback b) = b := by decide
  -- The bit that is shifted out comes back with the generator.
  rw [shift_eq, parity_xor, hhalf, hfeedback, Bool.xor_right_comm, Bool.xor_self, Bool.false_xor]

theorem parity_shifts (n : Nat) (r : UInt16) : parity (shifts n r) = parity r := by
  induction n generalizing r with
  | zero => rfl
  | succ n ih => rw [shifts, ih, parity_shift]

/-! ### Period -/

/-- The register is not one after any of the next `n` shifts. -/
def avoidsOne : Nat → UInt16 → Bool
  | 0, _ => true
  | n + 1, r => shift r != 1 && avoidsOne n (shift r)

theorem shifts_ne_of_avoidsOne {n : Nat} {r : UInt16} (h : avoidsOne n r = true) {d : Nat}
    (hpos : 0 < d) (hle : d ≤ n) : shifts d r ≠ 1 := by
  induction n generalizing r d with
  | zero => omega
  | succ n ih =>
    rw [avoidsOne, Bool.and_eq_true, bne_iff_ne] at h
    obtain ⟨d, rfl⟩ := Nat.exists_eq_add_one.2 hpos
    rw [shifts]
    cases d with
    | zero => exact h.1
    | succ d => exact ih h.2 (Nat.succ_pos d) (Nat.le_of_succ_le_succ hle)

/-- A single bit comes back to where it was after no less than 2048 shifts. -/
theorem shifts_one_ne_one {d : Nat} (hpos : 0 < d) (hle : d ≤ 2047) : shifts d 1 ≠ 1 := by
  have hscan : avoidsOne 2047 1 = true := by decide +kernel
  exact shifts_ne_of_avoidsOne hscan hpos hle

/-! ### What inverted bits leave in the register -/

/-- What inverted bits at these positions of so many add to the register. -/
def syndrome (count : Nat) (positions : List Nat) : UInt16 :=
  positions.foldr (fun i s => shifts (count - i) 1 ^^^ s) 0

theorem feedAll_modify (r : UInt16) {bits : List Bool} {i : Nat} (h : i < bits.length) :
    feedAll r (bits.modify i not) = feedAll r bits ^^^ shifts (bits.length - i) 1 := by
  induction bits generalizing r i with
  | nil => exact absurd h (Nat.not_lt_zero i)
  | cons b bits ih =>
    cases i with
    | zero =>
      have hbit : (!b).toUInt16 = 1 ^^^ b.toUInt16 := by cases b <;> decide
      have hfeed : feed r (!b) = feed (r ^^^ 1) b := by
        rw [feed, hbit, ← UInt16.xor_assoc, feed]
      rw [List.modify_zero_cons, feedAll_cons, hfeed, feed_xor, feedAll_xor]
      rfl
    | succ i =>
      rw [List.modify_succ_cons, feedAll_cons, ih _ (Nat.lt_of_succ_lt_succ h), feedAll_cons,
        List.length_cons, Nat.add_sub_add_right]

theorem lineBits_invertBit {octets : Octets} {i : Nat} (h : i < 8 * octets.length) :
    lineBits (invertBit octets i) = (lineBits octets).modify i not := by
  apply List.ext_getElem?
  intro j
  rw [List.getElem?_modify]
  by_cases hj : j < 8 * octets.length
  · rw [getElem?_lineBits octets hj, getElem?_lineBits _ (by rwa [length_invertBit]),
      bitAt_invertBit h]
    by_cases heq : i = j
    · simp [heq]
    · simp [heq]
  · have hle : (lineBits octets).length ≤ j := by
      rw [length_lineBits]
      exact Nat.le_of_not_lt hj
    have hle' : (lineBits (invertBit octets i)).length ≤ j := by
      rwa [length_lineBits, length_invertBit, ← length_lineBits]
    rw [List.getElem?_eq_none hle, List.getElem?_eq_none hle']
    rfl

theorem checksum_invertBit {octets : Octets} {i : Nat} (h : i < 8 * octets.length) :
    checksum (invertBit octets i) = checksum octets ^^^ shifts (8 * octets.length - i) 1 := by
  have hbits : i < (lineBits octets).length := by rwa [length_lineBits]
  rw [checksum, run_eq_feedAll, lineBits_invertBit h, feedAll_modify _ hbits, length_lineBits,
    ← run_eq_feedAll, checksum]

theorem checksum_invert {octets : Octets} {positions : List Nat}
    (h : ∀ i ∈ positions, i < 8 * octets.length) :
    checksum (invert octets positions) =
      checksum octets ^^^ syndrome (8 * octets.length) positions := by
  induction positions generalizing octets with
  | nil => exact UInt16.xor_zero.symm
  | cons i positions ih =>
    have hi : i < 8 * octets.length := h i List.mem_cons_self
    have hrest : ∀ j ∈ positions, j < 8 * (invertBit octets i).length := by
      intro j hj
      rw [length_invertBit]
      exact h j (List.mem_cons_of_mem i hj)
    calc checksum (invert octets (i :: positions))
        = checksum (invertBit octets i) ^^^
            syndrome (8 * (invertBit octets i).length) positions := ih hrest
      _ = checksum octets ^^^ syndrome (8 * octets.length) (i :: positions) := by
          rw [checksum_invertBit hi, length_invertBit, UInt16.xor_assoc]
          rfl

theorem parity_syndrome (count : Nat) (positions : List Nat) :
    parity (syndrome count positions) = decide (positions.length % 2 = 1) := by
  induction positions with
  | nil =>
    show parity 0 = decide (0 % 2 = 1)
    decide
  | cons i positions ih =>
    have hone : parity 1 = true := by decide
    have hsyndrome : parity (syndrome count (i :: positions)) =
        (parity (shifts (count - i) 1) ^^ parity (syndrome count positions)) := parity_xor _ _
    rw [hsyndrome, parity_shifts, hone, ih, Bool.true_xor, ← decide_not, List.length_cons]
    exact decide_eq_decide.2 (by omega)

/-- Two bits cancel each other only if they are at one position, or far apart. -/
theorem syndrome_pair {count i j : Nat} (hij : i < j) (hj : j < count) (hnear : j ≤ i + 2047) :
    syndrome count [i, j] ≠ 0 := by
  intro h
  have hsum : shifts (count - i) 1 = shifts (count - j) 1 ^^^ 0 := UInt16.xor_eq_zero_iff.1 h
  -- Both go through the shifts behind the second one, which leaves those between them.
  have hsplit : count - i = (j - i) + (count - j) := by omega
  rw [UInt16.xor_zero, hsplit, shifts_add] at hsum
  exact shifts_one_ne_one (by omega) (by omega) (shifts_inj hsum)

theorem syndrome_swap (count i j : Nat) : syndrome count [i, j] = syndrome count [j, i] := by
  show shifts _ 1 ^^^ (shifts _ 1 ^^^ 0) = shifts _ 1 ^^^ (shifts _ 1 ^^^ 0)
  rw [← UInt16.xor_assoc, UInt16.xor_comm (shifts _ 1), UInt16.xor_assoc]

/-- Up to three bits do not cancel each other within 2048: one and three show in the parity. -/
theorem syndrome_ne_zero {count : Nat} {positions : List Nat} (hcount : count ≤ 2048)
    (hbound : ∀ i ∈ positions, i < count) (hnodup : positions.Nodup) (hpos : 1 ≤ positions.length)
    (hle : positions.length ≤ 3) : syndrome count positions ≠ 0 := by
  intro hzero
  have hparity := parity_syndrome count positions
  have hempty : parity 0 = false := by decide
  rw [hzero, hempty] at hparity
  have hodd : ¬ positions.length % 2 = 1 := of_decide_eq_false hparity.symm
  have htwo : positions.length = 2 := by omega
  obtain ⟨i, j, rfl⟩ : ∃ i j, positions = [i, j] := by
    match positions, htwo with
    | [i, j], _ => exact ⟨i, j, rfl⟩
  have hi : i < count := hbound i List.mem_cons_self
  have hj : j < count := hbound j (List.mem_cons_of_mem i List.mem_cons_self)
  have hne : i ≠ j := by
    rintro rfl
    simp at hnodup
  rcases Nat.lt_or_gt_of_ne hne with hij | hij
  · exact syndrome_pair hij hj (by omega) hzero
  · rw [syndrome_swap] at hzero
    exact syndrome_pair hij hi (by omega) hzero

end Crc

namespace Frame

/-- A frame of up to 256 octets in which one, two or three bits are inverted is refused. -/
theorem inversions_refused (unit function : UInt8) (payload : Octets) :
    let sent := (Frame.rtu unit function payload).encode
    sent.length ≤ 256 → ∀ positions : List Nat, positions.Nodup →
      (∀ i ∈ positions, i < 8 * sent.length) → 1 ≤ positions.length → positions.length ≤ 3 →
      FailsChecksum (invert sent positions) := by
  intro sent hlength positions hnodup hbound hpos hle
  apply failsChecksum_of_residue
  · rw [length_invert, length_encode_rtu]
    exact Nat.le_add_left 4 _
  · rw [Crc.checksum_invert hbound, Crc.checksum_encode, UInt16.zero_xor]
    exact Crc.syndrome_ne_zero (Nat.mul_le_mul_left 8 hlength) hbound hnodup hpos hle

/-- Both ends of the longest frame, and a bit between them. -/
theorem inversions_refused_longest :
    let sent := (Frame.rtu 1 100 (List.replicate 252 0)).encode
    let positions := [0, 1000, 2047]
    sent.length ≤ 256 ∧ positions.Nodup ∧ (∀ i ∈ positions, i < 8 * sent.length) ∧
      1 ≤ positions.length ∧ positions.length ≤ 3 ∧ FailsChecksum (invert sent positions) := by
  intro sent positions
  have hsent : sent.length = 256 := by
    rw [length_encode_rtu, List.length_replicate]
  have hlength : sent.length ≤ 256 := Nat.le_of_eq hsent
  have hnodup : positions.Nodup := by decide
  have hbound : ∀ i ∈ positions, i < 8 * sent.length := by
    rw [hsent]
    decide
  exact ⟨hlength, hnodup, hbound, by decide, by decide,
    inversions_refused 1 100 (List.replicate 252 0) hlength positions hnodup hbound (by decide)
      (by decide)⟩

end Frame

end Modbus
