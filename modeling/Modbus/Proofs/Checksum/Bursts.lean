import Modbus.Proofs.Checksum.Residue

namespace Modbus

open Payload

/-! ### Bits of sums and of joined octets -/

namespace Payload

theorem bitAt_zipWith {xs ys : Octets} (h : xs.length = ys.length) (i : Nat) :
    bitAt (List.zipWith (· ^^^ ·) xs ys) i = (bitAt xs i ^^ bitAt ys i) := by
  rw [bitAt, bitAt, bitAt, List.getElem?_zipWith]
  by_cases hi : i / 8 < xs.length
  · rw [List.getElem?_eq_getElem hi, List.getElem?_eq_getElem (h ▸ hi)]
    dsimp only
    rw [UInt8.toNat_xor, Nat.testBit_xor]
  · rw [List.getElem?_eq_none (Nat.le_of_not_lt hi), List.getElem?_eq_none (h ▸ Nat.le_of_not_lt hi)]
    rfl

/-- Where octets are replaced by as many others, the bits in front of them and behind them stay. -/
theorem bitAt_replaced {front old new back : Octets} (hlength : new.length = old.length) {i : Nat}
    (h : bitAt (front ++ (new ++ back)) i ≠ bitAt (front ++ (old ++ back)) i) :
    8 * front.length ≤ i ∧ i < 8 * front.length + 8 * old.length := by
  by_cases hfront : i < 8 * front.length
  · rw [bitAt_append_left hfront, bitAt_append_left hfront] at h
    exact absurd rfl h
  · have hbehind : 8 * front.length ≤ i := Nat.le_of_not_lt hfront
    rw [bitAt_append_right hbehind, bitAt_append_right hbehind] at h
    by_cases hback : 8 * old.length ≤ i - 8 * front.length
    · rw [bitAt_append_right (hlength ▸ hback), bitAt_append_right hback, hlength] at h
      exact absurd rfl h
    · omega

end Payload

namespace Crc

/-- Bits that are not set only shift the register. -/
theorem feedAll_unset (r : UInt16) {bits : List Bool} (h : ∀ b ∈ bits, b = false) :
    feedAll r bits = shifts bits.length r := by
  induction bits generalizing r with
  | nil => rfl
  | cons b bits ih =>
    have hb : b = false := h b List.mem_cons_self
    have hfeed : feed r b = shift r := by
      rw [hb, feed]
      exact congrArg shift UInt16.xor_zero
    rw [feedAll_cons, hfeed, List.length_cons, shifts]
    exact ih _ fun c hc => h c (List.mem_cons_of_mem b hc)

theorem unset_of_wordOf {bits : List Bool} (h : wordOf bits = 0) : ∀ b ∈ bits, b = false := by
  induction bits with
  | nil => exact fun b hb => absurd hb List.not_mem_nil
  | cons c bits ih =>
    rw [wordOf_cons, Nat.add_eq_zero_iff] at h
    obtain ⟨hc, hword⟩ := h
    have hrest := ih (by omega)
    intro b hb
    rw [List.mem_cons] at hb
    rcases hb with rfl | hb
    · exact Bool.toNat_eq_zero.1 hc
    · exact hrest b hb

/-- Sixteen bits that leave nothing in an empty register are not set, whatever else that is not set
comes before and behind them. -/
theorem unset_of_window {front window back : List Bool} (hfront : ∀ b ∈ front, b = false)
    (hback : ∀ b ∈ back, b = false) (hwindow : window.length ≤ 16)
    (h : feedAll 0 (front ++ (window ++ back)) = 0) : ∀ b ∈ window, b = false := by
  rw [feedAll_append, feedAll_append, feedAll_unset 0 hfront, shifts_zero,
    feedAll_unset _ hback] at h
  have hleft : feedAll 0 window = 0 := eq_zero_of_shifts h
  rw [feedAll_eq_shifts 0 hwindow, UInt16.zero_xor] at hleft
  have hword : UInt16.ofNat (wordOf window) = 0 := eq_zero_of_shifts hleft
  have hbound : wordOf window < 65536 :=
    Nat.lt_of_lt_of_le (wordOf_lt window) (Nat.pow_le_pow_right (by decide) hwindow)
  apply unset_of_wordOf
  rw [← UInt16.toNat_inj, UInt16.toNat_ofNat', Nat.mod_eq_of_lt hbound] at hword
  exact hword

theorem unset_of_getElem? {bits : List Bool} (h : ∀ i : Nat, bits[i]? ≠ some true) :
    ∀ b ∈ bits, b = false := by
  intro b hb
  obtain ⟨i, hi⟩ := List.mem_iff_getElem?.1 hb
  cases b with
  | false => rfl
  | true => exact absurd hi (h i)

/-- A burst does not leave the register empty. -/
theorem unset_of_burst {bits : List Bool} {start : Nat}
    (hburst : ∀ i, bits[i]? = some true → start ≤ i ∧ i < start + 16) (h : feedAll 0 bits = 0) :
    ∀ b ∈ bits, b = false := by
  have hfront : ∀ b ∈ bits.take start, b = false := by
    apply unset_of_getElem?
    intro i hi
    rw [List.getElem?_take] at hi
    split at hi
    · have hstart := (hburst i hi).1
      omega
    · cases hi
  have hback : ∀ b ∈ (bits.drop start).drop 16, b = false := by
    apply unset_of_getElem?
    intro i hi
    rw [List.getElem?_drop, List.getElem?_drop] at hi
    have hend := (hburst _ hi).2
    omega
  -- Nothing is set in front of the burst or behind it, so that it has to leave nothing itself.
  have hsplit : bits.take start ++ ((bits.drop start).take 16 ++ (bits.drop start).drop 16) = bits := by
    rw [List.take_append_drop, List.take_append_drop]
  rw [← hsplit] at h
  have hwindow := unset_of_window hfront hback (List.length_take_le 16 _) h
  intro b hb
  rw [← hsplit, List.mem_append, List.mem_append] at hb
  rcases hb with hb | hb | hb
  · exact hfront b hb
  · exact hwindow b hb
  · exact hback b hb

/-- Octets that differ within sixteen bits have different checksums. -/
theorem eq_of_checksum {xs ys : Octets} {start : Nat} (hlength : xs.length = ys.length)
    (hburst : ∀ i, bitAt xs i ≠ bitAt ys i → start ≤ i ∧ i < start + 16)
    (h : checksum xs = checksum ys) : xs = ys := by
  -- The bits of the sum are those that differ.
  let sum := List.zipWith (· ^^^ ·) xs ys
  have hsum : sum.length = xs.length := by
    rw [List.length_zipWith, ← hlength, Nat.min_self]
  have hbit : ∀ i < 8 * sum.length, (lineBits sum)[i]? = some (bitAt xs i ^^ bitAt ys i) := by
    intro i hi
    rw [getElem?_lineBits sum hi, bitAt_zipWith hlength]
  have hset : ∀ i, (lineBits sum)[i]? = some true → start ≤ i ∧ i < start + 16 := by
    intro i hi
    have hbound := (List.getElem?_eq_some_iff.1 hi).1
    rw [length_lineBits] at hbound
    rw [hbit i hbound] at hi
    exact hburst i (by simpa using hi)
  have hempty : feedAll 0 (lineBits sum) = 0 := by
    rw [← checksum_xor hlength, h, UInt16.xor_self]
  apply eq_of_bitAt hlength
  intro i hi
  rw [← hsum] at hi
  simpa using unset_of_burst hset hempty _ (List.mem_of_getElem? (hbit i hi))

end Crc

namespace Frame

/-- The octets of a frame are not taken for another one if what happened to them lies within sixteen
bits, wherever in the frame, and so if it lies within one octet or two neighbouring ones. -/
theorem burst_refused (unit function : UInt8) (payload : Octets) :
    let sent := (Frame.rtu unit function payload).encode
    (∀ (raw : Octets) (start : Nat), raw.length = sent.length → raw ≠ sent →
      (∀ i, bitAt raw i ≠ bitAt sent i → start ≤ i ∧ i < start + 16) → FailsChecksum raw) ∧
    ∀ front old new back : Octets, sent = front ++ (old ++ back) → old.length ≤ 2 →
      new.length = old.length → new ≠ old → FailsChecksum (front ++ (new ++ back)) := by
  intro sent
  have hbursts : ∀ (raw : Octets) (start : Nat), raw.length = sent.length → raw ≠ sent →
      (∀ i, bitAt raw i ≠ bitAt sent i → start ≤ i ∧ i < start + 16) → FailsChecksum raw := by
    intro raw start hlength hne hburst
    apply failsChecksum_of_residue
    · rw [hlength, length_encode_rtu]
      exact Nat.le_add_left 4 _
    · rw [← Crc.checksum_encode unit function payload]
      exact mt (Crc.eq_of_checksum hlength hburst) hne
  refine ⟨hbursts, ?_⟩
  intro front old new back hsent hshort hsame hne
  apply hbursts _ (8 * front.length)
  · rw [hsent, List.length_append, List.length_append, List.length_append, List.length_append, hsame]
  · rw [hsent, Ne, List.append_cancel_left_eq, List.append_cancel_right_eq]
    exact hne
  · intro i hi
    rw [hsent] at hi
    have hwithin := bitAt_replaced hsame hi
    omega

/-- Sixteen bits from the last octet of the body into the second one of the checksum, and two octets
that change places. -/
theorem burst_refused_boundary :
    let sent := (Frame.rtu 17 3 [0, 107, 0, 3]).encode
    let raw : Octets := [17, 3, 0, 107, 0, 161, 137, 134]
    (raw.length = sent.length ∧ raw ≠ sent ∧
      (∀ i, bitAt raw i ≠ bitAt sent i → 41 ≤ i ∧ i < 41 + 16) ∧ FailsChecksum raw) ∧
    sent = [17, 3, 0] ++ ([107, 0] ++ [3, 118, 135]) ∧
      FailsChecksum ([17, 3, 0] ++ ([0, 107] ++ [3, 118, 135])) := by
  intro sent raw
  obtain ⟨hbursts, hpairs⟩ := burst_refused 17 3 [0, 107, 0, 3]
  have hlength : raw.length = sent.length := (length_encode_rtu 17 3 [0, 107, 0, 3]).symm
  have hne : raw ≠ sent := by decide +kernel
  have hburst : ∀ i, bitAt raw i ≠ bitAt sent i → 41 ≤ i ∧ i < 41 + 16 := by
    intro i
    by_cases hi : i < 64
    · have hall : ∀ i < 64, bitAt raw i ≠ bitAt sent i → 41 ≤ i ∧ i < 41 + 16 := by decide +kernel
      exact hall i hi
    · have hraw : 8 * raw.length ≤ i := Nat.le_of_not_lt hi
      have hsent : 8 * sent.length ≤ i := hlength ▸ hraw
      intro h
      rw [bitAt_of_length_le hraw, bitAt_of_length_le hsent] at h
      exact absurd rfl h
  have hsent : sent = [17, 3, 0] ++ ([107, 0] ++ [3, 118, 135]) := by decide +kernel
  exact ⟨⟨hlength, hne, hburst, hbursts raw 41 hlength hne hburst⟩, hsent,
    hpairs [17, 3, 0] [107, 0] [0, 107] [3, 118, 135] hsent (by decide) rfl (by decide)⟩

end Frame

end Modbus
