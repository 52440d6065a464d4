import Modbus.Der.Strict

namespace Modbus.Der

/-- The octets write the number as a length: in one octet, if it is below 128, or with the count of
its digits and the high bit in the octet before them. There may be zeros in front of the digits. -/
inductive DefiniteLength : Octets → Nat → Prop
  | short {b : UInt8} {n : Nat} (hb : b.toNat = n) (h : n < 0x80) : DefiniteLength [b] n
  | long {b : UInt8} {digits : Octets} {n : Nat} (hb : b.toNat = 0x80 + digits.length)
    (hleast : 0 < digits.length) (hmost : digits.length < 0x7F) (h : ofBigEndian digits = n) :
    DefiniteLength (b :: digits) n

/-- A length says itself where it ends. -/
theorem DefiniteLength.append_inj {length length' rest rest' : Octets} {n n' : Nat}
    (h : DefiniteLength length n) (h' : DefiniteLength length' n')
    (heq : length ++ rest = length' ++ rest') : length = length' ∧ rest = rest' := by
  apply List.append_inj heq
  -- the first octet decides how many there are
  cases h with
  | @short b _ hb hshort =>
    cases h' with
    | short => rfl
    | long hb' =>
      obtain ⟨rfl, -⟩ := List.cons.inj heq
      omega
  | @long b digits _ hb =>
    cases h' with
    | short hb' hshort =>
      obtain ⟨rfl, -⟩ := List.cons.inj heq
      omega
    | @long _ digits' _ hb' =>
      obtain ⟨rfl, -⟩ := List.cons.inj heq
      rw [List.length_cons, List.length_cons]
      omega

theorem readLength_short {b : UInt8} (h : b.toNat < 0x80) (tail : Octets) :
    readLength (b :: tail) = some (b.toNat, tail) := by
  rw [readLength, if_pos (UInt8.lt_iff_toNat_lt.2 h)]

theorem readLength_long {b : UInt8} {count : Nat} (hb : b.toNat = 0x80 + count) (hleast : 0 < count)
    (hmost : count < 0x7F) (tail : Octets) :
    readLength (b :: tail) =
      if count ≤ tail.length ∧ ofBigEndian (tail.take count) < Nat.pow 2 64 then
        some (ofBigEndian (tail.take count), tail.drop count)
      else none := by
  have hlow : ¬ b < 0x80 := by
    rw [UInt8.lt_iff_toNat_lt, hb]
    exact Nat.not_lt.2 (Nat.le_add_right 0x80 count)
  have hends : ¬ (b = 0x80 || b = 0xFF) = true := by
    rw [Bool.or_eq_true, decide_eq_true_eq, decide_eq_true_eq, ← UInt8.toNat_inj, ← UInt8.toNat_inj,
      hb]
    change ¬ (0x80 + count = 0x80 ∨ 0x80 + count = 0xFF)
    omega
  have hcount : b.toNat - 0x80 = count := by omega
  simp only [readLength, if_neg hlow, if_neg hends, hcount, Bool.and_eq_true, decide_eq_true_eq]

theorem readLength_refuses {b : UInt8} (h : b.toNat = 0x80 ∨ b.toNat = 0xFF) (tail : Octets) :
    readLength (b :: tail) = none := by
  obtain rfl | rfl : b = 0x80 ∨ b = 0xFF := h.imp UInt8.toNat_inj.1 UInt8.toNat_inj.1
  · rfl
  · rfl

/-- What is read as a length is one that fits into 64 bits, and nothing of what follows it. -/
theorem readLength_eq_some_iff {octets rest : Octets} {n : Nat} :
    readLength octets = some (n, rest) ↔
      ∃ length, DefiniteLength length n ∧ n < Nat.pow 2 64 ∧ octets = length ++ rest := by
  constructor
  · intro h
    cases octets with
    | nil => cases h
    | cons b tail =>
      have hb := b.toNat_lt
      by_cases hends : b.toNat = 0x80 ∨ b.toNat = 0xFF
      · rw [readLength_refuses hends] at h
        cases h
      · by_cases hshort : b.toNat < 0x80
        · rw [readLength_short hshort] at h
          obtain ⟨rfl, rfl⟩ := Prod.mk.inj (Option.some.inj h)
          exact ⟨[b], .short rfl hshort, Nat.lt_trans hshort (by decide), rfl⟩
        · have hcount : b.toNat = 0x80 + (b.toNat - 0x80) := by omega
          rw [readLength_long hcount (by omega) (by omega)] at h
          split at h
          · next hfits =>
            obtain ⟨rfl, rfl⟩ := Prod.mk.inj (Option.some.inj h)
            have htaken : (tail.take (b.toNat - 0x80)).length = b.toNat - 0x80 :=
              List.length_take_of_le hfits.1
            refine ⟨b :: tail.take (b.toNat - 0x80), .long ?_ ?_ ?_ rfl, hfits.2, ?_⟩
            · omega
            · omega
            · omega
            · rw [List.cons_append, List.take_append_drop]
          · cases h
  · rintro ⟨_, ⟨rfl, hshort⟩ | ⟨hb, hleast, hmost, rfl⟩, hfits, rfl⟩
    · exact readLength_short hshort rest
    · rw [List.cons_append, readLength_long hb hleast hmost, List.take_left, List.drop_left, if_pos]
      exact ⟨by simp, hfits⟩

namespace Strict

theorem ofBigEndian_digits (n : Nat) : ofBigEndian (digits n) = n := by
  fun_induction digits n with
  | case1 => rfl
  | case2 n h ih =>
    rw [ofBigEndian_append, ih, UInt8.toNat_ofNat']
    omega

/-- The digits of a number are as few as can make it up. -/
theorem length_digits_le_iff {n count : Nat} :
    (digits n).length ≤ count ↔ n < Nat.pow 256 count := by
  fun_induction digits n generalizing count with
  | case1 => exact iff_of_true (Nat.zero_le _) (Nat.pow_pos (by decide))
  | case2 n h ih =>
    rw [List.length_append, List.length_singleton]
    cases count with
    | zero =>
      change _ ↔ n < 1
      omega
    | succ count =>
      have hmore : Nat.pow 256 (count + 1) = Nat.pow 256 count * 256 := rfl
      rw [Nat.add_le_add_iff_right, ih, hmore]
      omega

theorem definiteLength_encodeLength {n : Nat} (h : n < Nat.pow 256 126) :
    DefiniteLength (encodeLength n) n := by
  unfold encodeLength
  split
  · next hshort => exact .short (UInt8.toNat_ofNat_of_lt' (Nat.lt_trans hshort (by decide))) hshort
  · next hlong =>
    have hmost : (digits n).length ≤ 126 := length_digits_le_iff.2 h
    have hleast : ¬ (digits n).length ≤ 0 := by
      rw [length_digits_le_iff]
      change ¬ n < 1
      omega
    refine .long (UInt8.toNat_ofNat_of_lt' ?_) ?_ ?_ (ofBigEndian_digits n)
    · change _ < 256
      omega
    · omega
    · omega

/-- No way to write a length is shorter than the strict one. -/
theorem length_encodeLength_le {octets : Octets} {n : Nat} (h : DefiniteLength octets n) :
    (encodeLength n).length ≤ octets.length := by
  unfold encodeLength
  split
  · cases h with
    | short => exact Nat.le_refl 1
    | long => exact Nat.succ_pos _
  · next hlong =>
    cases h with
    | short _ h => exact absurd h hlong
    | @long b digits' _ _ _ _ h =>
      rw [List.length_cons, List.length_cons, Nat.add_le_add_iff_right, length_digits_le_iff, ← h]
      exact ofBigEndian_lt digits'

theorem length_encodeLength_le_iff {n count : Nat} (h : 0 < count) :
    (encodeLength n).length ≤ count + 1 ↔ n < Nat.pow 256 count := by
  unfold encodeLength
  split
  · next hshort =>
    refine iff_of_true (Nat.le_add_left 1 count) ?_
    calc n < 256 := Nat.lt_trans hshort (by decide)
      _ = Nat.pow 256 1 := rfl
      _ ≤ Nat.pow 256 count := Nat.pow_le_pow_right (by decide) h
  · exact Nat.add_le_add_iff_right.trans length_digits_le_iff

end Strict

/-- A way to write the number as a length that is no longer than any other. -/
def ShortestLength (octets : Octets) (n : Nat) : Prop :=
  DefiniteLength octets n ∧ ∀ other, DefiniteLength other n → octets.length ≤ other.length

theorem shortestLength_encodeLength {n : Nat} (h : n < Nat.pow 256 126) :
    ShortestLength (Strict.encodeLength n) n :=
  ⟨Strict.definiteLength_encodeLength h, fun _ => Strict.length_encodeLength_le⟩

theorem DefiniteLength.lt {octets : Octets} {n : Nat} (h : DefiniteLength octets n) :
    n < Nat.pow 256 126 := by
  cases h with
  | short _ hshort => exact Nat.lt_trans hshort (by decide)
  | @long _ digits _ _ _ hmost hvalue =>
    rw [← hvalue]
    calc ofBigEndian digits < Nat.pow 256 digits.length := ofBigEndian_lt digits
      _ ≤ Nat.pow 256 126 := Nat.pow_le_pow_right (by decide) (Nat.le_of_lt_succ hmost)

theorem ShortestLength.length_eq {octets : Octets} {n : Nat} (h : ShortestLength octets n) :
    octets.length = (Strict.encodeLength n).length :=
  Nat.le_antisymm (h.2 _ (Strict.definiteLength_encodeLength h.1.lt))
    (Strict.length_encodeLength_le h.1)

def Framed (tag : UInt8) (content octets : Octets) : Prop :=
  ∃ length, DefiniteLength length content.length ∧ octets = tag :: (length ++ content)

end Modbus.Der
