namespace Modbus

abbrev Octets := List UInt8

def word (high low : UInt8) : UInt16 := UInt16.ofNat (high.toNat * 256 + low.toNat)

def highOctet (w : UInt16) : UInt8 := UInt8.ofNat (w.toNat / 256)

def lowOctet (w : UInt16) : UInt8 := UInt8.ofNat w.toNat

def bigEndian (w : UInt16) : Octets := [highOctet w, lowOctet w]

/-- A number in the given count of octets, the highest one first. What does not fit is left out. -/
def bigEndianOf : (count : Nat) → Nat → Octets
  | 0, _ => []
  | count + 1, n => bigEndianOf count (n / 256) ++ [UInt8.ofNat n]

def ofBigEndian (octets : Octets) : Nat := octets.foldl (fun n b => n * 256 + b.toNat) 0

def littleEndian (w : UInt16) : Octets := [lowOctet w, highOctet w]

theorem toNat_word (high low : UInt8) : (word high low).toNat = high.toNat * 256 + low.toNat := by
  have h₁ := high.toNat_lt
  have h₀ := low.toNat_lt
  rw [word, UInt16.toNat_ofNat']
  omega

theorem toNat_highOctet (w : UInt16) : (highOctet w).toNat = w.toNat / 256 := by
  have h := w.toNat_lt
  rw [highOctet, UInt8.toNat_ofNat']
  omega

theorem toNat_lowOctet (w : UInt16) : (lowOctet w).toNat = w.toNat % 256 := by
  rw [lowOctet, UInt8.toNat_ofNat']

theorem word_highOctet_lowOctet (w : UInt16) : word (highOctet w) (lowOctet w) = w := by
  apply UInt16.toNat_inj.1
  rw [toNat_word, toNat_highOctet, toNat_lowOctet]
  omega

theorem highOctet_word (high low : UInt8) : highOctet (word high low) = high := by
  have h₀ := low.toNat_lt
  apply UInt8.toNat_inj.1
  rw [toNat_highOctet, toNat_word]
  omega

theorem lowOctet_word (high low : UInt8) : lowOctet (word high low) = low := by
  have h₀ := low.toNat_lt
  apply UInt8.toNat_inj.1
  rw [toNat_lowOctet, toNat_word]
  omega

theorem bigEndian_word (high low : UInt8) : bigEndian (word high low) = [high, low] := by
  rw [bigEndian, highOctet_word, lowOctet_word]

theorem littleEndian_word (high low : UInt8) : littleEndian (word high low) = [low, high] := by
  rw [littleEndian, highOctet_word, lowOctet_word]

theorem littleEndian_inj {v w : UInt16} (h : littleEndian v = littleEndian w) : v = w := by
  obtain ⟨hlow, hhigh⟩ : lowOctet v = lowOctet w ∧ highOctet v = highOctet w := by
    simpa [littleEndian] using h
  rw [← word_highOctet_lowOctet v, hlow, hhigh, word_highOctet_lowOctet]

theorem length_bigEndian (w : UInt16) : (bigEndian w).length = 2 := rfl

theorem length_littleEndian (w : UInt16) : (littleEndian w).length = 2 := rfl

theorem length_bigEndianOf (count n : Nat) : (bigEndianOf count n).length = count := by
  induction count generalizing n with
  | zero => rfl
  | succ count ih => simp [bigEndianOf, ih]

theorem ofBigEndian_append (front : Octets) (b : UInt8) :
    ofBigEndian (front ++ [b]) = ofBigEndian front * 256 + b.toNat := by
  simp [ofBigEndian]

theorem ofBigEndian_lt (octets : Octets) : ofBigEndian octets < Nat.pow 256 octets.length := by
  generalize hcount : octets.length = count
  induction count generalizing octets with
  | zero =>
    rw [List.length_eq_zero_iff.1 hcount]
    decide
  | succ count ih =>
    rcases List.eq_nil_or_concat octets with rfl | ⟨front, b, rfl⟩
    · cases hcount
    · rw [List.concat_eq_append, List.length_append, List.length_singleton] at hcount
      have hfront := ih front (Nat.succ.inj hcount)
      have hb := b.toNat_lt
      have more : Nat.pow 256 (count + 1) = Nat.pow 256 count * 256 := rfl
      rw [List.concat_eq_append, ofBigEndian_append]
      omega

theorem ofBigEndian_pair (high low : UInt8) : ofBigEndian [high, low] = (word high low).toNat := by
  simp [ofBigEndian, toNat_word]

theorem ofBigEndian_bigEndianOf (count n : Nat) :
    ofBigEndian (bigEndianOf count n) = n % Nat.pow 256 count := by
  induction count generalizing n with
  | zero => simp [bigEndianOf, ofBigEndian, Nat.mod_one]
  | succ count ih =>
    have more : Nat.pow 256 (count + 1) = 256 * Nat.pow 256 count := Nat.mul_comm _ _
    have split : n % (256 * Nat.pow 256 count) = n % 256 + 256 * (n / 256 % Nat.pow 256 count) :=
      Nat.mod_mul
    rw [bigEndianOf, ofBigEndian_append, ih, UInt8.toNat_ofNat', more, split]
    omega

end Modbus
