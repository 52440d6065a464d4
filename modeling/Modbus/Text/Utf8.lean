namespace Modbus.Text

def ofUtf8? (octets : List UInt8) : Option String := String.fromUTF8? ⟨octets.toArray⟩

def toUtf8 (text : String) : List UInt8 := text.toUTF8.toList

/-! ### Octets of a text -/

theorem toList_loop (bytes : ByteArray) (i : Nat) (front : List UInt8) :
    ByteArray.toList.loop bytes i front = front.reverse ++ bytes.data.toList.drop i := by
  fun_induction ByteArray.toList.loop bytes i front with
  | case1 i front h ih =>
    have hi : i < bytes.data.toList.length := h
    rw [ih, List.reverse_cons, List.append_assoc, List.drop_eq_getElem_cons hi,
      List.singleton_append]
    simp [ByteArray.get!, getElem!_pos bytes.data i h]
  | case2 i front h =>
    have hi : bytes.data.toList.length ≤ i := Nat.le_of_not_lt h
    rw [List.drop_eq_nil_of_le hi, List.append_nil]

theorem toUtf8_eq (text : String) : toUtf8 text = text.toByteArray.data.toList := by
  rw [toUtf8, ByteArray.toList, toList_loop, String.toUTF8_eq_toByteArray]
  rfl

theorem ofUtf8?_eq_some_iff {octets : List UInt8} {text : String} :
    ofUtf8? octets = some text ↔ octets = toUtf8 text := by
  rw [toUtf8_eq, ofUtf8?, String.fromUTF8?]
  constructor
  · intro h
    split at h
    · cases h
      rfl
    · cases h
  · rintro rfl
    exact dif_pos text.isValidUTF8

theorem utf8EncodeChar_ofUInt8 {b : UInt8} (h : b < 0x80) :
    String.utf8EncodeChar (Char.ofUInt8 b) = [b] := by
  have hsize : (Char.ofUInt8 b).utf8Size = 1 := by
    rw [Char.utf8Size_eq_one_iff]
    change b.toUInt32 ≤ 127
    rw [UInt32.le_iff_toNat_le, UInt8.toNat_toUInt32]
    exact Nat.le_of_lt_succ (UInt8.lt_iff_toNat_lt.1 h)
  rw [String.utf8EncodeChar_eq_singleton hsize]
  change [b.toUInt32.toUInt8] = [b]
  rw [UInt8.toUInt8_toUInt32]

/-- Behind an octet below 128 a character begins, which no octet from 128 to 191 does. -/
theorem ofUtf8?_eq_none {b c : UInt8} (hb : b < 0x80) (hlow : 0x80 ≤ c) (hhigh : c < 0xC0)
    (rest : List UInt8) : ofUtf8? (b :: c :: rest) = none := by
  refine dif_neg fun h => ?_
  have hsplit : ByteArray.mk (b :: c :: rest).toArray =
      [Char.ofUInt8 b].utf8Encode ++ ByteArray.mk (c :: rest).toArray := by
    apply ByteArray.ext
    rw [List.utf8Encode_singleton, utf8EncodeChar_ofUInt8 hb]
    simp
  rw [hsplit, ByteArray.isValidUTF8_utf8Encode_singleton_append_iff] at h
  have hfirst : c.IsUTF8FirstByte := h.isUTF8FirstByte_getElem_zero (Nat.succ_pos _)
  have hnot : ∀ n < 256, 128 ≤ n → n < 192 → ¬ (UInt8.ofNat n).IsUTF8FirstByte := by
    decide +kernel
  refine hnot c.toNat c.toNat_lt hlow hhigh ?_
  rwa [UInt8.ofNat_toNat]

theorem toUtf8_eq_nil_iff {text : String} : toUtf8 text = [] ↔ text = "" := by
  rw [toUtf8_eq, ← String.toByteArray_inj]
  simp [ByteArray.ext_iff]

theorem toUtf8_ofList (characters : List Char) :
    toUtf8 (String.ofList characters) = characters.flatMap String.utf8EncodeChar := by
  rw [toUtf8_eq]
  simp [List.utf8Encode]

end Modbus.Text
