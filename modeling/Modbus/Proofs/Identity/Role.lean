import Modbus.PeerIdentity
import Modbus.Proofs.Der.Length

namespace Modbus

open Der

namespace PeerIdentity

variable {value content length : Octets} {role : String}

def stringTag : UInt8 := UInt8.ofNat Tag.utf8String

/-! ### Content -/

/-- A value is its own content, or a UTF-8 string whose length takes at most two octets. -/
theorem roleContent_cases (value : Octets) :
    roleContent value = value ∨
      ∃ length, length.length ≤ 2 ∧ DefiniteLength length (roleContent value).length ∧
        value = stringTag :: (length ++ roleContent value) := by
  fun_cases roleContent value with
  | case1 n content h =>
    have hn : ofBigEndian [n] = content.length := by simpa [ofBigEndian] using h
    have hone : 1 < 0x7F := by decide
    exact .inr ⟨[0x81, n], Nat.le_refl 2, .long rfl Nat.one_pos hone hn, rfl⟩
  | case3 n content _ h =>
    obtain ⟨hlow, hn⟩ : n < 0x80 ∧ n.toNat = content.length := by simpa using h
    have hshort : content.length < 0x80 := by
      rw [← hn]
      exact UInt8.lt_iff_toNat_lt.1 hlow
    exact .inr ⟨[n], Nat.le_succ 1, .short hn hshort, rfl⟩
  | case2 | case4 | case5 => exact .inl rfl

theorem roleContent_string (h : DefiniteLength length content.length) (htwo : length.length ≤ 2) :
    roleContent (stringTag :: (length ++ content)) = content := by
  cases h with
  | @short b _ hb hshort =>
    have hlow : b < 0x80 := UInt8.lt_iff_toNat_lt.2 (by rwa [hb])
    change roleContent (0x0C :: b :: content) = content
    rw [roleContent, if_pos]
    · simp [hlow, hb]
    · rintro n rest rfl
      exact absurd hlow (by decide)
  | @long b digits _ hb hleast _ hvalue =>
    have hone : digits.length = 1 := Nat.le_antisymm (Nat.le_of_succ_le_succ htwo) hleast
    obtain ⟨n, rfl⟩ := List.length_eq_one_iff.1 hone
    obtain rfl : b = 0x81 := UInt8.toNat_inj.1 hb
    change roleContent (0x0C :: 0x81 :: n :: content) = content
    rw [roleContent, if_pos]
    simpa [ofBigEndian] using hvalue

theorem roleContent_long (h : DefiniteLength length content.length) (hlong : 2 < length.length) :
    roleContent (stringTag :: (length ++ content)) = stringTag :: (length ++ content) := by
  rcases roleContent_cases (stringTag :: (length ++ content)) with
    hself | ⟨short, htwo, hshort, hvalue⟩
  · exact hself
  · -- the octets would begin with two definite lengths
    obtain ⟨rfl, -⟩ := h.append_inj hshort (List.cons.inj hvalue).2
    exact absurd htwo (Nat.not_le_of_lt hlong)

theorem roleContent_unframed (h : ∀ content, ¬ Framed stringTag content value) :
    roleContent value = value := by
  rcases roleContent_cases value with hself | ⟨length, -, hlength, hvalue⟩
  · exact hself
  · exact absurd ⟨length, hlength, hvalue⟩ (h _)

/-- The reader of certificates takes a UTF-8 string of any definite length. -/
theorem readPrimitive_string (h : DefiniteLength length content.length)
    (hfits : content.length < Nat.pow 2 64) :
    readPrimitive Tag.utf8String (stringTag :: (length ++ content)) = some (content, []) := by
  have htag : readTag (stringTag :: (length ++ content)) =
      some (0, false, Tag.utf8String, length ++ content) := rfl
  have hlength : readLength (length ++ content) = some (content.length, content) :=
    readLength_eq_some_iff.2 ⟨length, h, hfits, rfl⟩
  simp [readPrimitive, readElement, readHeader, htag, hlength]

/-! ### Roles -/

theorem decodeRole_eq_some_iff :
    decodeRole value = some role ↔
      roleContent value ≠ [] ∧ roleContent value = Text.toUtf8 role := by
  unfold decodeRole
  split
  · next h => simp [h]
  · next h => exact Text.ofUtf8?_eq_some_iff.trans (and_iff_right h).symm

/-- Behind the tag, the octet that counts the digits of a length would have to begin a character. -/
theorem decodeRole_long (h : DefiniteLength length content.length) (hlong : 2 < length.length)
    (hmost : length.length ≤ 64) : decodeRole (stringTag :: (length ++ content)) = none := by
  rw [Option.eq_none_iff_forall_ne_some]
  intro role hrole
  rw [decodeRole_eq_some_iff, roleContent_long h hlong, ← Text.ofUtf8?_eq_some_iff] at hrole
  cases h with
  | short => exact absurd hlong (Nat.not_lt.2 (Nat.le_succ 1))
  | @long b digits _ hb _ _ _ =>
    -- with at most 63 digits their count stays below 0xC0, where characters begin
    rw [List.length_cons] at hmost
    have hlow : 0x80 ≤ b.toNat := by omega
    have hhigh : b.toNat < 0xC0 := by omega
    rw [List.cons_append, Text.ofUtf8?_eq_none (by decide) (UInt8.le_iff_toNat_le.2 hlow)
      (UInt8.lt_iff_toNat_lt.2 hhigh)] at hrole
    cases hrole.2

/-- A role in a UTF-8 string comes out just when its length takes at most two octets. -/
theorem decodeRole_string_iff (h : DefiniteLength length (Text.toUtf8 role).length)
    (hrole : role ≠ "") :
    decodeRole (stringTag :: (length ++ Text.toUtf8 role)) = some role ↔ length.length ≤ 2 := by
  rw [decodeRole_eq_some_iff]
  constructor
  · rintro ⟨-, hcontent⟩
    -- a value that is its own content is longer than the role
    refine Nat.le_of_not_lt fun hlong => ?_
    rw [roleContent_long h hlong] at hcontent
    have hsize := congrArg List.length hcontent
    rw [List.length_cons, List.length_append] at hsize
    omega
  · intro htwo
    rw [roleContent_string h htwo]
    exact ⟨(not_congr Text.toUtf8_eq_nil_iff).2 hrole, rfl⟩

/-- In the shortest form, a UTF-8 string gives the role that it holds if this takes less than 256
octets, and otherwise none. What is no UTF-8 string gives its text, unless it is empty or not
valid. -/
theorem decodeRole_string_or_text (value : Octets) (role : String) :
    (∀ length, role ≠ "" → ShortestLength length (Text.toUtf8 role).length →
      value = stringTag :: (length ++ Text.toUtf8 role) →
        (decodeRole value = some role ↔ (Text.toUtf8 role).length < 256) ∧
        (256 ≤ (Text.toUtf8 role).length → (Text.toUtf8 role).length < Nat.pow 256 63 →
          decodeRole value = none)) ∧
    ((∀ content, ¬ Framed stringTag content value) →
      (decodeRole value = some role ↔ value ≠ [] ∧ value = Text.toUtf8 role)) := by
  refine ⟨?_, fun h => ?_⟩
  · rintro length hrole h rfl
    have hcount {count : Nat} (hpos : 0 < count) :
        length.length ≤ count + 1 ↔ (Text.toUtf8 role).length < Nat.pow 256 count := by
      rw [h.length_eq]
      exact Strict.length_encodeLength_le_iff hpos
    refine ⟨(decodeRole_string_iff h.1 hrole).trans (hcount Nat.one_pos), fun hlong hfew => ?_⟩
    have hthree : 2 < length.length :=
      Nat.lt_of_not_le fun htwo => Nat.not_lt.2 hlong ((hcount Nat.one_pos).1 htwo)
    exact decodeRole_long h.1 hthree ((hcount (by decide)).2 hfew)
  · rw [decodeRole_eq_some_iff, roleContent_unframed h]

def longRole (letters : Nat) : String := String.ofList (List.replicate letters 'r')

theorem toUtf8_longRole (letters : Nat) :
    Text.toUtf8 (longRole letters) = List.replicate letters 0x72 := by
  have hletter : String.utf8EncodeChar 'r' = [0x72] := rfl
  rw [longRole, Text.toUtf8_ofList, List.flatMap_replicate, hletter,
    List.flatten_replicate_singleton]

theorem length_longRole (letters : Nat) : (Text.toUtf8 (longRole letters)).length = letters := by
  rw [toUtf8_longRole, List.length_replicate]

theorem longRole_ne_empty (letters : Nat) : longRole (letters + 1) ≠ "" := by
  rw [ne_eq, ← Text.toUtf8_eq_nil_iff, toUtf8_longRole]
  exact List.cons_ne_nil _ _

theorem shortestLength_255 : ShortestLength [0x81, 0xFF] 255 := by
  have h := shortestLength_encodeLength (n := 255) (by decide)
  simpa [Strict.encodeLength, Strict.digits] using h

theorem shortestLength_256 : ShortestLength [0x82, 0x01, 0x00] 256 := by
  have h := shortestLength_encodeLength (n := 256) (by decide)
  simpa [Strict.encodeLength, Strict.digits] using h

/-- As a string, a role of 255 letters comes out and one of 256 does not. As a text, it does. -/
theorem decodeRole_string_or_text_longRole :
    decodeRole (0x0C :: 0x81 :: 0xFF :: List.replicate 255 0x72) = some (longRole 255) ∧
      decodeRole (0x0C :: 0x82 :: 0x01 :: 0x00 :: List.replicate 256 0x72) = none ∧
      decodeRole (List.replicate 256 0x72) = some (longRole 256) := by
  obtain ⟨hshort, -⟩ :=
    decodeRole_string_or_text (0x0C :: 0x81 :: 0xFF :: List.replicate 255 0x72) (longRole 255)
  obtain ⟨hlong, -⟩ :=
    decodeRole_string_or_text (0x0C :: 0x82 :: 0x01 :: 0x00 :: List.replicate 256 0x72)
      (longRole 256)
  obtain ⟨-, htext⟩ := decodeRole_string_or_text (List.replicate 256 0x72) (longRole 256)
  rw [length_longRole, toUtf8_longRole] at hshort hlong
  rw [toUtf8_longRole] at htext
  refine ⟨?_, ?_, ?_⟩
  · exact (hshort _ (longRole_ne_empty 254) shortestLength_255 rfl).1.2 (by decide)
  · exact (hlong _ (longRole_ne_empty 255) shortestLength_256 rfl).2 (by decide) (by decide)
  · refine (htext ?_).2 ⟨List.cons_ne_nil _ _, rfl⟩
    rintro content ⟨length, -, hvalue⟩
    exact absurd (List.cons.inj hvalue).1 (by decide)

/-- A string of 256 letters, which the reader of certificates takes, gives no role. -/
theorem longRole_lost :
    let value : Octets := 0x0C :: 0x82 :: 0x01 :: 0x00 :: List.replicate 256 0x72
    longRole 256 ≠ "" ∧
      ShortestLength [0x82, 0x01, 0x00] (Text.toUtf8 (longRole 256)).length ∧
      value = stringTag :: ([0x82, 0x01, 0x00] ++ Text.toUtf8 (longRole 256)) ∧
      readPrimitive Tag.utf8String value = some (Text.toUtf8 (longRole 256), []) ∧
      decodeRole value = none := by
  intro value
  have hlength := shortestLength_256
  rw [← length_longRole 256] at hlength
  have hvalue : value = stringTag :: ([0x82, 0x01, 0x00] ++ Text.toUtf8 (longRole 256)) := by
    rw [toUtf8_longRole]
    rfl
  refine ⟨longRole_ne_empty 255, hlength, hvalue, ?_, ?_⟩
  · rw [hvalue]
    refine readPrimitive_string hlength.1 ?_
    rw [length_longRole]
    decide
  · rw [hvalue]
    exact decodeRole_long hlength.1 (by decide) (by decide)

end PeerIdentity

end Modbus
