import Modbus.Proofs.Frame.Codec

namespace Modbus.Frame

/-- Transaction, protocol 0, a length field that counts what follows it, a unit and a function. -/
structure IsTcp (raw : Octets) : Prop where
  head : 8 ≤ raw.length
  announced : ofBigEndian ((raw.drop 4).take 2) = raw.length - 6
  protocol : ofBigEndian ((raw.drop 2).take 2) = 0

/-- A unit, a function, and the checksum of all octets but the last two in these two, low octet
first. -/
structure IsRtu (raw : Octets) : Prop where
  head : 4 ≤ raw.length
  checksum : raw.drop (raw.length - 2) = littleEndian (Crc.checksum (raw.take (raw.length - 2)))

theorem word_eq_zero_iff {high low : UInt8} : word high low = 0 ↔ ofBigEndian [high, low] = 0 := by
  rw [ofBigEndian_pair, ← UInt16.toNat_inj]
  rfl

/-! ### TCP -/

theorem eq_cons_of_eight_le {raw : Octets} (h : 8 ≤ raw.length) :
    ∃ t₁ t₀ p₁ p₀ l₁ l₀ unit function payload,
      raw = t₁ :: t₀ :: p₁ :: p₀ :: l₁ :: l₀ :: unit :: function :: payload := by
  match raw with
  | t₁ :: t₀ :: p₁ :: p₀ :: l₁ :: l₀ :: unit :: function :: payload =>
    exact ⟨t₁, t₀, p₁, p₀, l₁, l₀, unit, function, payload, rfl⟩
  | [] | [_] | [_, _] | [_, _, _] | [_, _, _, _] | [_, _, _, _, _] | [_, _, _, _, _, _]
  | [_, _, _, _, _, _, _] => simp at h

theorem isTcp_cons {t₁ t₀ p₁ p₀ l₁ l₀ unit function : UInt8} {payload : Octets} :
    IsTcp (t₁ :: t₀ :: p₁ :: p₀ :: l₁ :: l₀ :: unit :: function :: payload) ↔
      (word l₁ l₀).toNat = payload.length + 2 ∧ word p₁ p₀ = 0 := by
  rw [word_eq_zero_iff, ← ofBigEndian_pair]
  constructor
  · intro h
    exact ⟨h.announced, h.protocol⟩
  · rintro ⟨hannounced, hprotocol⟩
    exact ⟨by simp, hannounced, hprotocol⟩

theorem decodeTcp_cons (t₁ t₀ p₁ p₀ l₁ l₀ unit function : UInt8) (payload : Octets) :
    decodeTcp (t₁ :: t₀ :: p₁ :: p₀ :: l₁ :: l₀ :: unit :: function :: payload) =
      if (word l₁ l₀).toNat ≠ payload.length + 2 then
        .error (.malformedFrame (.lengthMismatch (word l₁ l₀).toNat (payload.length + 2)))
      else if word p₁ p₀ ≠ 0 then .error (.malformedFrame (.foreignProtocol (word p₁ p₀)))
      else .ok ⟨.tcp (word t₁ t₀) (word p₁ p₀), unit, function, payload⟩ := rfl

theorem decodeTcp_short {raw : Octets} (h : raw.length < 8) :
    decodeTcp raw = .error (.malformedFrame (.tcpTooShort raw.length)) := by
  unfold decodeTcp
  split
  · simp at h
    omega
  · rfl

/-- What is accepted is the encoding of what it is decoded to. -/
theorem decodeTcp_ok {raw : Octets} {f : Frame} (h : decodeTcp raw = .ok f) :
    IsTcp raw ∧ ∃ transaction unit function payload, f = .tcp transaction unit function payload ∧
      payload.length ≤ 65533 ∧ f.encode = raw := by
  by_cases hhead : 8 ≤ raw.length
  · obtain ⟨t₁, t₀, p₁, p₀, l₁, l₀, unit, function, payload, rfl⟩ := eq_cons_of_eight_le hhead
    rw [decodeTcp_cons] at h
    split at h
    · cases h
    · next hannounced =>
      split at h
      · cases h
      · next hprotocol =>
        rw [Decidable.not_not] at hannounced hprotocol
        obtain rfl := Except.ok.inj h
        refine ⟨isTcp_cons.2 ⟨hannounced, hprotocol⟩, word t₁ t₀, unit, function, payload,
          by rw [hprotocol]; rfl, ?_, ?_⟩
        · have hlt := (word l₁ l₀).toNat_lt
          omega
        · have hlength : UInt16.ofNat (payload.length + 2) = word l₁ l₀ := by
            rw [← hannounced, UInt16.ofNat_toNat]
          simp only [encode, bigEndian_word, length_body, hlength]
          rfl
  · rw [decodeTcp_short (Nat.lt_of_not_le hhead)] at h
    cases h

theorem decodeTcp_of_isTcp {raw : Octets} (h : IsTcp raw) : ∃ f, decodeTcp raw = .ok f := by
  obtain ⟨t₁, t₀, p₁, p₀, l₁, l₀, unit, function, payload, rfl⟩ := eq_cons_of_eight_le h.head
  obtain ⟨hannounced, hprotocol⟩ := isTcp_cons.1 h
  rw [decodeTcp_cons, if_neg (Decidable.not_not.2 hannounced),
    if_neg (Decidable.not_not.2 hprotocol)]
  exact ⟨_, rfl⟩

/-- A payload that the length field cannot count makes it wrap, and then it counts too little. -/
theorem decodeTcp_encode_long (transaction : UInt16) (unit function : UInt8) {payload : Octets}
    (h : 65533 < payload.length) :
    decodeTcp (Frame.tcp transaction unit function payload).encode =
      .error (.malformedFrame
        (.lengthMismatch ((payload.length + 2) % 65536) (payload.length + 2))) := by
  have hwrapped : (UInt16.ofNat (payload.length + 2)).toNat = (payload.length + 2) % 65536 :=
    UInt16.toNat_ofNat'
  have hless : (payload.length + 2) % 65536 ≠ payload.length + 2 := by omega
  rw [encode_tcp, decodeTcp_cons, word_highOctet_lowOctet, hwrapped, if_pos hless]

/-! ### RTU -/

theorem splitChecksum_eq {raw body : Octets} {received : UInt16} :
    splitChecksum raw = some (body, received) ↔ raw = body ++ littleEndian received := by
  constructor
  · intro h
    unfold splitChecksum at h
    split at h
    · next low high hlast =>
      obtain ⟨rfl, rfl⟩ : raw.take (raw.length - 2) = body ∧ word high low = received := by
        simpa using h
      rw [littleEndian_word, ← hlast, List.take_append_drop]
    · cases h
  · rintro rfl
    rw [littleEndian, splitChecksum_append, word_highOctet_lowOctet]

theorem isRtu_append {body : Octets} {received : UInt16} :
    IsRtu (body ++ littleEndian received) ↔ 2 ≤ body.length ∧ received = Crc.checksum body := by
  have hlength : (body ++ littleEndian received).length = body.length + 2 := by
    rw [List.length_append, length_littleEndian]
  have hbody : (body ++ littleEndian received).length - 2 = body.length := by omega
  constructor
  · rintro ⟨hhead, hchecksum⟩
    rw [hbody, List.drop_left, List.take_left] at hchecksum
    exact ⟨by omega, littleEndian_inj hchecksum⟩
  · rintro ⟨hhead, rfl⟩
    exact ⟨by omega, by rw [hbody, List.drop_left, List.take_left]⟩

/-- What is accepted is the encoding of what it is decoded to. -/
theorem decodeRtu_ok {raw : Octets} {f : Frame} (h : decodeRtu raw = .ok f) :
    IsRtu raw ∧ ∃ unit function payload, f = .rtu unit function payload ∧ f.encode = raw := by
  unfold decodeRtu at h
  split at h
  · next unit function payload received hsplit =>
    obtain rfl := splitChecksum_eq.1 hsplit
    dsimp only at h
    split at h
    · cases h
    · next hreceived =>
      rw [Decidable.not_not] at hreceived
      obtain rfl := Except.ok.inj h
      refine ⟨isRtu_append.2 ⟨by simp, hreceived⟩, unit, function, payload, rfl, ?_⟩
      rw [hreceived]
      rfl
  · cases h

/-- A checksum that does not belong to the octets before it is reported with the one that does. -/
theorem decodeRtu_checksum {body : Octets} {received : UInt16} (hhead : 2 ≤ body.length)
    (hreceived : received ≠ Crc.checksum body) :
    decodeRtu (body ++ littleEndian received) =
      .error (.malformedFrame (.checksum (Crc.checksum body) received)) := by
  have hsplit : splitChecksum (body ++ littleEndian received) = some (body, received) :=
    splitChecksum_eq.2 rfl
  match body, hhead with
  | unit :: function :: payload, _ => simp only [decodeRtu, hsplit, if_pos hreceived]

theorem encode_of_isRtu {raw : Octets} (h : IsRtu raw) :
    ∃ unit function payload, (Frame.rtu unit function payload).encode = raw := by
  have hlength : (raw.take (raw.length - 2)).length = raw.length - 2 :=
    List.length_take_of_le (Nat.sub_le _ _)
  have hhead := h.head
  match hbody : raw.take (raw.length - 2) with
  | unit :: function :: payload =>
    refine ⟨unit, function, payload, ?_⟩
    calc (Frame.rtu unit function payload).encode
        = (unit :: function :: payload) ++
            littleEndian (Crc.checksum (unit :: function :: payload)) := rfl
      _ = raw.take (raw.length - 2) ++ raw.drop (raw.length - 2) := by rw [h.checksum, hbody]
      _ = raw := List.take_append_drop _ _
  | [] | [_] =>
    simp only [hbody, List.length_nil, List.length_singleton] at hlength
    omega

/-- Decoding undoes encoding as far as the envelope can hold the payload, which is up to 65533
octets for TCP, and it accepts a string of octets exactly if it is the encoding of a frame. -/
theorem decode_bijective :
    (∀ transaction unit function payload,
      decodeTcp (Frame.tcp transaction unit function payload).encode =
        if payload.length ≤ 65533 then .ok (.tcp transaction unit function payload)
        else .error (.malformedFrame
          (.lengthMismatch ((payload.length + 2) % 65536) (payload.length + 2)))) ∧
    (∀ raw, (∃ f, decodeTcp raw = .ok f) ↔ IsTcp raw) ∧
    (∀ raw f, decodeTcp raw = .ok f → f.encode = raw) ∧
    (∀ unit function payload,
      decodeRtu (Frame.rtu unit function payload).encode = .ok (.rtu unit function payload)) ∧
    (∀ raw, (∃ f, decodeRtu raw = .ok f) ↔ IsRtu raw) ∧
    ∀ raw f, decodeRtu raw = .ok f → f.encode = raw := by
  refine ⟨?_, fun raw => ⟨?_, decodeTcp_of_isTcp⟩, ?_, decodeRtu_encode, fun raw => ⟨?_, ?_⟩, ?_⟩
  · intro transaction unit function payload
    split
    · next hshort => exact decodeTcp_encode transaction unit function hshort
    · next hlong => exact decodeTcp_encode_long transaction unit function (Nat.lt_of_not_le hlong)
  · rintro ⟨f, h⟩
    exact (decodeTcp_ok h).1
  · intro raw f h
    obtain ⟨-, _, _, _, _, -, -, hencode⟩ := decodeTcp_ok h
    exact hencode
  · rintro ⟨f, h⟩
    exact (decodeRtu_ok h).1
  · intro h
    obtain ⟨unit, function, payload, rfl⟩ := encode_of_isRtu h
    exact ⟨_, decodeRtu_encode unit function payload⟩
  · intro raw f h
    obtain ⟨-, _, _, _, -, hencode⟩ := decodeRtu_ok h
    exact hencode

end Modbus.Frame
