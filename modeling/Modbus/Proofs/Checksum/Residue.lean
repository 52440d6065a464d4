import Modbus.Proofs.Checksum.Register
import Modbus.Proofs.Frame.Accepted

namespace Modbus

open Payload

namespace Crc

/-- The last two octets cancel the register if they are the checksum of those before. -/
theorem checksum_append_littleEndian (body : Octets) (received : UInt16) :
    checksum (body ++ littleEndian received) = 0 ↔ received = checksum body := by
  have hrun : checksum (body ++ littleEndian received) = shifts 16 (checksum body ^^^ received) := by
    rw [checksum, run_append, run_littleEndian, checksum]
  rw [hrun]
  constructor
  · intro h
    exact (UInt16.xor_eq_zero_iff.1 (eq_zero_of_shifts h)).symm
  · rintro rfl
    rw [UInt16.xor_self, shifts_zero]

theorem checksum_encode (unit function : UInt8) (payload : Octets) :
    checksum (Frame.rtu unit function payload).encode = 0 :=
  (checksum_append_littleEndian (unit :: function :: payload) _).2 rfl

/-- The sum of two checksums is what the sum of the two strings leaves in an empty register. -/
theorem checksum_xor_eq_run {xs ys : Octets} (h : xs.length = ys.length) :
    checksum xs ^^^ checksum ys = run 0 (List.zipWith (· ^^^ ·) xs ys) := by
  rw [← UInt16.xor_self (a := initial), run_xor initial initial h]
  rfl

/-- Where octets differ by bits, their checksums differ by what these bits alone leave in the
register. -/
theorem checksum_xor {xs ys : Octets} (h : xs.length = ys.length) :
    checksum xs ^^^ checksum ys = feedAll 0 (lineBits (List.zipWith (· ^^^ ·) xs ys)) := by
  rw [checksum_xor_eq_run h, run_eq_feedAll]

end Crc

namespace Frame

def FailsChecksum (raw : Octets) : Prop :=
  ∃ expected received, received ≠ expected ∧
    decodeRtu raw = .error (.malformedFrame (.checksum expected received))

theorem eq_append_checksum {raw : Octets} (h : 4 ≤ raw.length) :
    ∃ body received, 2 ≤ body.length ∧ raw = body ++ littleEndian received := by
  have hbody : (raw.take (raw.length - 2)).length = raw.length - 2 :=
    List.length_take_of_le (Nat.sub_le _ _)
  have hlast : (raw.drop (raw.length - 2)).length = 2 := by
    rw [List.length_drop]
    omega
  match hsplit : raw.drop (raw.length - 2), hlast with
  | [low, high], _ =>
    refine ⟨raw.take (raw.length - 2), word high low, by omega, ?_⟩
    rw [littleEndian_word, ← hsplit, List.take_append_drop]

/-- A residue other than zero shows in the checksum. -/
theorem failsChecksum_of_residue {raw : Octets} (hlength : 4 ≤ raw.length)
    (hresidue : Crc.checksum raw ≠ 0) : FailsChecksum raw := by
  obtain ⟨body, received, hhead, rfl⟩ := eq_append_checksum hlength
  have hreceived : received ≠ Crc.checksum body :=
    mt (Crc.checksum_append_littleEndian body received).2 hresidue
  exact ⟨_, received, hreceived, decodeRtu_checksum hhead hreceived⟩

theorem residue_of_decodeRtu {raw : Octets} {f : Frame} (h : decodeRtu raw = .ok f) :
    Crc.checksum raw = 0 := by
  obtain ⟨-, unit, function, payload, rfl, rfl⟩ := decodeRtu_ok h
  exact Crc.checksum_encode unit function payload

/-- No other check is made of octets that are long enough for a frame. -/
theorem decodeRtu_of_residue {raw : Octets} (hlength : 4 ≤ raw.length)
    (hresidue : Crc.checksum raw = 0) : ∃ f, decodeRtu raw = .ok f := by
  obtain ⟨body, received, hhead, rfl⟩ := eq_append_checksum hlength
  have hreceived : received = Crc.checksum body :=
    (Crc.checksum_append_littleEndian body received).1 hresidue
  obtain ⟨unit, function, payload, hencode⟩ := encode_of_isRtu (isRtu_append.2 ⟨hhead, hreceived⟩)
  rw [← hencode]
  exact ⟨_, decodeRtu_encode unit function payload⟩

/-- Octets that are long enough for a frame are accepted just if their residue is zero, and by how
much two checksums differ depends on nothing but where the two strings differ. -/
theorem accepted_by_residue :
    (∀ raw : Octets, 4 ≤ raw.length →
      ((∃ f, decodeRtu raw = .ok f) ↔ Crc.checksum raw = 0)) ∧
    ∀ xs ys : Octets, xs.length = ys.length →
      Crc.checksum xs ^^^ Crc.checksum ys = Crc.run 0 (List.zipWith (· ^^^ ·) xs ys) := by
  refine ⟨fun raw hlength => ⟨?_, decodeRtu_of_residue hlength⟩,
    fun _ _ hsame => Crc.checksum_xor_eq_run hsame⟩
  rintro ⟨f, hdecode⟩
  exact residue_of_decodeRtu hdecode

/-- A request, and the same with one bit of its last data octet inverted. -/
theorem accepted_by_residue_request :
    let request : Octets := [17, 3, 0, 107, 0, 3, 118, 135]
    let broken : Octets := [17, 3, 0, 107, 0, 2, 118, 135]
    4 ≤ request.length ∧ (∃ f, decodeRtu request = .ok f) ∧
      4 ≤ broken.length ∧ (¬ ∃ f, decodeRtu broken = .ok f) ∧
      request.length = broken.length ∧
        Crc.checksum request ^^^ Crc.checksum broken = Crc.run 0 [0, 0, 0, 0, 0, 1, 0, 0] := by
  intro request broken
  obtain ⟨haccepted, hsum⟩ := accepted_by_residue
  have hrequest : Crc.checksum request = 0 := by decide +kernel
  have hbroken : ¬ Crc.checksum broken = 0 := by decide +kernel
  exact ⟨by decide, (haccepted request (by decide)).2 hrequest, by decide,
    mt (haccepted broken (by decide)).1 hbroken, rfl, hsum request broken rfl⟩

end Frame

end Modbus
