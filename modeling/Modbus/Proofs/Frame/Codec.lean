import Modbus.Frame

namespace Modbus.Frame

theorem encode_tcp (transaction : UInt16) (unit function : UInt8) (payload : Octets) :
    (Frame.tcp transaction unit function payload).encode =
      highOctet transaction :: lowOctet transaction :: 0 :: 0 ::
        highOctet (UInt16.ofNat (payload.length + 2)) ::
        lowOctet (UInt16.ofNat (payload.length + 2)) :: unit :: function :: payload := rfl

theorem length_encode_tcp (transaction : UInt16) (unit function : UInt8) (payload : Octets) :
    (Frame.tcp transaction unit function payload).encode.length = payload.length + 8 := by
  simp [encode_tcp]

theorem encode_rtu (unit function : UInt8) (payload : Octets) :
    (Frame.rtu unit function payload).encode = unit :: function :: (payload ++
      littleEndian (Crc.checksum (unit :: function :: payload))) := rfl

theorem length_encode_rtu (unit function : UInt8) (payload : Octets) :
    (Frame.rtu unit function payload).encode.length = payload.length + 4 := by
  simp [encode_rtu, littleEndian]

/-- The length field holds up to 65533 octets of payload. -/
theorem decodeTcp_encode (transaction : UInt16) (unit function : UInt8) {payload : Octets}
    (h : payload.length ≤ 65533) :
    decodeTcp (Frame.tcp transaction unit function payload).encode =
      .ok (.tcp transaction unit function payload) := by
  have length : (UInt16.ofNat (payload.length + 2)).toNat = payload.length + 2 := by
    rw [UInt16.toNat_ofNat']
    omega
  have protocol : word 0 0 = 0 := rfl
  simp only [encode_tcp, decodeTcp, word_highOctet_lowOctet, length, protocol, ne_eq,
    not_true_eq_false, if_false]
  rfl

theorem decodeRtu_encode (unit function : UInt8) (payload : Octets) :
    decodeRtu (Frame.rtu unit function payload).encode = .ok (.rtu unit function payload) := by
  have split : splitChecksum (Frame.rtu unit function payload).encode =
      some (unit :: function :: payload, Crc.checksum (unit :: function :: payload)) := by
    rw [← word_highOctet_lowOctet (Crc.checksum (unit :: function :: payload))]
    exact splitChecksum_append (unit :: function :: payload) _ _
  simp only [decodeRtu, split, ne_eq, not_true_eq_false, if_false]
  rfl

inductive IsBuilt : Frame → Prop
  | tcp (transaction : UInt16) (unit function : UInt8) (payload : Octets) :
    IsBuilt (.tcp transaction unit function payload)
  | rtu (unit function : UInt8) (payload : Octets) : IsBuilt (.rtu unit function payload)

/-- Only the envelope tells whether a frame can be built. -/
theorem IsBuilt.of_envelope {f g : Frame} (h : f.IsBuilt) (henvelope : g.envelope = f.envelope) :
    g.IsBuilt := by
  obtain ⟨envelope, unit, function, payload⟩ := g
  dsimp only at henvelope
  subst henvelope
  cases h with
  | tcp => exact .tcp _ _ _ _
  | rtu => exact .rtu _ _ _

theorem IsBuilt.decodeLike_encode {f : Frame} (h : f.IsBuilt) (hlength : f.payload.length ≤ 65533) :
    decodeLike f.envelope f.encode = .ok f := by
  cases h with
  | tcp => exact decodeTcp_encode _ _ _ hlength
  | rtu => exact decodeRtu_encode _ _ _

end Modbus.Frame
