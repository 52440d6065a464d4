import Modbus.Proofs.Payload.Packing
import Modbus.Proofs.Registers.Values
import Modbus.Proofs.Worker.Standard

namespace Modbus

namespace Payload

/-- Two blocks of coils that are the same, but for the bits behind the last coil in the last octet.
-/
inductive EqualButPadding : Octets → Octets → Prop
  | last (a₁ a₀ q₁ q₀ count : UInt8) (data : Octets) {b b' : UInt8}
    (hbits : ∀ i < 8, 8 * data.length + i < (word q₁ q₀).toNat →
      b'.toNat.testBit i = b.toNat.testBit i) :
    EqualButPadding (a₁ :: a₀ :: q₁ :: q₀ :: count :: (data ++ [b]))
      (a₁ :: a₀ :: q₁ :: q₀ :: count :: (data ++ [b']))

theorem bitAt_last (data : Octets) {b b' : UInt8} {count : Nat}
    (h : ∀ i < 8, 8 * data.length + i < count → b'.toNat.testBit i = b.toNat.testBit i) :
    ∀ i < count, bitAt (data ++ [b']) i = bitAt (data ++ [b]) i := by
  intro i hi
  by_cases hdata : i < 8 * data.length
  · rw [bitAt_append_left hdata, bitAt_append_left hdata]
  · have hbehind : 8 * data.length ≤ i := Nat.le_of_not_lt hdata
    rw [bitAt_append_right hbehind, bitAt_append_right hbehind]
    by_cases hlast : i - 8 * data.length < 8
    · rw [bitAt_cons_of_lt _ _ hlast, bitAt_cons_of_lt _ _ hlast]
      apply h _ hlast
      omega
    · have hpast : 8 ≤ i - 8 * data.length := Nat.le_of_not_lt hlast
      rw [bitAt_cons_of_le _ _ hpast, bitAt_cons_of_le _ _ hpast]

end Payload

open Payload

theorem Operation.decodeCoils_of_equalButPadding {payload payload' : Octets}
    (h : EqualButPadding payload payload') (l : Limits) :
    decodeCoils l payload' = decodeCoils l payload := by
  cases h with
  | @last a₁ a₀ q₁ q₀ count data b b' hbits =>
    have hvalues : unpackBits (data ++ [b']) (word q₁ q₀).toNat =
        unpackBits (data ++ [b]) (word q₁ q₀).toNat := unpackBits_congr (bitAt_last data hbits)
    have hlength : (data ++ [b']).length = (data ++ [b]).length := by
      rw [List.length_append, List.length_append]
      rfl
    rw [decodeCoils, decodeCoils, decodeBlock_cons, decodeBlock_cons, hlength]
    split
    · exact congrArg (fun values => Except.ok (writeCoils _ _ values)) hvalues
    · rfl

/-- Padding makes no difference to the state, to what is returned, or to why nothing is. -/
theorem StandardFunction.apply_of_equalButPadding {payload payload' : Octets}
    (h : EqualButPadding payload payload') (s : SlaveState) :
    writeMultipleCoils.apply s payload' = writeMultipleCoils.apply s payload := by
  have hdecode : Operation.decode .writeMultipleCoils s.limits payload' =
      Operation.decode .writeMultipleCoils s.limits payload :=
    Operation.decodeCoils_of_equalButPadding h s.limits
  rw [apply, apply, hdecode]

namespace Worker

variable {w : Worker}

/-- What a request carries shows in its response only through the result. -/
theorem answer_withPayload (request : Frame) (payload : Octets) (result : HandlerResult) :
    answer (request.withPayload payload) result = answer request result := rfl

/-- Two requests to write coils that differ in padding have the same response and leave the same
state, if the standard function serves them. -/
theorem turn_of_equalButPadding
    (hlookup : w.table.lookup FunctionCode.writeMultipleCoils =
      some (.native StandardFunction.writeMultipleCoils.handler))
    {call call' : Call} {payload' : Octets}
    (hcode : call.request.function = FunctionCode.writeMultipleCoils)
    (h : EqualButPadding call.request.payload payload')
    (hrequest : call'.request = call.request.withPayload payload') :
    (w.turn call').response = (w.turn call).response ∧ w.after call' = w.after call := by
  have hcode' : call'.request.function = FunctionCode.writeMultipleCoils := by
    rw [hrequest]
    exact hcode
  obtain ⟨hresponse, hafter⟩ := turn_of_lookup (hcode ▸ hlookup)
  obtain ⟨hresponse', hafter'⟩ := turn_of_lookup (hcode' ▸ hlookup)
  have happly : StandardFunction.writeMultipleCoils.apply w.state call'.request.payload =
      StandardFunction.writeMultipleCoils.apply w.state call.request.payload := by
    rw [hrequest]
    exact StandardFunction.apply_of_equalButPadding h w.state
  have hrun : StandardFunction.writeMultipleCoils.handler w.state call'.request =
      StandardFunction.writeMultipleCoils.handler w.state call.request := by
    rw [StandardFunction.handler, StandardFunction.handler, happly]
  dsimp only [Handler.invoke] at hresponse hafter hresponse' hafter'
  rw [hrun] at hresponse' hafter'
  rw [hresponse, hafter, hresponse', hafter', hrequest]
  exact ⟨congrArg Prod.fst (answer_withPayload call.request payload' _), rfl⟩

/-- Packing keeps bits, in no more octets than they take, and unpacking gives them back. Unpacking
gives zeros where octets are missing, and packing its bits gives the octets back but for what is
behind the bits. So what is behind the coils in a request makes no difference. -/
theorem packing_exact :
    (∀ bits : List Bool,
      unpackBits (packBits bits) bits.length = bits ∧
      (packBits bits).length = (bits.length + 7) / 8 ∧
      ∀ i, bits.length ≤ i → bitAt (packBits bits) i = false) ∧
    (∀ (octets : Octets) (count : Nat), count ≤ 8 * octets.length →
      packBits (unpackBits octets count) = keepBits octets count) ∧
    (∀ (octets : Octets) (count i : Nat), i < count → 8 * octets.length ≤ i →
      (unpackBits octets count)[i]? = some false) ∧
    ∀ (w : Worker) (call call' : Call) (payload' : Octets),
      w.table.lookup FunctionCode.writeMultipleCoils =
        some (.native StandardFunction.writeMultipleCoils.handler) →
      call.request.function = FunctionCode.writeMultipleCoils →
      EqualButPadding call.request.payload payload' →
      call'.request = call.request.withPayload payload' →
      (w.turn call').response = (w.turn call).response ∧ w.after call' = w.after call := by
  refine ⟨fun bits => ⟨unpackBits_packBits bits, length_packBits bits, fun i hi => ?_⟩,
    fun octets count => packBits_unpackBits, fun octets count i hi hmissing => ?_,
    fun w call call' payload' hlookup hcode => turn_of_equalButPadding hlookup hcode⟩
  · rw [bitAt_packBits, List.getD_eq_getElem?_getD, List.getElem?_eq_none hi]
    rfl
  · rw [getElem?_unpackBits octets hi, bitAt_of_length_le hmissing]

/-- Ten bits of three octets, ten bits of one octet, and three coils with five bits behind them that
are set in one request and not in the other. -/
theorem packing_exact_ten :
    let write (last : UInt8) : Call :=
      ⟨.quiet 0, .detached .tcp 0, .tcp 1 1 15 [0, 1, 0, 3, 1, last]⟩
    packBits (unpackBits [0xFF, 0xFE, 0xFD] 10) = [0xFF, 0x02] ∧
      (unpackBits [0xFF] 10)[9]? = some false ∧
      (small.turn (write 0xFD)).response = .tcp 1 1 15 [0, 1, 0, 3] ∧
      (small.after (write 0xFD)).state.registers.coils.toList = [false, true, false, true] := by
  intro write
  obtain ⟨-, hpack, hmissing, hpadding⟩ := packing_exact
  have hequal : EqualButPadding [0, 1, 0, 3, 1, 5] [0, 1, 0, 3, 1, 0xFD] :=
    .last 0 1 0 3 1 [] (by decide)
  obtain ⟨hresponse, hafter⟩ := hpadding small (write 5) (write 0xFD) [0, 1, 0, 3, 1, 0xFD]
    (DispatchTable.lookup_standard_code .writeMultipleCoils) rfl hequal rfl
  rw [hpack [0xFF, 0xFE, 0xFD] 10 (by decide), hmissing [0xFF] 10 9 (by decide) (by decide),
    hresponse, hafter]
  exact ⟨by decide, rfl, by decide +kernel, by decide +kernel⟩

end Worker

end Modbus
