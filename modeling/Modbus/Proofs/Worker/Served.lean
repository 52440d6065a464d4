import Modbus.Proofs.Registers.Extent
import Modbus.Proofs.Worker.Response
import Modbus.Proofs.Worker.Standard

namespace Modbus

open Payload

theorem StandardFunction.answer_read {f : StandardFunction} (h : f.IsRead) (r : RegisterMap)
    (payload : Octets) : ∃ data, f.answer r payload = Operation.counted data := by
  cases f with
  | readCoils | readDiscreteInputs | readHoldingRegisters | readInputRegisters => exact ⟨_, rfl⟩
  | writeSingleCoil | writeSingleRegister | writeMultipleCoils | writeMultipleRegisters =>
    exact h.elim

namespace Worker

variable {w : Worker} {f : StandardFunction} {call : Call}

inductive Ends (w : Worker) (call : Call) : Prop
  | refused (hresponse : (w.turn call).response.isException = true) (hafter : w.after call = w)
  | done {f : StandardFunction} {s' : SlaveState} {answer : Octets}
    (hcode : f.code = call.request.function)
    (hresponse : (w.turn call).response = call.request.response.withPayload answer)
    (hafter : w.after call = { w with state := s' })
    (happly : f.apply w.state call.request.payload = .ok (s', answer))
    (hlength : answer.length ≤ payloadLimit)

theorem Ends.isException_eq_false {answer : Octets} (hcode : f.code = call.request.function)
    (hresponse : (w.turn call).response = call.request.response.withPayload answer) :
    (w.turn call).response.isException = false := by
  rw [hresponse, Frame.isException]
  simp only [Frame.withPayload, Frame.response, ← hcode, f.code_plain]
  decide

theorem turn_of_refuses (hw : w.table = .standard) (hcode : f.code = call.request.function)
    {e : Exception} (h : f.Refuses w.state call.request.payload e) :
    (w.turn call).response = call.request.response.withException e ∧ w.after call = w := by
  obtain ⟨hresponse, hafter⟩ := turn_of_code hw hcode
  cases h with
  | value hinvalid =>
    rw [StandardFunction.handler, StandardFunction.apply_of_invalid hinvalid] at hresponse hafter
    exact ⟨hresponse, hafter⟩
  | address hvalid houtside =>
    rw [StandardFunction.handler, StandardFunction.apply_of_outside hvalid houtside]
      at hresponse hafter
    exact ⟨hresponse, hafter⟩
  | tooLong hvalid hinside hlength =>
    obtain ⟨s', happly, -⟩ := StandardFunction.apply_of_inside hvalid hinside
    have hlong : (f.answer w.state.registers call.request.payload).length > payloadLimit := by
      rw [StandardFunction.length_answer hvalid hinside]
      exact hlength
    have hkept := StandardFunction.keeps_of_long happly hlong
    rw [StandardFunction.handler, happly] at hresponse hafter
    dsimp only at hresponse hafter
    rw [answer, if_pos hlong] at hresponse
    exact ⟨hresponse, hafter.trans (by rw [hkept])⟩

inductive Refuses (w : Worker) (request : Frame) : Exception → Prop
  | unknown (hcode : ∀ f : StandardFunction, f.code ≠ request.function) :
    Refuses w request .illegalFunction
  | function {f : StandardFunction} {e : Exception} (hcode : f.code = request.function)
    (h : f.Refuses w.state request.payload e) : Refuses w request e

theorem Refuses.turn (hw : w.table = .standard) {call : Call} {e : Exception}
    (h : w.Refuses call.request e) :
    (w.turn call).response = call.request.response.withException e ∧ w.after call = w := by
  cases h with
  | unknown hcode => exact turn_of_unknown hw hcode
  | function hcode h => exact turn_of_refuses hw hcode h

theorem Refuses.ne_success {request : Frame} {e : Exception} (h : w.Refuses request e) :
    e ≠ .success := by
  cases h with
  | unknown => exact nofun
  | function _ h => exact h.ne_success

theorem refuses_or_serves (w : Worker) (request : Frame) :
    (∃ e, w.Refuses request e) ∨
      ∃ f : StandardFunction, f.code = request.function ∧ f.Serves w.state request.payload := by
  by_cases hknown : ∃ f : StandardFunction, f.code = request.function
  · obtain ⟨f, hcode⟩ := hknown
    obtain ⟨e, hrefuses⟩ | hserves := f.refuses_or_serves w.state request.payload
    · exact .inl ⟨e, .function hcode hrefuses⟩
    · exact .inr ⟨f, hcode, hserves⟩
  · exact .inl ⟨_, .unknown fun f hcode => hknown ⟨f, hcode⟩⟩

/-- A function that serves a request is carried out, and its answer fits a frame. -/
theorem done_of_serves (hw : w.table = .standard) (hcode : f.code = call.request.function)
    (h : f.Serves w.state call.request.payload) :
    let answer := f.answer w.state.registers call.request.payload
    (w.turn call).response = call.request.response.withPayload answer ∧
      answer.length ≤ payloadLimit ∧
      ∃ s', f.apply w.state call.request.payload = .ok (s', answer) ∧
        w.after call = { w with state := s' } := by
  intro answer
  obtain ⟨hresponse, hafter⟩ := turn_of_code hw hcode
  obtain ⟨s', happly, -⟩ := StandardFunction.apply_of_inside h.valid h.inside
  have hshort : answer.length ≤ payloadLimit :=
    Nat.le_trans (Nat.le_of_eq (StandardFunction.length_answer h.valid h.inside)) h.length_le
  rw [StandardFunction.handler, happly] at hresponse hafter
  dsimp only at hresponse hafter
  rw [answer_of_length_le _ hshort] at hresponse
  exact ⟨hresponse, hshort, s', happly, hafter⟩

theorem turn_of_serves (hw : w.table = .standard) (hcode : f.code = call.request.function)
    (h : f.Serves w.state call.request.payload) :
    (w.turn call).response = call.request.response.withPayload
        (f.answer w.state.registers call.request.payload) ∧
      Overwrites (coilWritten f.code call.request.payload)
        (registerWritten f.code call.request.payload) w.state (w.after call).state := by
  obtain ⟨hresponse, -, s', happly, hafter⟩ := done_of_serves hw hcode h
  rw [hafter]
  exact ⟨hresponse, StandardFunction.overwrites_apply happly⟩

theorem ends (hw : w.table = .standard) (call : Call) : w.Ends call := by
  obtain ⟨e, hrefuses⟩ | ⟨f, hcode, hserves⟩ := w.refuses_or_serves call.request
  · obtain ⟨hresponse, hafter⟩ := hrefuses.turn hw
    exact .refused (hresponse ▸ Frame.isException_withException hrefuses.ne_success) hafter
  · obtain ⟨hresponse, hlength, s', happly, hafter⟩ := done_of_serves hw hcode hserves
    exact .done hcode hresponse hafter happly hlength

/-- A client sees by the function code whether its request was served. -/
theorem isException_eq_false_iff (hw : w.table = .standard)
    (hcode : f.code = call.request.function) :
    (w.turn call).response.isException = false ↔ f.Serves w.state call.request.payload := by
  obtain ⟨e, hrefuses⟩ | hserves := f.refuses_or_serves w.state call.request.payload
  · rw [(turn_of_refuses hw hcode hrefuses).1,
      Frame.isException_withException hrefuses.ne_success]
    exact iff_of_false nofun hrefuses.not_serves
  · exact iff_of_true (Ends.isException_eq_false hcode (turn_of_serves hw hcode hserves).1) hserves

/-- The byte count of an answer that is sent is right. A read whose answer is too long for a frame
is refused with `slaveDeviceFailure`, and with it every answer whose byte count does not fit an
octet. -/
theorem response_counted (hw : w.table = .standard) (hread : f.IsRead)
    (hcode : f.code = call.request.function) :
    let payload := call.request.payload
    let response := (w.turn call).response
    let inOrder := ¬ f.IsInvalid w.state.limits payload ∧ ¬ f.IsOutside w.state.registers payload
    let length := f.answerLength (operand payload)
    (response.isException = false ↔ inOrder ∧ length ≤ 252) ∧
      (response.isException = false → ∃ count data, response.payload = count :: data ∧
        count.toNat = data.length ∧ 1 + data.length = length) ∧
      (inOrder → 252 < length →
        response = call.request.response.withException .slaveDeviceFailure) ∧
      (call.request.IsBuilt →
        Frame.decodeLike call.request.envelope response.encode = .ok response) := by
  intro payload response inOrder length
  have hserved : response.isException = false ↔ f.Serves w.state payload :=
    isException_eq_false_iff hw hcode
  refine ⟨hserved.trans ⟨fun h => ⟨⟨h.valid, h.inside⟩, h.length_le⟩,
    fun h => ⟨h.1.1, h.1.2, h.2⟩⟩, fun hresponse => ?_, fun hinOrder hlong => ?_,
    decodeLike_response w call.moment call.context⟩
  · have hserves := hserved.1 hresponse
    have hpayload : response.payload = f.answer w.state.registers payload :=
      congrArg Frame.payload (turn_of_serves hw hcode hserves).1
    have hlength : (f.answer w.state.registers payload).length = length :=
      StandardFunction.length_answer hserves.valid hserves.inside
    obtain ⟨data, hdata⟩ := StandardFunction.answer_read hread w.state.registers payload
    rw [hdata] at hpayload hlength
    refine ⟨_, data, hpayload, Operation.toNat_count (hlength ▸ hserves.length_le), ?_⟩
    rw [← hlength, Operation.counted, List.length_cons, Nat.add_comm]
  · exact (turn_of_refuses hw hcode (.tooLong hinOrder.1 hinOrder.2 hlong)).1

/-- Of 126 registers the octets no longer fit a frame, and of 128 their number no longer fits an
octet. -/
theorem response_counted_registers :
    let w : Worker := { small with
      state := { registers := .blank 300, limits := { readRegisters := 200 } } }
    let ask (quantity : UInt16) : Call :=
      ⟨.quiet 0, .detached .rtu 0, .rtu 1 3 (bigEndian 100 ++ bigEndian quantity)⟩
    w.table = .standard ∧ StandardFunction.readHoldingRegisters.IsRead ∧
      (∃ data, (w.turn (ask 125)).response.payload = 250 :: data ∧ data.length = 250) ∧
      (w.turn (ask 126)).response = .rtu 1 0x83 [4] ∧
      (w.turn (ask 128)).response = .rtu 1 0x83 [4] := by
  intro w ask
  have hinOrder (quantity : UInt16) (hquantity : 1 ≤ quantity.toNat ∧ quantity.toNat ≤ 200) :
      let payload := (ask quantity).request.payload
      ¬ StandardFunction.readHoldingRegisters.IsInvalid w.state.limits payload ∧
        ¬ StandardFunction.readHoldingRegisters.IsOutside w.state.registers payload := by
    have hstart : start (ask quantity).request.payload = 100 := start_bigEndian 100 _
    have hoperand : operand (ask quantity).request.payload = quantity.toNat := operand_range 100 _
    have hsize : w.state.registers.holdingRegisters.size = 300 := Array.size_replicate
    refine ⟨not_invalidRange.2 ⟨Nat.le_refl 4, hoperand ▸ hquantity⟩, ?_⟩
    rw [StandardFunction.IsOutside, hstart, hoperand, hsize]
    omega
  have hcounted (quantity : UInt16) :=
    @response_counted w .readHoldingRegisters (ask quantity) rfl trivial rfl
  refine ⟨rfl, trivial, ?_,
    ((hcounted 126).2.2.1 (hinOrder 126 (by decide)) (by decide)).trans (by decide),
    ((hcounted 128).2.2.1 (hinOrder 128 (by decide)) (by decide)).trans (by decide)⟩
  have hserved := (hcounted 125).1.2 ⟨hinOrder 125 (by decide), by decide⟩
  obtain ⟨count, data, hpayload, hcount, hlength⟩ := (hcounted 125).2.1 hserved
  have hdata : data.length = 250 := Nat.add_left_cancel hlength
  obtain rfl : count = 250 := UInt8.toNat_inj.1 (hcount.trans hdata)
  exact ⟨data, hpayload, hdata⟩

end Worker

end Modbus
