import Modbus.Proofs.Framing.Rtu
import Modbus.Proofs.Registers.Requests
import Modbus.Proofs.Worker.Response
import Modbus.Proofs.Worker.Served

namespace Modbus

open Payload

namespace Rtu

theorem exists_code_eq {function : UInt8} (h : IsStandard function) :
    ∃ f : StandardFunction, f.code = function := by
  rcases h with ⟨hlow, hhigh⟩ | rfl | rfl
  · have hone : 1 ≤ function.toNat := hlow
    have hsix : function.toNat ≤ 6 := hhigh
    have hcases : function.toNat = 1 ∨ function.toNat = 2 ∨ function.toNat = 3 ∨
        function.toNat = 4 ∨ function.toNat = 5 ∨ function.toNat = 6 := by omega
    rcases hcases with h | h | h | h | h | h
    · exact ⟨.readCoils, UInt8.toNat_inj.1 h.symm⟩
    · exact ⟨.readDiscreteInputs, UInt8.toNat_inj.1 h.symm⟩
    · exact ⟨.readHoldingRegisters, UInt8.toNat_inj.1 h.symm⟩
    · exact ⟨.readInputRegisters, UInt8.toNat_inj.1 h.symm⟩
    · exact ⟨.writeSingleCoil, UInt8.toNat_inj.1 h.symm⟩
    · exact ⟨.writeSingleRegister, UInt8.toNat_inj.1 h.symm⟩
  · exact ⟨.writeMultipleCoils, rfl⟩
  · exact ⟨.writeMultipleRegisters, rfl⟩

theorem not_isStandard_of_isException {f : Frame} (h : f.isException = true) :
    ¬ IsStandard f.function := by
  intro hstandard
  obtain ⟨function, hcode⟩ := exists_code_eq hstandard
  rw [Frame.isException, ← hcode, function.code_plain] at h
  exact absurd h (by decide)

theorem isRequest_fixed_iff {unit function : UInt8} {payload : Octets}
    (hcode : 1 ≤ function ∧ function ≤ 6) :
    IsRequest (.rtu unit function payload) ↔ payload.length = 4 := by
  constructor
  · intro h
    generalize hf : Frame.rtu unit function payload = f at h
    cases h with
    | fixed _ hlength =>
      obtain ⟨-, -, -, rfl⟩ := Frame.mk.inj hf
      exact hlength
    | counted hblock =>
      obtain ⟨-, -, rfl, -⟩ := Frame.mk.inj hf
      rcases hblock with rfl | rfl <;> exact absurd hcode (by decide)
    | other hother =>
      obtain ⟨-, -, rfl, -⟩ := Frame.mk.inj hf
      exact absurd (.inl hcode) hother
  · exact .fixed hcode

theorem length_of_isRequest_counted {unit function : UInt8} {payload : Octets}
    (hcode : function = 15 ∨ function = 16) (h : IsRequest (.rtu unit function payload)) :
    5 ≤ payload.length := by
  generalize hf : Frame.rtu unit function payload = f at h
  cases h with
  | fixed hfixed =>
    obtain ⟨-, -, rfl, -⟩ := Frame.mk.inj hf
    rcases hcode with rfl | rfl <;> exact absurd hfixed (by decide)
  | counted _ hfields =>
    obtain ⟨-, -, -, rfl⟩ := Frame.mk.inj hf
    rw [List.length_append, List.length_cons, hfields]
    omega
  | other hother =>
    obtain ⟨-, -, rfl, -⟩ := Frame.mk.inj hf
    exact absurd (.inr hcode) hother

/-- An answer that is as long as a request of its function. -/
def PassesForRequest (request answer : Frame) : Prop :=
  answer.isException = true ∨
    request.function = FunctionCode.writeSingleCoil ∨
    request.function = FunctionCode.writeSingleRegister ∨
    (request.function = FunctionCode.readCoils ∨
      request.function = FunctionCode.readDiscreteInputs) ∧
      17 ≤ operand request.payload ∧ operand request.payload ≤ 24

theorem isRequest_answer {unit : UInt8} {f : StandardFunction} {payload : Octets}
    {quantity : Nat} (hlength : payload.length = f.answerLength quantity) :
    IsRequest (.rtu unit f.code payload) ↔
      f = .writeSingleCoil ∨ f = .writeSingleRegister ∨
        (f = .readCoils ∨ f = .readDiscreteInputs) ∧ 17 ≤ quantity ∧ quantity ≤ 24 := by
  cases f with
  | readCoils | readDiscreteInputs =>
    rw [isRequest_fixed_iff (by decide), hlength, StandardFunction.answerLength]
    simp only [reduceCtorEq, false_or, or_false, or_true, true_and]
    omega
  | readHoldingRegisters | readInputRegisters =>
    -- The octets of whole registers and their count are an odd number.
    rw [isRequest_fixed_iff (by decide), hlength, StandardFunction.answerLength]
    simp only [reduceCtorEq, or_false, false_and, iff_false]
    omega
  | writeSingleCoil | writeSingleRegister =>
    rw [isRequest_fixed_iff (by decide), hlength, StandardFunction.answerLength]
    simp
  | writeMultipleCoils | writeMultipleRegisters =>
    refine iff_of_false (fun h => ?_) (by simp)
    have hfive := length_of_isRequest_counted (by decide) h
    rw [hlength, StandardFunction.answerLength] at hfive
    exact absurd hfive (by decide)

theorem passesForRequest_iff {f : StandardFunction} {request answer : Frame}
    (hcode : f.code = request.function) (hplain : answer.isException = false) :
    PassesForRequest request answer ↔
      f = .writeSingleCoil ∨ f = .writeSingleRegister ∨
        (f = .readCoils ∨ f = .readDiscreteInputs) ∧
          17 ≤ operand request.payload ∧ operand request.payload ≤ 24 := by
  have hfunction (g : StandardFunction) : request.function = g.code ↔ f = g :=
    ⟨fun h => StandardFunction.code_inj (hcode.trans h), fun h => hcode.symm.trans (h ▸ rfl)⟩
  rw [PassesForRequest, hplain, or_iff_right Bool.false_ne_true, ← hfunction, ← hfunction,
    ← hfunction, ← hfunction]
  rfl

/-- Of the answers of a slave with the standard functions, just these are read as they were sent. -/
theorem isRequest_response {peer : Worker} (hpeer : peer.table = .standard) {call : Call}
    (hrequest : call.request.envelope = .rtu) :
    IsRequest (peer.turn call).response ↔
      PassesForRequest call.request (peer.turn call).response := by
  have henvelope : (peer.turn call).response.envelope = .rtu :=
    (Worker.envelope_handle peer call.moment call.context call.request).1.trans hrequest
  have hrtu : (peer.turn call).response = .rtu (peer.turn call).response.unit
      (peer.turn call).response.function (peer.turn call).response.payload := by
    rw [Frame.rtu, ← henvelope]
  cases Worker.ends hpeer call with
  | refused hexception =>
    refine iff_of_true ?_ (.inl hexception)
    have hlength := (Worker.answered_handle peer call.moment call.context call.request).length_le
    rw [hrtu]
    refine .other (not_isStandard_of_isException hexception) ?_
    rw [Frame.length_encode_rtu]
    exact Nat.add_le_add_right hlength 4
  | @done f s' answer hcode hresponse _ happly =>
    obtain ⟨hvalid, hinside, rfl⟩ := StandardFunction.apply_ok happly
    have hfunction : (peer.turn call).response.function = f.code := by
      rw [hresponse, hcode]
      rfl
    rw [passesForRequest_iff hcode (Worker.Ends.isException_eq_false hcode hresponse), hrtu,
      hfunction]
    apply isRequest_answer
    rw [← StandardFunction.length_answer hvalid hinside, hresponse]
    rfl

end Rtu

end Modbus
