import Modbus.Proofs.Registers.Refusal
import Modbus.Proofs.Worker.Turns

namespace Modbus

theorem FunctionCode.flag_kept (code flag : UInt8) : (code ||| flag) &&& flag = flag := by
  rw [← UInt8.toBitVec_inj, UInt8.toBitVec_and, UInt8.toBitVec_or]
  ext i hi
  rw [BitVec.getElem_and, BitVec.getElem_or]
  cases code.toBitVec[i] <;> cases flag.toBitVec[i] <;> rfl

namespace Frame

theorem body_eq_iff {f g : Frame} :
    f.body = g.body ↔ f.unit = g.unit ∧ f.function = g.function ∧ f.payload = g.payload := by
  simp only [body, List.cons.injEq]

theorem isException_withException {f : Frame} {e : Exception} (h : e ≠ .success) :
    (f.withException e).isException = true := by
  have hsuccess : e.isSuccess = false := beq_false_of_ne h
  rw [withException, hsuccess, isException]
  simp only [Bool.false_eq_true, if_false, FunctionCode.flag_kept]
  decide

theorem exception?_withException {f : Frame} {e : Exception} (h : e ≠ .success) :
    (f.withException e).exception? = some e := by
  have hsuccess : e.isSuccess = false := beq_false_of_ne h
  rw [exception?, isException_withException h, if_pos rfl, withException, hsuccess]
  exact Exception.ofCode?_code e h

end Frame

theorem StandardFunction.code_plain (f : StandardFunction) :
    f.code &&& FunctionCode.exceptionFlag = 0 := by
  cases f <;> decide

/-- An answer that says more than an address and a word belongs to a read. -/
theorem StandardFunction.apply_ok_long {f : StandardFunction} {s s' : SlaveState}
    {payload answer : Octets} (h : f.apply s payload = .ok (s', answer)) :
    s' = s ∨ answer.length = 4 := by
  obtain ⟨op, -, h⟩ := Operation.bind_ok_iff.1 h
  cases op with
  | readCoils | readDiscreteInputs | readHoldingRegisters | readInputRegisters =>
    obtain ⟨_, -, h⟩ := Operation.bind_ok_iff.1 h
    cases h
    exact .inl rfl
  | writeCoil | writeRegister | writeCoils | writeRegisters =>
    obtain ⟨_, -, h⟩ := Operation.bind_ok_iff.1 h
    cases h
    exact .inr rfl

/-- What has an answer too long for a frame wrote nothing. -/
theorem StandardFunction.keeps_of_long {f : StandardFunction} {s s' : SlaveState}
    {payload answer : Octets} (h : f.apply s payload = .ok (s', answer))
    (hlong : answer.length > Worker.payloadLimit) : s' = s := by
  refine (apply_ok_long h).resolve_right fun hshort => ?_
  rw [hshort] at hlong
  exact absurd hlong (by decide)

namespace DispatchTable

theorem lookup_standard_code (f : StandardFunction) :
    standard.lookup f.code = some (.native f.handler) := by
  cases f <;> rfl

theorem lookup_standard_of_ne {code : UInt8} (h : ∀ f : StandardFunction, f.code ≠ code) :
    standard.lookup code = none := by
  have hregister (t : DispatchTable) (f : StandardFunction) :
      (t.registerNative f.code f.handler).lookup code = t.lookup code :=
    lookup_registerNative_of_ne t f.handler (h f).symm
  simp only [standard, StandardFunction.all, List.foldl_cons, List.foldl_nil, hregister,
    lookup_empty]

theorem lookup_standard_cases (code : UInt8) :
    standard.lookup code = none ∨
      ∃ f : StandardFunction, standard.lookup code = some (.native f.handler) := by
  by_cases h : ∃ f : StandardFunction, f.code = code
  · obtain ⟨f, rfl⟩ := h
    exact .inr ⟨f, lookup_standard_code f⟩
  · exact .inl (lookup_standard_of_ne fun f hf => h ⟨f, hf⟩)

end DispatchTable

namespace Worker

variable {w : Worker}

theorem answer_of_length_le (request : Frame) {payload : Octets}
    (h : payload.length ≤ payloadLimit) :
    answer request (.ok payload) = (request.response.withPayload payload, []) := by
  rw [answer, if_neg (Nat.not_lt.2 h)]

/-- The standard functions look at the payload only, and neither at the clock nor at the context. -/
theorem invoke_of_body {call call' : Call} (hw : w.table = .standard)
    (h : call.request.body = call'.request.body) :
    w.invoke call.moment call.context call.request =
      w.invoke call'.moment call'.context call'.request := by
  obtain ⟨-, hfunction, hpayload⟩ := Frame.body_eq_iff.1 h
  rw [invoke, invoke, hw, hfunction]
  obtain hnone | ⟨f, hsome⟩ := DispatchTable.lookup_standard_cases call'.request.function
  · rw [hnone]
  · rw [hsome]
    simp only [Handler.invoke, StandardFunction.handler, hpayload]

theorem turn_of_invoke {call : Call} {run : Invocation}
    (hrun : w.invoke call.moment call.context call.request = run) :
    (w.turn call).response = (answer call.request run.result).1 ∧
      w.after call = { w with state := run.state } := by
  subst hrun
  exact ⟨rfl, rfl⟩

theorem turn_of_lookup {call : Call} {h : Handler}
    (hlookup : w.table.lookup call.request.function = some h) :
    let run := h.invoke w.state call.context call.moment call.request
    (w.turn call).response = (answer call.request run.result).1 ∧
      w.after call = { w with state := run.state } := by
  apply turn_of_invoke
  rw [invoke, hlookup]

theorem turn_of_lookup_none {call : Call}
    (hlookup : w.table.lookup call.request.function = none) :
    (w.turn call).response = call.request.response.withException .illegalFunction ∧
      w.after call = w := by
  have hrun : w.invoke call.moment call.context call.request =
      ⟨w.state, .error (.exception .illegalFunction), ⟨0⟩⟩ := by
    rw [invoke, hlookup]
  exact turn_of_invoke hrun

theorem turn_of_code (hw : w.table = .standard) {f : StandardFunction} {call : Call}
    (hcode : f.code = call.request.function) :
    let run := f.handler w.state call.request
    (w.turn call).response = (answer call.request run.result).1 ∧
      w.after call = { w with state := run.state } := by
  have hlookup : w.table.lookup call.request.function = some (.native f.handler) := by
    rw [hw, ← hcode, DispatchTable.lookup_standard_code]
  exact turn_of_lookup hlookup

theorem turn_of_unknown (hw : w.table = .standard) {call : Call}
    (hcode : ∀ f : StandardFunction, f.code ≠ call.request.function) :
    (w.turn call).response = call.request.response.withException .illegalFunction ∧
      w.after call = w := by
  have hlookup : w.table.lookup call.request.function = none := by
    rw [hw, DispatchTable.lookup_standard_of_ne hcode]
  exact turn_of_lookup_none hlookup

end Worker

end Modbus
