import Modbus.Proofs.Worker.Response
import Modbus.Proofs.Worker.Standard

namespace Modbus.Worker

inductive Fails (w : Worker) (m : Moment) (c : RequestContext) (request : Frame) : Exception → Prop
  | unknown (hlookup : w.table.lookup request.function = none) :
    Fails w m c request .illegalFunction
  | refused {h : Handler} {e : Exception} (hlookup : w.table.lookup request.function = some h)
    (hresult : (h.invoke w.state c m request).result = .error (.exception e))
    (he : e ≠ .success) : Fails w m c request e
  | brokeDown {h : Handler} {cause : PanicPayload}
    (hlookup : w.table.lookup request.function = some h)
    (hresult : (h.invoke w.state c m request).result = .error (.panic cause)) :
    Fails w m c request .slaveDeviceFailure
  | tooLong {h : Handler} {payload : Octets} (hlookup : w.table.lookup request.function = some h)
    (hresult : (h.invoke w.state c m request).result = .ok payload)
    (hlength : 252 < payload.length) : Fails w m c request .slaveDeviceFailure

variable {w : Worker} {m : Moment} {c : RequestContext} {request : Frame}

namespace Fails

variable {e : Exception}

theorem ne_success (h : w.Fails m c request e) : e ≠ .success := by
  cases h with
  | refused _ _ he => exact he
  | unknown | brokeDown | tooLong => exact nofun

theorem response_eq (h : w.Fails m c request e) :
    (w.handle m c request).response = request.response.withException e := by
  rw [handle_response, invoke]
  cases h with
  | unknown hlookup => rw [hlookup]; rfl
  | refused hlookup hresult => rw [hlookup, hresult]; rfl
  | brokeDown hlookup hresult => rw [hlookup, hresult]; rfl
  | @tooLong h payload hlookup hresult hlength =>
    have hlong : payload.length > payloadLimit := hlength
    rw [hlookup, hresult, answer, if_pos hlong]

end Fails

/-- The exception that answers a handler which ended with `result`, unless it succeeded. -/
def failure? : HandlerResult → Option Exception
  | .ok payload => if 252 < payload.length then some .slaveDeviceFailure else none
  | .error (.exception e) => if e = .success then none else some e
  | .error (.panic _) => some .slaveDeviceFailure

theorem fails_iff {h : Handler} {e : Exception} (hlookup : w.table.lookup request.function = some h) :
    w.Fails m c request e ↔ failure? (h.invoke w.state c m request).result = some e := by
  constructor
  · intro hfails
    cases hfails with
    | unknown hnone => rw [hnone] at hlookup; cases hlookup
    | refused hsome hresult he =>
      obtain rfl := Option.some.inj (hlookup.symm.trans hsome)
      rw [hresult, failure?, if_neg he]
    | brokeDown hsome hresult =>
      obtain rfl := Option.some.inj (hlookup.symm.trans hsome)
      rw [hresult, failure?]
    | tooLong hsome hresult hlength =>
      obtain rfl := Option.some.inj (hlookup.symm.trans hsome)
      rw [hresult, failure?, if_pos hlength]
  · intro hfailure
    match hresult : (h.invoke w.state c m request).result with
    | .ok payload =>
      rw [hresult, failure?] at hfailure
      split at hfailure
      · next hlength => exact Option.some.inj hfailure ▸ .tooLong hlookup hresult hlength
      · cases hfailure
    | .error (.exception e') =>
      rw [hresult, failure?] at hfailure
      split at hfailure
      · cases hfailure
      · next he => exact Option.some.inj hfailure ▸ .refused hlookup hresult he
    | .error (.panic cause) =>
      rw [hresult] at hfailure
      exact Option.some.inj hfailure ▸ .brokeDown hlookup hresult

theorem fails_native {run : NativeHandler} {e : Exception}
    (h : w.table.lookup request.function = some (.native run)) :
    w.Fails m c request e ↔ failure? (run w.state request).result = some e := fails_iff h

theorem fails_contextual {run : ContextHandler} {e : Exception}
    (h : w.table.lookup request.function = some (.contextual run)) :
    w.Fails m c request e ↔ failure? (run c m request).1 = some e := fails_iff h

/-- What does not fail is answered with the function code of the request. -/
theorem fails_or_kept (w : Worker) (m : Moment) (c : RequestContext) (request : Frame) :
    (∃ e, w.Fails m c request e) ∨ (w.handle m c request).response.function = request.function := by
  have hanswered := answered_handle w m c request
  generalize (w.handle m c request).response.function = function at hanswered ⊢
  generalize (w.handle m c request).response.payload = payload at hanswered
  cases hanswered with
  | returned | succeeded => exact .inr rfl
  | tooLong hlookup hresult hlength => exact .inl ⟨_, .tooLong hlookup hresult hlength⟩
  | refused hlookup hresult he => exact .inl ⟨_, .refused hlookup hresult he⟩
  | brokeDown hlookup hresult => exact .inl ⟨_, .brokeDown hlookup hresult⟩
  | unknown hlookup => exact .inl ⟨_, .unknown hlookup⟩

/-- The response has the highest bit of its function code set when the request has it, or has
failed. And a client that reads the response to a request that has failed finds out how. -/
theorem isException_response_iff (w : Worker) (m : Moment) (c : RequestContext) {request : Frame}
    (h : request.IsBuilt) :
    let response := (w.handle m c request).response
    (response.isException = true ↔ request.isException = true ∨ ∃ e, w.Fails m c request e) ∧
      ∀ e, w.Fails m c request e → ∃ decoded,
        Frame.decodeLike request.envelope response.encode = .ok decoded ∧
          decoded.isException = true ∧ decoded.exception? = some e := by
  intro response
  have hfailed (e : Exception) (he : w.Fails m c request e) :
      response.isException = true ∧ response.exception? = some e := by
    have hresponse : response = request.response.withException e := he.response_eq
    rw [hresponse]
    exact ⟨Frame.isException_withException he.ne_success,
      Frame.exception?_withException he.ne_success⟩
  have hkept (hfunction : response.function = request.function) :
      response.isException = request.isException := by
    rw [Frame.isException, Frame.isException, hfunction]
  refine ⟨⟨fun hexception => ?_, fun hwhy => ?_⟩, fun e he => ?_⟩
  · refine (fails_or_kept w m c request).symm.imp_left fun hfunction => ?_
    rw [← hkept hfunction]
    exact hexception
  · obtain ⟨e, he⟩ | hfunction := fails_or_kept w m c request
    · exact (hfailed e he).1
    · obtain hrequest | ⟨e, he⟩ := hwhy
      · rw [hkept hfunction]
        exact hrequest
      · exact (hfailed e he).1
  · exact ⟨response, decodeLike_response w m c h, hfailed e he⟩

/-- A handler that breaks down. -/
theorem isException_response_iff_brokeDown :
    let w : Worker := { small with
      table := .registerNative .standard 0x41 fun s _ => ⟨s, .error (.panic .other), .brief⟩ }
    let response := (w.handle (.quiet 0) (.detached .tcp 0) (.tcp 3 1 0x41 [])).response
    (Frame.tcp 3 1 0x41 []).IsBuilt ∧ response.isException = true ∧
      ∃ decoded, Frame.decodeTcp response.encode = .ok decoded ∧
        decoded.exception? = some .slaveDeviceFailure := by
  intro w response
  have hfails : w.Fails (.quiet 0) (.detached .tcp 0) (.tcp 3 1 0x41 []) .slaveDeviceFailure :=
    .brokeDown (DispatchTable.lookup_registerNative_self _ _ _) rfl
  obtain ⟨hflag, hdecode⟩ :=
    isException_response_iff w (.quiet 0) (.detached .tcp 0) (.tcp 3 1 0x41 [])
  obtain ⟨decoded, hdecoded, -, hexception⟩ := hdecode _ hfails
  exact ⟨.tcp _ _ _ _, hflag.2 (.inr ⟨_, hfails⟩), decoded, hdecoded, hexception⟩

/-- A handler for a code with the highest bit set succeeds, and its answer passes for an exception.
-/
theorem isException_response_flagged :
    let w : Worker := { small with
      table := .registerNative .standard 0x83 fun s _ => ⟨s, .ok [2], .brief⟩ }
    let response := (w.handle (.quiet 0) (.detached .tcp 0) (.tcp 1 1 0x83 [])).response
    (¬ ∃ e, w.Fails (.quiet 0) (.detached .tcp 0) (.tcp 1 1 0x83 []) e) ∧
      response.isException = true ∧ response.exception? = some .illegalDataAddress := by
  intro w response
  have hfound : w.table.lookup 0x83 = some (.native fun s _ => ⟨s, .ok [2], .brief⟩) :=
    DispatchTable.lookup_registerNative_self _ _ _
  refine ⟨?_, by decide +kernel, by decide +kernel⟩
  rintro ⟨e, hfails⟩
  cases hfails with
  | unknown hlookup => exact absurd (hfound.symm.trans hlookup) nofun
  | refused hlookup hresult =>
    obtain rfl := Option.some.inj (hfound.symm.trans hlookup)
    cases hresult
  | brokeDown hlookup hresult =>
    obtain rfl := Option.some.inj (hfound.symm.trans hlookup)
    cases hresult
  | tooLong hlookup hresult hlength =>
    obtain rfl := Option.some.inj (hfound.symm.trans hlookup)
    cases hresult
    exact absurd hlength (by decide)

end Modbus.Worker
