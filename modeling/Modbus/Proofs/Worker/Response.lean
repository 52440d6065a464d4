import Modbus.Proofs.Framing.Mbap
import Modbus.Proofs.Worker.Turns

namespace Modbus

open Line

namespace Worker

/-- Function and payload of the response to a request, by how the handler of its function ends. -/
inductive Answered (w : Worker) (m : Moment) (c : RequestContext) (request : Frame) :
    UInt8 → Octets → Prop
  | returned {h : Handler} {payload : Octets} (hlookup : w.table.lookup request.function = some h)
    (hresult : (h.invoke w.state c m request).result = .ok payload)
    (hlength : payload.length ≤ 252) : Answered w m c request request.function payload
  | tooLong {h : Handler} {payload : Octets} (hlookup : w.table.lookup request.function = some h)
    (hresult : (h.invoke w.state c m request).result = .ok payload)
    (hlength : 252 < payload.length) :
    Answered w m c request (request.function ||| 0x80) [Exception.slaveDeviceFailure.code]
  | succeeded {h : Handler} (hlookup : w.table.lookup request.function = some h)
    (hresult : (h.invoke w.state c m request).result = .error (.exception .success)) :
    Answered w m c request request.function []
  | refused {h : Handler} {e : Exception} (hlookup : w.table.lookup request.function = some h)
    (hresult : (h.invoke w.state c m request).result = .error (.exception e))
    (he : e ≠ .success) : Answered w m c request (request.function ||| 0x80) [e.code]
  | brokeDown {h : Handler} {cause : PanicPayload}
    (hlookup : w.table.lookup request.function = some h)
    (hresult : (h.invoke w.state c m request).result = .error (.panic cause)) :
    Answered w m c request (request.function ||| 0x80) [Exception.slaveDeviceFailure.code]
  | unknown (hlookup : w.table.lookup request.function = none) :
    Answered w m c request (request.function ||| 0x80) [Exception.illegalFunction.code]

variable {w : Worker} {m : Moment} {c : RequestContext} {request : Frame}

/-- The response is a short payload of the function, or an exception of it with a code that is not
0. -/
theorem Answered.fits {function : UInt8} {payload : Octets}
    (h : w.Answered m c request function payload) :
    function = request.function ∧ payload.length ≤ 252 ∨
      function = request.function ||| 0x80 ∧ ∃ code, code ≠ 0 ∧ payload = [code] := by
  cases h with
  | returned _ _ hlength => exact .inl ⟨rfl, hlength⟩
  | succeeded => exact .inl ⟨rfl, Nat.zero_le _⟩
  | refused _ _ he => exact .inr ⟨rfl, _, Exception.code_ne_zero _ he, rfl⟩
  | tooLong | brokeDown | unknown => exact .inr ⟨rfl, _, by decide, rfl⟩

theorem Answered.length_le {function : UInt8} {payload : Octets}
    (h : w.Answered m c request function payload) : payload.length ≤ 252 := by
  rcases h.fits with ⟨-, hlength⟩ | ⟨-, code, -, rfl⟩
  · exact hlength
  · simp

theorem answer_exception (request : Frame) {e : Exception} (he : e ≠ .success) :
    request.response.withException e =
      ⟨request.envelope, request.unit, request.function ||| 0x80, [e.code]⟩ := by
  have hsuccess : e.isSuccess = false := beq_false_of_ne he
  rw [Frame.withException, hsuccess]
  rfl

theorem handle_response (w : Worker) (m : Moment) (c : RequestContext) (request : Frame) :
    (w.handle m c request).response = (answer request (w.invoke m c request).result).1 := rfl

theorem envelope_handle (w : Worker) (m : Moment) (c : RequestContext) (request : Frame) :
    (w.handle m c request).response.envelope = request.envelope ∧
      (w.handle m c request).response.unit = request.unit := by
  rw [handle_response]
  match (w.invoke m c request).result with
  | .ok payload =>
    rw [answer]
    split <;> exact ⟨rfl, rfl⟩
  | .error (.exception e) =>
    rw [answer]
    by_cases he : e = .success
    · subst he
      exact ⟨rfl, rfl⟩
    · rw [answer_exception request he]
      exact ⟨rfl, rfl⟩
  | .error (.panic cause) => exact ⟨rfl, rfl⟩

theorem answered_handle (w : Worker) (m : Moment) (c : RequestContext) (request : Frame) :
    w.Answered m c request (w.handle m c request).response.function
      (w.handle m c request).response.payload := by
  rw [handle_response, invoke]
  cases hlookup : w.table.lookup request.function with
  | none => exact .unknown hlookup
  | some h =>
    dsimp only
    match hresult : (h.invoke w.state c m request).result with
    | .ok payload =>
      rw [answer]
      split
      · next hlong => exact .tooLong hlookup hresult hlong
      · next hshort => exact .returned hlookup hresult (Nat.le_of_not_lt hshort)
    | .error (.exception e) =>
      rw [answer]
      by_cases he : e = .success
      · subst he
        exact .succeeded hlookup hresult
      · rw [answer_exception request he]
        exact .refused hlookup hresult he
    | .error (.panic cause) => exact .brokeDown hlookup hresult

theorem answered_iff {function : UInt8} {payload : Octets} :
    w.Answered m c request function payload ↔
      (w.handle m c request).response.function = function ∧
        (w.handle m c request).response.payload = payload := by
  refine ⟨fun h => ?_, fun h => h.1 ▸ h.2 ▸ answered_handle w m c request⟩
  rw [handle_response, invoke]
  cases h with
  | @returned _ payload hlookup hresult hlength =>
    have hshort : ¬ payload.length > payloadLimit := Nat.not_lt.2 hlength
    rw [hlookup, hresult, answer, if_neg hshort]
    exact ⟨rfl, rfl⟩
  | @tooLong _ payload hlookup hresult hlength =>
    have hlong : payload.length > payloadLimit := hlength
    rw [hlookup, hresult, answer, if_pos hlong]
    exact ⟨rfl, rfl⟩
  | refused hlookup hresult he =>
    rw [hlookup, hresult, answer, answer_exception request he]
    exact ⟨rfl, rfl⟩
  | succeeded hlookup hresult | brokeDown hlookup hresult =>
    rw [hlookup, hresult]
    exact ⟨rfl, rfl⟩
  | unknown hlookup =>
    rw [hlookup]
    exact ⟨rfl, rfl⟩

/-- A native handler is run on the state, and the response is by what it returns. -/
theorem answered_native {run : NativeHandler} {function : UInt8} {payload : Octets}
    (h : w.table.lookup request.function = some (.native run)) :
    w.Answered m c request function payload ↔
      (answer request (run w.state request).result).1.function = function ∧
        (answer request (run w.state request).result).1.payload = payload := by
  rw [answered_iff, handle_response, invoke, h]
  rfl

/-- A contextual handler is run on the context of the request at the moment it is handled. -/
theorem answered_contextual {run : ContextHandler} {function : UInt8} {payload : Octets}
    (h : w.table.lookup request.function = some (.contextual run)) :
    w.Answered m c request function payload ↔
      (answer request (run c m request).1).1.function = function ∧
        (answer request (run c m request).1).1.payload = payload := by
  rw [answered_iff, handle_response, invoke, h]
  rfl

/-- A response is read back as it was sent. -/
theorem decodeLike_response (w : Worker) (m : Moment) (c : RequestContext) {request : Frame}
    (h : request.IsBuilt) :
    Frame.decodeLike request.envelope (w.handle m c request).response.encode =
      .ok (w.handle m c request).response := by
  have henvelope := (envelope_handle w m c request).1
  have hlength := (answered_handle w m c request).length_le
  have hbuilt : (w.handle m c request).response.IsBuilt := h.of_envelope henvelope
  rw [← henvelope]
  exact hbuilt.decodeLike_encode (Nat.le_trans hlength (by decide))

end Worker

end Modbus
