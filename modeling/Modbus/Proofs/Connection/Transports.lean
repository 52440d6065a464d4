import Modbus.Proofs.Connection.Serial
import Modbus.Proofs.Connection.Stream
import Modbus.Proofs.Worker.Response
import Modbus.Proofs.Worker.Standard

namespace Modbus

open Line Signal

/-! ### The body of a request -/

namespace Frame

variable {f g : Frame}

theorem body_withPayload (h : f.body = g.body) (payload : Octets) :
    (f.withPayload payload).body = (g.withPayload payload).body := by
  obtain ⟨hunit, hfunction, -⟩ := body_eq_iff.1 h
  exact body_eq_iff.2 ⟨hunit, hfunction, rfl⟩

theorem body_withException (h : f.body = g.body) (e : Exception) :
    (f.withException e).body = (g.withException e).body := by
  obtain ⟨hunit, hfunction, -⟩ := body_eq_iff.1 h
  unfold withException
  split
  · exact h
  · exact body_eq_iff.2 ⟨hunit, congrArg (· ||| FunctionCode.exceptionFlag) hfunction, rfl⟩

end Frame

namespace Worker

variable {w : Worker} {call call' : Call}

theorem body_answer {request request' : Frame} (h : request.body = request'.body)
    (result : HandlerResult) :
    (answer request result).1.body = (answer request' result).1.body := by
  have hempty : request.response.body = request'.response.body := Frame.body_withPayload h []
  match result with
  | .ok payload =>
    rw [answer, answer]
    split
    · exact Frame.body_withException hempty .slaveDeviceFailure
    · exact Frame.body_withPayload hempty payload
  | .error (.exception e) => exact Frame.body_withException hempty e
  | .error (.panic _) => exact Frame.body_withException hempty .slaveDeviceFailure

/-- A call with the standard functions comes to the same whatever envelope its request is in. -/
theorem turn_of_body (hw : w.table = .standard) (h : call.request.body = call'.request.body) :
    w.after call = w.after call' ∧
      (w.turn call).response.body = (w.turn call').response.body := by
  have hinvoke := invoke_of_body hw h
  obtain ⟨hresponse, hafter⟩ := turn_of_invoke hinvoke
  obtain ⟨hresponse', hafter'⟩ := turn_of_invoke (Eq.refl (w.invoke call'.moment call'.context
    call'.request))
  rw [hafter, hafter', hresponse, hresponse']
  exact ⟨rfl, body_answer h _⟩

/-- Calls with the standard functions come to the same, call by call. -/
theorem turns_of_bodies (hw : w.table = .standard) {calls calls' : List Call}
    (h : calls.map (·.request.body) = calls'.map (·.request.body)) :
    w.afterAll calls = w.afterAll calls' ∧
      (w.turns calls).map (·.response.body) = (w.turns calls').map (·.response.body) := by
  induction calls generalizing w calls' with
  | nil =>
    obtain rfl := List.map_eq_nil_iff.1 h.symm
    exact ⟨rfl, rfl⟩
  | cons call calls ih =>
    obtain ⟨call', calls', rfl, hcall, hcalls⟩ := List.map_eq_cons_iff.1 h.symm
    obtain ⟨hafter, hresponse⟩ := turn_of_body hw hcall.symm
    obtain ⟨hworker, hresponses⟩ := ih (w := w.after call) hw hcalls.symm
    rw [afterAll_cons, afterAll_cons, hworker, hafter]
    refine ⟨rfl, ?_⟩
    rw [turns, turns, List.map_cons, List.map_cons, hresponse, hresponses, hafter]

end Worker

/-! ### Orders -/

/-- What a standard function wants: two words, and for a block a count and as many octets. -/
inductive Demands : UInt8 → Octets → Prop
  | words {function : UInt8} {payload : Octets} (hcode : 1 ≤ function ∧ function ≤ 6)
    (hlength : payload.length = 4) : Demands function payload
  | block {function count : UInt8} {fields data : Octets} (hcode : function = 15 ∨ function = 16)
    (hfields : fields.length = 4) (hdata : data.length = count.toNat)
    (hlength : (fields ++ count :: data).length ≤ 252) : Demands function (fields ++ count :: data)

structure Order where
  unit : UInt8
  function : UInt8
  payload : Octets
  /-- It is not for everybody. -/
  addressed : unit ≠ 0
  demands : Demands function payload

namespace Order

def tcp (o : Order) (transaction : UInt16) : Frame := .tcp transaction o.unit o.function o.payload

def rtu (o : Order) : Frame := .rtu o.unit o.function o.payload

theorem isRequest_tcp (o : Order) (transaction : UInt16) : Mbap.IsRequest (o.tcp transaction) := by
  obtain ⟨unit, function, payload, -, hdemands⟩ := o
  refine ⟨transaction, unit, function, payload, rfl, ?_⟩
  cases hdemands with
  | words _ hlength => exact Nat.le_trans (Nat.le_of_eq hlength) (by decide)
  | block _ _ _ hlength => exact hlength

theorem isRequest_rtu (o : Order) :
    Rtu.IsRequest o.rtu ∧ Rtu.IsStandard o.rtu.function := by
  obtain ⟨unit, function, payload, -, hdemands⟩ := o
  cases hdemands with
  | words hcode hlength => exact ⟨.fixed hcode hlength, .inl hcode⟩
  | block hcode hfields hdata => exact ⟨.counted hcode hfields hdata, .inr hcode⟩

end Order

/-- Requests that all tell where they end may be torn by silence anywhere. -/
theorem Framing.carries_standard (own : Option UInt8) {line : Line} {frames : List Frame}
    (hline : line.Steady) (hframes : ∀ f ∈ frames, Rtu.IsRequest f ∧ Rtu.IsStandard f.function)
    (h : line.octets = frames.flatMap Frame.encode) : (Framing.rtu own).Carries line frames := by
  induction frames generalizing line with
  | nil => exact .done (Rtu.readFrame_steady_end hline h)
  | cons f frames ih =>
    obtain ⟨⟨hrequest, hcode⟩, hmore⟩ := List.forall_mem_cons.1 hframes
    obtain ⟨rest, hrest, hskip, hread⟩ := Rtu.readFrame_standard hline hrequest hcode h
    have hoctets : rest.octets = frames.flatMap Frame.encode := by
      rw [octets_of_skip hskip, h, List.flatMap_cons, List.drop_left]
    exact .next hread (Rtu.IsRequest.decode hrequest) (ih hrest hmore hoctets)

namespace Connection

variable {c : Connection} {schedule : Schedule} {w : Worker} {frames : List Frame}

theorem map_request_calls (c : Connection) (schedule : Schedule) (served : Nat)
    (frames : List Frame) : (c.calls schedule served frames).map (·.request) = frames := by
  induction frames generalizing served with
  | nil => rfl
  | cons f frames ih =>
    rw [calls, List.map_cons, ih]
    rfl

theorem length_calls (c : Connection) (schedule : Schedule) (served : Nat) (frames : List Frame) :
    (c.calls schedule served frames).length = frames.length := by
  rw [← List.length_map (f := Call.request), map_request_calls]

theorem request_mem {call : Call} (h : call ∈ c.calls schedule 0 frames) :
    call.request ∈ frames := by
  rw [← map_request_calls c schedule 0 frames]
  exact List.mem_map_of_mem h

theorem map_body_calls (c : Connection) (schedule : Schedule) (frames : List Frame) :
    (c.calls schedule 0 frames).map (·.request.body) = frames.map Frame.body := by
  rw [← map_request_calls c schedule 0 frames, List.map_map, map_request_calls]
  rfl

/-- Nothing comes between a connection and the frames on its line: they arrive whole, and every
request is answered in time, to a peer that takes the answers. -/
structure Undisturbed (c : Connection) (schedule : Schedule) (w : Worker) (line : Line)
    (pattern : Nat → Nat → Nat → Uptake) (flushFault : Nat → Nat → Option (StreamFault × String))
    (frames : List Frame) : Prop where
  steady : line.Steady
  octets : line.octets = frames.flatMap Frame.encode
  takes : Sink.Takes { pattern, flushFault }
  prompt : c.Prompt schedule 0 (w.turns (c.calls schedule 0 frames))

namespace Undisturbed

variable {line : Line} {pattern : Nat → Nat → Nat → Uptake}
  {flushFault : Nat → Nat → Option (StreamFault × String)}

theorem serves (h : c.Undisturbed schedule w line pattern flushFault frames)
    (hcarries : c.framing.Carries line frames) (hexecuted : c.executed frames = frames) :
    c.Serves schedule 0 w { pattern, flushFault } frames (c.serve schedule w line { pattern, flushFault }) := by
  have hserves := serveFrom_carries hcarries h.takes rfl (by rw [hexecuted]; exact h.prompt)
  rwa [hexecuted] at hserves

variable {orders : List (UInt16 × Order)}

theorem serves_tcp (hc : c.framing = .mbap)
    (h : c.Undisturbed schedule w line pattern flushFault (orders.map fun o => o.2.tcp o.1)) :
    c.Serves schedule 0 w { pattern, flushFault } (orders.map fun o => o.2.tcp o.1)
      (c.serve schedule w line { pattern, flushFault }) := by
  refine h.serves ?_ (executed_mbap hc _)
  rw [hc]
  exact Framing.carries_mbap h.steady
    (List.forall_mem_map.2 fun o _ => o.2.isRequest_tcp o.1) h.octets

theorem serves_rtu (hc : c.framing = .rtu none)
    (h : c.Undisturbed schedule w line pattern flushFault (orders.map fun o => o.2.rtu)) :
    c.Serves schedule 0 w { pattern, flushFault } (orders.map fun o => o.2.rtu)
      (c.serve schedule w line { pattern, flushFault }) := by
  refine h.serves ?_ ?_
  · rw [hc]
    exact Framing.carries_standard none h.steady
      (List.forall_mem_map.2 fun o _ => o.2.isRequest_rtu) h.octets
  · rw [executed_rtu hc]
    exact List.filter_eq_self.2 fun _ _ => rfl

end Undisturbed

/-- Orders are for somebody, so they are all answered. -/
theorem messages_orders (hc : c.framing = .rtu none) {orders : List (UInt16 × Order)} :
    c.messages (w.turns (c.calls schedule 0 (orders.map fun o => o.2.rtu))) =
      (w.turns (c.calls schedule 0 (orders.map fun o => o.2.rtu))).map (·.response.encode) := by
  rw [messages_rtu hc]
  refine congrArg _ (List.filter_eq_self.2 (Worker.forall_turns fun _ call hcall => ?_))
  obtain ⟨o, -, horder⟩ := List.mem_map.1 (request_mem hcall)
  refine bne_iff_ne.2 ?_
  rw [Turn.request, Worker.turn, ← horder]
  exact o.2.addressed

def bodies (decode : Octets → Except ServerError Frame) (flushed : List Octets) :
    List (Except ServerError Octets) := flushed.map fun raw => (decode raw).map Frame.body

theorem bodies_turns {calls : List Call} {decode : Octets → Except ServerError Frame}
    (h : ∀ call ∈ calls, call.request.IsBuilt ∧ Frame.decodeLike call.request.envelope = decode) :
    bodies decode ((w.turns calls).map (·.response.encode)) =
      ((w.turns calls).map (·.response.body)).map .ok := by
  rw [bodies, List.map_map, List.map_map]
  refine List.map_congr_left (Worker.forall_turns fun w call hcall => ?_)
  obtain ⟨hbuilt, hdecode⟩ := h call hcall
  have hread := w.decodeLike_response call.moment call.context hbuilt
  rw [hdecode] at hread
  simp only [Function.comp_apply, Turn.response, Worker.turn, hread]
  rfl

/-- Orders come to the same over TCP, under any transactions, and on the line of a port without a
unit of its own, however either stream is cut: the state is the same in the end, and each answer
says the same. -/
theorem serve_either_transport {stream port : Connection} (hstream : stream.framing = .mbap)
    (hport : port.framing = .rtu none) (hw : w.table = .standard) (orders : List (UInt16 × Order))
    {schedule₁ schedule₂ : Schedule} {line₁ line₂ : Line}
    {pattern₁ pattern₂ : Nat → Nat → Nat → Uptake}
    {flushFault₁ flushFault₂ : Nat → Nat → Option (StreamFault × String)}
    (h₁ : stream.Undisturbed schedule₁ w line₁ pattern₁ flushFault₁
      (orders.map fun o => o.2.tcp o.1))
    (h₂ : port.Undisturbed schedule₂ w line₂ pattern₂ flushFault₂ (orders.map fun o => o.2.rtu)) :
    let v₁ := stream.serve schedule₁ w line₁ { pattern := pattern₁, flushFault := flushFault₁ }
    let v₂ := port.serve schedule₂ w line₂ { pattern := pattern₂, flushFault := flushFault₂ }
    v₁.ending = .closed ∧ v₂.ending = .closed ∧ v₁.worker = v₂.worker ∧
      v₁.sink.pending = [] ∧ v₂.sink.pending = [] ∧
      ∃ responses : List Octets, responses.length = orders.length ∧
        bodies Frame.decodeTcp v₁.sink.flushed = responses.map .ok ∧
        bodies Frame.decodeRtu v₂.sink.flushed = responses.map .ok := by
  intro v₁ v₂
  have hserves₁ := h₁.serves_tcp hstream
  have hserves₂ := h₂.serves_rtu hport
  have hflushed₁ := hserves₁.sink.flushed
  have hflushed₂ := hserves₂.sink.flushed
  rw [messages_mbap hstream, List.nil_append] at hflushed₁
  rw [messages_orders hport, List.nil_append] at hflushed₂
  have hcalls := map_body_calls stream schedule₁ (orders.map fun o => o.2.tcp o.1)
  have hsame : (orders.map fun o => o.2.tcp o.1).map Frame.body =
      (orders.map fun o => o.2.rtu).map Frame.body := by
    rw [List.map_map, List.map_map]
    rfl
  rw [hsame, ← map_body_calls port schedule₂] at hcalls
  obtain ⟨hworker, hresponses⟩ := Worker.turns_of_bodies hw hcalls
  refine ⟨hserves₁.ending, hserves₂.ending, ?_, hserves₁.sink.pending, hserves₂.sink.pending,
    (w.turns (port.calls schedule₂ 0 (orders.map fun o => o.2.rtu))).map (·.response.body),
    ?_, ?_, ?_⟩
  · rw [hserves₁.worker, hworker]
    exact hserves₂.worker.symm
  · rw [List.length_map, Worker.length_turns, length_calls, List.length_map]
  · rw [hflushed₁, ← hresponses]
    refine bodies_turns fun call hcall => ?_
    obtain ⟨o, -, horder⟩ := List.mem_map.1 (request_mem hcall)
    rw [← horder]
    exact ⟨.tcp _ _ _ _, rfl⟩
  · rw [hflushed₂]
    refine bodies_turns fun call hcall => ?_
    obtain ⟨o, -, horder⟩ := List.mem_map.1 (request_mem hcall)
    rw [← horder]
    exact ⟨.rtu _ _ _, rfl⟩

/-- Two registers are written, one of them as a block, and then more are read than there are. The
stream is cut inside frames, and on the serial line there is silence inside a frame. -/
theorem serve_either_transport_mixed :
    let stream : Connection :=
      { session := { transport := .tcp, token := 0 }, framing := .mbap, requestTimeout := ⟨1000⟩ }
    let port : Connection :=
      { session := { transport := .rtu, token := 1 }, framing := .rtu none
        requestTimeout := ⟨1000⟩ }
    let line₁ : Line := [.data [0, 7, 0, 0, 0, 6, 1, 6, 0], .data [2, 0, 99, 0, 9],
      .data [0, 0, 0, 9, 17, 16, 0, 1, 0, 1, 2, 0, 7, 0, 7, 0, 0, 0, 6, 255, 3, 0, 0, 0, 9]]
    let line₂ : Line := [.data ((Frame.rtu 1 6 [0, 2, 0, 99]).encode ++ [17]), .silence,
      .data (16 :: (Frame.rtu 17 16 [0, 1, 0, 1, 2, 0, 7]).encode.drop 2),
      .data (Frame.rtu 255 3 [0, 0, 0, 9]).encode]
    let v₁ := stream.serve (.idle (.quiet 0)) .small line₁ .eager
    let v₂ := port.serve (.idle (.quiet 0)) .small line₂ (.slow 1)
    let responses : List Octets := [[1, 6, 0, 2, 0, 99], [17, 16, 0, 1, 0, 1], [255, 0x83, 2]]
    v₁.ending = .closed ∧ v₂.ending = .closed ∧ v₁.worker = v₂.worker ∧
      v₂.worker.state.registers.holdingRegisters.toList = [0, 7, 99, 0] ∧
      bodies Frame.decodeTcp v₁.sink.flushed = responses.map .ok ∧
      bodies Frame.decodeRtu v₂.sink.flushed = responses.map .ok := by
  intro stream port line₁ line₂ v₁ v₂ responses
  let orders : List (UInt16 × Order) :=
    [(7, ⟨1, 6, [0, 2, 0, 99], by decide, .words (by decide) rfl⟩),
      (9, ⟨17, 16, [0, 1, 0, 1] ++ 2 :: [0, 7], by decide, .block (.inr rfl) rfl rfl (by decide)⟩),
      (7, ⟨255, 3, [0, 0, 0, 9], by decide, .words (by decide) rfl⟩)]
  have hprompt₁ : stream.Prompt (.idle (.quiet 0)) 0 (Worker.small.turns
      (stream.calls (.idle (.quiet 0)) 0 (orders.map fun o => o.2.tcp o.1))) :=
    prompt_cons.2 ⟨⟨1000, by decide +kernel, by decide +kernel⟩,
      prompt_cons.2 ⟨⟨1000, by decide +kernel, by decide +kernel⟩,
      prompt_cons.2 ⟨⟨1000, by decide +kernel, by decide +kernel⟩, prompt_nil⟩⟩⟩
  have hprompt₂ : port.Prompt (.idle (.quiet 0)) 0 (Worker.small.turns
      (port.calls (.idle (.quiet 0)) 0 (orders.map fun o => o.2.rtu))) :=
    prompt_cons.2 ⟨⟨1000, by decide +kernel, by decide +kernel⟩,
      prompt_cons.2 ⟨⟨1000, by decide +kernel, by decide +kernel⟩,
      prompt_cons.2 ⟨⟨1000, by decide +kernel, by decide +kernel⟩, prompt_nil⟩⟩⟩
  have h₁ : stream.Undisturbed (.idle (.quiet 0)) .small line₁ Sink.eager.pattern (fun _ _ => none)
      (orders.map fun o => o.2.tcp o.1) :=
    ⟨by decide, by decide +kernel, Sink.takes_eager, hprompt₁⟩
  have h₂ : port.Undisturbed (.idle (.quiet 0)) .small line₂ (Sink.slow 1).pattern (fun _ _ => none)
      (orders.map fun o => o.2.rtu) :=
    ⟨by decide +kernel, by decide +kernel, Sink.takes_slow 0, hprompt₂⟩
  obtain ⟨hending₁, hending₂, hworker, -, -, answers, -, hstream, hport⟩ :=
    serve_either_transport rfl rfl rfl orders h₁ h₂
  have hflushed : v₁.sink.flushed = [(Frame.tcp 7 1 6 [0, 2, 0, 99]).encode,
      (Frame.tcp 9 17 16 [0, 1, 0, 1]).encode, (Frame.tcp 7 255 0x83 [2]).encode] := by
    decide +kernel
  have hbodies : bodies Frame.decodeTcp v₁.sink.flushed = responses.map .ok := by
    rw [hflushed]
    rfl
  have hanswers : answers = responses :=
    (List.map_inj_right fun _ _ => Except.ok.inj).1 (hstream.symm.trans hbodies)
  rw [hanswers] at hport
  have hstate : v₁.worker.state.registers.holdingRegisters.toList = [0, 7, 99, 0] := by
    decide +kernel
  exact ⟨hending₁, hending₂, hworker, hworker ▸ hstate, hbodies, hport⟩

end Connection

end Modbus
