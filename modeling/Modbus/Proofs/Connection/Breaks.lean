import Modbus.Proofs.Connection.Stream
import Modbus.Proofs.Frame.Accepted

namespace Modbus

open Line

/-- A frame as long as its header says that can be decoded is one that a client can send. -/
theorem Mbap.IsWhole.isRequest {raw : Octets} {f : Frame} (hwhole : IsWhole raw)
    (h : Frame.decodeTcp raw = .ok f) : IsRequest f ∧ f.encode = raw := by
  obtain ⟨-, transaction, unit, function, payload, rfl, -, hencode⟩ := Frame.decodeTcp_ok h
  refine ⟨⟨transaction, unit, function, payload, rfl, ?_⟩, hencode⟩
  have hlargest : announcedLength (raw.take headerLength) ≤ 254 := hwhole.inRange.2
  have hlength := hwhole.length
  rw [← hencode, Frame.length_encode_tcp, hencode] at hlength
  omega

namespace Connection

/-- The worker gets to the request when its deadline has come, and drops it. -/
def IsLate (c : Connection) (schedule : Schedule) (served : Nat) (request : Frame) : Prop :=
  let call := c.call schedule served request
  call.context.isExpired call.moment = true

/-- Why a connection goes on no further that has answered the `served` requests it has executed. `raw`
is what it has taken off the line since, and `behind` is the line behind that. The last line is what
is left in the end. -/
inductive Halts (c : Connection) (schedule : Schedule) (served : Nat) (raw : Octets)
    (behind : Line) : Ending → Line → Prop
  | closed {rest : Line} (hnil : raw = []) (hends : behind.Ends rest) :
    Halts c schedule served raw behind .closed rest
  | failed {e : ServerError} {rest : Line} (hfails : Mbap.Fails raw behind (.failed e) rest) :
    Halts c schedule served raw behind (.failed e) rest
  | waiting {rest : Line} (hfails : Mbap.Fails raw behind .stalled rest) :
    Halts c schedule served raw behind .waiting rest
  | rejected {e : ServerError} (hwhole : Mbap.IsWhole raw)
    (hdecode : Frame.decodeTcp raw = .error e) :
    Halts c schedule served raw behind (.failed e) behind
  | dropped {request : Frame} (hrequest : Mbap.IsRequest request) (hraw : request.encode = raw)
    (hlate : c.IsLate schedule served request) :
    Halts c schedule served raw behind (.failed .serverClosed) behind
  | overflow {request : Frame} (hrequest : Mbap.IsRequest request) (hraw : request.encode = raw)
    (hoverflow : Time.after? (schedule.submitted served).now c.requestTimeout = none) :
    Halts c schedule served raw behind .overflow behind

inductive Concludes (c : Connection) (schedule : Schedule) (served : Nat) (answers : List Octets)
    (sink : Sink) (behind : Line) : Octets → Sink → Ending → Line → Prop
  | read {raw : Octets} {sink' : Sink} {ending : Ending} {rest : Line}
    (hsends : sink.Sends answers sink') (hhalts : c.Halts schedule served raw behind ending rest) :
    Concludes c schedule served answers sink behind raw sink' ending rest
  | write {front : List Octets} {last : Octets} {mid sink' : Sink} {e : ServerError}
    (hanswers : answers = front ++ [last]) (hsends : sink.Sends front mid)
    (hstrands : mid.Strands last e sink') :
    Concludes c schedule served answers sink behind [] sink' (.failed e) behind

variable {c : Connection} {schedule : Schedule}

theorem Concludes.next {served : Nat} {answers : List Octets} {answer raw : Octets}
    {sink sink' sink'' : Sink} {behind rest : Line} {ending : Ending}
    (hsends : sink.Sends [answer] sink')
    (h : c.Concludes schedule served answers sink' behind raw sink'' ending rest) :
    c.Concludes schedule served (answer :: answers) sink behind raw sink'' ending rest := by
  cases h with
  | read hmore hhalts => exact .read (hsends.trans hmore) hhalts
  | @write front last mid _ e hanswers hmore hstrands =>
    exact .write (congrArg (answer :: ·) hanswers) (hsends.trans hmore) hstrands

theorem take?_cases (w : Worker) (served : Nat) (request : Frame) :
    let call := c.call schedule served request
    w.take? call.moment true call.context request = none ∧ c.IsLate schedule served request ∨
      w.take? call.moment true call.context request = some (w.turn call).handling := by
  intro call
  have hcancelled : call.context.isCancelled call.moment = false := isCancelled_call served request
  rw [Worker.take?, hcancelled]
  cases hexpired : call.context.isExpired call.moment with
  | true => exact .inl ⟨rfl, hexpired⟩
  | false => exact .inr rfl

inductive Exchanged (c : Connection) (schedule : Schedule) (served : Nat) (w : Worker) (sink : Sink)
    (request : Frame) : Exchange → Prop
  | answered {sink' : Sink} {events : List Event}
    (hsends : sink.Sends [(w.turn (c.call schedule served request)).response.encode] sink') :
    Exchanged c schedule served w sink request
      ⟨w.after (c.call schedule served request), sink', none, [request], events, []⟩
  | unanswered {sink' : Sink} {e : ServerError} {events : List Event}
    (hstrands : sink.Strands (w.turn (c.call schedule served request)).response.encode e sink') :
    Exchanged c schedule served w sink request
      ⟨w.after (c.call schedule served request), sink', some (.failed e), [request], events, []⟩
  | dropped {events : List Event} (hlate : c.IsLate schedule served request) :
    Exchanged c schedule served w sink request
      ⟨w, sink, some (.failed .serverClosed), [], events, []⟩
  | overflow (hoverflow : Time.after? (schedule.submitted served).now c.requestTimeout = none) :
    Exchanged c schedule served w sink request ⟨w, sink, some .overflow, [], [], []⟩
  | timedOut {x : Exchange} (hending : x.ending = some c.timedOut) :
    Exchanged c schedule served w sink request x

theorem exchanged_exchange (schedule : Schedule) (hc : c.framing = .mbap) (served : Nat)
    (w : Worker) {sink : Sink} (hpending : sink.pending = []) (request : Frame) :
    c.Exchanged schedule served w sink request
      (c.exchange (c.moment schedule served) (schedule.queued served) w sink request) := by
  unfold exchange
  split
  · next hoverflow => exact .overflow hoverflow
  next deadline hdeadline =>
  -- What the worker is handed is the call.
  have hcontext : c.session.context (some deadline) = (c.call schedule served request).context := by
    rw [← hdeadline]
    rfl
  have hmoment : (c.moment schedule served).later (schedule.queued served) =
      (c.call schedule served request).moment := rfl
  dsimp only
  rw [hcontext, hmoment]
  split
  · exact .timedOut rfl
  obtain ⟨htake, hlate⟩ | htake := take?_cases w served request
  · rw [htake]
    exact .dropped hlate
  rw [htake]
  dsimp only
  split
  · exact .timedOut rfl
  have hanswers : c.framing.answers request.unit = true := by rw [hc]; rfl
  rw [if_pos hanswers]
  obtain ⟨sink', hsend, hsends⟩ | ⟨e, sink', hsend, hstrands⟩ := Sink.send_cases hpending
    (w.turn (c.call schedule served request)).handling.response.encode
  · rw [hsend]
    exact .answered hsends
  · rw [hsend]
    exact .unanswered hstrands

structure Stands (c : Connection) (schedule : Schedule) (served : Nat) (w : Worker) (line : Line)
    (sink : Sink) (v : Visit) : Prop where
  requests : ∀ r ∈ v.executed, Mbap.IsRequest r
  worker : v.worker = w.afterAll (c.calls schedule served v.executed)
  streams : ∃ (raw : Octets) (behind : Line),
    line.Brings (v.executed.flatMap Frame.encode ++ raw) behind ∧
      c.Concludes schedule (served + v.executed.length)
        ((w.turns (c.calls schedule served v.executed)).map (·.response.encode)) sink behind raw
        v.sink v.ending v.line

/-- A connection that executes no further request. -/
theorem Stands.of_halts {served : Nat} {w : Worker} {line rest behind : Line} {sink : Sink}
    {raw : Octets} {ending : Ending} {events : List Event} (hpending : sink.pending = [])
    (hbrings : line.Brings raw behind)
    (hhalts : c.Halts schedule served raw behind ending rest) :
    c.Stands schedule served w line sink ⟨w, rest, sink, ending, [], events⟩ :=
  ⟨fun _ h => (nomatch h), rfl, raw, behind, hbrings, .read (.refl hpending) hhalts⟩

theorem Stands.next {served : Nat} {w : Worker} {line rest : Line} {sink sink' : Sink}
    {request : Frame} {events : List Event} {v : Visit} (hrequest : Mbap.IsRequest request)
    (hbrings : line.Brings request.encode rest)
    (hsends : sink.Sends [(w.turn (c.call schedule served request)).response.encode] sink')
    (h : c.Stands schedule (served + 1) (w.after (c.call schedule served request)) rest sink' v) :
    c.Stands schedule served w line sink (prepend [request] events v) := by
  obtain ⟨raw, behind, hmore, hconcludes⟩ := h.streams
  refine ⟨List.forall_mem_cons.2 ⟨hrequest, h.requests⟩, h.worker, raw, behind, ?_, ?_⟩
  · change line.Brings (request.encode ++ v.executed.flatMap Frame.encode ++ raw) behind
    rw [List.append_assoc]
    exact hbrings.trans hmore
  · rw [Nat.add_assoc, Nat.add_comm 1] at hconcludes
    exact hconcludes.next hsends

/-- The answer to the last request is not flushed. -/
theorem Stands.of_strands {served : Nat} {w : Worker} {line rest : Line} {sink sink' : Sink}
    {request : Frame} {e : ServerError} {events : List Event} (hpending : sink.pending = [])
    (hrequest : Mbap.IsRequest request) (hbrings : line.Brings request.encode rest)
    (hstrands : sink.Strands (w.turn (c.call schedule served request)).response.encode e sink') :
    c.Stands schedule served w line sink
      ⟨w.after (c.call schedule served request), rest, sink', .failed e, [request], events⟩ := by
  refine ⟨List.forall_mem_singleton.2 hrequest, rfl, [], rest, ?_,
    .write rfl (.refl hpending) hstrands⟩
  rw [List.append_nil, List.flatMap_singleton]
  exact hbrings

/-- One request more, or the last one. Of the rest it is only used that a connection over it stands
as well, from whatever worker and sink this request leaves. -/
theorem serveFrom_request (hc : c.framing = .mbap) {served : Nat} {w : Worker} {line rest : Line}
    {sink : Sink} {raw : Octets} {request : Frame} (hpending : sink.pending = [])
    (htimely : (c.serveFrom schedule served w line sink).ending ≠ c.timedOut)
    (hread : c.framing.readFrame line = (.ok (some raw), rest)) (hwhole : Mbap.IsWhole raw)
    (hbrings : line.Brings raw rest) (hdecode : Frame.decodeTcp raw = .ok request)
    (hrest : ∀ w' sink', sink'.pending = [] →
      (c.serveFrom schedule (served + 1) w' rest sink').ending ≠ c.timedOut →
      c.Stands schedule (served + 1) w' rest sink'
        (c.serveFrom schedule (served + 1) w' rest sink')) :
    c.Stands schedule served w line sink (c.serveFrom schedule served w line sink) := by
  obtain ⟨hrequest, hencode⟩ := hwhole.isRequest hdecode
  have hdecodes : c.framing.decode raw = .ok request := by rw [hc]; exact hdecode
  have hexecutes : c.framing.executes request.unit = true := by rw [hc]; rfl
  have hexchanged := exchanged_exchange schedule hc served w hpending request
  generalize hx : c.exchange (c.moment schedule served) (schedule.queued served) w sink request = x
    at hexchanged
  obtain ⟨events, late, hserve⟩ := serveFrom_exchange hread hdecodes hexecutes hx
  rw [hserve] at htimely ⊢
  cases hexchanged with
  | answered hsends =>
    exact .next hrequest (hencode ▸ hbrings) hsends (hrest _ _ hsends.pending htimely)
  | unanswered hstrands => exact .of_strands hpending hrequest (hencode ▸ hbrings) hstrands
  | dropped hlate =>
    exact .of_halts hpending hbrings (.dropped hrequest hencode hlate)
  | overflow hoverflow =>
    exact .of_halts hpending hbrings (.overflow hrequest hencode hoverflow)
  | timedOut hending =>
    rw [hending] at htimely
    exact absurd rfl htimely

/-- A connection over a stream that may break, by the frames that lie on it. -/
theorem serveFrom_stands (hc : c.framing = .mbap) (served : Nat) (w : Worker) (line : Line)
    {sink : Sink} (hpending : sink.pending = [])
    (htimely : (c.serveFrom schedule served w line sink).ending ≠ c.timedOut) :
    c.Stands schedule served w line sink (c.serveFrom schedule served w line sink) := by
  have hmbap : Mbap.readFrame line = c.framing.readFrame line := by rw [hc]; rfl
  match hread : c.framing.readFrame line with
  | (.ok none, rest) =>
    obtain ⟨raw, hraw, -⟩ | ⟨-, behind, hbrings, hends⟩ := Mbap.readFrame_ok (hmbap.trans hread)
    · cases hraw
    · rw [serveFrom_none hread]
      exact .of_halts hpending hbrings (.closed rfl hends)
  | (.error .stalled, rest) =>
    obtain ⟨raw, behind, hbrings, hfails⟩ := Mbap.readFrame_error (hmbap.trans hread)
    rw [serveFrom_stalled hread]
    exact .of_halts hpending hbrings (.waiting hfails)
  | (.error (.failed e), rest) =>
    obtain ⟨raw, behind, hbrings, hfails⟩ := Mbap.readFrame_error (hmbap.trans hread)
    rw [serveFrom_failed hread]
    exact .of_halts hpending hbrings (.failed hfails)
  | (.ok (some raw), rest) =>
    obtain ⟨raw', hraw, hwhole, hbrings⟩ | ⟨hnone, -⟩ := Mbap.readFrame_ok (hmbap.trans hread)
    · obtain rfl := Option.some.inj hraw
      have hmbap' : c.framing.decode raw = Frame.decodeTcp raw := by rw [hc]; rfl
      cases hdecode : Frame.decodeTcp raw with
      | error e =>
        rw [serveFrom_rejected hread (hmbap'.trans hdecode)]
        exact .of_halts hpending hbrings (.rejected hwhole hdecode)
      | ok request =>
        exact serveFrom_request hc hpending htimely hread hwhole hbrings hdecode
          fun w' _ => serveFrom_stands hc (served + 1) w' rest
    · cases hnone
termination_by line.weight
decreasing_by exact Framing.weight_readFrame_lt hread

/-- Whatever comes in, the requests that are executed are the frames at its start. Each of them is
answered, and nothing else is written, unless the connection breaks down over the last answer: a
failed write leaves a proper prefix of it unflushed, and a flush that fails after all writes have
succeeded leaves the whole of it. What ended the connection is the last thing it has looked at. -/
theorem serve_broken_stream (hc : c.framing = .mbap) (schedule : Schedule) (w : Worker)
    (line : Line) (pattern : Nat → Nat → Nat → Uptake)
    (flushFault : Nat → Nat → Option (StreamFault × String))
    (htimely : (c.serve schedule w line { pattern, flushFault }).ending ≠ c.timedOut) :
    let v := c.serve schedule w line { pattern, flushFault }
    let answers := (w.turns (c.calls schedule 0 v.executed)).map (·.response.encode)
    (∀ r ∈ v.executed, Mbap.IsRequest r) ∧
      v.executed.flatMap Frame.encode <+: line.octets ∧
      v.worker = w.afterAll (c.calls schedule 0 v.executed) ∧
      v.sink.taken = v.sink.flushed.flatten.length + v.sink.pending.length ∧
      ∃ (raw : Octets) (behind : Line),
        line.Brings (v.executed.flatMap Frame.encode ++ raw) behind ∧
          ((v.sink.flushed = answers ∧ v.sink.pending = [] ∧
              c.Halts schedule v.executed.length raw behind v.ending v.line) ∨
            (∃ last n writes e, answers = v.sink.flushed ++ [last] ∧ n < last.length ∧
              v.sink.pending = last.take n ∧
              (pattern writes v.sink.taken (last.length - n)).error? = some e ∧
              raw = [] ∧ v.line = behind ∧ v.ending = .failed e) ∨
            ∃ last fault text, answers = v.sink.flushed ++ [last] ∧ v.sink.pending = last ∧
              flushFault v.sink.flushed.length v.sink.taken = some (fault, text) ∧
              raw = [] ∧ v.line = behind ∧ v.ending = .failed (.stream fault text)) := by
  intro v answers
  have hstands : c.Stands schedule 0 w line { pattern, flushFault } v :=
    serveFrom_stands hc 0 w line rfl htimely
  obtain ⟨raw, behind, hbrings, hconcludes⟩ := hstands.streams
  have hfront : v.executed.flatMap Frame.encode <+: line.octets :=
    ⟨raw ++ behind.octets, by rw [hbrings.octets, List.append_assoc]⟩
  refine ⟨hstands.requests, hfront, hstands.worker, ?_⟩
  rw [Nat.zero_add] at hconcludes
  generalize hsink : v.sink = sink at hconcludes
  generalize hending : v.ending = ending at hconcludes
  generalize hrest : v.line = rest at hconcludes
  cases hconcludes with
  | read hsends hhalts =>
    refine ⟨?_, raw, behind, hbrings, .inl ⟨hsends.flushed, hsends.pending, hhalts⟩⟩
    rw [hsends.taken, hsends.flushed, hsends.pending]
    exact Nat.zero_add _
  | @write front last mid _ e hanswers hsends hstrands =>
    obtain ⟨hflushed, htaken, hleft⟩ := hsends.strands_cases hstrands
    have htaken : sink.taken = sink.flushed.flatten.length + sink.pending.length := by
      rw [htaken, hflushed]
      exact congrArg (· + _) (Nat.zero_add _)
    have hanswers : answers = sink.flushed ++ [last] := hflushed ▸ hanswers
    refine ⟨htaken, [], behind, hbrings, .inr ?_⟩
    obtain ⟨n, writes, hn, hpending, herror⟩ | ⟨hpending, fault, text, hfault, rfl⟩ := hleft
    · exact .inl ⟨last, n, writes, e, hanswers, hn, hpending, herror, rfl, rfl, rfl⟩
    · exact .inr ⟨last, fault, text, hanswers, hpending, hfault, rfl, rfl, rfl⟩

/-- The second of two answers is cut short by a write that fails, and the third request is never
read. -/
theorem serve_broken_stream_reset :
    let c : Connection :=
      { session := { transport := .tcp, token := 0 }, framing := .mbap, requestTimeout := ⟨1000⟩ }
    let v := c.serve (.idle (.quiet 0)) .small
      [.data [0, 1, 0], .data [0, 0, 6, 1, 6, 0, 2, 0, 99, 0, 2], .data [0, 0, 0, 6, 1, 3],
        .data [0, 1, 0, 2], .data [0, 3, 0, 0, 0, 6, 1, 6, 0, 0, 0, 7]]
      { pattern := (Sink.eager.failingAfter 15 .connectionReset "reset").pattern }
    v.ending = .failed (.stream .connectionReset "reset") ∧
      v.executed = [.tcp 1 1 6 [0, 2, 0, 99], .tcp 2 1 3 [0, 1, 0, 2]] ∧
      v.worker = Worker.small.afterAll (c.calls (.idle (.quiet 0)) 0 v.executed) ∧
      v.sink.flushed = [[0, 1, 0, 0, 0, 6, 1, 6, 0, 2, 0, 99]] ∧ v.sink.pending = [0, 2, 0] ∧
      v.sink.taken = v.sink.flushed.flatten.length + v.sink.pending.length ∧
      v.line = [.data [0, 3, 0, 0, 0, 6, 1, 6, 0, 0, 0, 7]] := by
  intro c v
  have h := serve_broken_stream rfl (.idle (.quiet 0)) .small
    [.data [0, 1, 0], .data [0, 0, 6, 1, 6, 0, 2, 0, 99, 0, 2], .data [0, 0, 0, 6, 1, 3],
      .data [0, 1, 0, 2], .data [0, 3, 0, 0, 0, 6, 1, 6, 0, 0, 0, 7]]
    (Sink.eager.failingAfter 15 .connectionReset "reset").pattern (fun _ _ => none) (c := c)
    (by decide +kernel)
  exact ⟨by decide +kernel, by decide +kernel, h.2.2.1, by decide +kernel, by decide +kernel,
    h.2.2.2.1, by decide +kernel⟩

-- A response that was taken as a whole stays pending when its flush fails.
example :
    let c : Connection :=
      { session := { transport := .tcp, token := 0 }, framing := .mbap, requestTimeout := ⟨1000⟩ }
    let request := Frame.tcp 1 1 3 [0, 0, 0, 1]
    let v := c.serve (.idle (.quiet 0)) .small [.data request.encode]
      { pattern := Sink.eager.pattern, flushFault := fun _ _ => some (.brokenPipe, "broken pipe") }
    v.executed = [request] ∧ v.ending = .failed (.stream .brokenPipe "broken pipe") ∧
      v.sink.flushed = [] ∧
      v.sink.pending = (Worker.small.turn (c.call (.idle (.quiet 0)) 0 request)).response.encode := by
  decide +kernel

end Connection

end Modbus
