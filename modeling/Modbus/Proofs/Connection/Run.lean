import Modbus.Connection
import Modbus.Proofs.Frame.Codec
import Modbus.Proofs.Sink.Writes
import Modbus.Proofs.Worker.Turns

namespace Modbus

/-- The line holds the frames, one behind the other, and ends behind the last. -/
inductive Framing.Carries (f : Framing) : Line → List Frame → Prop
  | done {line : Line} (h : f.readFrame line = (.ok none, [])) : Carries f line []
  | next {line rest : Line} {raw : Octets} {frame : Frame} {frames : List Frame}
      (hread : f.readFrame line = (.ok (some raw), rest)) (hdecode : f.decode raw = .ok frame)
      (h : Carries f rest frames) : Carries f line (frame :: frames)

namespace Connection

variable (c : Connection) (schedule : Schedule)

def call (served : Nat) (request : Frame) : Call :=
  { moment := (c.moment schedule served).later (schedule.queued served)
    context := c.session.context
      (Time.after? (schedule.submitted served).now c.requestTimeout)
    request }

def calls (served : Nat) : List Frame → List Call
  | [] => []
  | request :: requests => c.call schedule served request :: calls (served + 1) requests

def InTime (served : Nat) (elapsed : Duration) : Prop :=
  ∃ deadline, Time.after? (schedule.submitted served).now c.requestTimeout = some deadline ∧
    (schedule.submitted served).now + (schedule.queued served).nanoseconds + elapsed.nanoseconds <
      deadline

/-- No request times out. -/
def Prompt (served : Nat) (turns : List Turn) : Prop :=
  ∀ i turn, turns[i]? = some turn → c.InTime schedule (served + i) turn.handling.elapsed

def executed (frames : List Frame) : List Frame :=
  frames.filter fun f => c.framing.executes f.unit

/-- The messages that answer requests, without those that only have to be executed. -/
def messages (turns : List Turn) : List Octets :=
  (turns.filter fun t => c.framing.answers t.request.unit).map (·.response.encode)

variable {c schedule}

theorem prompt_nil {served : Nat} : c.Prompt schedule served [] := by
  intro i turn h
  cases h

theorem prompt_cons {served : Nat} {turn : Turn} {turns : List Turn} :
    c.Prompt schedule served (turn :: turns) ↔
      c.InTime schedule served turn.handling.elapsed ∧ c.Prompt schedule (served + 1) turns := by
  constructor
  · intro h
    refine ⟨h 0 turn rfl, fun i turn' hturn => ?_⟩
    rw [Nat.add_right_comm]
    exact h (i + 1) turn' hturn
  · rintro ⟨hturn, hturns⟩ i turn' h
    cases i with
    | zero =>
      obtain rfl : turn = turn' := by simpa using h
      exact hturn
    | succ i =>
      rw [← Nat.add_assoc, Nat.add_right_comm]
      exact hturns i turn' h

theorem messages_cons (turn : Turn) (turns : List Turn) :
    c.messages (turn :: turns) = c.messages [turn] ++ c.messages turns := by
  rw [messages, messages, messages, ← List.map_append, ← List.filter_append, List.singleton_append]

/-- The deadline is one timeout ahead, and the time in the queue counts. -/
theorem InTime.within {served : Nat} {elapsed : Duration} (h : c.InTime schedule served elapsed) :
    Time.after? (schedule.submitted served).now c.requestTimeout =
      some ((schedule.submitted served).now + c.requestTimeout.nanoseconds) ∧
    (schedule.queued served).nanoseconds + elapsed.nanoseconds < c.requestTimeout.nanoseconds := by
  obtain ⟨deadline, hdeadline, hbefore⟩ := h
  obtain rfl := Time.eq_of_after? hdeadline
  rw [Nat.add_assoc] at hbefore
  exact ⟨hdeadline, Nat.lt_of_add_lt_add_left hbefore⟩

/-- A session is not cancelled while it is served. -/
theorem isCancelled_call (served : Nat) (request : Frame) :
    (c.call schedule served request).context.isCancelled (c.call schedule served request).moment =
      false :=
  (schedule.submitted served).cancelled_sparing_self c.session.token

/-- The worker does not drop a request that it gets to before the deadline. -/
theorem take?_call {served : Nat} {elapsed : Duration} (hin : c.InTime schedule served elapsed)
    (w : Worker) (request : Frame) :
    w.take? (c.call schedule served request).moment true (c.call schedule served request).context
      request = some (w.turn (c.call schedule served request)).handling := by
  obtain ⟨hdeadline, hwithin⟩ := hin.within
  have hexpired : (c.call schedule served request).context.isExpired
      (c.call schedule served request).moment = false := by
    simp only [call, hdeadline]
    refine decide_eq_false fun hle => ?_
    have := Nat.le_of_add_le_add_left hle
    omega
  rw [Worker.take?, isCancelled_call, hexpired]
  rfl

/-- A request that is answered in time is executed, and its answer is written. -/
theorem exchange_inTime {served : Nat} {w : Worker} {sink : Sink} {request : Frame}
    (hsink : sink.Takes) (hpending : sink.pending = [])
    (hin : c.InTime schedule served
      (w.turn (c.call schedule served request)).handling.elapsed) :
    ∃ sink' events,
      c.exchange (c.moment schedule served) (schedule.queued served) w sink request =
        ⟨w.after (c.call schedule served request), sink', none, [request], events, []⟩ ∧
      sink.Sends (c.messages [w.turn (c.call schedule served request)]) sink' := by
  obtain ⟨hdeadline, hwithin⟩ := hin.within
  have hcontext : c.session.context
      (some ((schedule.submitted served).now + c.requestTimeout.nanoseconds)) =
        (c.call schedule served request).context := by rw [← hdeadline]; rfl
  have htake : w.take? ((c.moment schedule served).later (schedule.queued served)) true
      (c.call schedule served request).context request =
        some (w.turn (c.call schedule served request)).handling := take?_call hin w request
  -- Neither limit is hit: not that of the queue, and not that of queue and handler together.
  have hqueued : ¬ c.requestTimeout.nanoseconds < (schedule.queued served).nanoseconds := by omega
  have hquick : ¬ c.requestTimeout.nanoseconds ≤ (schedule.queued served).nanoseconds +
      (w.turn (c.call schedule served request)).handling.elapsed.nanoseconds := by omega
  simp only [exchange, now_moment, hdeadline, if_neg hqueued, hcontext, htake, if_neg hquick]
  split
  · next hanswers =>
    obtain ⟨sink', hsend, hsends⟩ := Sink.sends_send hsink hpending
      (w.turn (c.call schedule served request)).handling.response.encode
    rw [hsend, messages, List.filter_cons_of_pos (by exact hanswers)]
    exact ⟨_, _, rfl, hsends⟩
  · next hsilent =>
    rw [messages, List.filter_cons_of_neg (by exact hsilent)]
    exact ⟨_, _, rfl, .refl hpending⟩

theorem serveFrom_none {served : Nat} {w : Worker} {line rest : Line} {sink : Sink}
    (hread : c.framing.readFrame line = (.ok none, rest)) :
    c.serveFrom schedule served w line sink = c.finish w rest sink .closed := by
  rw [serveFrom]
  split <;> simp_all only [Prod.mk.injEq, Except.ok.injEq, reduceCtorEq, false_and]

theorem serveFrom_stalled {served : Nat} {w : Worker} {line rest : Line} {sink : Sink}
    (hread : c.framing.readFrame line = (.error .stalled, rest)) :
    c.serveFrom schedule served w line sink = c.finish w rest sink .waiting := by
  rw [serveFrom]
  split <;> simp_all only [Prod.mk.injEq, Except.error.injEq, reduceCtorEq, false_and]

theorem serveFrom_failed {served : Nat} {w : Worker} {line rest : Line} {sink : Sink}
    {e : ServerError} (hread : c.framing.readFrame line = (.error (.failed e), rest)) :
    c.serveFrom schedule served w line sink = c.finish w rest sink (.failed e) := by
  rw [serveFrom]
  split <;> simp_all only [Prod.mk.injEq, Except.error.injEq, Line.Stop.failed.injEq, reduceCtorEq,
    false_and]

theorem serveFrom_rejected {served : Nat} {w : Worker} {line rest : Line} {sink : Sink}
    {raw : Octets} {e : ServerError} (hread : c.framing.readFrame line = (.ok (some raw), rest))
    (hdecode : c.framing.decode raw = .error e) :
    c.serveFrom schedule served w line sink = c.finish w rest sink (.failed e) := by
  rw [serveFrom]
  split <;> simp_all only [Prod.mk.injEq, Except.ok.injEq, Option.some.injEq, reduceCtorEq,
    false_and]

/-- A frame that is to be executed comes to what its exchange comes to. -/
theorem serveFrom_exchange {served : Nat} {w : Worker} {line rest : Line} {sink : Sink}
    {raw : Octets} {frame : Frame} {x : Exchange}
    (hread : c.framing.readFrame line = (.ok (some raw), rest))
    (hdecode : c.framing.decode raw = .ok frame)
    (hexecutes : c.framing.executes frame.unit = true)
    (hexchange : c.exchange (c.moment schedule served) (schedule.queued served) w sink frame = x) :
    ∃ events late, c.serveFrom schedule served w line sink =
      match x.ending with
      | some ending => ⟨x.worker, rest, x.sink, ending, x.executed, late⟩
      | none =>
        prepend x.executed events (c.serveFrom schedule (served + 1) x.worker rest x.sink) := by
  refine ⟨Event.ofDecoded frame ++ x.events, Event.ofDecoded frame ++ x.events ++
    ((x.ending.elim [] (Ending.events c.session.describe)) ++ x.late), ?_⟩
  rw [serveFrom]
  split <;> simp_all only [Prod.mk.injEq, Except.ok.injEq, Option.some.injEq, reduceCtorEq,
    false_and, if_true]
  obtain ⟨rfl, rfl⟩ := hread
  cases x.ending with
  | none => rfl
  | some ending => simp [prepend, finish]

structure Serves (c : Connection) (schedule : Schedule) (served : Nat) (w : Worker) (sink : Sink)
    (requests : List Frame) (v : Visit) : Prop where
  worker : v.worker = w.afterAll (c.calls schedule served requests)
  executed : v.executed = requests
  sink : sink.Sends (c.messages (w.turns (c.calls schedule served requests))) v.sink
  line : v.line = []
  ending : v.ending = .closed

theorem serveFrom_end {served : Nat} {w : Worker} {line : Line} {sink : Sink}
    (hread : c.framing.readFrame line = (.ok none, [])) (hpending : sink.pending = []) :
    c.Serves schedule served w sink [] (c.serveFrom schedule served w line sink) := by
  rw [serveFrom_none hread]
  exact ⟨rfl, rfl, .refl hpending, rfl, rfl⟩

/-- A frame for another unit leaves nothing but a report. -/
theorem serveFrom_foreign {served : Nat} {w : Worker} {line rest : Line} {sink : Sink}
    {raw : Octets} {frame : Frame} (hread : c.framing.readFrame line = (.ok (some raw), rest))
    (hdecode : c.framing.decode raw = .ok frame)
    (hskips : c.framing.executes frame.unit = false) :
    c.serveFrom schedule served w line sink =
      prepend [] (Event.ofDecoded frame ++ [.frameSkipped frame.unit])
        (c.serveFrom schedule served w rest sink) := by
  rw [serveFrom]
  split <;> simp_all only [Prod.mk.injEq, Except.ok.injEq, reduceCtorEq, false_and,
    Option.some.injEq]
  obtain ⟨rfl, rfl⟩ := hread
  rfl

theorem serveFrom_skipped {served : Nat} {w : Worker} {line rest : Line} {sink : Sink}
    {raw : Octets} {frame : Frame} {requests : List Frame}
    (hread : c.framing.readFrame line = (.ok (some raw), rest))
    (hdecode : c.framing.decode raw = .ok frame)
    (hskips : c.framing.executes frame.unit = false)
    (h : c.Serves schedule served w sink requests (c.serveFrom schedule served w rest sink)) :
    c.Serves schedule served w sink requests (c.serveFrom schedule served w line sink) := by
  rw [serveFrom_foreign hread hdecode hskips]
  exact ⟨h.worker, h.executed, h.sink, h.line, h.ending⟩

theorem serveFrom_executed {served : Nat} {w : Worker} {line rest : Line} {sink sink' : Sink}
    {raw : Octets} {frame : Frame} {requests : List Frame} {events : List Event}
    (hread : c.framing.readFrame line = (.ok (some raw), rest))
    (hdecode : c.framing.decode raw = .ok frame)
    (hexecutes : c.framing.executes frame.unit = true)
    (hexchange : c.exchange (c.moment schedule served) (schedule.queued served) w sink frame =
      ⟨w.after (c.call schedule served frame), sink', none, [frame], events, []⟩)
    (hsends : sink.Sends (c.messages [w.turn (c.call schedule served frame)]) sink')
    (h : c.Serves schedule (served + 1) (w.after (c.call schedule served frame)) sink' requests
      (c.serveFrom schedule (served + 1) (w.after (c.call schedule served frame)) rest sink')) :
    c.Serves schedule served w sink (frame :: requests)
      (c.serveFrom schedule served w line sink) := by
  obtain ⟨events', late, hserve⟩ := serveFrom_exchange hread hdecode hexecutes hexchange
  rw [hserve]
  refine ⟨h.worker, congrArg (frame :: ·) h.executed, ?_, h.line, h.ending⟩
  rw [calls, Worker.turns, messages_cons]
  exact hsends.trans h.sink

/-- The run of a connection by its frames. The worker, the sink and the number of requests served
change from one frame to the next. -/
theorem serveFrom_carries {line : Line} {frames : List Frame} (h : c.framing.Carries line frames)
    {served : Nat} {w : Worker} {sink : Sink} (hsink : sink.Takes) (hpending : sink.pending = [])
    (hprompt : c.Prompt schedule served
      (w.turns (c.calls schedule served (c.executed frames)))) :
    c.Serves schedule served w sink (c.executed frames)
      (c.serveFrom schedule served w line sink) := by
  induction h generalizing served w sink with
  | done hread => exact serveFrom_end hread hpending
  | @next line rest raw frame frames hread hdecode _ ih =>
    cases hexecutes : c.framing.executes frame.unit with
    | false =>
      -- No request is counted, so the schedule does not move on.
      have hexecuted : c.executed (frame :: frames) = c.executed frames :=
        List.filter_cons_of_neg (by simp [hexecutes])
      rw [hexecuted] at hprompt ⊢
      exact serveFrom_skipped hread hdecode hexecutes (ih hsink hpending hprompt)
    | true =>
      have hexecuted : c.executed (frame :: frames) = frame :: c.executed frames :=
        List.filter_cons_of_pos hexecutes
      rw [hexecuted] at hprompt ⊢
      rw [calls, Worker.turns, prompt_cons] at hprompt
      obtain ⟨sink', events, hexchange, hsends⟩ :=
        exchange_inTime hsink hpending hprompt.1
      exact serveFrom_executed hread hdecode hexecutes hexchange hsends
        (ih (hsends.takes hsink) hsends.pending hprompt.2)

end Connection

end Modbus
