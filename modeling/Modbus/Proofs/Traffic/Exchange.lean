import Modbus.Proofs.Connection.Run
import Modbus.Proofs.Traffic.Regular

namespace Modbus

namespace Queue.System

variable {ι α : Type} [DecidableEq ι] {y : System ι α} {s : Submission ι α}
  {rest : List (Submission ι α)}

theorem work_of_dropped (hidle : y.phase = .idle) (hqueue : y.queue = s :: rest)
    (hdropped : s.job.admitted y.worker y.moment (y.awaits s) = false) :
    y.work = some ((y.pop s rest).deliver s (.error .serverClosed)) := by
  simp only [work, hidle, hqueue, take, hdropped, Bool.false_eq_true, if_false]

theorem work_of_admitted (hidle : y.phase = .idle) (hqueue : y.queue = s :: rest)
    (hadmitted : s.job.admitted y.worker y.moment (y.awaits s) = true) :
    y.work = some { y.pop s rest with phase := .started s } := by
  simp only [work, hidle, hqueue, take, hadmitted, if_true]

theorem deliver_of_not_awaits {outcome : Outcome α} (h : y.awaits s = false) :
    y.deliver s outcome = y := if_neg (by rw [h]; exact Bool.false_ne_true)

theorem worker_deliver (y : System ι α) (s : Submission ι α) (outcome : Outcome α) :
    (y.deliver s outcome).worker = y.worker := by rw [deliver_eq]

theorem phase_deliver (y : System ι α) (s : Submission ι α) (outcome : Outcome α) :
    (y.deliver s outcome).phase = y.phase := by rw [deliver_eq]

theorem queue_deliver (y : System ι α) (s : Submission ι α) (outcome : Outcome α) :
    (y.deliver s outcome).queue = y.queue := by rw [deliver_eq]

theorem work_of_started (h : y.phase = .started s) : y.work = some (y.execute s) := by
  simp only [work, h]

theorem work_of_finished {outcome : Outcome α} (h : y.phase = .finished s outcome) :
    y.work = some { y.deliver s outcome with phase := .idle } := by
  simp only [work, h]

end Queue.System

/-- An exchange that ends the connection cancels the session. -/
theorem Connection.cancels_exchange {c : Connection} {m : Moment} {queued : Duration} {w : Worker}
    {sink : Sink} {request : Frame} {ending : Ending}
    (h : (c.exchange m queued w sink request).ending = some ending) : ending.cancels = true := by
  have hsome : ∀ e : Ending, e.cancels = true → some e = some ending → ending.cancels = true :=
    fun e he heq => Option.some.inj heq ▸ he
  unfold exchange at h
  split at h
  · exact hsome _ rfl h
  · dsimp only at h
    split at h
    · exact hsome _ rfl h
    · split at h
      · exact hsome _ rfl h
      · split at h
        · exact hsome _ rfl h
        · split at h
          · split at h
            · cases h
            · exact hsome _ rfl h
          · cases h

namespace Traffic

variable {ι κ α : Type} [DecidableEq ι] [DecidableEq κ] {n : Network ι} {y y' : State ι κ α}
  {i : ι}

/-- A response is written without regard to the stage. -/
theorem Loop.reply_stage (c : Connection) (request response : Frame) (loop : Loop) (stage : Stage) :
    { loop with stage }.reply c request response = loop.reply c request response := by
  unfold reply
  split <;> rfl

structure Waits (n : Network ι) (i : ι) (s : Queue.Submission (ι ⊕ κ) α) (request : Frame)
    (deadline : Time) (y : State ι κ α) : Prop where
  stage : y.stage i = .awaiting s.number request deadline
  client : y.client i = .waiting s.number
  own : s.client = .inl i
  job : s.job = .request ((n.session i).context (some deadline)) request

structure Exchanged (i : ι) (worker : Worker) (loop : Loop) (y : State ι κ α) : Prop where
  worker : y.hub.worker = worker
  loop : y.loops i = loop
  phase : y.hub.phase = .idle
  queue : y.hub.queue = []

theorem Step.work {hub : Queue.System (ι ⊕ κ) α} (h : y.hub.work = some hub) :
    Step n y { y with hub } := .pass (.work h)

namespace Waits

variable {s : Queue.Submission (ι ⊕ κ) α} {request : Frame} {deadline : Time}

omit [DecidableEq ι] [DecidableEq κ] in
theorem awaits (h : Waits n i s request deadline y) : y.hub.awaits s = true :=
  Queue.System.awaits_iff.2 (by rw [h.own]; exact h.client)

theorem client_deliver (h : Waits n i s request deadline y) {hub : Queue.System (ι ⊕ κ) α}
    (hclients : hub.clients = y.hub.clients) (outcome : Queue.Outcome α) :
    (hub.deliver s outcome).clients (.inl i) = .answered s.number outcome := by
  have hawaits : hub.awaits s = true := by
    rw [Queue.System.awaits, hclients]
    exact h.awaits
  rw [Queue.System.client_deliver, if_pos ⟨hawaits, h.own.symm⟩]

theorem not_awaits_leave (h : Waits n i s request deadline y) (exit : Exit) :
    (y.leave i exit).hub.awaits s = false := by
  have hready : (y.leave i exit).hub.clients s.client = .ready := by
    rw [h.own]
    exact State.client_release_self _ i
  rw [Queue.System.awaits, hready]
  rfl

/-- The connection gives its request up, which the worker has not noticed yet. -/
theorem timeOut (h : Waits n i s request deadline y) (hlate : deadline ≤ y.hub.moment.now) :
    ∃ z, Step n y z ∧ z.hub.awaits s = false ∧ z.hub.worker = y.hub.worker ∧
      z.hub.phase = y.hub.phase ∧ z.hub.queue = y.hub.queue ∧
      z.loops i = { y.loops i with stage := .leaving (.ended (n.connection i).timedOut) } :=
  ⟨_, .move (.timeOut h.stage h.client hlate), h.not_awaits_leave _, rfl, rfl, rfl,
    State.loops_setLoop_self _ i _⟩

/-- A request that is given up in the queue is dropped. -/
theorem timeOut_queued (h : Waits n i s request deadline y) (hidle : y.hub.phase = .idle)
    (hqueue : y.hub.queue = [s]) (hlate : deadline ≤ y.hub.moment.now) :
    ∃ y', Steps n y y' ∧ Exchanged i y.hub.worker
      { y.loops i with stage := .leaving (.ended (n.connection i).timedOut) } y' := by
  obtain ⟨z, hleave, hlost, hworker, hphase, hqueue', hloop⟩ := h.timeOut hlate
  have hdropped : s.job.admitted z.hub.worker z.hub.moment (z.hub.awaits s) = false := by
    rw [hlost, h.job]
    rfl
  have hwork : Step n z _ := .work (Queue.System.work_of_dropped (hphase.trans hidle)
    (hqueue'.trans hqueue) hdropped)
  rw [Queue.System.deliver_of_not_awaits (y := z.hub.pop s []) hlost] at hwork
  exact ⟨_, .tail (.single hleave) hwork, hworker, hloop, hphase.trans hidle, rfl⟩

/-- One that is given up while it is executed is executed all the same. -/
theorem timeOut_finished (h : Waits n i s request deadline y) {outcome : Queue.Outcome α}
    (hphase : y.hub.phase = .finished s outcome) (hqueue : y.hub.queue = [])
    (hlate : deadline ≤ y.hub.moment.now) :
    ∃ y', Steps n y y' ∧ Exchanged i y.hub.worker
      { y.loops i with stage := .leaving (.ended (n.connection i).timedOut) } y' := by
  obtain ⟨z, hleave, hlost, hworker, hphase', hqueue', hloop⟩ := h.timeOut hlate
  have hwork : Step n z _ := .work (Queue.System.work_of_finished (hphase'.trans hphase))
  rw [Queue.System.deliver_of_not_awaits hlost] at hwork
  exact ⟨_, .tail (.single hleave) hwork, hworker, hloop, rfl, hqueue'.trans hqueue⟩

/-- One that is dropped while the connection waits for it. -/
theorem refused (h : Waits n i s request deadline y) (hidle : y.hub.phase = .idle)
    (hqueue : y.hub.queue = [s])
    (hdropped : y.hub.worker.take? y.hub.moment true ((n.session i).context (some deadline))
      request = none) :
    ∃ y', Steps n y y' ∧ Exchanged i y.hub.worker
      { y.loops i with stage := .leaving (.ended (.failed .serverClosed)) } y' := by
  have hadmitted : s.job.admitted y.hub.worker y.hub.moment (y.hub.awaits s) = false := by
    rw [h.awaits, h.job, Queue.Job.admitted, hdropped]
    rfl
  have hwork : Step n y _ := .work (Queue.System.work_of_dropped hidle hqueue hadmitted)
  have hclient := h.client_deliver (Eq.refl (y.hub.pop s []).clients) (.error .serverClosed)
  have hfail : Step n { y with hub := (y.hub.pop s []).deliver s (.error .serverClosed) } _ :=
    .move (.fail h.stage hclient)
  refine ⟨_, .tail (.single hwork) hfail, ?_, State.loops_setLoop_self _ i _, ?_, ?_⟩
  · exact Queue.System.worker_deliver _ s _
  · exact (Queue.System.phase_deliver _ s _).trans hidle
  · exact Queue.System.queue_deliver _ s _

/-- One that is executed while the connection waits for it. -/
theorem executed (h : Waits n i s request deadline y) (hidle : y.hub.phase = .idle)
    (hqueue : y.hub.queue = [s]) {handling : Worker.Handling}
    (hadmitted : y.hub.worker.take? y.hub.moment true ((n.session i).context (some deadline))
      request = some handling) (span : Duration) :
    ∃ y', Steps n y y' ∧ Waits n i s request deadline y' ∧
      y'.hub.worker = { y.hub.worker with state := handling.state } ∧
      y'.hub.phase = .finished s (.ok (.response handling.response)) ∧ y'.hub.queue = [] ∧
      y'.hub.moment = y.hub.moment.later span ∧ y'.loops i = y.loops i := by
  have hdue : s.job.admitted y.hub.worker y.hub.moment (y.hub.awaits s) = true := by
    rw [h.awaits, h.job, Queue.Job.admitted, hadmitted]
    rfl
  have hhandling : y.hub.worker.handle y.hub.moment ((n.session i).context (some deadline))
      request = handling := by
    unfold Worker.take? at hadmitted
    split at hadmitted
    · exact Option.some.inj hadmitted
    · cases hadmitted
  have hperform : s.job.perform y.hub.worker y.hub.moment =
      ({ y.hub.worker with state := handling.state }, .ok (.response handling.response)) := by
    rw [h.job, Queue.Job.perform, hhandling]
  have hstart : Step n y _ := .work (Queue.System.work_of_admitted hidle hqueue hdue)
  have hexecute : Step n { y with hub := { y.hub.pop s [] with phase := .started s } } _ :=
    .work (Queue.System.work_of_started rfl)
  have helapse : Step n
    { y with hub := { y.hub.pop s [] with phase := .started s }.execute s } _ :=
      .pass (.elapse span)
  refine ⟨_, .tail (.tail (.single hstart) hexecute) helapse, ⟨h.stage, h.client, h.own, h.job⟩,
    ?_, ?_, rfl, rfl, rfl⟩
  · exact congrArg Prod.fst hperform
  · exact congrArg (fun result => Queue.Phase.finished s result.2) hperform

/-- The response comes, and is written. -/
theorem answered (h : Waits n i s request deadline y) {response : Frame}
    (hphase : y.hub.phase = .finished s (.ok (.response response))) (hqueue : y.hub.queue = []) :
    ∃ y', Steps n y y' ∧ Exchanged i y.hub.worker
      ((y.loops i).reply (n.connection i) request response) y' := by
  have hwork : Step n y _ := .work (Queue.System.work_of_finished hphase)
  have hclient := h.client_deliver rfl (.ok (.response response))
  let hub := { y.hub.deliver s (.ok (.response response)) with phase := .idle }
  let z := ({ y with hub }.release i).setStage i (.answering s.number request response)
  have hrespond : Step n { y with hub } z := .move (.respond h.stage hclient)
  have hz : z.loops i = { y.loops i with stage := .answering s.number request response } :=
    State.loops_setLoop_self _ i _
  have hreply : Step n z _ := .move (.reply (congrArg Loop.stage hz))
  refine ⟨_, .tail (.tail (.single hwork) hrespond) hreply, ?_, ?_, rfl, ?_⟩
  · exact Queue.System.worker_deliver _ s _
  · rw [State.loops_setLoop_self, hz]
    exact Loop.reply_stage _ _ _ _ _
  · exact (Queue.System.queue_deliver _ s _).trans hqueue

end Waits

def Loop.exchanged (x : Connection.Exchange) (loop : Loop) : Loop :=
  { loop with
    stage := x.ending.elim .reading fun ending => .leaving (.ended ending)
    sink := x.sink }

/-- The request is submitted, and some time passes. -/
theorem steps_submit {request : Frame} {deadline : Time} (hstage : y.stage i = .received request)
    (hqueue : y.hub.queue = [])
    (hdeadline : Time.after? y.hub.moment.now (n.connection i).requestTimeout = some deadline)
    (queued : Duration) :
    ∃ s y', Steps n y y' ∧ Waits n i s request deadline y' ∧ y'.hub.worker = y.hub.worker ∧
      y'.hub.phase = y.hub.phase ∧ y'.hub.queue = [s] ∧
      y'.hub.moment = y.hub.moment.later queued ∧
      y'.loops i = { y.loops i with stage := .awaiting s.number request deadline } := by
  have hstamp : Step n y _ := .move (.stamp hstage)
  rw [hdeadline] at hstamp
  let z := y.setStage i (.stamped request deadline)
  have hz : z.loops i = { y.loops i with stage := .stamped request deadline } :=
    State.loops_setLoop_self _ i _
  have hsubmit : Step n z _ := .move (.submit (congrArg Loop.stage hz))
  let z' := z.submit i (n.session i) request deadline
  have hz' : z'.loops i = { y.loops i with
      stage := .awaiting y.hub.submitted.length request deadline } := by
    refine (State.loops_setLoop_self _ i _).trans ?_
    rw [hz]
    rfl
  have helapse : Step n z' _ := .pass (.elapse queued)
  refine ⟨⟨y.hub.submitted.length, .inl i, _⟩, _, .tail (.tail (.single hstamp) hsubmit) helapse,
    ⟨congrArg Loop.stage hz', if_pos rfl, rfl, rfl⟩, rfl, rfl, ?_, rfl, hz'⟩
  exact congrArg (· ++ _) hqueue

/-- What a connection does with a request when nobody else does anything. -/
theorem steps_exchange {request : Frame} (hstage : y.stage i = .received request)
    (hidle : y.hub.phase = .idle) (hqueue : y.hub.queue = []) (queued : Duration) :
    let x := (n.connection i).exchange y.hub.moment queued y.hub.worker (y.loops i).sink request
    ∃ y', Steps n y y' ∧ Exchanged i x.worker ((y.loops i).exchanged x) y' := by
  dsimp only
  unfold Connection.exchange
  split
  · next hafter =>
    have hstamp : Step n y _ := .move (.stamp hstage)
    rw [hafter] at hstamp
    exact ⟨_, .single hstamp, rfl, State.loops_setLoop_self _ i _, hidle, hqueue⟩
  · next deadline hafter =>
    -- The cases of an exchange: late in the queue, dropped, late in the handler, answered.
    obtain ⟨s, z, hsteps, hwaits, hworker, hphase, hsingle, hmoment, hloop⟩ :=
      steps_submit hstage hqueue hafter queued
    have hdeadline := Time.eq_of_after? hafter
    have hnow : z.hub.moment.now = y.hub.moment.now + queued.nanoseconds := by rw [hmoment]; rfl
    have hidle' : z.hub.phase = .idle := hphase.trans hidle
    dsimp only
    split
    · next hlate =>
      obtain ⟨y', hsteps', hend⟩ := hwaits.timeOut_queued hidle' hsingle (by
        rw [hdeadline, hnow]
        exact Nat.add_le_add_left (Nat.le_of_lt hlate) _)
      rw [hworker, hloop] at hend
      exact ⟨y', hsteps.trans hsteps', hend⟩
    · split
      · next hdropped =>
        rw [← hworker, ← hmoment] at hdropped
        obtain ⟨y', hsteps', hend⟩ := hwaits.refused hidle' hsingle hdropped
        rw [hworker, hloop] at hend
        exact ⟨y', hsteps.trans hsteps', hend⟩
      · next handling hadmitted =>
        rw [← hworker, ← hmoment] at hadmitted
        obtain ⟨z', hsteps', hwaits', hworker', hphase', hqueue', hmoment', hloop'⟩ :=
          hwaits.executed hidle' hsingle hadmitted handling.elapsed
        have hnow' : z'.hub.moment.now =
            y.hub.moment.now + queued.nanoseconds + handling.elapsed.nanoseconds := by
          rw [hmoment', ← hnow]
          rfl
        rw [hworker] at hworker'
        rw [hloop] at hloop'
        split
        · next hlate =>
          obtain ⟨y', hsteps'', hend⟩ := hwaits'.timeOut_finished hphase' hqueue' (by
            rw [hdeadline, hnow', Nat.add_assoc]
            exact Nat.add_le_add_left hlate _)
          rw [hworker', hloop'] at hend
          exact ⟨y', (hsteps.trans hsteps').trans hsteps'', hend⟩
        · obtain ⟨y', hsteps'', hend⟩ := hwaits'.answered hphase' hqueue'
          rw [hworker', hloop', Loop.reply_stage, Loop.reply] at hend
          refine ⟨y', (hsteps.trans hsteps').trans hsteps'', ?_⟩
          split
          · next hanswers =>
            rw [if_pos hanswers] at hend
            split
            · next hwrite =>
              rw [hwrite] at hend
              exact hend
            · next hwrite =>
              rw [hwrite] at hend
              exact hend
          · next hanswers =>
            rw [if_neg hanswers] at hend
            exact hend

inductive Visited (c : Connection) (v : Visit) : Worker → Loop → Prop
  | waits {line : Line} (hending : v.ending = .waiting)
    (hread : (Loop.mk .reading line v.sink).read c = none) :
    Visited c v v.worker ⟨.reading, line, v.sink⟩
  | left (hending : v.ending.cancels = true) :
    Visited c v v.worker ⟨.leaving (.ended v.ending), v.line, v.sink⟩

theorem Visited.prepend {c : Connection} {v : Visit} {worker : Worker} {loop : Loop}
    (h : Visited c v worker loop) (executed : List Frame) (events : List Event) :
    Visited c (Connection.prepend executed events v) worker loop := by
  cases h with
  | waits hending hread => exact .waits (v := Connection.prepend executed events v) hending hread
  | left hending => exact .left (v := Connection.prepend executed events v) hending

/-- From here on, with request number `served` as the next, a visit is a run in which nobody else
does anything. Each request is submitted at the moment to which the run has come. -/
def RunsAlone (n : Network ι) (i : ι) (queued : Nat → Duration) (served : Nat) (y : State ι κ α)
    (line : Line) (sink : Sink) : Prop :=
  ∃ (submitted : Nat → Moment) (y' : State ι κ α), Steps n y y' ∧
    ∀ schedule : Schedule, schedule.queued = queued →
      (∀ k, served ≤ k → schedule.submitted k = submitted k) →
      Visited (n.connection i) ((n.connection i).serveFrom schedule served y.hub.worker line sink)
        y'.hub.worker (y'.loops i)

namespace RunsAlone

variable {w : Worker} {now : Time} {queued : Nat → Duration} {served : Nat} {line rest : Line}
  {sink : Sink}

theorem step_read (hloop : y.loops i = ⟨.reading, line, sink⟩) {loop : Loop}
    (hread : (Loop.mk .reading line sink).read (n.connection i) = some loop) :
    Step n y (y.setLoop i loop) :=
  .move (.read (congrArg Loop.stage hloop) (by rw [hloop]; exact hread))

/-- Nothing more is to be read. -/
theorem left (hloop : y.loops i = ⟨.reading, line, sink⟩) {ending : Ending}
    (hending : ending.cancels = true)
    (hread : (Loop.mk .reading line sink).read (n.connection i) =
      some ⟨.leaving (.ended ending), rest, sink⟩)
    (hserve : ∀ schedule, (n.connection i).serveFrom schedule served y.hub.worker line sink =
      (n.connection i).finish y.hub.worker rest sink ending) :
    RunsAlone n i queued served y line sink := by
  refine ⟨fun _ => y.hub.moment, _, .single (step_read hloop hread), fun schedule _ _ => ?_⟩
  rw [hserve, State.loops_setLoop_self]
  exact .left hending

/-- One request more, or the last one. It is submitted at the moment that there is, since its
session is not cancelled before the connection is gone. -/
theorem request (hreach : Reachable n w now y) (hloop : y.loops i = ⟨.reading, line, sink⟩)
    (hidle : y.hub.phase = .idle) (hqueue : y.hub.queue = []) {raw : Octets} {request : Frame}
    (hread : (n.connection i).framing.readFrame line = (.ok (some raw), rest))
    (hdecode : (n.connection i).framing.decode raw = .ok request)
    (hexecutes : (n.connection i).framing.executes request.unit = true)
    (hrest : ∀ (z : State ι κ α) sink', Reachable n w now z → z.loops i = ⟨.reading, rest, sink'⟩ →
      z.hub.phase = .idle → z.hub.queue = [] → RunsAlone n i queued (served + 1) z rest sink') :
    RunsAlone n i queued served y line sink := by
  have hlive : y.hub.moment.cancelled (n.token i) = false := by
    rw [(Regular.of_reachable hreach i).cancelled, State.stage, hloop]
    rfl
  have hstep : Step n y (y.setLoop i ⟨.received request, rest, sink⟩) :=
    step_read hloop (by simp only [Loop.read, hread, hdecode, hexecutes, if_true])
  have hreceived := y.loops_setLoop_self i ⟨.received request, rest, sink⟩
  obtain ⟨z, hsteps, hend⟩ :=
    steps_exchange (n := n) (congrArg Loop.stage hreceived) hidle hqueue (queued served)
  rw [hreceived] at hend
  generalize hx : (n.connection i).exchange _ (queued served) _ sink request = x at hend
  have hserve {schedule : Schedule} (hqueued : schedule.queued = queued)
      (hsubmitted : schedule.submitted served = y.hub.moment) :=
    have hmoment : (n.connection i).moment schedule served = y.hub.moment := by
      rw [Connection.moment, hsubmitted]
      exact Moment.sparing_of_not_cancelled hlive
    Connection.serveFrom_exchange hread hdecode hexecutes
      (show (n.connection i).exchange ((n.connection i).moment schedule served)
        (schedule.queued served) y.hub.worker sink request = x by rw [hqueued, hmoment]; exact hx)
  cases hending : x.ending with
  | some ending =>
    refine ⟨fun _ => y.hub.moment, z, hsteps.head hstep, fun schedule hqueued hsubmitted => ?_⟩
    obtain ⟨events, late, hvisit⟩ := hserve hqueued (hsubmitted served (Nat.le_refl served))
    rw [hvisit, hending, hend.worker, hend.loop, Loop.exchanged, hending]
    rw [← hx] at hending
    exact .left (Connection.cancels_exchange hending)
  | none =>
    have hreading : z.loops i = ⟨.reading, rest, x.sink⟩ := by
      rw [hend.loop, Loop.exchanged, hending]
      rfl
    obtain ⟨submitted, y', hsteps', hlater⟩ := hrest z x.sink
      (hreach.trans (hsteps.head hstep)) hreading hend.phase hend.queue
    -- This request is submitted now, and those after it as the rest of the run has it.
    refine ⟨fun k => if k = served then y.hub.moment else submitted k, y',
      (hsteps.trans hsteps').head hstep, fun schedule hqueued hsubmitted => ?_⟩
    have hnow := (hsubmitted served (Nat.le_refl served)).trans (if_pos rfl)
    obtain ⟨events, late, hvisit⟩ := hserve hqueued hnow
    have hagain := hlater schedule hqueued fun k hk =>
      (hsubmitted k (Nat.le_of_succ_le hk)).trans (if_neg (Nat.ne_of_gt hk))
    rw [hend.worker] at hagain
    rw [hvisit, hending]
    exact hagain.prepend _ _

end RunsAlone

theorem runsAlone {w : Worker} {now : Time} (queued : Nat → Duration) (served : Nat)
    (y : State ι κ α) (line : Line) (sink : Sink) (hreach : Reachable n w now y)
    (hloop : y.loops i = ⟨.reading, line, sink⟩) (hidle : y.hub.phase = .idle)
    (hqueue : y.hub.queue = []) : RunsAlone n i queued served y line sink := by
  match hread : (n.connection i).framing.readFrame line with
  | (.ok none, rest) =>
    exact .left hloop rfl (by simp only [Loop.read, hread]) fun _ =>
      Connection.serveFrom_none hread
  | (.error .stalled, rest) =>
    refine ⟨fun _ => y.hub.moment, y, .refl, fun schedule _ _ => ?_⟩
    rw [Connection.serveFrom_stalled hread, hloop]
    exact .waits rfl (by simp only [Loop.read, hread])
  | (.error (.failed e), rest) =>
    exact .left hloop rfl (by simp only [Loop.read, hread]) fun _ =>
      Connection.serveFrom_failed hread
  | (.ok (some raw), rest) =>
    match hdecode : (n.connection i).framing.decode raw with
    | .error e =>
      exact .left hloop rfl (by simp only [Loop.read, hread, hdecode]) fun _ =>
        Connection.serveFrom_rejected hread hdecode
    | .ok request =>
      match hexecutes : (n.connection i).framing.executes request.unit with
      | false =>
        have hstep : Step n y (y.setLoop i ⟨.reading, rest, sink⟩) := RunsAlone.step_read hloop
          (by simp only [Loop.read, hread, hdecode, hexecutes, Bool.false_eq_true, if_false])
        obtain ⟨submitted, y', hsteps, hvisit⟩ :=
          runsAlone queued served (y.setLoop i ⟨.reading, rest, sink⟩) rest sink
            (hreach.tail hstep) (y.loops_setLoop_self i _) hidle hqueue
        refine ⟨submitted, y', hsteps.head hstep, fun schedule hqueued hsubmitted => ?_⟩
        rw [Connection.serveFrom_foreign hread hdecode hexecutes]
        exact (hvisit schedule hqueued hsubmitted).prepend _ _
      | true =>
        exact .request hreach hloop hidle hqueue hread hdecode hexecutes
          fun z sink' hreach' hloop' hidle' hqueue' =>
            runsAlone queued (served + 1) z rest sink' hreach' hloop' hidle' hqueue'
termination_by line.weight
decreasing_by all_goals exact Framing.weight_readFrame_lt hread

/-- Serving a connection is one of the things that can happen. -/
theorem reachable_serve (n : Network ι) (i : ι) (w : Worker) (now : Time)
    (queued : Nat → Duration) :
    ∃ (submitted : Nat → Moment) (y : State ι κ α), Reachable n w now y ∧
      Visited (n.connection i)
        ((n.connection i).serve ⟨submitted, queued⟩ w (n.line i) (n.sink i))
        y.hub.worker (y.loops i) := by
  obtain ⟨submitted, y, hsteps, hvisit⟩ :=
    runsAlone queued 0 (start n w now : State ι κ α) (n.line i) (n.sink i) .refl rfl rfl rfl
  exact ⟨submitted, y, hsteps, hvisit ⟨submitted, queued⟩ rfl fun _ _ => rfl⟩

end Traffic

end Modbus
