import Modbus.Proofs.Queue.Cancelled
import Modbus.Proofs.Traffic.Regular

namespace Modbus.Traffic

variable {ι κ α : Type} [DecidableEq ι] [DecidableEq κ] {n : Network ι} {y y' : State ι κ α}
  {i j : ι}

/-! ### The worker's side -/

/-- Who does not wait for anything any more has given up or got its answer, if it waited at all. -/
theorem State.hub_release (y : State ι κ α) (i : ι) :
    Queue.System.Steps y.hub (y.release i).hub := by
  cases hclient : y.client i with
  | ready =>
    have hsame : (y.release i).hub = y.hub.setClient (.inl i) (y.client i) := by rw [hclient]; rfl
    rw [hsame, State.client, Queue.System.setClient_self]
  | waiting number => exact .single (.abandon hclient)
  | answered number outcome => exact .single (.receive hclient)

theorem Moves.hub (h : Moves (n.connection i) i y y') (hregular : Regular n y i) :
    Queue.System.Steps y.hub y'.hub := by
  cases h with
  | read | stamp | reply => exact .refl
  | submit hstage =>
    refine .single (.submit _ (hregular.client.eq_ready ?_))
    rw [hstage]
    exact nofun
  | refuse | fail | timeOut | stop => exact (y.finish i).hub_release i
  | respond => exact y.hub_release i
  | @hangUp exit =>
    rw [State.hangUp]
    split
    · exact .single (.cancel _ _)
    · exact .refl

theorem Passes.hub {hub hub' : Queue.System (ι ⊕ κ) α} (h : Passes n hub hub') :
    Queue.System.Step hub hub' := by
  cases h with
  | submit job hready => exact .submit job hready
  | abandon hwaits => exact .abandon hwaits
  | receive hanswer => exact .receive hanswer
  | cancel => exact .cancel _ _
  | elapse span => exact .elapse _ span
  | install table => exact .install _ table
  | work hwork => exact .work hwork

theorem Step.hub (h : Step n y y') (hregular : ∀ i, Regular n y i) :
    Queue.System.Steps y.hub y'.hub := by
  cases h with
  | move hmove => exact hmove.hub (hregular _)
  | pass hpass => exact .single hpass.hub

theorem Steps.hub (h : Steps n y y') (hregular : ∀ i, Regular n y i) :
    (∀ i, Regular n y' i) ∧ Queue.System.Steps y.hub y'.hub := by
  induction h with
  | refl => exact ⟨hregular, .refl⟩
  | tail _ hstep ih => exact ⟨Regular.step ih.1 hstep, ih.2.trans (hstep.hub ih.1)⟩

theorem Reachable.hub {w : Worker} {now : Time} (h : Reachable n w now y) :
    Queue.System.Reachable w (.quiet now) y.hub :=
  Queue.System.Reachable.start.steps (Steps.hub h (.start n w now)).2

/-! ### Connections that are gone -/

theorem Moves.isGone {c : Connection} (h : Moves c i y y') : (y.stage i).isGone = false := by
  cases h with
  | stop hsuspended =>
    generalize y.stage i = stage at hsuspended
    cases stage with
    | gone => cases hsuspended
    | _ => rfl
  | read hstage | stamp hstage | submit hstage | refuse hstage | respond hstage | fail hstage
  | timeOut hstage | reply hstage | hangUp hstage => rw [hstage]; rfl

theorem Step.spares_of_gone (h : Step n y y') (hgone : (y.stage i).isGone = true) :
    Spares n i y y' := by
  cases h with
  | @move j _ hmove =>
    -- Whoever moves is not gone, so it is another connection.
    refine hmove.spares fun heq => ?_
    rw [heq, hmove.isGone] at hgone
    cases hgone
  | pass hpass => exact hpass.spares i

theorem Steps.spares_of_gone (h : Steps n y y') (hgone : (y.stage i).isGone = true) :
    Spares n i y y' := by
  induction h with
  | refl => exact .refl y
  | tail _ hstep ih =>
    refine ih.trans (hstep.spares_of_gone ?_)
    rwa [State.stage, ih.loop]

/-- What is left of a session some time after its connection was gone. -/
structure Closed (n : Network ι) (i : ι) (y y' : State ι κ α) : Prop where
  stage : y'.stage i = y.stage i
  cancelled : ∀ deadline,
    ((n.session i).context deadline).isCancelled y'.hub.moment = true
  submitted : ∀ s ∈ y'.hub.submitted, s.client = .inl i → s ∈ y.hub.submitted
  /-- The worker has started none of its requests since. -/
  shut : Queue.Shut (n.token i) y.hub y'.hub
  /-- What was in the queue is not executed. -/
  unexecuted : ∀ s ∈ y.hub.queue, s.job.Carries (n.token i) →
    s ∉ y'.hub.executed.map Queue.Execution.submission
  /-- A request whose turn comes is dropped, which leaves the worker as it is. -/
  dropped : ∀ s rest, y'.hub.phase = .idle → y'.hub.queue = s :: rest →
    s.job.Carries (n.token i) → ∃ hub, y'.hub.work = some hub ∧ hub.worker = y'.hub.worker ∧
      hub.queue = rest ∧ hub.phase = .idle ∧ hub.executed = y'.hub.executed
  /-- The turn comes of every request. -/
  drained : ∀ k, y'.hub.load ≤ k → ∀ s ∈ y'.hub.queue, s.job.Carries (n.token i) →
    ∃ t ∈ (y'.hub.run k).taken, t.submission = s ∧ t.due = false

theorem Steps.closed {w : Worker} {now : Time} (hreach : Reachable n w now y)
    (hgone : (y.stage i).isGone = true) (h : Steps n y y') : Closed n i y y' := by
  have hspares := h.spares_of_gone hgone
  have hcancelled := (Regular.of_reachable hreach i).cancelled.trans hgone
  have hcancelled' := hspares.cancelled.trans hcancelled
  have hhub := Reachable.hub hreach
  have hhub' := Reachable.hub (hreach.trans h)
  have hshut := (Queue.Shut.refl hcancelled).steps (Steps.hub h (Regular.of_reachable hreach)).2
  exact {
    stage := congrArg Loop.stage hspares.loop
    cancelled := fun _ => hcancelled'
    submitted := hspares.submitted
    shut := hshut
    unexecuted := fun s hs hcarries => hshut.not_mem_executed (.of_reachable hhub) hs hcarries
    dropped := fun s rest hidle hqueue hcarries =>
      Queue.Shut.work_of_carries hcancelled' hidle hqueue hcarries
    drained := fun k hk s hs hcarries => Queue.Shut.drained hcancelled' hhub' hk hs hcarries }

/-! ### Connections at any time -/

structure Confined (n : Network ι) (y : State ι κ α) (i : ι) : Prop where
  /-- Every context of the session reports cancelled, just when the connection is gone. -/
  cancelled : ∀ deadline,
    ((n.session i).context deadline).isCancelled y.hub.moment = (y.stage i).isGone
  /-- What the connection submits has a context of the session. -/
  carries : ∀ s ∈ y.hub.submitted, s.client = .inl i → s.job.Carries (n.token i)
  /-- There is at most one request that it has submitted and is not done with. -/
  alone : ∀ s ∈ y.hub.submitted, ∀ s' ∈ y.hub.submitted, s.client = .inl i → s'.client = .inl i →
    s.number ∉ y.finished → s'.number ∉ y.finished → s = s'
  /-- A connection that is left can only cancel its session, and then it is gone. -/
  leaves : ∀ exit, y.stage i = .leaving exit →
    ∀ y', Moves (n.connection i) i y y' ↔ y' = y.hangUp i (n.token i) exit
  /-- Nothing that it does is seen in the context of another session. -/
  foreign : ∀ y', Moves (n.connection i) i y y' → ∀ context : RequestContext,
    context.token ≠ n.token i →
      context.isCancelled y'.hub.moment = context.isCancelled y.hub.moment ∧
        context.isExpired y'.hub.moment = context.isExpired y.hub.moment

theorem Moves.hangUp_iff {exit : Exit} (hstage : y.stage i = .leaving exit) :
    Moves (n.connection i) i y y' ↔ y' = y.hangUp i (n.token i) exit := by
  constructor
  · intro h
    cases h with
    | hangUp hstage' =>
      obtain rfl := Stage.leaving.inj (hstage.symm.trans hstage')
      rfl
    | stop hsuspended =>
      rw [hstage] at hsuspended
      cases hsuspended
    | read hstage' | stamp hstage' | submit hstage' | refuse hstage' | respond hstage'
    | fail hstage' | timeOut hstage' | reply hstage' =>
      exact absurd (hstage.symm.trans hstage') nofun
  · rintro rfl
    exact .hangUp hstage

theorem Moves.foreign (h : Moves (n.connection i) i y y') {context : RequestContext}
    (hforeign : context.token ≠ n.token i) :
    context.isCancelled y'.hub.moment = context.isCancelled y.hub.moment ∧
      context.isExpired y'.hub.moment = context.isExpired y.hub.moment := by
  cases h with
  | hangUp =>
    have hother : (context.token == (n.connection i).session.token) = false :=
      beq_false_of_ne hforeign
    rw [State.hangUp]
    split
    · exact ⟨by simp only [RequestContext.isCancelled, Moment.cancel, hother, Bool.false_or], rfl⟩
    · exact ⟨rfl, rfl⟩
  | read | stamp | submit | refuse | respond | fail | timeOut | reply | stop => exact ⟨rfl, rfl⟩

/-- At any time every connection keeps to itself, and once it is gone its session stays closed,
whatever comes later. -/
theorem sessions_confined {w : Worker} {now : Time} (h : Reachable n w now y) (i : ι) :
    Confined n y i ∧
      ∀ exit, y.stage i = .gone exit → ∀ y', Steps n y y' → Closed n i y y' := by
  have hregular := Regular.of_reachable h i
  have hbooks := Queue.Books.of_reachable (Reachable.hub h)
  refine ⟨⟨fun _ => hregular.cancelled, ?_, ?_, fun exit hstage y' => Moves.hangUp_iff hstage,
    fun y' hmove context hforeign => hmove.foreign hforeign⟩, fun exit hgone y' hsteps => ?_⟩
  · intro s hs hown
    obtain ⟨deadline, request, hjob, -⟩ := hregular.requests s hs hown
    rw [hjob]
    rfl
  · intro s hs s' hs' hown hown' hopen hopen'
    -- Both are the one in flight, and a number belongs to one job only.
    have hflight := (hregular.inFlight s hs hown).resolve_left hopen
    have hflight' := (hregular.inFlight s' hs' hown').resolve_left hopen'
    exact hbooks.eq_of_number hs hs' (Option.some.inj (hflight.symm.trans hflight'))
  · exact Steps.closed h (by rw [hgone]; rfl) hsteps

theorem Steps.run (y : State ι κ α) (k : Nat) : Steps n y { y with hub := y.hub.run k } := by
  induction k generalizing y with
  | zero => exact .refl
  | succ k ih =>
    cases hwork : y.hub.work with
    | none =>
      simp only [Queue.System.run, hwork]
      exact .refl
    | some hub =>
      simp only [Queue.System.run, hwork]
      exact (ih { y with hub }).head (.pass (.work hwork))

def writers : Network Bool where
  connection first :=
    { session := { transport := .tcp, token := if first then 1 else 2 }
      framing := .mbap
      requestTimeout := ⟨1000⟩ }
  line first := if first then [.data (Frame.tcp 1 1 6 [0, 2, 0, 99]).encode] else []
  sink _ := .eager
  own_token := by decide

/-- The worker is busy for as long as the client of the first connection waits. -/
def lateWrite : State Bool Unit Unit :=
  let request := Frame.tcp 1 1 6 [0, 2, 0, 99]
  let exit : Exit := .ended (.failed (.timeout "request" ⟨1000⟩))
  let y : State Bool Unit Unit := start writers .small 0
  let y := { y with hub := y.hub.submit (.inr ()) (.access fun s => (s, .ok ())) }
  let y := y.setLoop true ⟨.received request, [], .eager⟩
  let y := y.setStage true (.stamped request 1000)
  let y := y.submit true (writers.session true) request 1000
  let y := { y with hub.moment := y.hub.moment.later ⟨1000⟩ }
  (y.leave true exit).hangUp true 1 exit

theorem sessions_confined_lateWrite :
    Reachable writers .small 0 lateWrite ∧ lateWrite.hub.queue.length = 2 ∧
      Confined writers lateWrite false ∧
      Closed writers true lateWrite { lateWrite with hub := lateWrite.hub.run 4 } ∧
      (lateWrite.hub.run 4).queue.length = 0 ∧
      (lateWrite.hub.run 4).worker.state.registers.holdingRegisters.cells[2]? = some 0 := by
  have hreach : Reachable writers .small 0 lateWrite := by
    refine .tail (.tail (.tail (.tail (.tail (.tail (.tail .refl (.pass (.submit _ rfl)))
      (.move (.read rfl rfl))) (.move (.stamp rfl))) (.move (.submit rfl)))
      (.pass (.elapse ⟨1000⟩))) (.move (.timeOut rfl rfl ?_))) (.move (.hangUp rfl))
    decide
  refine ⟨hreach, rfl, (sessions_confined hreach false).1,
    (sessions_confined hreach true).2 _ rfl _ (.run _ 4), ?_, ?_⟩
  · decide +kernel
  · decide +kernel

end Modbus.Traffic
