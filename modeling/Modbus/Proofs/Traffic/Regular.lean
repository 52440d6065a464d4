import Modbus.Proofs.Queue.Drain
import Modbus.Proofs.Traffic.Step

namespace Modbus

def Framing.Delivers (f : Framing) (request : Frame) : Prop :=
  ∃ line raw rest, f.readFrame line = (.ok (some raw), rest) ∧ f.decode raw = .ok request

namespace Traffic

namespace Stage

/-- The request was read by the connection, and a connection that is left has its session cancelled.
-/
def IsSound (c : Connection) : Stage → Prop
  | reading => True
  | received request | stamped request _ | awaiting _ request _ | answering _ request _ =>
    c.framing.Delivers request
  | leaving exit | gone exit => exit.cancels = true

/-- A stage in which no request is in flight and the session is not cancelled. -/
structure IsFree (c : Connection) (stage : Stage) : Prop where
  sound : stage.IsSound c
  number? : stage.number? = none
  isGone : stage.isGone = false

inductive Fits {α : Type} : Stage → Queue.Client α → Prop
  | ready {stage : Stage}
    (h : ∀ number request deadline, stage ≠ awaiting number request deadline) :
    Fits stage .ready
  | waiting (number : Nat) (request : Frame) (deadline : Time) :
    Fits (awaiting number request deadline) (.waiting number)
  | answered (number : Nat) (request : Frame) (deadline : Time) (outcome : Queue.Outcome α) :
    Fits (awaiting number request deadline) (.answered number outcome)

theorem Fits.of_number {α : Type} {stage : Stage} (h : stage.number? = none) :
    stage.Fits (.ready : Queue.Client α) := by
  refine .ready fun number request deadline hstage => ?_
  rw [hstage] at h
  cases h

theorem Fits.eq_ready {α : Type} {stage : Stage} {c : Queue.Client α} (h : stage.Fits c)
    (hstage : ∀ number request deadline, stage ≠ awaiting number request deadline) :
    c = .ready := by
  cases h with
  | ready => rfl
  | waiting number request deadline | answered number request deadline =>
    exact absurd rfl (hstage number request deadline)

theorem Fits.follows {α : Type} {stage : Stage} {c c' : Queue.Client α} (h : stage.Fits c)
    (hfollows : Queue.System.Follows c c') : stage.Fits c' := by
  cases hfollows with
  | same => exact h
  | answered number outcome =>
    cases h with
    | waiting number request deadline => exact .answered number request deadline outcome

theorem isFree_ofDeadline {c : Connection} {request : Frame} (h : c.framing.Delivers request)
    (deadline : Option Time) : (ofDeadline request deadline).IsFree c := by
  cases deadline with
  | none => exact ⟨rfl, rfl, rfl⟩
  | some deadline => exact ⟨h, rfl, rfl⟩

end Stage

namespace Loop

variable {c : Connection} {loop : Loop}

theorem isFree_read {loop' : Loop} (h : loop.read c = some loop') : loop'.stage.IsFree c := by
  unfold read at h
  split at h
  · cases h
    exact ⟨rfl, rfl, rfl⟩
  · cases h
  · cases h
    exact ⟨rfl, rfl, rfl⟩
  · next raw rest hread =>
    split at h
    · cases h
      exact ⟨rfl, rfl, rfl⟩
    · next request hdecode =>
      cases h
      dsimp only
      split
      · exact ⟨⟨_, raw, rest, hread, hdecode⟩, rfl, rfl⟩
      · exact ⟨trivial, rfl, rfl⟩

theorem isFree_reply (c : Connection) (request response : Frame) (loop : Loop) :
    (loop.reply c request response).stage.IsFree c := by
  unfold reply
  split
  · split
    · exact ⟨trivial, rfl, rfl⟩
    · exact ⟨rfl, rfl, rfl⟩
  · exact ⟨trivial, rfl, rfl⟩

end Loop

variable {ι κ α : Type} {n : Network ι} {y y' : State ι κ α} {i j : ι}

/-- A step after which a connection stands where it stood. At most an answer has come for it. -/
structure Spares (n : Network ι) (j : ι) (y y' : State ι κ α) : Prop where
  loop : y'.loops j = y.loops j
  client : Queue.System.Follows (y.client j) (y'.client j)
  cancelled : y'.hub.moment.cancelled (n.token j) = y.hub.moment.cancelled (n.token j)
  submitted : ∀ s ∈ y'.hub.submitted, s.client = .inl j → s ∈ y.hub.submitted
  finished : ∀ number ∈ y.finished, number ∈ y'.finished

structure Regular (n : Network ι) (y : State ι κ α) (i : ι) : Prop where
  stage : (y.stage i).IsSound (n.connection i)
  client : (y.stage i).Fits (y.client i)
  /-- The session is cancelled just when the connection is gone. -/
  cancelled : y.hub.moment.cancelled (n.token i) = (y.stage i).isGone
  /-- Whatever the connection has submitted, it is done with, but for the request in flight. -/
  inFlight : ∀ s ∈ y.hub.submitted, s.client = .inl i →
    s.number ∈ y.finished ∨ (y.stage i).number? = some s.number
  /-- It has submitted nothing but requests it has read, in the context of its session. -/
  requests : ∀ s ∈ y.hub.submitted, s.client = .inl i → ∃ deadline request,
    s.job = .request ((n.session i).context (some deadline)) request ∧
      (n.connection i).framing.Delivers request

namespace Spares

theorem refl (y : State ι κ α) : Spares n j y y where
  loop := rfl
  client := .same _
  cancelled := rfl
  submitted _ hs _ := hs
  finished _ hnumber := hnumber

theorem trans {y'' : State ι κ α} (h : Spares n j y y') (h' : Spares n j y' y'') :
    Spares n j y y'' where
  loop := h'.loop.trans h.loop
  client := h.client.trans h'.client
  cancelled := h'.cancelled.trans h.cancelled
  submitted s hs hclient := h.submitted s (h'.submitted s hs hclient) hclient
  finished number hnumber := h'.finished number (h.finished number hnumber)

theorem finish (y : State ι κ α) (i j : ι) : Spares n j y (y.finish i) where
  loop := rfl
  client := .same _
  cancelled := rfl
  submitted _ hs _ := hs
  finished _ hnumber := List.mem_append_left _ hnumber

/-- Nothing changes but clients, and the connection is not one of them. -/
theorem of_clients (y : State ι κ α) {clients : ι ⊕ κ → Queue.Client α}
    (h : clients (.inl j) = y.client j) :
    Spares n j y { y with hub := { y.hub with clients } } where
  loop := rfl
  client := by
    change Queue.System.Follows _ (clients (.inl j))
    rw [h]
    exact .same _
  cancelled := rfl
  submitted _ hs _ := hs
  finished _ hnumber := hnumber

end Spares

namespace Regular

theorem of_spares (h : Regular n y i) (hspares : Spares n i y y') : Regular n y' i := by
  have hstage : y'.stage i = y.stage i := congrArg Loop.stage hspares.loop
  constructor
  · rw [hstage]
    exact h.stage
  · rw [hstage]
    exact h.client.follows hspares.client
  · rw [hstage, hspares.cancelled]
    exact h.cancelled
  · intro s hs hclient
    rw [hstage]
    exact (h.inFlight s (hspares.submitted s hs hclient) hclient).imp_left
      (hspares.finished s.number)
  · intro s hs hclient
    exact h.requests s (hspares.submitted s hs hclient) hclient

/-- The connection goes on to another stage, and submits nothing. If it had a request in flight, it
still has, or is done with it. -/
theorem turn (h : Regular n y i) (hstage : (y'.stage i).IsSound (n.connection i))
    (hclient : (y'.stage i).Fits (y'.client i))
    (hcancelled : y'.hub.moment.cancelled (n.token i) = (y'.stage i).isGone)
    (hsubmitted : y'.hub.submitted = y.hub.submitted)
    (hfinished : ∀ number ∈ y.finished, number ∈ y'.finished)
    (hnumber : ∀ number, (y.stage i).number? = some number →
      number ∈ y'.finished ∨ (y'.stage i).number? = some number) : Regular n y' i where
  stage := hstage
  client := hclient
  cancelled := hcancelled
  inFlight s hs hown := by
    rw [hsubmitted] at hs
    rcases h.inFlight s hs hown with hdone | hflight
    · exact .inl (hfinished _ hdone)
    · exact hnumber _ hflight
  requests s hs hown := h.requests s (hsubmitted ▸ hs) hown

/-- It is done with what it had in flight, and has no other request in flight. -/
theorem free (h : Regular n y i) (hgone : (y.stage i).isGone = false)
    (hfree : (y'.stage i).IsFree (n.connection i)) (hready : y'.client i = .ready)
    (hmoment : y'.hub.moment = y.hub.moment) (hsubmitted : y'.hub.submitted = y.hub.submitted)
    (hfinished : y'.finished = y.finished ++ (y.stage i).number?.toList) : Regular n y' i := by
  refine h.turn hfree.sound ?_ ?_ hsubmitted (fun number hnumber => ?_)
    fun number hflight => .inl ?_
  · rw [hready]
    exact .of_number hfree.number?
  · rw [hmoment, h.cancelled, hgone, hfree.isGone]
  · rw [hfinished]
    exact List.mem_append_left _ hnumber
  · rw [hfinished, hflight]
    exact List.mem_append_right _ (List.mem_singleton_self number)

theorem start (n : Network ι) (w : Worker) (now : Time) (i : ι) :
    Regular n (Traffic.start n w now : State ι κ α) i where
  stage := trivial
  client := .of_number rfl
  cancelled := rfl
  inFlight _ hs := absurd hs List.not_mem_nil
  requests _ hs := absurd hs List.not_mem_nil

end Regular

/-! ### The moves -/

variable [DecidableEq ι]

namespace State

theorem loops_setLoop_self (y : State ι κ α) (i : ι) (loop : Loop) :
    (y.setLoop i loop).loops i = loop := if_pos rfl

theorem loops_setLoop_of_ne (y : State ι κ α) (loop : Loop) (h : j ≠ i) :
    (y.setLoop i loop).loops j = y.loops j := if_neg h

theorem stage_setLoop_self (y : State ι κ α) (i : ι) (loop : Loop) :
    (y.setLoop i loop).stage i = loop.stage :=
  congrArg Loop.stage (y.loops_setLoop_self i loop)

theorem stage_setStage_self (y : State ι κ α) (i : ι) (stage : Stage) :
    (y.setStage i stage).stage i = stage := y.stage_setLoop_self i _

end State

/-- Only the loop of another connection moves. -/
theorem Spares.setLoop (y : State ι κ α) (loop : Loop) (h : j ≠ i) :
    Spares n j y (y.setLoop i loop) where
  loop := y.loops_setLoop_of_ne loop h
  client := .same _
  cancelled := rfl
  submitted _ hs _ := hs
  finished _ hnumber := hnumber

theorem Spares.hangUp (y : State ι κ α) (exit : Exit) (h : j ≠ i) :
    Spares n j y (y.hangUp i (n.token i) exit) where
  loop := y.loops_setLoop_of_ne _ h
  client := .same _
  cancelled := by
    have hother : (n.token j == n.token i) = false :=
      beq_false_of_ne fun heq => h (n.own_token j i heq)
    simp only [State.hangUp]
    split
    · simp only [Moment.cancel, hother, Bool.false_or]
    · rfl
  submitted _ hs _ := hs
  finished _ hnumber := hnumber

theorem Regular.hangUp (h : Regular n y i) {exit : Exit} (hstage : y.stage i = .leaving exit) :
    Regular n (y.hangUp i (n.token i) exit) i := by
  have hexit : exit.cancels = true := by
    have hsound := h.stage
    rwa [hstage] at hsound
  have hgone : (y.hangUp i (n.token i) exit).stage i = .gone exit := y.stage_setStage_self i _
  have hready : y.client i = .ready := h.client.eq_ready (by rw [hstage]; exact nofun)
  refine h.turn ?_ ?_ ?_ rfl (fun _ hn => hn) fun number hflight => ?_
  · rwa [hgone]
  · rw [hgone]
    change Stage.Fits _ (y.client i)
    rw [hready]
    exact .of_number rfl
  · rw [hgone, State.hangUp, hexit, if_pos rfl]
    exact Bool.or_eq_true_iff.2 (.inl (beq_self_eq_true _))
  · rw [hstage] at hflight
    cases hflight

/-- A connection that reads, or goes on with what it has read. -/
theorem Regular.setLoop (h : Regular n y i) {loop : Loop}
    (hloop : loop.stage.IsFree (n.connection i))
    (hfree : (y.stage i).IsFree (n.connection i)) : Regular n (y.setLoop i loop) i := by
  refine h.free hfree.isGone ?_ ?_ rfl rfl ?_
  · rwa [y.stage_setLoop_self]
  · refine h.client.eq_ready fun number request deadline hstage => ?_
    have hnone := hfree.number?
    rw [hstage] at hnone
    cases hnone
  · rw [hfree.number?]
    exact (List.append_nil _).symm

theorem Regular.reply (h : Regular n y i) {number : Nat} {request response : Frame}
    (hstage : y.stage i = .answering number request response) (c : Connection)
    (hc : n.connection i = c) :
    Regular n ((y.finish i).setLoop i ((y.loops i).reply c request response)) i := by
  refine h.free (by rw [hstage]; rfl) ?_ (h.client.eq_ready (by rw [hstage]; exact nofun)) rfl rfl
    rfl
  rw [State.stage_setLoop_self, hc]
  exact Loop.isFree_reply c request response (y.loops i)

variable [DecidableEq κ]

theorem State.client_release_self (y : State ι κ α) (i : ι) : (y.release i).client i = .ready :=
  if_pos rfl

namespace Spares

theorem release (y : State ι κ α) (h : j ≠ i) : Spares n j y (y.release i) :=
  .of_clients y (if_neg fun heq => h (Sum.inl.inj heq))

theorem leave (y : State ι κ α) (exit : Exit) (h : j ≠ i) : Spares n j y (y.leave i exit) :=
  ((finish y i j).trans (release _ h)).trans (setLoop _ _ h)

theorem submit (y : State ι κ α) (session : Session) (request : Frame) (deadline : Time)
    (h : j ≠ i) : Spares n j y (y.submit i session request deadline) where
  loop := y.loops_setLoop_of_ne _ h
  client := by
    have hclient : (y.submit i session request deadline).client j = y.client j :=
      if_neg fun heq => h (Sum.inl.inj heq)
    rw [hclient]
    exact .same _
  cancelled := rfl
  submitted s hs hclient := by
    refine (List.mem_append.1 hs).resolve_right fun hnew => h ?_
    rw [List.mem_singleton.1 hnew] at hclient
    exact (Sum.inl.inj hclient).symm
  finished _ hnumber := hnumber

end Spares

theorem Moves.spares (h : Moves (n.connection i) i y y') (hne : j ≠ i) : Spares n j y y' := by
  cases h with
  | read | stamp => exact .setLoop _ _ hne
  | submit => exact .submit _ _ _ _ hne
  | refuse | fail | timeOut | stop => exact .leave _ _ hne
  | respond => exact (Spares.release y hne).trans (.setLoop _ _ hne)
  | reply => exact (Spares.finish y i j).trans (.setLoop _ _ hne)
  | hangUp => exact .hangUp _ _ hne

/-- What is not done by a connection spares them all. -/
theorem Passes.spares {hub : Queue.System (ι ⊕ κ) α} (h : Passes n y.hub hub) (j : ι) :
    Spares n j y { y with hub } := by
  cases h with
  | @submit k job hready =>
    refine ⟨rfl, .same _, rfl, fun s hs hclient => ?_, fun _ hn => hn⟩
    refine (List.mem_append.1 hs).resolve_right fun hnew => ?_
    rw [List.mem_singleton.1 hnew] at hclient
    cases hclient
  | abandon | receive => exact .of_clients y rfl
  | @cancel token hforeign =>
    have hother : (n.token j == token) = false := beq_false_of_ne (hforeign j).symm
    refine ⟨rfl, .same _, ?_, fun _ hs _ => hs, fun _ hn => hn⟩
    simp only [Moment.cancel, hother, Bool.false_or]
  | elapse | install => exact ⟨rfl, .same _, rfl, fun _ hs _ => hs, fun _ hn => hn⟩
  | work hwork =>
    refine ⟨rfl, Queue.System.follows_work hwork (.inl j), ?_, fun s hs _ => ?_, fun _ hn => hn⟩
    · rw [Queue.System.moment_work hwork]
    · rwa [Queue.System.submitted_work hwork] at hs

namespace Regular

theorem leave (h : Regular n y i) {exit : Exit} (hexit : exit.cancels = true)
    (hgone : (y.stage i).isGone = false) : Regular n (y.leave i exit) i := by
  refine h.free hgone ?_ ((y.finish i).client_release_self i) rfl rfl rfl
  rw [State.leave, State.stage_setStage_self]
  exact ⟨hexit, rfl, rfl⟩

theorem submit (h : Regular n y i) {request : Frame} {deadline : Time}
    (hstage : y.stage i = .stamped request deadline) :
    Regular n (y.submit i (n.session i) request deadline) i := by
  have hdelivers : (n.connection i).framing.Delivers request := by
    have hsound := h.stage
    rwa [hstage] at hsound
  have hawaiting : (y.submit i (n.session i) request deadline).stage i =
      .awaiting y.hub.submitted.length request deadline := y.stage_setStage_self i _
  have hclient : (y.submit i (n.session i) request deadline).client i =
      .waiting y.hub.submitted.length := if_pos rfl
  constructor
  · rwa [hawaiting]
  · rw [hawaiting, hclient]
    exact .waiting _ _ _
  · rw [hawaiting]
    exact h.cancelled.trans (by rw [hstage]; rfl)
  · intro s hs hown
    rw [hawaiting]
    rcases List.mem_append.1 hs with hs | hs
    -- Nothing was in flight, so the connection is done with all it submitted before.
    · refine (h.inFlight s hs hown).imp_right fun hflight => ?_
      rw [hstage] at hflight
      cases hflight
    · rw [List.mem_singleton.1 hs]
      exact .inr rfl
  · intro s hs hown
    rcases List.mem_append.1 hs with hs | hs
    · exact h.requests s hs hown
    · rw [List.mem_singleton.1 hs]
      exact ⟨deadline, request, rfl, hdelivers⟩

theorem respond (h : Regular n y i) {number : Nat} {request : Frame} {deadline : Time}
    (hstage : y.stage i = .awaiting number request deadline) (response : Frame) :
    Regular n ((y.release i).setStage i (.answering number request response)) i := by
  have hsound := h.stage
  rw [hstage] at hsound
  refine h.turn ?_ ?_ ?_ rfl (fun _ hn => hn) fun number' hflight => .inr ?_
  · rwa [State.stage_setStage_self]
  · rw [State.stage_setStage_self]
    change Stage.Fits _ ((y.release i).client i)
    rw [State.client_release_self]
    exact .ready nofun
  · rw [State.stage_setStage_self]
    exact h.cancelled.trans (by rw [hstage]; rfl)
  · rw [hstage] at hflight
    rwa [State.stage_setStage_self]

theorem move (h : Regular n y i) (hmove : Moves (n.connection i) i y y') : Regular n y' i := by
  have hsound := h.stage
  cases hmove with
  | read hstage hread =>
    refine h.setLoop (Loop.isFree_read hread) ?_
    rw [hstage]
    exact ⟨trivial, rfl, rfl⟩
  | stamp hstage =>
    rw [hstage] at hsound
    refine h.setLoop (Stage.isFree_ofDeadline hsound _) ?_
    rw [hstage]
    exact ⟨hsound, rfl, rfl⟩
  | submit hstage => exact h.submit hstage
  | refuse hstage | fail hstage | timeOut hstage => exact h.leave rfl (by rw [hstage]; rfl)
  | respond hstage => exact h.respond hstage _
  | reply hstage => exact h.reply hstage _ rfl
  | stop hsuspended =>
    refine h.leave rfl ?_
    generalize y.stage i = stage at hsuspended
    cases stage with
    | gone => cases hsuspended
    | _ => rfl
  | hangUp hstage => exact h.hangUp hstage

theorem step (h : ∀ i, Regular n y i) (hstep : Step n y y') (j : ι) : Regular n y' j := by
  cases hstep with
  | @move i _ hmove =>
    by_cases hj : j = i
    · subst hj
      exact (h j).move hmove
    · exact (h j).of_spares (hmove.spares hj)
  | pass hpass => exact (h j).of_spares (hpass.spares j)

theorem of_reachable {w : Worker} {now : Time} (h : Reachable n w now y) (i : ι) :
    Regular n y i := by
  induction h generalizing i with
  | refl => exact .start n w now i
  | tail _ hstep ih => exact step ih hstep i

end Regular

end Traffic

end Modbus
