import Modbus.Proofs.Queue.Step

namespace Modbus.Queue

variable {ι α : Type}

/-- What decides about a job when it is taken: somebody waits for the answer, and the context is
neither cancelled nor expired. An access is always due. -/
def Taking.due (t : Taking ι α) : Bool :=
  match t.submission.job with
  | .request context _ =>
    t.awaited && !context.isCancelled t.moment && !context.isExpired t.moment
  | .access _ => true

theorem Taking.admitted_eq_due (w : Worker) (t : Taking ι α) :
    t.submission.job.admitted w t.moment t.awaited = t.due := by
  obtain ⟨⟨number, client, job⟩, m, awaited⟩ := t
  cases job with
  | request context frame =>
    simp only [due, Job.admitted, Worker.take?]
    split
    · next h => rw [h, Option.isSome_some]
    · next h => rw [eq_false_of_ne_true h, Option.isSome_none]
  | access run => rfl

/-- Executes a job again, with the handlers of that moment. -/
def Execution.perform (x : Execution ι α) (w : Worker) : Worker × Outcome α :=
  x.submission.job.perform { w with table := x.table } x.moment

def replay (w : Worker) (executed : List (Execution ι α)) : Worker :=
  executed.foldl (fun w x => (x.perform w).1) w

theorem replay_snoc (w : Worker) (executed : List (Execution ι α)) (x : Execution ι α) :
    replay w (executed ++ [x]) = (x.perform (replay w executed)).1 := List.foldl_append

/-- The replies that are right: of a job that was dropped, and of one that was executed, at its
place among the executed jobs. -/
inductive Justified (w : Worker) (taken : List (Taking ι α)) (executed : List (Execution ι α)) :
    Delivery ι α → Prop
  | dropped {t : Taking ι α} (h : t ∈ taken) (hdue : t.due = false) :
    Justified w taken executed ⟨t.submission, .error .serverClosed⟩
  | executed {before after : List (Execution ι α)} {x : Execution ι α}
    (h : executed = before ++ x :: after) :
    Justified w taken executed ⟨x.submission, (x.perform (replay w before)).2⟩

theorem Justified.after_taking {w : Worker} {taken : List (Taking ι α)}
    {executed : List (Execution ι α)} {d : Delivery ι α} (h : Justified w taken executed d)
    (t : Taking ι α) : Justified w (taken ++ [t]) executed d := by
  cases h with
  | dropped h hdue => exact .dropped (List.mem_append_left _ h) hdue
  | executed h => exact .executed h

theorem Justified.after_execution {w : Worker} {taken : List (Taking ι α)}
    {executed : List (Execution ι α)} {d : Delivery ι α} (h : Justified w taken executed d)
    (x : Execution ι α) : Justified w taken (executed ++ [x]) d := by
  cases h with
  | dropped h hdue => exact .dropped h hdue
  | executed h =>
    rw [h, List.append_assoc, List.cons_append]
    exact .executed rfl

namespace System

variable [DecidableEq ι] {y y' : System ι α}

theorem deliver_eq (y : System ι α) (s : Submission ι α) (outcome : Outcome α) :
    y.deliver s outcome =
      { y with
        clients :=
          if y.awaits s then (y.setClient s.client (.answered s.number outcome)).clients
          else y.clients
        delivered := y.delivered ++ if y.awaits s then [Delivery.mk s outcome] else [] } := by
  unfold deliver
  split
  · rfl
  · rw [List.append_nil]

theorem delivered_deliver_sublist (y : System ι α) (s : Submission ι α) (outcome : Outcome α) :
    ((y.deliver s outcome).delivered.map Delivery.submission).Sublist
      (y.delivered.map Delivery.submission ++ [s]) := by
  rw [deliver_eq, List.map_append]
  refine .append (.refl _) ?_
  split
  · exact .refl _
  · exact List.nil_sublist _

theorem mem_delivered_deliver {s : Submission ι α} {outcome : Outcome α} {d : Delivery ι α}
    (h : d ∈ (y.deliver s outcome).delivered) : d ∈ y.delivered ∨ d = ⟨s, outcome⟩ := by
  rw [deliver_eq] at h
  refine (List.mem_append.1 h).imp_right fun hd => ?_
  split at hd
  · exact List.mem_singleton.1 hd
  · cases hd

inductive Works (y : System ι α) : System ι α → Prop
  | drop {s : Submission ι α} {rest : List (Submission ι α)} (hidle : y.phase = .idle)
    (hqueue : y.queue = s :: rest) (hdue : (y.taking s).due = false) :
    Works y ((y.pop s rest).deliver s (.error .serverClosed))
  | start {s : Submission ι α} {rest : List (Submission ι α)} (hidle : y.phase = .idle)
    (hqueue : y.queue = s :: rest) (hdue : (y.taking s).due = true) :
    Works y { y.pop s rest with phase := .started s }
  | execute {s : Submission ι α} (hphase : y.phase = .started s) : Works y (y.execute s)
  | answer {s : Submission ι α} {outcome : Outcome α} (hphase : y.phase = .finished s outcome) :
    Works y { y.deliver s outcome with phase := .idle }

theorem works_of_work (h : y.work = some y') : Works y y' := by
  unfold work at h
  split at h
  · cases h
  · next s rest hidle hqueue =>
    obtain rfl := Option.some.inj h
    have hadmitted : s.job.admitted y.worker y.moment (y.awaits s) = (y.taking s).due :=
      Taking.admitted_eq_due y.worker (y.taking s)
    rw [take, hadmitted]
    split
    · next hdue => exact .start hidle hqueue hdue
    · next hdue => exact .drop hidle hqueue (eq_false_of_ne_true hdue)
  · next hphase =>
    obtain rfl := Option.some.inj h
    exact .execute hphase
  · next hphase =>
    obtain rfl := Option.some.inj h
    exact .answer hphase

end System

structure Books (w : Worker) (y : System ι α) : Prop where
  /-- Jobs are taken in the order in which they were submitted. -/
  order : y.taken.map Taking.submission ++ y.queue = y.submitted
  numbers : y.submitted.map Submission.number = List.range y.submitted.length
  /-- Those that were due, and no others, are executed, in the same order. -/
  due : y.executed.map Execution.submission ++ y.phase.upcoming =
    (y.taken.filter Taking.due).map Taking.submission
  /-- The worker is as the executed jobs left it, up to handlers that were installed since. -/
  replayed : { replay w y.executed with table := y.worker.table } = y.worker
  finished : ∀ s outcome, y.phase = .finished s outcome →
    Justified w y.taken y.executed ⟨s, outcome⟩
  delivered : ∀ d ∈ y.delivered, Justified w y.taken y.executed d
  /-- Jobs are answered in the order in which they were taken, but not all of them. -/
  answers : (y.delivered.map Delivery.submission ++ y.phase.held).Sublist
    (y.taken.map Taking.submission)
  dropped : ∀ t ∈ y.taken, t.due = false → t.awaited = true →
    ⟨t.submission, .error .serverClosed⟩ ∈ y.delivered

namespace Books

variable {w : Worker} {y y' : System ι α}

/-- Clients and the clock are not in the books. -/
theorem outside (h : Books w y) (m : Moment) (clients : ι → Client α) :
    Books w { y with moment := m, clients } :=
  ⟨h.order, h.numbers, h.due, h.replayed, h.finished, h.delivered, h.answers, h.dropped⟩

theorem install (h : Books w y) (table : DispatchTable) :
    Books w { y with worker.table := table } where
  order := h.order
  numbers := h.numbers
  due := h.due
  replayed := congrArg (fun v : Worker => { v with table }) h.replayed
  finished := h.finished
  delivered := h.delivered
  answers := h.answers
  dropped := h.dropped

theorem answered_sublist (h : Books w y) :
    (y.delivered.map Delivery.submission).Sublist (y.taken.map Taking.submission) :=
  (List.sublist_append_left _ y.phase.held).trans h.answers

theorem pop_order (h : Books w y) {s : Submission ι α} {rest : List (Submission ι α)}
    (hqueue : y.queue = s :: rest) :
    (y.pop s rest).taken.map Taking.submission ++ rest = y.submitted := by
  rw [← h.order, hqueue, System.pop, List.map_append, List.append_assoc]
  rfl

theorem start (h : Books w y) {s : Submission ι α} {rest : List (Submission ι α)}
    (hidle : y.phase = .idle) (hqueue : y.queue = s :: rest) (hdue : (y.taking s).due = true) :
    Books w { y.pop s rest with phase := .started s } := by
  have hbooked := h.due
  rw [hidle, Phase.upcoming, List.append_nil] at hbooked
  refine ⟨h.pop_order hqueue, h.numbers, ?_, h.replayed, ?_, ?_, ?_, ?_⟩
  · simp only [System.pop, List.filter_append, List.filter_cons, hdue, if_true, List.filter_nil,
      List.map_append, hbooked]
    rfl
  · intro s' outcome hphase
    cases hphase
  · intro d hd
    exact (h.delivered d hd).after_taking _
  · simp only [System.pop, List.map_append]
    exact h.answered_sublist.append (.refl _)
  · intro t ht htdue hawaited
    rcases List.mem_append.1 ht with ht | ht
    · exact h.dropped t ht htdue hawaited
    · obtain rfl := List.mem_singleton.1 ht
      exact absurd (hdue.symm.trans htdue) (by decide)

theorem execute (h : Books w y) {s : Submission ι α} (hphase : y.phase = .started s) :
    Books w (y.execute s) := by
  -- The replay ends in the worker at hand, so it does with this job what the worker does.
  have hperform : (Execution.mk s y.moment y.worker.table).perform (replay w y.executed) =
      s.job.perform y.worker y.moment := by
    rw [Execution.perform, h.replayed]
  have hbooked := h.due
  rw [hphase] at hbooked
  have hanswers := h.answers
  rw [hphase] at hanswers
  refine ⟨h.order, h.numbers, ?_, ?_, ?_, ?_, hanswers, h.dropped⟩
  · simp only [System.execute, List.map_append]
    exact (List.append_nil _).trans hbooked
  · simp only [System.execute, replay_snoc, hperform]
  · intro s' outcome hfinished
    obtain ⟨rfl, rfl⟩ := Phase.finished.inj hfinished
    rw [← congrArg Prod.snd hperform]
    exact .executed rfl
  · intro d hd
    exact (h.delivered d hd).after_execution _

variable [DecidableEq ι]

theorem submit (h : Books w y) (i : ι) (job : Job α) : Books w (y.submit i job) where
  order := by
    simp only [System.submit, ← List.append_assoc]
    exact congrArg (· ++ _) h.order
  numbers := by
    simp only [System.submit, List.map_append, List.map_cons, List.map_nil, h.numbers,
      List.length_append, List.length_singleton, List.range_succ]
  due := h.due
  replayed := h.replayed
  finished := h.finished
  delivered := h.delivered
  answers := h.answers
  dropped := h.dropped

theorem drop (h : Books w y) {s : Submission ι α} {rest : List (Submission ι α)}
    (hidle : y.phase = .idle) (hqueue : y.queue = s :: rest) (hdue : (y.taking s).due = false) :
    Books w ((y.pop s rest).deliver s (.error .serverClosed)) := by
  have hdrop : Justified w (y.taken ++ [y.taking s]) y.executed ⟨s, .error .serverClosed⟩ :=
    .dropped (List.mem_append_right _ (List.mem_singleton_self _)) hdue
  have hmem {d : Delivery ι α}
      (hd : d ∈ ((y.pop s rest).deliver s (.error .serverClosed)).delivered) :
      d ∈ y.delivered ∨ d = ⟨s, .error .serverClosed⟩ :=
    System.mem_delivered_deliver (y := y.pop s rest) hd
  have hsublist := System.delivered_deliver_sublist (y.pop s rest) s (.error .serverClosed)
  rw [System.deliver_eq] at hmem hsublist ⊢
  refine ⟨h.pop_order hqueue, h.numbers, ?_, h.replayed, ?_, ?_, ?_, ?_⟩
  · simp only [System.pop, List.filter_append, List.filter_cons, hdue, Bool.false_eq_true,
      if_false, List.filter_nil, List.append_nil]
    exact h.due
  · intro s' outcome hphase
    exact absurd (hidle.symm.trans hphase) (by simp)
  · intro d hd
    rcases hmem hd with hold | rfl
    · exact (h.delivered d hold).after_taking _
    · exact hdrop
  · simp only [System.pop, hidle, Phase.held, List.append_nil, List.map_append]
    simp only [System.pop, List.map_append] at hsublist
    exact hsublist.trans (h.answered_sublist.append (.refl _))
  · intro t ht htdue hawaited
    rcases List.mem_append.1 ht with ht | ht
    · exact List.mem_append_left _ (h.dropped t ht htdue hawaited)
    · obtain rfl := List.mem_singleton.1 ht
      have hwaits : (y.pop s rest).awaits s = true := hawaited
      rw [hwaits]
      exact List.mem_append_right _ (List.mem_singleton_self _)

theorem answer (h : Books w y) {s : Submission ι α} {outcome : Outcome α}
    (hphase : y.phase = .finished s outcome) :
    Books w { y.deliver s outcome with phase := .idle } := by
  have hbooked := h.due
  rw [hphase] at hbooked
  have hanswers := h.answers
  rw [hphase] at hanswers
  have hmem {d : Delivery ι α} (hd : d ∈ (y.deliver s outcome).delivered) :
      d ∈ y.delivered ∨ d = ⟨s, outcome⟩ := System.mem_delivered_deliver hd
  have hsublist := System.delivered_deliver_sublist y s outcome
  rw [System.deliver_eq] at hmem hsublist ⊢
  refine ⟨h.order, h.numbers, hbooked, h.replayed, ?_, ?_, ?_, ?_⟩
  · intro s' outcome' hfinished
    cases hfinished
  · intro d hd
    rcases hmem hd with hold | rfl
    · exact h.delivered d hold
    · exact h.finished s outcome hphase
  · rw [Phase.held, List.append_nil]
    exact hsublist.trans hanswers
  · intro t ht htdue hawaited
    exact List.mem_append_left _ (h.dropped t ht htdue hawaited)

theorem step (h : Books w y) (hstep : System.Step y y') : Books w y' := by
  cases hstep with
  | submit job _ => exact h.submit _ job
  | abandon _ | receive _ | cancel _ | elapse _ => exact h.outside _ _
  | install table => exact h.install table
  | work hwork =>
    cases System.works_of_work hwork with
    | drop hidle hqueue hdue => exact h.drop hidle hqueue hdue
    | start hidle hqueue hdue => exact h.start hidle hqueue hdue
    | execute hphase => exact h.execute hphase
    | answer hphase => exact h.answer hphase

theorem of_reachable {m : Moment} (h : System.Reachable w m y) : Books w y := by
  induction h with
  | start =>
    exact ⟨rfl, rfl, rfl, rfl, fun _ _ h => (by cases h), fun _ h => (by cases h), .refl _,
      fun _ h => (by cases h)⟩
  | step _ hstep ih => exact ih.step hstep

end Books

end Modbus.Queue
