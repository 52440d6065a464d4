import Mathlib.Logic.Relation
import Modbus.Proofs.Queue.Linearization

namespace Modbus.Queue

variable {ι α : Type}

abbrev System.Steps [DecidableEq ι] : System ι α → System ι α → Prop :=
  Relation.ReflTransGen System.Step

theorem System.Reachable.steps [DecidableEq ι] {w : Worker} {m : Moment} {y y' : System ι α}
    (h : System.Reachable w m y) (hsteps : System.Steps y y') : System.Reachable w m y' := by
  induction hsteps with
  | refl => exact h
  | tail _ hstep ih => exact ih.step hstep

def Job.Carries (token : CancelToken) : Job α → Prop
  | .request context _ => context.token = token
  | .access _ => False

theorem Taking.due_of_cancelled {token : CancelToken} {t : Taking ι α}
    (hcarries : t.submission.job.Carries token) (hcancelled : t.moment.cancelled token = true) :
    t.due = false := by
  obtain ⟨⟨number, client, job⟩, moment, awaited⟩ := t
  cases job with
  | access run => exact hcarries.elim
  | request context frame =>
    have hcontext : context.isCancelled moment = true := by
      rw [RequestContext.isCancelled, hcarries]
      exact hcancelled
    simp only [due, hcontext, Bool.not_true, Bool.and_false, Bool.false_and]

namespace Books

variable {w : Worker} {y : System ι α}

theorem nodup (h : Books w y) : y.submitted.Nodup :=
  List.Pairwise.of_map Submission.number (fun _ _ hne heq => hne (congrArg Submission.number heq))
    (h.nodup_numbers (.refl _))

theorem executed_subset (h : Books w y) :
    y.executed.map Execution.submission ++ y.phase.upcoming ⊆ y.taken.map Taking.submission := by
  rw [h.due]
  exact (List.filter_sublist.map Taking.submission).subset

/-- What is still in the queue was not executed and is not about to be. -/
theorem not_mem_executed (h : Books w y) {s : Submission ι α} (hs : s ∈ y.queue) :
    s ∉ y.executed.map Execution.submission ++ y.phase.upcoming := by
  intro hexecuted
  have hnodup := h.nodup
  rw [← h.order] at hnodup
  exact (List.nodup_append.1 hnodup).2.2 s (h.executed_subset hexecuted) s hs rfl

end Books

/-- What has become of the requests with a token since it was cancelled. Only one that the worker
had started before can still be executed. -/
structure Shut (token : CancelToken) (y y' : System ι α) : Prop where
  cancelled : y'.moment.cancelled token = true
  started : ∀ s ∈ y'.phase.upcoming, s.job.Carries token → s ∈ y.phase.upcoming
  taken : ∃ later, y'.taken = y.taken ++ later ∧
    ∀ t ∈ later, t.submission.job.Carries token → t.due = false
  executed : ∃ later, y'.executed = y.executed ++ later ∧
    ∀ x ∈ later, x.submission.job.Carries token → x.submission ∈ y.phase.upcoming

namespace Shut

variable {token : CancelToken} {y y' y'' : System ι α}

theorem refl (h : y.moment.cancelled token = true) : Shut token y y where
  cancelled := h
  started _ hs _ := hs
  taken := ⟨[], (List.append_nil _).symm, fun _ ht => absurd ht List.not_mem_nil⟩
  executed := ⟨[], (List.append_nil _).symm, fun _ hx => absurd hx List.not_mem_nil⟩

/-- Nothing is taken or executed. -/
theorem idle (h : Shut token y y') (hcancelled : y''.moment.cancelled token = true)
    (hphase : ∀ s ∈ y''.phase.upcoming, s ∈ y'.phase.upcoming) (htaken : y''.taken = y'.taken)
    (hexecuted : y''.executed = y'.executed) : Shut token y y'' where
  cancelled := hcancelled
  started s hs := h.started s (hphase s hs)
  taken := htaken ▸ h.taken
  executed := hexecuted ▸ h.executed

theorem pop (h : Shut token y y') (s : Submission ι α) (rest : List (Submission ι α)) :
    ∃ later, (y'.pop s rest).taken = y.taken ++ later ∧
      ∀ t ∈ later, t.submission.job.Carries token → t.due = false := by
  obtain ⟨later, htaken, hdue⟩ := h.taken
  refine ⟨later ++ [y'.taking s], ?_, fun t ht hcarries => ?_⟩
  · rw [System.pop, htaken, List.append_assoc]
  · rcases List.mem_append.1 ht with ht | ht
    · exact hdue t ht hcarries
    · obtain rfl := List.mem_singleton.1 ht
      exact Taking.due_of_cancelled hcarries h.cancelled

/-- A request with the token that was in the queue when the token was cancelled is never executed.
-/
theorem not_mem_executed {w : Worker} (h : Shut token y y') (hbooks : Books w y)
    {s : Submission ι α} (hs : s ∈ y.queue) (hcarries : s.job.Carries token) :
    s ∉ y'.executed.map Execution.submission := by
  intro hmem
  obtain ⟨x, hx, rfl⟩ := List.mem_map.1 hmem
  obtain ⟨later, hexecuted, hstarted⟩ := h.executed
  refine hbooks.not_mem_executed hs (List.mem_append.2 ?_)
  rw [hexecuted] at hx
  exact (List.mem_append.1 hx).imp List.mem_map_of_mem fun hx => hstarted x hx hcarries

variable [DecidableEq ι]

theorem work (h : Shut token y y') (hwork : y'.work = some y'') : Shut token y y'' := by
  cases System.works_of_work hwork with
  | @drop s rest hidle hqueue hdue =>
    rw [System.deliver_eq]
    exact ⟨h.cancelled, h.started, h.pop s rest, h.executed⟩
  | @start s rest hidle hqueue hdue =>
    refine ⟨h.cancelled, fun s' hs hcarries => ?_, h.pop s rest, h.executed⟩
    -- What is started was due, so it does not have the token.
    rw [List.mem_singleton.1 hs] at hcarries
    have hdropped := Taking.due_of_cancelled (t := y'.taking s) hcarries h.cancelled
    exact absurd (hdue.symm.trans hdropped) (by decide)
  | @execute s hphase =>
    obtain ⟨later, hexecuted, hstarted⟩ := h.executed
    refine ⟨h.cancelled, fun _ hs => absurd hs List.not_mem_nil, h.taken,
      later ++ [⟨s, y'.moment, y'.worker.table⟩], ?_, fun x hx hcarries => ?_⟩
    · rw [System.execute, hexecuted, List.append_assoc]
    · rcases List.mem_append.1 hx with hx | hx
      · exact hstarted x hx hcarries
      · obtain rfl := List.mem_singleton.1 hx
        refine h.started s ?_ hcarries
        rw [hphase]
        exact List.mem_singleton_self s
  | answer hphase =>
    rw [System.deliver_eq]
    exact h.idle h.cancelled (fun _ hs => absurd hs List.not_mem_nil) rfl rfl

theorem step (h : Shut token y y') (hstep : System.Step y' y'') : Shut token y y'' := by
  cases hstep with
  | work hwork => exact h.work hwork
  | cancel token' =>
    refine h.idle ?_ (fun _ hs => hs) rfl rfl
    exact Bool.or_eq_true_iff.2 (.inr h.cancelled)
  | submit | abandon | receive | elapse | install =>
    exact h.idle h.cancelled (fun _ hs => hs) rfl rfl

theorem steps (h : Shut token y y') (hsteps : System.Steps y' y'') : Shut token y y'' := by
  induction hsteps with
  | refl => exact h
  | tail _ hstep ih => exact ih.step hstep

theorem run (h : Shut token y y') (n : Nat) : Shut token y (y'.run n) := by
  induction n generalizing y' with
  | zero => exact h
  | succ n ih =>
    unfold System.run
    split
    · exact h
    · next hwork => exact ih (h.work hwork)

/-- The worker drops the next request if it has the token, and nothing else changes. -/
theorem work_of_carries (h : y.moment.cancelled token = true) (hidle : y.phase = .idle)
    {s : Submission ι α} {rest : List (Submission ι α)} (hqueue : y.queue = s :: rest)
    (hcarries : s.job.Carries token) :
    ∃ y', y.work = some y' ∧ y'.worker = y.worker ∧ y'.queue = rest ∧ y'.phase = .idle ∧
      y'.executed = y.executed := by
  have hdropped := Taking.due_of_cancelled (t := y.taking s) hcarries h
  cases hwork : y.work with
  | none => exact absurd (hqueue.symm.trans (System.work_eq_none_iff.1 hwork).2) nofun
  | some y' =>
    refine ⟨y', rfl, ?_⟩
    cases System.works_of_work hwork with
    | drop hidle' hqueue' hdue =>
      obtain ⟨rfl, rfl⟩ := List.cons.inj (hqueue.symm.trans hqueue')
      rw [System.deliver_eq]
      exact ⟨rfl, rfl, hidle, rfl⟩
    | start hidle' hqueue' hdue =>
      obtain ⟨rfl, rfl⟩ := List.cons.inj (hqueue.symm.trans hqueue')
      exact absurd (hdropped.symm.trans hdue) (by decide)
    | execute hphase | answer hphase => exact absurd (hidle.symm.trans hphase) nofun

/-- Every request with the token that is still in the queue is taken out of it and dropped, if the
worker goes on for long enough. -/
theorem drained {w : Worker} {m : Moment} (h : y.moment.cancelled token = true)
    (hreach : System.Reachable w m y) {n : Nat} (hn : y.load ≤ n) {s : Submission ι α}
    (hs : s ∈ y.queue) (hcarries : s.job.Carries token) :
    ∃ t ∈ (y.run n).taken, t.submission = s ∧ t.due = false := by
  obtain ⟨later, htaken, hdue⟩ := ((refl h).run n).taken
  have hall := (System.drains_run hreach hn).taken
  have horder := (Books.of_reachable hreach).order
  -- What was taken by now is the front of what was submitted, so the queue is what is taken later.
  rw [htaken, List.map_append, ← horder] at hall
  rw [← List.append_cancel_left hall] at hs
  obtain ⟨t, ht, rfl⟩ := List.mem_map.1 hs
  refine ⟨t, ?_, rfl, hdue t ht hcarries⟩
  rw [htaken]
  exact List.mem_append_right _ ht

end Shut

end Modbus.Queue
