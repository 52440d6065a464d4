import Modbus.Proofs.Queue.Clients

namespace Modbus.Queue.System

variable {ι α : Type} [DecidableEq ι] {w : Worker} {m : Moment} {y y' : System ι α}

theorem work_eq_none_iff : y.work = none ↔ y.phase = .idle ∧ y.queue = [] := by
  unfold work
  split <;> simp_all

/-- At least as many steps as the worker needs for the jobs that are left. -/
def load (y : System ι α) : Nat :=
  3 * y.queue.length +
    match y.phase with
    | .idle => 0
    | .started _ => 2
    | .finished _ _ => 1

theorem load_deliver (y : System ι α) (s : Submission ι α) (outcome : Outcome α) :
    (y.deliver s outcome).load = y.load := by
  rw [deliver_eq]
  rfl

theorem load_work (h : y.work = some y') : y'.load < y.load := by
  cases works_of_work h with
  | drop hidle hqueue hdue =>
    rw [load_deliver]
    simp only [load, pop, hidle, hqueue, List.length_cons]
    omega
  | start hidle hqueue hdue =>
    simp only [load, pop, hidle, hqueue, List.length_cons]
    omega
  | execute hphase =>
    simp only [load, execute, hphase]
    omega
  | answer hphase =>
    rw [deliver_eq]
    simp only [load, hphase]
    omega

theorem Reachable.run (h : Reachable w m y) (n : Nat) : Reachable w m (y.run n) := by
  induction n generalizing y with
  | zero => exact h
  | succ n ih =>
    unfold System.run
    split
    · exact h
    · next hwork => exact ih (h.step (.work hwork))

theorem work_run {n : Nat} (h : y.load ≤ n) : (y.run n).work = none := by
  induction n generalizing y with
  | zero =>
    cases hwork : y.work with
    | none => exact hwork
    | some y' => exact absurd (Nat.lt_of_lt_of_le (load_work hwork) h) (Nat.not_lt_zero _)
  | succ n ih =>
    unfold run
    split
    · next hwork => exact hwork
    · next hwork => exact ih (Nat.le_of_lt_succ (Nat.lt_of_lt_of_le (load_work hwork) h))

theorem submitted_work (h : y.work = some y') : y'.submitted = y.submitted := by
  cases works_of_work h with
  | drop => rw [deliver_eq]; rfl
  | answer => rw [deliver_eq]
  | start | execute => rfl

theorem moment_work (h : y.work = some y') : y'.moment = y.moment := by
  cases works_of_work h with
  | drop => rw [deliver_eq]; rfl
  | answer => rw [deliver_eq]
  | start | execute => rfl

inductive Follows : Client α → Client α → Prop
  | same (c : Client α) : Follows c c
  | answered (number : Nat) (outcome : Outcome α) :
    Follows (.waiting number) (.answered number outcome)

theorem Follows.trans {c c' c'' : Client α} (h : Follows c c') (h' : Follows c' c'') :
    Follows c c'' := by
  cases h with
  | same => exact h'
  | answered number outcome =>
    cases h' with
    | same => exact .answered number outcome

theorem follows_deliver (y : System ι α) (s : Submission ι α) (outcome : Outcome α) (i : ι) :
    Follows (y.clients i) ((y.deliver s outcome).clients i) := by
  rw [client_deliver]
  split
  · next h =>
    obtain ⟨hawaits, rfl⟩ := h
    rw [awaits_iff.1 hawaits]
    exact .answered _ _
  · exact .same _

theorem follows_work (h : y.work = some y') (i : ι) : Follows (y.clients i) (y'.clients i) := by
  cases works_of_work h with
  | drop => exact follows_deliver (y.pop _ _) _ _ i
  | answer => exact follows_deliver y _ _ i
  | start | execute => exact .same _

theorem follows_run (n : Nat) (i : ι) : Follows (y.clients i) ((y.run n).clients i) := by
  induction n generalizing y with
  | zero => exact .same _
  | succ n ih =>
    unfold run
    split
    · exact .same _
    · next hwork => exact (follows_work hwork i).trans ih

theorem submitted_run (n : Nat) : (y.run n).submitted = y.submitted := by
  induction n generalizing y with
  | zero => rfl
  | succ n ih =>
    unfold run
    split
    · rfl
    · next hwork => exact ih.trans (submitted_work hwork)

/-- All that was submitted is taken, and whoever waits gets an answer. -/
structure Drains (y y' : System ι α) : Prop where
  phase : y'.phase = .idle
  queue : y'.queue = []
  taken : y'.taken.map Taking.submission = y.submitted
  clients : ∀ i number, y.clients i = .waiting number →
    ∃ outcome, y'.clients i = .answered number outcome

theorem drains_run (h : Reachable w m y) {n : Nat} (hn : y.load ≤ n) : Drains y (y.run n) := by
  obtain ⟨hphase, hqueue⟩ := work_eq_none_iff.1 (work_run hn)
  have hrun := h.run n
  refine ⟨hphase, hqueue, ?_, ?_⟩
  · have horder := (Books.of_reachable hrun).order
    rwa [hqueue, List.append_nil, submitted_run] at horder
  · intro i number hi
    have hfollows := follows_run (y := y) n i
    rw [hi] at hfollows
    generalize hafter : (y.run n).clients i = c at hfollows
    cases hfollows with
    | same =>
      -- Nothing is left that it could wait for.
      obtain ⟨s, -, -, hmem⟩ := (Attended.of_reachable hrun).waiting i number hafter
      rw [hphase, hqueue] at hmem
      cases hmem
    | answered _ outcome => exact ⟨outcome, rfl⟩

end Modbus.Queue.System
