import Modbus.Proofs.Queue.Books

namespace Modbus.Queue

variable {ι α : Type}

namespace Books

variable {w : Worker} {y : System ι α} {s : Submission ι α}

theorem getElem?_number (h : Books w y) (hs : s ∈ y.submitted) :
    y.submitted[s.number]? = some s := by
  obtain ⟨k, hk⟩ := List.mem_iff_getElem?.1 hs
  have hnumber : (y.submitted.map Submission.number)[k]? = some s.number := by
    rw [List.getElem?_map, hk]
    rfl
  rw [h.numbers, List.getElem?_range (List.getElem?_eq_some_iff.1 hk).1] at hnumber
  rwa [← Option.some.inj hnumber]

theorem eq_of_number (h : Books w y) {s' : Submission ι α} (hs : s ∈ y.submitted)
    (hs' : s' ∈ y.submitted) (hnumber : s.number = s'.number) : s = s' := by
  have hfound := h.getElem?_number hs
  rw [hnumber, h.getElem?_number hs'] at hfound
  exact (Option.some.inj hfound).symm

theorem mem_submitted (h : Books w y) (hs : s ∈ y.phase.held ++ y.queue) : s ∈ y.submitted := by
  rw [← h.order]
  rcases List.mem_append.1 hs with hs | hs
  · exact List.mem_append_left _ (h.answers.subset (List.mem_append_right _ hs))
  · exact List.mem_append_right _ hs

end Books

namespace System

theorem awaits_iff {y : System ι α} {s : Submission ι α} :
    y.awaits s = true ↔ y.clients s.client = .waiting s.number := by
  unfold awaits Client.awaits
  split
  · next h => rw [h]; simp
  · next h => rw [h]; simp
  · next h => rw [h]; simp

variable [DecidableEq ι] {y : System ι α}

def last (y : System ι α) (i : ι) : Option (Submission ι α) :=
  (y.submitted.filter fun s => s.client = i).getLast?

theorem mem_of_last {i : ι} {s : Submission ι α} (h : y.last i = some s) :
    s ∈ y.submitted ∧ s.client = i := by
  have hmem := List.mem_filter.1 (List.mem_of_getLast? h)
  exact ⟨hmem.1, of_decide_eq_true hmem.2⟩

theorem last_submit (y : System ι α) (i j : ι) (job : Job α) :
    (y.submit i job).last j =
      if i = j then some ⟨y.submitted.length, i, job⟩ else y.last j := by
  simp only [last, submit, List.filter_append, List.filter_cons, List.filter_nil]
  split
  · next h => rw [if_pos (by simpa using h), List.getLast?_append]; rfl
  · next h => rw [if_neg (by simpa using h), List.append_nil]

theorem setClient_self (y : System ι α) (i : ι) : y.setClient i (y.clients i) = y := by
  have hclients : (fun j => if j = i then y.clients i else y.clients j) = y.clients := by
    funext j
    split
    · next h => rw [h]
    · rfl
  rw [setClient, hclients]

/-- Only who still waits for the job hears of its outcome. -/
theorem client_deliver (y : System ι α) (s : Submission ι α) (outcome : Outcome α) (i : ι) :
    (y.deliver s outcome).clients i =
      if y.awaits s = true ∧ i = s.client then .answered s.number outcome else y.clients i := by
  unfold deliver setClient
  split
  · next h => simp only [h, true_and]
  · next h => rw [if_neg fun hand => h hand.1]

end System

structure Attended [DecidableEq ι] (y : System ι α) : Prop where
  waiting : ∀ i number, y.clients i = .waiting number →
    ∃ s, y.last i = some s ∧ s.number = number ∧ s ∈ y.phase.held ++ y.queue
  answered : ∀ i number outcome, y.clients i = .answered number outcome →
    ∃ s, y.last i = some s ∧ s.number = number ∧ ⟨s, outcome⟩ ∈ y.delivered

namespace Attended

variable [DecidableEq ι] {w : Worker} {y y' : System ι α}

theorem release (h : Attended y) (i : ι) : Attended (y.setClient i .ready) where
  waiting j number hj := by
    simp only [System.setClient] at hj
    split at hj
    · cases hj
    · exact h.waiting j number hj
  answered j number outcome hj := by
    simp only [System.setClient] at hj
    split at hj
    · cases hj
    · exact h.answered j number outcome hj

theorem submit (h : Attended y) (i : ι) (job : Job α) : Attended (y.submit i job) where
  waiting j number hj := by
    rw [System.last_submit]
    simp only [System.submit, System.setClient] at hj ⊢
    split at hj
    · next hji =>
      cases hj
      rw [if_pos hji.symm]
      exact ⟨_, rfl, rfl, by simp⟩
    · next hji =>
      rw [if_neg (Ne.symm hji)]
      obtain ⟨s, hlast, hnumber, hmem⟩ := h.waiting j number hj
      refine ⟨s, hlast, hnumber, ?_⟩
      rw [← List.append_assoc]
      exact List.mem_append_left _ hmem
  answered j number outcome hj := by
    rw [System.last_submit]
    simp only [System.submit, System.setClient] at hj ⊢
    split at hj
    · cases hj
    · next hji =>
      rw [if_neg (Ne.symm hji)]
      exact h.answered j number outcome hj

/-- The worker is done with the job that it has before it. Its client does not wait any more, and
all others wait for jobs behind it. -/
theorem deliver (h : Attended y) (hbooks : Books w y) {s : Submission ι α}
    {rest : List (Submission ι α)} (outcome : Outcome α)
    (hfront : y.phase.held ++ y.queue = s :: rest) (hrest : y'.phase.held ++ y'.queue = rest)
    (hsubmitted : y'.submitted = y.submitted)
    (hclients : y'.clients = (y.deliver s outcome).clients)
    (hdelivered : y'.delivered = (y.deliver s outcome).delivered) : Attended y' := by
  have hlast (i : ι) : y'.last i = y.last i := by rw [System.last, System.last, hsubmitted]
  have hs : s ∈ y.submitted := hbooks.mem_submitted (hfront ▸ List.mem_cons_self)
  constructor
  · intro i number hi
    rw [hlast, hrest]
    rw [hclients, System.client_deliver] at hi
    split at hi
    · cases hi
    · next hleft =>
      obtain ⟨s', hs', hnumber, hmem⟩ := h.waiting i number hi
      refine ⟨s', hs', hnumber, ?_⟩
      rw [hfront] at hmem
      -- Who waited for `s` is answered, so those who still wait, wait for others.
      refine (List.mem_cons.1 hmem).resolve_left fun heq => hleft ?_
      obtain rfl : s'.client = i := (System.mem_of_last hs').2
      subst heq
      exact ⟨System.awaits_iff.2 (hi.trans (by rw [hnumber])), rfl⟩
  · intro i number outcome' hi
    rw [hlast, hdelivered, System.deliver_eq]
    rw [hclients, System.client_deliver] at hi
    split at hi
    · next hanswered =>
      obtain ⟨hawaits, rfl⟩ := hanswered
      cases hi
      -- The client waits for a number, and only one job has it.
      obtain ⟨s', hs', hnumber, -⟩ := h.waiting s.client s.number (System.awaits_iff.1 hawaits)
      obtain rfl := hbooks.eq_of_number (System.mem_of_last hs').1 hs hnumber
      refine ⟨s', hs', rfl, ?_⟩
      rw [hawaits]
      exact List.mem_append_right _ (List.mem_singleton_self _)
    · obtain ⟨s', hs', hnumber, hmem⟩ := h.answered i number outcome' hi
      exact ⟨s', hs', hnumber, List.mem_append_left _ hmem⟩

theorem work (h : Attended y) (hbooks : Books w y) (hwork : y.work = some y') : Attended y' := by
  cases System.works_of_work hwork with
  | @drop s rest hidle hqueue hdue =>
    have hheld : y.phase.held = [] := by rw [hidle]; rfl
    have hfront : y.phase.held ++ y.queue = s :: rest := by rw [hheld, hqueue]; rfl
    refine h.deliver hbooks (.error .serverClosed) hfront ?_ ?_ ?_ ?_
    · rw [System.deliver_eq]
      exact congrArg (· ++ rest) hheld
    · rw [System.deliver_eq]; rfl
    · rw [System.deliver_eq, System.deliver_eq]; rfl
    · rw [System.deliver_eq, System.deliver_eq]; rfl
  | @start s rest hidle hqueue hdue =>
    have hfront : y.phase.held ++ y.queue = [s] ++ rest := by rw [hidle, hqueue]; rfl
    refine ⟨fun i number hi => ?_, h.answered⟩
    have hwaiting := h.waiting i number hi
    rwa [hfront] at hwaiting
  | @execute s hphase =>
    have hheld : y.phase.held = [s] := by rw [hphase]; rfl
    refine ⟨fun i number hi => ?_, h.answered⟩
    have hwaiting := h.waiting i number hi
    rwa [hheld] at hwaiting
  | @answer s outcome hphase =>
    have hfront : y.phase.held ++ y.queue = s :: y.queue := by rw [hphase]; rfl
    refine h.deliver hbooks outcome hfront ?_ ?_ rfl rfl
    · rw [System.deliver_eq]; rfl
    · rw [System.deliver_eq]

theorem of_reachable {m : Moment} (h : System.Reachable w m y) : Attended y := by
  induction h with
  | start => exact ⟨fun _ _ h => (by cases h), fun _ _ _ h => (by cases h)⟩
  | step h hstep ih =>
    cases hstep with
    | submit job _ => exact ih.submit _ job
    | abandon _ | receive _ => exact ih.release _
    | cancel _ | elapse _ | install _ => exact ⟨ih.waiting, ih.answered⟩
    | work hwork => exact ih.work (.of_reachable h) hwork

end Attended

end Modbus.Queue
