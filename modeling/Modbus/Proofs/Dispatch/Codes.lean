import Mathlib.Data.List.Basic
import Modbus.DispatchTable

namespace Modbus

/-- Repetitions are erased from an ascending list `a :: l`, when `kept` was kept of the octets before
it, last first. -/
theorem eraseReps_loop {a : UInt8} {l kept : List UInt8} (hl : (a :: l).Pairwise (· ≤ ·))
    (hkept : (a :: kept).Pairwise (· > ·)) :
    (List.eraseRepsBy.loop (· == ·) a l kept).Pairwise (· < ·) ∧
      ∀ c, c ∈ List.eraseRepsBy.loop (· == ·) a l kept ↔ c ∈ kept ∨ c ∈ a :: l := by
  induction l generalizing a kept with
  | nil =>
    rw [List.eraseRepsBy.loop, List.pairwise_reverse]
    refine ⟨hkept, fun c => ?_⟩
    rw [List.mem_reverse, List.mem_cons, List.mem_singleton, or_comm]
  | cons b l ih =>
    obtain ⟨ha, hbl⟩ := List.pairwise_cons.1 hl
    rw [List.eraseRepsBy.loop]
    split
    · next heq =>
      obtain rfl : a = b := eq_of_beq heq
      obtain ⟨hascending, hmem⟩ := ih hbl hkept
      refine ⟨hascending, fun c => (hmem c).trans (or_congr_right ?_)⟩
      rw [List.mem_cons (l := a :: l), or_iff_right_of_imp]
      exact fun hc => hc ▸ List.mem_cons_self
    · next hne =>
      have hlt : a < b := UInt8.lt_of_le_of_ne (ha b List.mem_cons_self) (by simpa using hne)
      have hkept' : (b :: a :: kept).Pairwise (· > ·) := by
        refine List.pairwise_cons.2 ⟨fun c hc => ?_, hkept⟩
        obtain rfl | hc := List.mem_cons.1 hc
        · exact hlt
        · exact UInt8.lt_trans ((List.pairwise_cons.1 hkept).1 c hc) hlt
      obtain ⟨hascending, hmem⟩ := ih hbl hkept'
      refine ⟨hascending, fun c => (hmem c).trans ?_⟩
      simp only [List.mem_cons, or_assoc, or_left_comm]

theorem eraseReps_of_ascending {l : List UInt8} (h : l.Pairwise (· ≤ ·)) :
    l.eraseReps.Pairwise (· < ·) ∧ ∀ c, c ∈ l.eraseReps ↔ c ∈ l := by
  cases l with
  | nil => exact ⟨.nil, fun _ => Iff.rfl⟩
  | cons a l =>
    obtain ⟨hascending, hmem⟩ := eraseReps_loop h (List.pairwise_singleton (· > ·) a)
    exact ⟨hascending, fun c => (hmem c).trans (or_iff_right List.not_mem_nil)⟩

namespace DispatchTable

variable (t : DispatchTable)

theorem sorted_keys :
    (t.native.keys ++ t.contextual.keys).mergeSort.Pairwise (· ≤ ·) := by
  refine (List.pairwise_mergeSort (fun a b c hab hbc => ?_) (fun a b => ?_) _).imp
    of_decide_eq_true
  · exact decide_eq_true (UInt8.le_trans (of_decide_eq_true hab) (of_decide_eq_true hbc))
  · simpa using UInt8.le_total a b

theorem codes_ascending : t.codes.Pairwise (· < ·) :=
  (eraseReps_of_ascending t.sorted_keys).1

theorem isSome_lookup (code : UInt8) :
    (t.lookup code).isSome = ((t.native code).isSome || (t.contextual code).isSome) := by
  cases hn : t.native code <;> simp [lookup, hn]

variable {t}

theorem mem_codes {code : UInt8} : code ∈ t.codes ↔ (t.lookup code).isSome = true := by
  rw [codes, (eraseReps_of_ascending t.sorted_keys).2, List.mem_mergeSort, List.mem_append,
    HandlerMap.mem_keys, HandlerMap.mem_keys, isSome_lookup, Bool.or_eq_true]

end DispatchTable

end Modbus
