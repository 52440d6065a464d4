import Modbus.Proofs.Dispatch.Codes
import Modbus.Proofs.Worker.Standard

namespace Modbus

namespace DispatchTable

inductive Change
  | register (code : UInt8) (h : Handler)
  | unregister (code : UInt8)

def Change.code : Change → UInt8
  | register code _ => code
  | unregister code => code

def change (t : DispatchTable) : Change → DispatchTable
  | .register code (.native h) => t.registerNative code h
  | .register code (.contextual h) => t.registerContextual code h
  | .unregister code => t.unregister code

def changeAll (t : DispatchTable) (changes : List Change) : DispatchTable := changes.foldl change t

def defaults : List Change := StandardFunction.all.map fun f => .register f.code (.native f.handler)

/-- Of the handlers of its kind, `h` is the last one registered for the code since the code was last
removed. -/
def Latest {α : Type} (kind : α → Handler) (history : List Change) (code : UInt8) (h : α) : Prop :=
  ∃ front back, history = front ++ .register code (kind h) :: back ∧
    .unregister code ∉ back ∧ ∀ other, .register code (kind other) ∉ back

theorem changeAll_defaults : empty.changeAll defaults = standard := by
  rw [changeAll, defaults, List.foldl_map]
  rfl

section Latest

variable {α : Type} {kind : α → Handler}

theorem not_latest_nil (code : UInt8) (h : α) : ¬ Latest kind [] code h := by
  rintro ⟨front, back, hsplit, -⟩
  exact List.append_ne_nil_of_right_ne_nil front (List.cons_ne_nil _ _) hsplit.symm

/-- The last change decides, unless it is about another code or another kind of handler. -/
theorem latest_concat {history : List Change} {c : Change} {code : UInt8} {h : α} :
    Latest kind (history ++ [c]) code h ↔
      c = .register code (kind h) ∨
        Latest kind history code h ∧ c ≠ .unregister code ∧
          ∀ other, c ≠ .register code (kind other) := by
  constructor
  · rintro ⟨front, back, hsplit, hremoved, hreplaced⟩
    rcases List.eq_nil_or_concat back with rfl | ⟨back, last, rfl⟩
    · left
      exact List.singleton_inj.1 (List.append_inj' hsplit rfl).2
    · right
      rw [List.concat_eq_append, ← List.cons_append, ← List.append_assoc] at hsplit
      obtain ⟨hfront, hlast⟩ := List.append_inj' hsplit rfl
      obtain rfl : c = last := List.singleton_inj.1 hlast
      simp only [List.concat_eq_append, List.mem_append, List.mem_singleton, not_or]
        at hremoved hreplaced
      exact ⟨⟨front, back, hfront, hremoved.1, fun other => (hreplaced other).1⟩,
        Ne.symm hremoved.2, fun other => Ne.symm (hreplaced other).2⟩
  · rintro (rfl | ⟨⟨front, back, rfl, hremoved, hreplaced⟩, hkeeps, hleaves⟩)
    · exact ⟨history, [], rfl, List.not_mem_nil, fun _ => List.not_mem_nil⟩
    · refine ⟨front, back ++ [c], by rw [List.append_assoc, List.cons_append], ?_, fun other => ?_⟩
      · simp only [List.mem_append, List.mem_singleton, not_or]
        exact ⟨hremoved, hkeeps.symm⟩
      · simp only [List.mem_append, List.mem_singleton, not_or]
        exact ⟨hreplaced other, (hleaves other).symm⟩

end Latest

structure Records (t : DispatchTable) (history : List Change) : Prop where
  native (code : UInt8) (h : NativeHandler) :
    t.native code = some h ↔ Latest .native history code h
  contextual (code : UInt8) (h : ContextHandler) :
    t.contextual code = some h ↔ Latest .contextual history code h

theorem records_empty : empty.Records [] where
  native code h := iff_of_false nofun (not_latest_nil code h)
  contextual code h := iff_of_false nofun (not_latest_nil code h)

/-- A change does to the native handler of a code what it does to the latest one of a history. -/
theorem native_change {t : DispatchTable} {c : Change} {code : UInt8} {h : NativeHandler} :
    (t.change c).native code = some h ↔
      c = .register code (.native h) ∨
        t.native code = some h ∧ c ≠ .unregister code ∧
          ∀ other, c ≠ .register code (.native other) := by
  cases c with
  | unregister target =>
    by_cases hcode : code = target <;> grind [change, unregister]
  | register target handler =>
    cases handler with
    | native handler =>
      by_cases hcode : code = target <;> grind [change, registerNative]
    | contextual handler => grind [change, registerContextual]

theorem contextual_change {t : DispatchTable} {c : Change} {code : UInt8} {h : ContextHandler} :
    (t.change c).contextual code = some h ↔
      c = .register code (.contextual h) ∨
        t.contextual code = some h ∧ c ≠ .unregister code ∧
          ∀ other, c ≠ .register code (.contextual other) := by
  cases c with
  | unregister target =>
    by_cases hcode : code = target <;> grind [change, unregister]
  | register target handler =>
    cases handler with
    | native handler => grind [change, registerNative]
    | contextual handler =>
      by_cases hcode : code = target <;> grind [change, registerContextual]

theorem Records.change {t : DispatchTable} {history : List Change} (ht : t.Records history)
    (c : Change) : (t.change c).Records (history ++ [c]) := by
  constructor
  · intro code h
    rw [native_change, ht.native, latest_concat]
  · intro code h
    rw [contextual_change, ht.contextual, latest_concat]

theorem Records.changeAll {t : DispatchTable} {history : List Change} (ht : t.Records history)
    (changes : List Change) : (t.changeAll changes).Records (history ++ changes) := by
  induction changes generalizing t history with
  | nil => rwa [List.append_nil]
  | cons c changes ih =>
    rw [← List.singleton_append, ← List.append_assoc]
    exact ih (ht.change c)

theorem records_standard : standard.Records defaults := by
  rw [← changeAll_defaults]
  exact records_empty.changeAll defaults

theorem lookup_eq_native {t : DispatchTable} {code : UInt8} {h : NativeHandler} :
    t.lookup code = some (.native h) ↔ t.native code = some h := by
  cases hn : t.native code <;> simp [lookup, hn]

theorem lookup_eq_contextual {t : DispatchTable} {code : UInt8} {h : ContextHandler} :
    t.lookup code = some (.contextual h) ↔ t.contextual code = some h ∧ t.native code = none := by
  cases hn : t.native code <;> simp [lookup, hn]

theorem lookup_eq_none {t : DispatchTable} {code : UInt8} :
    t.lookup code = none ↔ t.native code = none ∧ t.contextual code = none := by
  cases hn : t.native code <;> simp [lookup, hn]

/-- A look-up in a table, by the history of its changes. -/
theorem Records.lookup {t : DispatchTable} {history : List Change} (ht : t.Records history)
    (code : UInt8) :
    (∀ h, t.lookup code = some (.native h) ↔ Latest .native history code h) ∧
      (∀ h, t.lookup code = some (.contextual h) ↔
        Latest .contextual history code h ∧ ∀ other, ¬ Latest .native history code other) ∧
      (t.lookup code = none ↔
        (∀ h, ¬ Latest .native history code h) ∧ ∀ h, ¬ Latest .contextual history code h) := by
  have hnative : t.native code = none ↔ ∀ h, ¬ Latest .native history code h := by
    simp only [← ht.native, Option.eq_none_iff_forall_ne_some, ne_eq]
  have hcontextual : t.contextual code = none ↔ ∀ h, ¬ Latest .contextual history code h := by
    simp only [← ht.contextual, Option.eq_none_iff_forall_ne_some, ne_eq]
  refine ⟨fun h => ?_, fun h => ?_, ?_⟩
  · rw [lookup_eq_native, ht.native]
  · rw [lookup_eq_contextual, ht.contextual, hnative]
  · rw [lookup_eq_none, hnative, hcontextual]

theorem lookup_change_of_ne {t : DispatchTable} {c : Change} {code : UInt8} (hne : code ≠ c.code) :
    (t.change c).lookup code = t.lookup code := by
  match c with
  | .register _ (.native h) => exact t.lookup_registerNative_of_ne h hne
  | .register _ (.contextual h) => exact t.lookup_registerContextual_of_ne h hne
  | .unregister _ => exact t.lookup_unregister_of_ne hne

theorem lookup_changeAll_of_ne {t : DispatchTable} {changes : List Change} {code : UInt8}
    (hne : ∀ c ∈ changes, code ≠ c.code) : (t.changeAll changes).lookup code = t.lookup code := by
  induction changes generalizing t with
  | nil => rfl
  | cons c changes ih =>
    obtain ⟨hc, hchanges⟩ := List.forall_mem_cons.1 hne
    exact (ih hchanges).trans (lookup_change_of_ne hc)

end DispatchTable

/-- What happens to a worker: its table is changed, or it handles a request. A change made while a
handler runs counts as made afterwards, since the handler was looked up before. -/
inductive Occasion
  | change (c : DispatchTable.Change)
  | call (call : Call)

namespace Occasion

def change? : Occasion → Option DispatchTable.Change
  | change c => some c
  | call _ => none

def changes (occasions : List Occasion) : List DispatchTable.Change := occasions.filterMap change?

end Occasion

namespace Worker

def meet (w : Worker) : Occasion → Worker
  | .change c => { w with table := w.table.change c }
  | .call call => w.after call

def meetAll (w : Worker) (occasions : List Occasion) : Worker := occasions.foldl meet w

/-- Requests leave the table alone. -/
theorem table_meetAll (w : Worker) (occasions : List Occasion) :
    (w.meetAll occasions).table = w.table.changeAll (Occasion.changes occasions) := by
  induction occasions generalizing w with
  | nil => rfl
  | cons occasion occasions ih =>
    cases occasion with
    | change c => exact ih (w.meet (.change c))
    | call call => exact ih (w.after call)

/-- Whatever has been registered and removed while requests were served, a code has the handler
that the history of the changes gives it, and the next request is served by the handler of its
code. -/
theorem served_by_latest {w : Worker} {initial : List DispatchTable.Change}
    (hw : w.table = .empty ∧ initial = [] ∨
      w.table = .standard ∧ initial = DispatchTable.defaults)
    (occasions : List Occasion) :
    let now := w.meetAll occasions
    let history := initial ++ Occasion.changes occasions
    (∀ code,
      (∀ h, now.table.lookup code = some (.native h) ↔
        DispatchTable.Latest .native history code h) ∧
      (∀ h, now.table.lookup code = some (.contextual h) ↔
        DispatchTable.Latest .contextual history code h ∧
          ∀ other, ¬ DispatchTable.Latest .native history code other) ∧
      (now.table.lookup code = none ↔
        (∀ h, ¬ DispatchTable.Latest .native history code h) ∧
          ∀ h, ¬ DispatchTable.Latest .contextual history code h)) ∧
    (∀ code more, (∀ c ∈ Occasion.changes more, code ≠ c.code) →
      (now.meetAll more).table.lookup code = now.table.lookup code) ∧
    now.table.codes.Pairwise (· < ·) ∧
    (∀ code, code ∈ now.table.codes ↔ now.table.lookup code ≠ none) ∧
    ∀ call,
      (∀ h, now.table.lookup call.request.function = some h →
        let run := h.invoke now.state call.context call.moment call.request
        (now.turn call).response = (answer call.request run.result).1 ∧
          now.meet (.call call) = { now with state := run.state }) ∧
      (now.table.lookup call.request.function = none →
        (now.turn call).response = call.request.response.withException .illegalFunction ∧
          now.meet (.call call) = now) := by
  intro now history
  have hinitial : w.table.Records initial := by
    rcases hw with ⟨htable, rfl⟩ | ⟨htable, rfl⟩ <;> rw [htable]
    · exact DispatchTable.records_empty
    · exact DispatchTable.records_standard
  have hnow : now.table.Records history := by
    rw [w.table_meetAll]
    exact hinitial.changeAll _
  refine ⟨hnow.lookup, fun code more hmore => ?_, now.table.codes_ascending, fun code => ?_,
    fun call => ⟨fun h => turn_of_lookup, turn_of_lookup_none⟩⟩
  · rw [now.table_meetAll, DispatchTable.lookup_changeAll_of_ne hmore]
  · rw [DispatchTable.mem_codes, Option.isSome_iff_ne_none]

/-- A contextual handler that comes too late for its code, and one that takes the place of a
standard function. -/
theorem served_by_latest_shadowed :
    let vendor : NativeHandler := fun s _ => ⟨s, .ok [], .brief⟩
    let mirror : ContextHandler := fun _ _ request => (.ok request.payload.reverse, .brief)
    let read : Call := ⟨.quiet 0, .detached .tcp 0, .tcp 7 1 3 [0, 0, 0, 1]⟩
    let occasions : List Occasion := [.change (.register 0x41 (.native vendor)),
      .change (.register 0x41 (.contextual mirror)), .call read, .change (.unregister 3),
      .change (.register 3 (.contextual mirror)), .call read]
    let now := small.meetAll occasions
    small.table = .standard ∧
      now.table.lookup 0x41 = some (.native vendor) ∧
      (∀ h, ¬ DispatchTable.Latest .native
        (DispatchTable.defaults ++ Occasion.changes occasions) 3 h) ∧
      now.table.codes = [1, 2, 3, 4, 5, 6, 15, 16, 0x41] ∧
      (now.turn read).response = .tcp 7 1 3 [1, 0, 0, 0] := by
  intro vendor mirror read occasions now
  obtain ⟨hlookup, -, -, -, hserved⟩ := served_by_latest (w := small) (.inr ⟨rfl, rfl⟩) occasions
  have hvendor : DispatchTable.Latest .native
      (DispatchTable.defaults ++ Occasion.changes occasions) 0x41 vendor := by
    refine ⟨DispatchTable.defaults, (Occasion.changes occasions).tail, rfl, ?_, fun other => ?_⟩ <;>
    simp [Occasion.changes, Occasion.change?, occasions]
  have hmirror : now.table.lookup 3 = some (.contextual mirror) := rfl
  have hkeys : now.table.native.keys ++ now.table.contextual.keys =
      [0x41, 16, 15, 6, 5, 4, 2, 1, 3, 0x41] := by decide +kernel
  have hcodes : now.table.codes = [1, 2, 3, 4, 5, 6, 15, 16, 0x41] := by
    rw [DispatchTable.codes, hkeys]
    simp [List.mergeSort, List.eraseReps, List.eraseRepsBy, List.eraseRepsBy.loop]
  exact ⟨rfl, ((hlookup 0x41).1 vendor).2 hvendor, (((hlookup 3).2.1 mirror).1 hmirror).2,
    hcodes, ((hserved read).1 _ hmirror).1⟩

end Worker

end Modbus
