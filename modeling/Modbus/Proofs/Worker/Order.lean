import Modbus.Proofs.Worker.Memory
import Modbus.Proofs.Worker.Served

namespace Modbus

namespace StandardFunction

/-- No cell is covered by both requests, or they do no more than look at it. -/
def Apart (f : StandardFunction) (payload : Octets) (g : StandardFunction) (payload' : Octets) :
    Prop :=
  f.bank ≠ g.bank ∨ (f.IsRead ∧ g.IsRead) ∨ ∀ i, ¬ (f.Covers payload i ∧ g.Covers payload' i)

variable {f g : StandardFunction} {payload payload' : Octets}

theorem Apart.symm (h : f.Apart payload g payload') : g.Apart payload' f payload :=
  h.imp Ne.symm (Or.imp And.symm fun hranges i hi => hranges i hi.symm)

section Written

variable {α : Type} {written : UInt8 → Octets → Nat → Option α} {bank : BankName}

/-- A request gives no value to the cells that the other one covers. -/
theorem Apart.written_eq_none (h : f.Apart payload g payload') (hinto : WritesInto written bank)
    {i : Nat} (hbank : g.bank = bank) (hcovers : g.Covers payload' i) :
    written f.code payload i = none := by
  cases hwritten : written f.code payload i with
  | none => rfl
  | some value =>
    obtain ⟨hbank', hcovers'⟩ := hinto.covers hwritten
    rcases h with hbanks | ⟨hread, -⟩ | hranges
    · exact absurd (hbank'.trans hbank.symm) hbanks
    · rw [hinto.read hread] at hwritten
      exact absurd hwritten nofun
    · exact absurd ⟨hcovers', hcovers⟩ (hranges i)

/-- No cell gets a value from both, so it does not matter which of them is the later one. -/
theorem Apart.written_comm (h : f.Apart payload g payload') (hinto : WritesInto written bank)
    (i : Nat) :
    (written g.code payload' i).or (written f.code payload i) =
      (written f.code payload i).or (written g.code payload' i) := by
  cases hwritten : written g.code payload' i with
  | none => rw [Option.none_or, Option.or_none]
  | some value =>
    obtain ⟨hbank, hcovers⟩ := hinto.covers hwritten
    rw [h.written_eq_none hinto hbank hcovers, Option.none_or, Option.or_none]

end Written

/-- What a request writes does not show in the answer to the other one. -/
theorem Apart.answer_eq (h : f.Apart payload g payload') {s s' : SlaveState}
    (hs : Overwrites (coilWritten f.code payload) (registerWritten f.code payload) s s') :
    g.answer s'.registers payload' = g.answer s.registers payload' := by
  refine answer_of_overwrites hs (fun hg i hcovers => ?_) fun hg i hcovers => ?_
  · exact h.written_eq_none writesInto_coils (hg ▸ rfl) hcovers
  · exact h.written_eq_none writesInto_registers (hg ▸ rfl) hcovers

end StandardFunction

namespace Worker

variable {w : Worker}

/-- What a request comes to does not depend on when it is handled, and for whom. -/
theorem turn_of_request (hw : w.table = .standard) {call call' : Call}
    (h : call'.request = call.request) :
    (w.turn call').response = (w.turn call).response ∧ w.after call' = w.after call := by
  have hinvoke := invoke_of_body hw (congrArg Frame.body h)
  obtain ⟨hresponse, hafter⟩ := turn_of_invoke hinvoke
  rw [hresponse, hafter, h]
  exact ⟨rfl, rfl⟩

/-! ### Requests that are refused -/

theorem refuses_of_isException (hw : w.table = .standard) {call : Call}
    (h : (w.turn call).response.isException = true) : ∃ e, w.Refuses call.request e := by
  refine (w.refuses_or_serves call.request).resolve_right ?_
  rintro ⟨f, hcode, hserves⟩
  rw [(isException_eq_false_iff hw hcode).2 hserves] at h
  cases h

/-- What is refused is refused whatever was handled before. -/
theorem Refuses.after (hw : w.table = .standard) {request : Frame} {e : Exception}
    (h : w.Refuses request e) (call : Call) : (w.after call).Refuses request e := by
  cases h with
  | unknown hcode => exact .unknown hcode
  | function hcode h => exact .function hcode (h.alike (overwrites_after hw call).alike)

/-- A client that is refused would have been refused before. -/
theorem isException_after (hw : w.table = .standard) (a b : Call) :
    ((w.after b).turn a).response.isException = (w.turn a).response.isException := by
  have hwb : (w.after b).table = .standard := hw
  obtain ⟨e, hrefuses⟩ | ⟨f, hcode, hserves⟩ := w.refuses_or_serves a.request
  · rw [(hrefuses.turn hw).1, ((hrefuses.after hw b).turn hwb).1]
  · have hserves' := hserves.alike (overwrites_after hw b).alike
    rw [(isException_eq_false_iff hw hcode).2 hserves,
      (isException_eq_false_iff hwb hcode).2 hserves']

/-! ### Either order -/

structure EitherOrder (w : Worker) (a b : Call) : Prop where
  after : (w.after a).after b = (w.after b).after a
  first : ((w.after b).turn a).response = (w.turn a).response
  second : ((w.after a).turn b).response = (w.turn b).response

theorem EitherOrder.symm {a b : Call} (h : w.EitherOrder a b) : w.EitherOrder b a :=
  ⟨h.after.symm, h.second, h.first⟩

theorem Refuses.eitherOrder (hw : w.table = .standard) {a b : Call} {e : Exception}
    (h : w.Refuses a.request e) : w.EitherOrder a b := by
  have hwb : (w.after b).table = .standard := hw
  obtain ⟨hresponse, hafter⟩ := h.turn hw
  obtain ⟨hresponse', hafter'⟩ := (h.after hw b).turn hwb
  exact ⟨by rw [hafter, hafter'], hresponse'.trans hresponse.symm, by rw [hafter]⟩

theorem eitherOrder_of_apart (hw : w.table = .standard) {a b : Call} {f g : StandardFunction}
    (hf : f.code = a.request.function) (hg : g.code = b.request.function)
    (hfserves : f.Serves w.state a.request.payload) (hgserves : g.Serves w.state b.request.payload)
    (h : f.Apart a.request.payload g b.request.payload) : w.EitherOrder a b := by
  have hwa : (w.after a).table = .standard := hw
  have hwb : (w.after b).table = .standard := hw
  obtain ⟨ha, hoverwritesA⟩ := turn_of_serves hw hf hfserves
  obtain ⟨hb, hoverwritesB⟩ := turn_of_serves hw hg hgserves
  -- Limits and sizes stay, so each of the two is served behind the other one as well.
  obtain ⟨ha', hoverwritesA'⟩ := turn_of_serves hwb hf (hfserves.alike hoverwritesB.alike)
  obtain ⟨hb', hoverwritesB'⟩ := turn_of_serves hwa hg (hgserves.alike hoverwritesA.alike)
  have hstate : ((w.after a).after b).state = ((w.after b).after a).state := by
    have hab := hoverwritesA.trans hoverwritesB'
    rw [funext (h.written_comm writesInto_coils), funext (h.written_comm writesInto_registers)] at hab
    exact hab.unique (hoverwritesB.trans hoverwritesA')
  refine ⟨congrArg (fun s => { w with state := s }) hstate, ?_, ?_⟩
  · rw [ha', ha, h.symm.answer_eq hoverwritesB]
  · rw [hb', hb, h.answer_eq hoverwritesA]

/-- Neither of two requests can tell whether the other one came first. -/
inductive Independent (w : Worker) (a b : Call) : Prop
  | banks {f g : StandardFunction} (hf : f.code = a.request.function)
    (hg : g.code = b.request.function) (hbanks : f.bank ≠ g.bank)
  | reads {f g : StandardFunction} (hf : f.code = a.request.function)
    (hg : g.code = b.request.function) (hreads : f.IsRead ∧ g.IsRead)
  | ranges {f g : StandardFunction} (hf : f.code = a.request.function)
    (hg : g.code = b.request.function)
    (hranges : ∀ i, ¬ (f.Covers a.request.payload i ∧ g.Covers b.request.payload i))
  | refused (h : (w.turn a).response.isException = true ∨
      (w.turn b).response.isException = true)
  | refusedLater (h : ((w.after b).turn a).response.isException = true ∨
      ((w.after a).turn b).response.isException = true)

theorem Independent.refuses_or_apart (hw : w.table = .standard) {a b : Call}
    (h : w.Independent a b) :
    (∃ e, w.Refuses a.request e) ∨ (∃ e, w.Refuses b.request e) ∨
      ∃ f g : StandardFunction, f.code = a.request.function ∧ g.code = b.request.function ∧
        f.Apart a.request.payload g b.request.payload := by
  cases h with
  | banks hf hg hbanks => exact .inr (.inr ⟨_, _, hf, hg, .inl hbanks⟩)
  | reads hf hg hreads => exact .inr (.inr ⟨_, _, hf, hg, .inr (.inl hreads)⟩)
  | ranges hf hg hranges => exact .inr (.inr ⟨_, _, hf, hg, .inr (.inr hranges)⟩)
  | refused h => exact h.imp (refuses_of_isException hw) fun hb => .inl (refuses_of_isException hw hb)
  | refusedLater h =>
    rw [isException_after hw, isException_after hw] at h
    exact h.imp (refuses_of_isException hw) fun hb => .inl (refuses_of_isException hw hb)

theorem Independent.eitherOrder (hw : w.table = .standard) {a b : Call}
    (h : w.Independent a b) : w.EitherOrder a b := by
  obtain ⟨e, ha⟩ | ⟨e, hb⟩ | ⟨f, g, hf, hg, hapart⟩ := h.refuses_or_apart hw
  · exact ha.eitherOrder hw
  · exact (hb.eitherOrder hw).symm
  · obtain ⟨e, ha⟩ | hfserves := f.refuses_or_serves w.state a.request.payload
    · exact (Refuses.function hf ha).eitherOrder hw
    · obtain ⟨e, hb⟩ | hgserves := g.refuses_or_serves w.state b.request.payload
      · exact ((Refuses.function hg hb).eitherOrder hw).symm
      · exact eitherOrder_of_apart hw hf hg hfserves hgserves hapart

/-- Independent requests leave the same state and get the same responses in either order, at
whatever times they come to be handled. -/
theorem independent_commute (hw : w.table = .standard) {a b a' b' : Call}
    (ha : a'.request = a.request) (hb : b'.request = b.request) (h : w.Independent a b) :
    (w.after a).after b = (w.after b').after a' ∧
      (w.turn a).response = ((w.after b').turn a').response ∧
      ((w.after a).turn b).response = (w.turn b').response := by
  have hwb : (w.after b).table = .standard := hw
  have horder := h.eitherOrder hw
  obtain ⟨hbresponse, hbafter⟩ := turn_of_request hw hb
  obtain ⟨haresponse, haafter⟩ := turn_of_request hwb ha
  rw [hbafter, hbresponse, haafter, haresponse]
  exact ⟨horder.after, horder.first.symm, horder.second⟩

/-- Two writes to coils that lie side by side, at times that are those of their order. -/
theorem independent_commute_adjacent :
    let block : Frame := .tcp 7 1 15 [0, 0, 0, 3, 1, 0xFD]
    let single : Frame := .rtu 1 5 [0, 3, 0xFF, 0]
    let call (now : Time) (request : Frame) : Call := ⟨.quiet now, .detached .tcp 0, request⟩
    small.table = .standard ∧ small.Independent (call 1 block) (call 2 single) ∧
      ((small.after (call 1 block)).after (call 2 single)).state.registers.coils.toList =
        [true, false, true, true] ∧
      (small.after (call 1 single)).after (call 2 block) =
        (small.after (call 1 block)).after (call 2 single) := by
  intro block single call
  have hindependent : small.Independent (call 1 block) (call 2 single) := by
    refine @Independent.ranges _ _ _ .writeMultipleCoils .writeSingleCoil rfl rfl ?_
    rintro i ⟨⟨-, hend⟩, hstart, -⟩
    exact absurd hend (Nat.not_lt.2 hstart)
  obtain ⟨hafter, -, -⟩ := @independent_commute small rfl (call 1 block) (call 2 single)
    (call 2 block) (call 1 single) rfl rfl hindependent
  exact ⟨rfl, hindependent, by decide +kernel, hafter.symm⟩

/-! ### The same request again -/

/-- A request that comes again is answered as the first time, and leaves the state that it left
then. -/
theorem turn_again (hw : w.table = .standard) {call again : Call}
    (h : again.request = call.request) :
    ((w.after call).turn again).response = (w.turn call).response ∧
      (w.after call).after again = w.after call := by
  have hwcall : (w.after call).table = .standard := hw
  obtain ⟨hagain, hafter⟩ := turn_of_request hwcall h
  rw [hagain, hafter]
  obtain ⟨e, hrefuses⟩ | ⟨f, hcode, hserves⟩ := w.refuses_or_serves call.request
  · rw [(hrefuses.turn hw).2]
    exact ⟨rfl, (hrefuses.turn hw).2⟩
  · obtain ⟨hresponse, hoverwrites⟩ := turn_of_serves hw hcode hserves
    obtain ⟨hresponse', hoverwrites'⟩ :=
      turn_of_serves hwcall hcode (hserves.alike hoverwrites.alike)
    have hanswer : f.answer (w.after call).state.registers call.request.payload =
        f.answer w.state.registers call.request.payload := by
      refine StandardFunction.answer_of_overwrites hoverwrites (fun hf i _ => ?_) fun hf i _ => ?_
      · rw [StandardFunction.coilWritten_read (hf ▸ trivial)]
      · rw [StandardFunction.registerWritten_read (hf ▸ trivial)]
    have hstate : ((w.after call).after call).state = (w.after call).state := by
      -- The second time, cells get the values that they have.
      have htwice := hoverwrites.trans hoverwrites'
      simp only [Option.or_self] at htwice
      exact htwice.unique hoverwrites
    exact ⟨by rw [hresponse', hresponse, hanswer],
      congrArg (fun s => { w with state := s }) hstate⟩

/-- A block of registers that is sent twice. -/
theorem turn_again_block :
    let block : Frame := .rtu 1 16 [0, 1, 0, 2, 4, 0, 7, 0, 8]
    let call (now : Time) : Call := ⟨.quiet now, .detached .rtu 0, block⟩
    small.table = .standard ∧
      ((small.after (call 1)).turn (call 2)).response = .rtu 1 16 [0, 1, 0, 2] ∧
      ((small.after (call 1)).after (call 2)).state.registers.holdingRegisters.toList =
        [0, 7, 8, 0] := by
  intro block call
  obtain ⟨hresponse, hafter⟩ := @turn_again small rfl (call 1) (call 2) rfl
  rw [hresponse, hafter]
  exact ⟨rfl, by decide +kernel, by decide +kernel⟩

end Worker

end Modbus
