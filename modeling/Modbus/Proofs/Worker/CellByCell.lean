import Modbus.Proofs.Registers.Singles
import Modbus.Proofs.Worker.Memory
import Modbus.Proofs.Worker.Served

namespace Modbus

open Payload

namespace Worker

variable {w : Worker} {f : StandardFunction} {payload : Octets} {calls : List Call}

/-- Calls for the cells of a request, one after the other. When they come, and in which envelope, is
left open. -/
def CellByCell (f : StandardFunction) (payload : Octets) (calls : List Call) : Prop :=
  calls.map (fun call => (call.request.function, call.request.payload)) = f.singles payload

instance (f : StandardFunction) (payload : Octets) (calls : List Call) :
    Decidable (CellByCell f payload calls) := inferInstanceAs (Decidable (_ = _))

theorem CellByCell.length_eq (h : CellByCell f payload calls) :
    calls.length = f.count payload := by
  have hlength := congrArg List.length h
  rwa [List.length_map, StandardFunction.singles, List.length_map, List.length_range] at hlength

theorem CellByCell.getElem? (h : CellByCell f payload calls) {i : Nat} {call : Call}
    (hcall : calls[i]? = some call) :
    f.single.code = call.request.function ∧ call.request.payload = f.singlePayload payload i := by
  have hi : i < f.count payload := h.length_eq ▸ (List.getElem?_eq_some_iff.1 hcall).1
  have hsingle := congrArg (·[i]?) h
  simp only [StandardFunction.singles, List.getElem?_map, hcall, List.getElem?_range hi,
    Option.map_some, Option.some.injEq, Prod.mk.injEq] at hsingle
  exact ⟨hsingle.1.symm, hsingle.2⟩

/-- A call for one cell succeeds, and gives the cell its value in the block. -/
theorem turn_of_single (hw : w.table = .standard) (h : f.Serves w.state payload)
    (hs : w.state.registers.Addressable) {i : Nat} (hi : i < f.count payload) {call : Call}
    (hcode : f.single.code = call.request.function)
    (hpayload : call.request.payload = f.singlePayload payload i) :
    (w.turn call).response = call.request.response.withPayload
        (f.single.answer w.state.registers (f.singlePayload payload i)) ∧
      Overwrites
        (fun address => if address = start payload + i then coilWritten f.code payload address
          else none)
        (fun address => if address = start payload + i then registerWritten f.code payload address
          else none) w.state (w.after call).state := by
  have hserves : f.single.Serves w.state call.request.payload := hpayload ▸ h.single hs hi
  obtain ⟨hresponse, hoverwrites⟩ := turn_of_serves hw hcode hserves
  rw [hpayload] at hresponse hoverwrites
  rw [funext (StandardFunction.coilWritten_singlePayload h hs hi),
    funext (StandardFunction.registerWritten_singlePayload h hs hi)] at hoverwrites
  exact ⟨hresponse, hoverwrites⟩

section InTurn

variable (hw : w.table = .standard) (h : f.Serves w.state payload)
  (hs : w.state.registers.Addressable) (hcalls : CellByCell f payload calls)

include hw h hs hcalls

/-- The first `n` calls give their values to the first `n` cells. -/
theorem overwrites_first {n : Nat} (hn : n ≤ f.count payload) :
    Overwrites (upTo (coilWritten f.code payload) (start payload + n))
      (upTo (registerWritten f.code payload) (start payload + n))
      w.state (w.afterAll (calls.take n)).state := by
  induction n with
  | zero =>
    rw [Nat.add_zero, writesInto_coils.upTo_start, writesInto_registers.upTo_start, List.take_zero]
    exact .refl w.state
  | succ n ih =>
    -- The calls before have left limits and sizes alone, so the next one is in order too.
    have hbefore := ih (Nat.le_of_succ_le hn)
    have hlength : n < calls.length := hcalls.length_eq ▸ hn
    obtain ⟨hcode, hpayload⟩ := hcalls.getElem? (List.getElem?_eq_getElem hlength)
    have hstep := (turn_of_single ((table_afterAll w _).trans hw) (h.alike hbefore.alike)
      (hs.alike hbefore.alike) hn hcode hpayload).2
    rw [← Nat.add_assoc, upTo_succ, upTo_succ, List.take_succ_eq_append_getElem hlength,
      afterAll_concat]
    exact hbefore.trans hstep

theorem afterAll_singles {call : Call} (hcode : f.code = call.request.function)
    (hpayload : call.request.payload = payload) :
    (w.afterAll calls).state = (w.after call).state := by
  have hall := overwrites_first hw h hs hcalls (Nat.le_refl _)
  rw [writesInto_coils.upTo_end, writesInto_registers.upTo_end, ← hcalls.length_eq,
    List.take_length] at hall
  subst hpayload
  exact hall.unique (turn_of_serves hw hcode h).2

theorem turn_of_getElem? {i : Nat} {turn : Turn} (hturn : (w.turns calls)[i]? = some turn) :
    turn.response.isException = false ∧ turn.response.payload =
      f.single.answer (w.afterAll (calls.take i)).state.registers (f.singlePayload payload i) := by
  rw [getElem?_turns] at hturn
  obtain ⟨call, hcall, rfl⟩ := Option.map_eq_some_iff.1 hturn
  have hi : i < f.count payload := hcalls.length_eq ▸ (List.getElem?_eq_some_iff.1 hcall).1
  have hbefore := overwrites_first hw h hs hcalls (Nat.le_of_lt hi)
  obtain ⟨hcode, hpayload⟩ := hcalls.getElem? hcall
  have hresponse := (turn_of_single ((table_afterAll w _).trans hw) (h.alike hbefore.alike)
    (hs.alike hbefore.alike) hi hcode hpayload).1
  exact ⟨Ends.isException_eq_false hcode hresponse, congrArg Frame.payload hresponse⟩

/-- Reads are answered with the cells as they were before the first of them. -/
theorem payloads_of_read (hread : f.IsRead) :
    (w.turns calls).map (·.response.payload) = (List.range (f.count payload)).map fun i =>
      f.single.answer w.state.registers (f.singlePayload payload i) := by
  apply List.ext_getElem
  · rw [List.length_map, List.length_map, List.length_range, length_turns, hcalls.length_eq]
  · intro i hi hi'
    rw [List.length_map] at hi hi'
    rw [List.length_range] at hi'
    -- The reads in front of it have given no cell a value.
    have hbefore := overwrites_first hw h hs hcalls (Nat.le_of_lt hi')
    rw [StandardFunction.coilWritten_read hread, StandardFunction.registerWritten_read hread,
      upTo_none, upTo_none] at hbefore
    have hstate : (w.afterAll (calls.take i)).state = w.state := hbefore.unique (.refl w.state)
    rw [List.getElem_map, List.getElem_map, List.getElem_range,
      (turn_of_getElem? hw h hs hcalls (List.getElem?_eq_getElem hi)).2, hstate]

end InTurn

/-- Calls for one cell each succeed where the call for all of them does. They leave the same state,
and what they read is what it reads, bit by bit or word by word. -/
theorem cellByCell_agrees (hw : w.table = .standard) (hs : w.state.registers.Addressable)
    {bulk : Call} (hcode : f.code = bulk.request.function)
    (hserved : (w.turn bulk).response.isException = false)
    (hcalls : CellByCell f bulk.request.payload calls) :
    let answers := (w.turns calls).map (·.response.payload)
    (∀ turn ∈ w.turns calls, turn.response.isException = false) ∧
      (w.afterAll calls).state = (w.after bulk).state ∧
      (f = .readCoils ∨ f = .readDiscreteInputs →
        BitByBit (w.turn bulk).response.payload answers) ∧
      (f = .readHoldingRegisters ∨ f = .readInputRegisters →
        WordByWord (w.turn bulk).response.payload answers) := by
  intro answers
  have h := (isException_eq_false_iff hw hcode).1 hserved
  have hbulk := congrArg Frame.payload (turn_of_serves hw hcode h).1
  refine ⟨fun turn hturn => ?_, afterAll_singles hw h hs hcalls hcode rfl, fun hf => ?_,
    fun hf => ?_⟩
  · obtain ⟨i, hi⟩ := List.mem_iff_getElem?.1 hturn
    exact (turn_of_getElem? hw h hs hcalls hi).1
  · have hread : f.IsRead := hf.elim (· ▸ trivial) (· ▸ trivial)
    have hanswers : answers = _ := payloads_of_read hw h hs hcalls hread
    rw [hbulk, hanswers]
    exact StandardFunction.bitByBit_answer h hs hf
  · have hread : f.IsRead := hf.elim (· ▸ trivial) (· ▸ trivial)
    have hanswers : answers = _ := payloads_of_read hw h hs hcalls hread
    rw [hbulk, hanswers]
    exact StandardFunction.wordByWord_answer h hs hf

/-- The last two registers, written at once and one by one, and read at once and one by one. -/
theorem cellByCell_agrees_registers :
    let ask (function : UInt8) (payload : Octets) : Call :=
      ⟨.quiet 0, .detached .rtu 0, .rtu 1 function payload⟩
    let block := ask 16 [0, 2, 0, 2, 4, 1, 7, 0, 8]
    let singles := [ask 6 [0, 2, 1, 7], ask 6 [0, 3, 0, 8]]
    let reads := [ask 3 [0, 2, 0, 1], ask 3 [0, 3, 0, 1]]
    let w := small.after block
    small.table = .standard ∧ small.state.registers.Addressable ∧
      (small.turn block).response.isException = false ∧
      CellByCell .writeMultipleRegisters block.request.payload singles ∧
      (small.afterAll singles).state = w.state ∧
      (w.turn (ask 3 [0, 2, 0, 2])).response.payload = [4, 1, 7, 0, 8] ∧
      WordByWord [4, 1, 7, 0, 8] ((w.turns reads).map (·.response.payload)) := by
  intro ask block singles reads w
  have hs : small.state.registers.Addressable := by
    intro b
    cases b <;> decide
  have hserved : (small.turn block).response.isException = false := by decide +kernel
  have hsingles : CellByCell .writeMultipleRegisters block.request.payload singles := by
    decide +kernel
  obtain ⟨-, hstate, -, -⟩ :=
    @cellByCell_agrees small .writeMultipleRegisters singles rfl hs block rfl hserved hsingles
  have hread : (w.turn (ask 3 [0, 2, 0, 2])).response.payload = [4, 1, 7, 0, 8] := by
    decide +kernel
  have hws : w.state.registers.Addressable := by
    intro b
    cases b <;> decide +kernel
  have hreads : CellByCell .readHoldingRegisters [0, 2, 0, 2] reads := by decide +kernel
  obtain ⟨-, -, -, hwords⟩ := @cellByCell_agrees w .readHoldingRegisters reads rfl hws
    (ask 3 [0, 2, 0, 2]) rfl (by decide +kernel) hreads
  exact ⟨rfl, hs, hserved, hsingles, hstate, hread, hread ▸ hwords (.inl rfl)⟩

end Worker

end Modbus
