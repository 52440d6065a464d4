import Modbus.Proofs.Worker.Served

namespace Modbus

namespace Turn

/-- What a turn gave to the coil at an address. A request that was refused gave it nothing. -/
def coilWritten (address : Nat) (t : Turn) : Option Bool :=
  if t.response.isException then none
  else Modbus.coilWritten t.request.function t.request.payload address

def registerWritten (address : Nat) (t : Turn) : Option UInt16 :=
  if t.response.isException then none
  else Modbus.registerWritten t.request.function t.request.payload address

def lastWritten {α : Type} (written : Turn → Option α) (turns : List Turn) : Option α :=
  (turns.filterMap written).getLast?

theorem lastWritten_cons {α : Type} (written : Turn → Option α) (t : Turn) (turns : List Turn) :
    lastWritten written (t :: turns) = (lastWritten written turns).or (written t) :=
  getLast?_filterMap_cons written t turns

end Turn

namespace Worker

variable {w : Worker}

theorem overwrites_after (hw : w.table = .standard) (call : Call) :
    Overwrites (fun i => (w.turn call).coilWritten i) (fun i => (w.turn call).registerWritten i)
      w.state (w.after call).state := by
  cases ends hw call with
  | refused hresponse hafter =>
    simp only [Turn.coilWritten, Turn.registerWritten, hresponse, if_true, hafter]
    exact .refl w.state
  | done hcode hresponse hafter happly hlength =>
    simp only [Turn.coilWritten, Turn.registerWritten, Ends.isException_eq_false hcode hresponse,
      hafter]
    exact hcode ▸ StandardFunction.overwrites_apply happly

theorem overwrites_afterAll (hw : w.table = .standard) (calls : List Call) :
    Overwrites (fun i => Turn.lastWritten (Turn.coilWritten i) (w.turns calls))
      (fun i => Turn.lastWritten (Turn.registerWritten i) (w.turns calls))
      w.state (w.afterAll calls).state := by
  induction calls generalizing w with
  | nil => exact .refl w.state
  | cons call calls ih =>
    simp only [turns, Turn.lastWritten_cons]
    exact (overwrites_after hw call).trans (ih hw)

theorem shows_turn (hw : w.table = .standard) {call : Call}
    (h : (w.turn call).response.isException = false) :
    Shows w.state.registers call.request.function call.request.payload
      (w.turn call).response.payload := by
  cases ends hw call with
  | refused hresponse hafter => exact absurd (hresponse.symm.trans h) (by decide)
  | done hcode hresponse hafter happly hlength =>
    rw [hresponse, ← hcode]
    exact StandardFunction.shows_apply happly hlength

/-- Limits, sizes and inputs stay, a coil or holding register holds what was written to it last, and
a read that is not refused shows the cells as the requests before it left them. -/
theorem afterAll_standard (hw : w.table = .standard) (calls : List Call) :
    let s := w.state
    let s' := (w.afterAll calls).state
    s'.limits = s.limits ∧
    s'.registers.coils.size = s.registers.coils.size ∧
    s'.registers.discreteInputs.size = s.registers.discreteInputs.size ∧
    s'.registers.holdingRegisters.size = s.registers.holdingRegisters.size ∧
    s'.registers.inputRegisters.size = s.registers.inputRegisters.size ∧
    s'.registers.discreteInputs = s.registers.discreteInputs ∧
    s'.registers.inputRegisters = s.registers.inputRegisters ∧
    (∀ i, s'.registers.coils.cells[i]? = s.registers.coils.cells[i]?.map
      ((Turn.lastWritten (Turn.coilWritten i) (w.turns calls)).getD ·)) ∧
    (∀ i, s'.registers.holdingRegisters.cells[i]? = s.registers.holdingRegisters.cells[i]?.map
      ((Turn.lastWritten (Turn.registerWritten i) (w.turns calls)).getD ·)) ∧
    ∀ i turn, (w.turns calls)[i]? = some turn → turn.response.isException = false →
      Shows (w.afterAll (calls.take i)).state.registers turn.request.function
        turn.request.payload turn.response.payload := by
  intro s s'
  have h := overwrites_afterAll hw calls
  refine ⟨h.limits, Bank.size_of_getElem? h.coils, congrArg Bank.size h.discreteInputs,
    Bank.size_of_getElem? h.holdingRegisters, congrArg Bank.size h.inputRegisters,
    h.discreteInputs, h.inputRegisters, h.coils, h.holdingRegisters, ?_⟩
  intro i turn hturn hresponse
  rw [getElem?_turns] at hturn
  obtain ⟨call, -, rfl⟩ := Option.map_eq_some_iff.1 hturn
  exact shows_turn ((table_afterAll w _).trans hw) hresponse

/-- Two writes that overlap, one that is refused because there is no such coil, and a read. -/
theorem afterAll_standard_overlap :
    let requests : List Frame := [.rtu 1 15 [0, 0, 0, 3, 1, 5], .rtu 1 5 [0, 1, 255, 0],
      .rtu 1 5 [0, 9, 255, 0], .rtu 1 1 [0, 0, 0, 4]]
    let calls : List Call := requests.map fun r => ⟨.quiet 0, .detached .rtu 0, r⟩
    small.table = .standard ∧
      (small.afterAll calls).state.registers.coils.cells[1]? = some true ∧
      (small.afterAll calls).state.registers.coils.cells[9]? = none ∧
      ShowsBits (small.afterAll (calls.take 3)).state.registers.coils [0, 0, 0, 4] [1, 7] := by
  intro requests calls
  obtain ⟨-, -, -, -, -, -, -, hcoils, -, hreads⟩ := afterAll_standard (w := small) rfl calls
  refine ⟨rfl, (hcoils 1).trans (by decide +kernel), (hcoils 9).trans (by decide +kernel), ?_⟩
  let turn := (small.afterAll (calls.take 3)).turn
    ⟨.quiet 0, .detached .rtu 0, .rtu 1 1 [0, 0, 0, 4]⟩
  have hturn : (small.turns calls)[3]? = some turn := getElem?_turns small calls 3
  have hanswer : turn.response.payload = [1, 7] := by decide +kernel
  have hshows := (hreads 3 turn hturn (by decide +kernel)).coils rfl
  rwa [hanswer] at hshows

end Worker

end Modbus
