import Modbus.Proofs.Registers.Requests

namespace Modbus

open Payload

inductive BankName
  | discreteInputs
  | coils
  | holdingRegisters
  | inputRegisters
  deriving DecidableEq

def RegisterMap.sizeOf (r : RegisterMap) : BankName → Nat
  | .discreteInputs => r.discreteInputs.size
  | .coils => r.coils.size
  | .holdingRegisters => r.holdingRegisters.size
  | .inputRegisters => r.inputRegisters.size

structure SlaveState.Alike (s s' : SlaveState) : Prop where
  limits : s'.limits = s.limits
  sizes : ∀ b, s'.registers.sizeOf b = s.registers.sizeOf b

namespace Overwrites

variable {coil : Nat → Option Bool} {register : Nat → Option UInt16} {s s' s'' : SlaveState}

theorem alike (h : Overwrites coil register s s') : s.Alike s' where
  limits := h.limits
  sizes
    | .discreteInputs => congrArg Bank.size h.discreteInputs
    | .coils => Bank.size_of_getElem? h.coils
    | .holdingRegisters => Bank.size_of_getElem? h.holdingRegisters
    | .inputRegisters => congrArg Bank.size h.inputRegisters

/-- There is one state that a state comes to by given new values. -/
theorem unique (h : Overwrites coil register s s') (h' : Overwrites coil register s s'') :
    s' = s'' := by
  obtain ⟨⟨discreteInputs, coils, holdingRegisters, inputRegisters⟩, limits⟩ := s'
  obtain ⟨⟨discreteInputs', coils', holdingRegisters', inputRegisters'⟩, limits'⟩ := s''
  obtain rfl : limits = limits' := h.limits.trans h'.limits.symm
  obtain rfl : discreteInputs = discreteInputs' := h.discreteInputs.trans h'.discreteInputs.symm
  obtain rfl : inputRegisters = inputRegisters' := h.inputRegisters.trans h'.inputRegisters.symm
  obtain rfl : coils = coils' := Bank.eq_of_getElem? fun i => (h.coils i).trans (h'.coils i).symm
  obtain rfl : holdingRegisters = holdingRegisters' :=
    Bank.eq_of_getElem? fun i => (h.holdingRegisters i).trans (h'.holdingRegisters i).symm
  rfl

end Overwrites

/-! ### What a write gives to a cell -/

section Written

variable (a₁ a₀ v₁ v₀ : UInt8) (rest : Octets) (address : Nat)

theorem coilWritten_single :
    coilWritten FunctionCode.writeSingleCoil (a₁ :: a₀ :: v₁ :: v₀ :: rest) address =
      if address = (word a₁ a₀).toNat then some (word v₁ v₀ == 0xFF00) else none := rfl

theorem coilWritten_block :
    coilWritten FunctionCode.writeMultipleCoils (a₁ :: a₀ :: v₁ :: v₀ :: rest) address =
      if (word a₁ a₀).toNat ≤ address ∧ address < (word a₁ a₀).toNat + (word v₁ v₀).toNat then
        some (bitAt (rest.drop 1) (address - (word a₁ a₀).toNat))
      else none := rfl

theorem registerWritten_single :
    registerWritten FunctionCode.writeSingleRegister (a₁ :: a₀ :: v₁ :: v₀ :: rest) address =
      if address = (word a₁ a₀).toNat then some (word v₁ v₀) else none := rfl

theorem registerWritten_block :
    registerWritten FunctionCode.writeMultipleRegisters (a₁ :: a₀ :: v₁ :: v₀ :: rest) address =
      if (word a₁ a₀).toNat ≤ address ∧ address < (word a₁ a₀).toNat + (word v₁ v₀).toNat then
        some (word (rest.getD (2 * (address - (word a₁ a₀).toNat) + 1) 0)
          (rest.getD (2 * (address - (word a₁ a₀).toNat) + 1 + 1) 0))
      else none := rfl

end Written

theorem coilWritten_pair (a v : UInt16) (address : Nat) :
    coilWritten FunctionCode.writeSingleCoil (bigEndian a ++ bigEndian v) address =
      if address = a.toNat then some (v == 0xFF00) else none := by
  change coilWritten FunctionCode.writeSingleCoil
    (highOctet a :: lowOctet a :: highOctet v :: lowOctet v :: []) address = _
  rw [coilWritten_single, word_highOctet_lowOctet, word_highOctet_lowOctet]

theorem registerWritten_pair (a v : UInt16) (address : Nat) :
    registerWritten FunctionCode.writeSingleRegister (bigEndian a ++ bigEndian v) address =
      if address = a.toNat then some v else none := by
  change registerWritten FunctionCode.writeSingleRegister
    (highOctet a :: lowOctet a :: highOctet v :: lowOctet v :: []) address = _
  rw [registerWritten_single, word_highOctet_lowOctet, word_highOctet_lowOctet]

theorem exists_cons_of_coilWritten {function : UInt8} {payload : Octets} {address : Nat}
    {value : Bool} (h : coilWritten function payload address = some value) :
    ∃ a₁ a₀ v₁ v₀ rest, payload = a₁ :: a₀ :: v₁ :: v₀ :: rest := by
  unfold coilWritten at h
  split at h
  · next a₁ a₀ v₁ v₀ rest => exact ⟨a₁, a₀, v₁, v₀, rest, rfl⟩
  · cases h

theorem exists_cons_of_registerWritten {function : UInt8} {payload : Octets} {address : Nat}
    {value : UInt16} (h : registerWritten function payload address = some value) :
    ∃ a₁ a₀ v₁ v₀ rest, payload = a₁ :: a₀ :: v₁ :: v₀ :: rest := by
  unfold registerWritten at h
  split at h
  · next a₁ a₀ v₁ v₀ rest => exact ⟨a₁, a₀, v₁, v₀, rest, rfl⟩
  · cases h

/-! ### The cells that a request covers -/

namespace StandardFunction

def bank : StandardFunction → BankName
  | readCoils | writeSingleCoil | writeMultipleCoils => .coils
  | readDiscreteInputs => .discreteInputs
  | readHoldingRegisters | writeSingleRegister | writeMultipleRegisters => .holdingRegisters
  | readInputRegisters => .inputRegisters

def IsRead : StandardFunction → Prop
  | readCoils | readDiscreteInputs | readHoldingRegisters | readInputRegisters => True
  | writeSingleCoil | writeSingleRegister | writeMultipleCoils | writeMultipleRegisters => False

def count (f : StandardFunction) (payload : Octets) : Nat :=
  match f with
  | .writeSingleCoil | .writeSingleRegister => 1
  | .readCoils | .readDiscreteInputs | .readHoldingRegisters | .readInputRegisters
  | .writeMultipleCoils | .writeMultipleRegisters => operand payload

def Covers (f : StandardFunction) (payload : Octets) (address : Nat) : Prop :=
  start payload ≤ address ∧ address < start payload + f.count payload

variable {f : StandardFunction} {payload : Octets} {address : Nat}

theorem coilWritten_read (h : f.IsRead) : coilWritten f.code payload = fun _ => none := by
  cases f with
  | readCoils | readDiscreteInputs | readHoldingRegisters | readInputRegisters =>
    exact coilWritten_of_ne (by decide) (by decide) payload
  | writeSingleCoil | writeSingleRegister | writeMultipleCoils | writeMultipleRegisters =>
    exact h.elim

theorem registerWritten_read (h : f.IsRead) : registerWritten f.code payload = fun _ => none := by
  cases f with
  | readCoils | readDiscreteInputs | readHoldingRegisters | readInputRegisters =>
    exact registerWritten_of_ne (by decide) (by decide) payload
  | writeSingleCoil | writeSingleRegister | writeMultipleCoils | writeMultipleRegisters =>
    exact h.elim

/-- A coil that a request writes is one that it covers. -/
theorem covers_of_coilWritten {value : Bool} (h : coilWritten f.code payload address = some value) :
    f.bank = .coils ∧ f.Covers payload address := by
  cases f with
  | readCoils | readDiscreteInputs | readHoldingRegisters | readInputRegisters
  | writeSingleRegister | writeMultipleRegisters =>
    rw [coilWritten_of_ne (by decide) (by decide)] at h
    cases h
  | writeSingleCoil =>
    obtain ⟨a₁, a₀, v₁, v₀, rest, rfl⟩ := exists_cons_of_coilWritten h
    rw [code, coilWritten_single] at h
    obtain ⟨hat, -⟩ := Option.ite_none_right_eq_some.1 h
    refine ⟨rfl, ?_⟩
    rw [Covers, start_cons]
    exact ⟨Nat.le_of_eq hat.symm, Nat.lt_succ_of_le (Nat.le_of_eq hat)⟩
  | writeMultipleCoils =>
    obtain ⟨a₁, a₀, q₁, q₀, rest, rfl⟩ := exists_cons_of_coilWritten h
    rw [code, coilWritten_block] at h
    obtain ⟨hrange, -⟩ := Option.ite_none_right_eq_some.1 h
    refine ⟨rfl, ?_⟩
    rwa [Covers, count, start_cons, operand_cons]

/-- A holding register that a request writes is one that it covers. -/
theorem covers_of_registerWritten {value : UInt16}
    (h : registerWritten f.code payload address = some value) :
    f.bank = .holdingRegisters ∧ f.Covers payload address := by
  cases f with
  | readCoils | readDiscreteInputs | readHoldingRegisters | readInputRegisters
  | writeSingleCoil | writeMultipleCoils =>
    rw [registerWritten_of_ne (by decide) (by decide)] at h
    cases h
  | writeSingleRegister =>
    obtain ⟨a₁, a₀, v₁, v₀, rest, rfl⟩ := exists_cons_of_registerWritten h
    rw [code, registerWritten_single] at h
    obtain ⟨hat, -⟩ := Option.ite_none_right_eq_some.1 h
    refine ⟨rfl, ?_⟩
    rw [Covers, start_cons]
    exact ⟨Nat.le_of_eq hat.symm, Nat.lt_succ_of_le (Nat.le_of_eq hat)⟩
  | writeMultipleRegisters =>
    obtain ⟨a₁, a₀, q₁, q₀, rest, rfl⟩ := exists_cons_of_registerWritten h
    rw [code, registerWritten_block] at h
    obtain ⟨hrange, -⟩ := Option.ite_none_right_eq_some.1 h
    refine ⟨rfl, ?_⟩
    rwa [Covers, count, start_cons, operand_cons]

end StandardFunction

/-- What requests give to the cells of one bank. A read gives them nothing, and a write only what
it covers. -/
structure WritesInto {α : Type} (written : UInt8 → Octets → Nat → Option α) (bank : BankName) :
    Prop where
  read {f : StandardFunction} {payload : Octets} : f.IsRead → written f.code payload = fun _ => none
  covers {f : StandardFunction} {payload : Octets} {address : Nat} {value : α} :
    written f.code payload address = some value → f.bank = bank ∧ f.Covers payload address

theorem writesInto_coils : WritesInto coilWritten .coils :=
  ⟨StandardFunction.coilWritten_read, StandardFunction.covers_of_coilWritten⟩

theorem writesInto_registers : WritesInto registerWritten .holdingRegisters :=
  ⟨StandardFunction.registerWritten_read, StandardFunction.covers_of_registerWritten⟩

theorem Payload.cells_congr {α : Type} {b b' : Bank α} {payload : Octets}
    (h : ∀ i, start payload ≤ i → i < start payload + operand payload →
      b.cells[i]? = b'.cells[i]?) : cells b payload = cells b' payload := by
  apply List.ext_getElem?
  intro i
  rw [cells, cells, List.getElem?_take, List.getElem?_take]
  split
  · next hi =>
    rw [List.getElem?_drop, List.getElem?_drop]
    simp only [Bank.toList, Array.getElem?_toList]
    exact h _ (Nat.le_add_right _ _) (Nat.add_lt_add_left hi _)
  · rfl

/-! ### Refused and served -/

namespace StandardFunction

variable {f : StandardFunction} {s s' : SlaveState} {payload : Octets}

/-- The request is refused with an exception. The last case is the answer that no frame can carry. -/
inductive Refuses (f : StandardFunction) (s : SlaveState) (payload : Octets) : Exception → Prop
  | value (hinvalid : f.IsInvalid s.limits payload) : Refuses f s payload .illegalDataValue
  | address (hvalid : ¬ f.IsInvalid s.limits payload) (houtside : f.IsOutside s.registers payload) :
    Refuses f s payload .illegalDataAddress
  | tooLong (hvalid : ¬ f.IsInvalid s.limits payload) (hinside : ¬ f.IsOutside s.registers payload)
    (hlength : 252 < f.answerLength (operand payload)) : Refuses f s payload .slaveDeviceFailure

structure Serves (f : StandardFunction) (s : SlaveState) (payload : Octets) : Prop where
  valid : ¬ f.IsInvalid s.limits payload
  inside : ¬ f.IsOutside s.registers payload
  length_le : f.answerLength (operand payload) ≤ 252

theorem Refuses.ne_success {e : Exception} (h : f.Refuses s payload e) : e ≠ .success := by
  cases h <;> exact nofun

theorem Refuses.not_serves {e : Exception} (h : f.Refuses s payload e) : ¬ f.Serves s payload := by
  intro hserves
  cases h with
  | value hinvalid => exact hserves.valid hinvalid
  | address _ houtside => exact hserves.inside houtside
  | tooLong _ _ hlength => exact absurd hserves.length_le (Nat.not_le_of_lt hlength)

theorem refuses_or_serves (f : StandardFunction) (s : SlaveState) (payload : Octets) :
    (∃ e, f.Refuses s payload e) ∨ f.Serves s payload := by
  by_cases hinvalid : f.IsInvalid s.limits payload
  · exact .inl ⟨_, .value hinvalid⟩
  · by_cases houtside : f.IsOutside s.registers payload
    · exact .inl ⟨_, .address hinvalid houtside⟩
    · by_cases hlength : f.answerLength (operand payload) ≤ 252
      · exact .inr ⟨hinvalid, houtside, hlength⟩
      · exact .inl ⟨_, .tooLong hinvalid houtside (Nat.lt_of_not_le hlength)⟩

/-- A request asks for cells that are not there when its range ends behind the bank. -/
theorem isOutside_iff {r : RegisterMap} :
    f.IsOutside r payload ↔ r.sizeOf f.bank < start payload + f.count payload := by
  cases f with
  | readCoils | readDiscreteInputs | readHoldingRegisters | readInputRegisters
  | writeMultipleCoils | writeMultipleRegisters => exact Iff.rfl
  | writeSingleCoil | writeSingleRegister => exact Nat.lt_succ_iff.symm

theorem isOutside_alike (h : s.Alike s') :
    f.IsOutside s'.registers payload ↔ f.IsOutside s.registers payload := by
  rw [isOutside_iff, isOutside_iff, h.sizes]

theorem Refuses.alike {e : Exception} (h : f.Refuses s payload e) (hs : s.Alike s') :
    f.Refuses s' payload e := by
  cases h with
  | value hinvalid => exact .value (hs.limits ▸ hinvalid)
  | address hvalid houtside =>
    exact .address (hs.limits ▸ hvalid) ((isOutside_alike hs).2 houtside)
  | tooLong hvalid hinside hlength =>
    exact .tooLong (hs.limits ▸ hvalid) (mt (isOutside_alike hs).1 hinside) hlength

theorem Serves.alike (h : f.Serves s payload) (hs : s.Alike s') : f.Serves s' payload :=
  ⟨hs.limits ▸ h.valid, mt (isOutside_alike hs).1 h.inside, h.length_le⟩

/-- New values in cells that a request does not cover do not show in its answer. -/
theorem answer_of_overwrites {coil : Nat → Option Bool} {register : Nat → Option UInt16}
    (h : Overwrites coil register s s')
    (hcoil : f = .readCoils → ∀ i, f.Covers payload i → coil i = none)
    (hregister : f = .readHoldingRegisters → ∀ i, f.Covers payload i → register i = none) :
    f.answer s'.registers payload = f.answer s.registers payload := by
  cases f with
  | readCoils =>
    refine congrArg Operation.bitsAnswer (cells_congr fun i hstart hend => ?_)
    rw [h.coils, hcoil rfl i ⟨hstart, hend⟩]
    exact Option.map_id'
  | readHoldingRegisters =>
    refine congrArg Operation.wordsAnswer (cells_congr fun i hstart hend => ?_)
    rw [h.holdingRegisters, hregister rfl i ⟨hstart, hend⟩]
    exact Option.map_id'
  -- No request writes to inputs, and a write is answered without a look at the cells.
  | readDiscreteInputs => rw [answer, answer, h.discreteInputs]
  | readInputRegisters => rw [answer, answer, h.inputRegisters]
  | writeSingleCoil | writeSingleRegister | writeMultipleCoils | writeMultipleRegisters => rfl

end StandardFunction

end Modbus
