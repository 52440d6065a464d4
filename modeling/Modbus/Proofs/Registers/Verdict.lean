import Modbus.Handler
import Modbus.Proofs.Registers.Values

namespace Modbus

open Payload

def Payload.cells {α : Type} (b : Bank α) (payload : Octets) : List α :=
  (b.toList.drop (start payload)).take (operand payload)

namespace StandardFunction

/-- The cells that a payload asks for are not all in the bank of the function. -/
def IsOutside (f : StandardFunction) (r : RegisterMap) (payload : Octets) : Prop :=
  match f with
  | .readCoils | .writeMultipleCoils => r.coils.size < start payload + operand payload
  | .readDiscreteInputs => r.discreteInputs.size < start payload + operand payload
  | .readHoldingRegisters | .writeMultipleRegisters =>
    r.holdingRegisters.size < start payload + operand payload
  | .readInputRegisters => r.inputRegisters.size < start payload + operand payload
  | .writeSingleCoil => r.coils.size ≤ start payload
  | .writeSingleRegister => r.holdingRegisters.size ≤ start payload

/-- The answer to a payload that is not refused. A write gives back its address, and its value or
quantity. -/
def answer (f : StandardFunction) (r : RegisterMap) (payload : Octets) : Octets :=
  match f with
  | .readCoils => Operation.bitsAnswer (cells r.coils payload)
  | .readDiscreteInputs => Operation.bitsAnswer (cells r.discreteInputs payload)
  | .readHoldingRegisters => Operation.wordsAnswer (cells r.holdingRegisters payload)
  | .readInputRegisters => Operation.wordsAnswer (cells r.inputRegisters payload)
  | .writeSingleCoil | .writeSingleRegister | .writeMultipleCoils | .writeMultipleRegisters =>
    payload.take 4

end StandardFunction

namespace Bank

variable {α : Type} {b : Bank α} {address : UInt16}

theorem exists_read {quantity : UInt16} :
    (∃ values, b.read address quantity = .ok values) ↔
      ¬ b.size < address.toNat + quantity.toNat := by
  rw [read, exists_ok_ite, covers_iff, Nat.not_lt]
  rfl

theorem exists_write {values : List α} :
    (∃ b', b.write address values = .ok b') ↔ ¬ b.size < address.toNat + values.length := by
  rw [write, exists_ok_ite, covers_iff, Nat.not_lt]
  rfl

theorem exists_set {value : α} :
    (∃ b', b.set address value = .ok b') ↔ ¬ b.size ≤ address.toNat := by
  rw [set, exists_ok_ite, Nat.not_le]

/-- What is read are the cells of the bank from the address on. -/
theorem read_eq {quantity : UInt16} {values : List α} (h : b.read address quantity = .ok values) :
    values = (b.toList.drop address.toNat).take quantity.toNat := by
  unfold read at h
  split at h
  · obtain rfl := Except.ok.inj h
    rw [Array.toList_extract, List.extract_eq_take_drop, Nat.add_sub_cancel_left]
    rfl
  · cases h

end Bank

namespace Operation

variable {f : StandardFunction} {s s' : SlaveState} {payload answer : Octets} {op : Operation}

theorem range_of_decode {allows : UInt16 → Bool} {address quantity : UInt16}
    (h : decodeRange allows payload = .ok (address, quantity)) :
    address.toNat = start payload ∧ quantity.toNat = operand payload := by
  obtain ⟨a₁, a₀, q₁, q₀, rest, rfl, rfl, rfl⟩ := decodeRange_ok h
  exact ⟨(start_cons ..).symm, (operand_cons ..).symm⟩

theorem pairAnswer_word (a₁ a₀ v₁ v₀ : UInt8) :
    pairAnswer (word a₁ a₀) (word v₁ v₀) = [a₁, a₀, v₁, v₀] := by
  rw [pairAnswer, bigEndian_word, bigEndian_word]
  rfl

theorem block_of_decode {allows : UInt16 → Bool} {octetsFor : Nat → Nat} {data : Octets}
    {address quantity : UInt16}
    (h : decodeBlock allows octetsFor payload = .ok (address, quantity, data)) :
    address.toNat = start payload ∧ quantity.toNat = operand payload ∧
      pairAnswer address quantity = payload.take 4 := by
  obtain ⟨a₁, a₀, q₁, q₀, count, rfl, rfl, rfl⟩ := decodeBlock_ok h
  exact ⟨(start_cons ..).symm, (operand_cons ..).symm, pairAnswer_word a₁ a₀ q₁ q₀⟩

theorem coil_of_decode (h : decodeCoil payload = .ok op) :
    ∃ address value, op = writeCoil address value ∧ address.toNat = start payload ∧
      pairAnswer address (if value then coilOn else coilOff) = payload.take 4 := by
  have hlength : ¬ payload.length < 4 := fun hshort => exists_decodeCoil.1 ⟨op, h⟩ (.inl hshort)
  obtain ⟨a₁, a₀, v₁, v₀, rest, rfl⟩ := eq_cons_of_four_le (Nat.le_of_not_lt hlength)
  have hpair := pairAnswer_word a₁ a₀ v₁ v₀
  rw [decodeCoil_cons] at h
  split at h
  · next hon =>
    rw [hon] at hpair
    exact ⟨_, true, (Except.ok.inj h).symm, (start_cons ..).symm, hpair⟩
  · split at h
    · next hoff =>
      rw [hoff] at hpair
      exact ⟨_, false, (Except.ok.inj h).symm, (start_cons ..).symm, hpair⟩
    · cases h

theorem register_of_decode (h : decodeRegister payload = .ok op) :
    ∃ address value, op = writeRegister address value ∧ address.toNat = start payload ∧
      pairAnswer address value = payload.take 4 := by
  have hlength : ¬ payload.length < 4 := exists_decodeRegister.1 ⟨op, h⟩
  obtain ⟨a₁, a₀, v₁, v₀, rest, rfl⟩ := eq_cons_of_four_le (Nat.le_of_not_lt hlength)
  exact ⟨_, _, (Except.ok.inj h).symm, (start_cons ..).symm, pairAnswer_word a₁ a₀ v₁ v₀⟩

theorem registers_of_decode {l : Limits} (h : decodeRegisters l payload = .ok op) :
    ∃ address quantity values, op = writeRegisters address quantity values ∧
      address.toNat = start payload ∧ values.length = operand payload ∧
      pairAnswer address quantity = payload.take 4 := by
  obtain ⟨⟨address, quantity, data⟩, hblock, h⟩ := bind_ok_iff.1 h
  obtain ⟨⟨values, left⟩, hwords, h⟩ := bind_ok_iff.1 h
  obtain ⟨haddress, hquantity, hpair⟩ := block_of_decode hblock
  exact ⟨_, _, _, (Except.ok.inj h).symm, haddress, (readWords_ok hwords).1.trans hquantity, hpair⟩

theorem coils_of_decode {l : Limits} (h : decodeCoils l payload = .ok op) :
    ∃ address quantity values, op = writeCoils address quantity values ∧
      address.toNat = start payload ∧ values.length = operand payload ∧
      pairAnswer address quantity = payload.take 4 := by
  obtain ⟨⟨address, quantity, data⟩, hblock, h⟩ := bind_ok_iff.1 h
  obtain ⟨haddress, hquantity, hpair⟩ := block_of_decode hblock
  exact ⟨_, _, _, (Except.ok.inj h).symm, haddress, (length_unpackBits _ _).trans hquantity, hpair⟩

/-- An operation is performed unless its cells are not all in the bank. -/
theorem exists_perform (h : decode f s.limits payload = .ok op) :
    (∃ done, op.perform s = .ok done) ↔ ¬ f.IsOutside s.registers payload := by
  cases f with
  | readCoils | readDiscreteInputs | readHoldingRegisters | readInputRegisters =>
    obtain ⟨⟨address, quantity⟩, hrange, hop⟩ := bind_ok_iff.1 h
    obtain ⟨haddress, hquantity⟩ := range_of_decode hrange
    obtain rfl := Except.ok.inj hop
    rw [StandardFunction.IsOutside, ← haddress, ← hquantity]
    exact exists_ok_map.trans Bank.exists_read
  | writeSingleCoil =>
    obtain ⟨address, value, rfl, haddress, -⟩ := coil_of_decode h
    rw [StandardFunction.IsOutside, ← haddress]
    exact exists_ok_map.trans Bank.exists_set
  | writeSingleRegister =>
    obtain ⟨address, value, rfl, haddress, -⟩ := register_of_decode h
    rw [StandardFunction.IsOutside, ← haddress]
    exact exists_ok_map.trans Bank.exists_set
  | writeMultipleCoils =>
    obtain ⟨address, quantity, values, rfl, haddress, hlength, -⟩ := coils_of_decode h
    rw [StandardFunction.IsOutside, ← haddress, ← hlength]
    exact exists_ok_map.trans Bank.exists_write
  | writeMultipleRegisters =>
    obtain ⟨address, quantity, values, rfl, haddress, hlength, -⟩ := registers_of_decode h
    rw [StandardFunction.IsOutside, ← haddress, ← hlength]
    exact exists_ok_map.trans Bank.exists_write

theorem answer_of_perform (h : decode f s.limits payload = .ok op)
    (hperform : op.perform s = .ok (s', answer)) : answer = f.answer s.registers payload := by
  cases f with
  | readCoils | readDiscreteInputs | readHoldingRegisters | readInputRegisters =>
    obtain ⟨⟨address, quantity⟩, hrange, hop⟩ := bind_ok_iff.1 h
    obtain ⟨haddress, hquantity⟩ := range_of_decode hrange
    obtain rfl := Except.ok.inj hop
    obtain ⟨cells, hread, hperform⟩ := bind_ok_iff.1 hperform
    obtain rfl := Bank.read_eq hread
    obtain ⟨-, rfl⟩ := Prod.mk.inj (Except.ok.inj hperform)
    rw [StandardFunction.answer, Payload.cells, ← haddress, ← hquantity]
  | writeSingleCoil =>
    obtain ⟨address, value, rfl, -, hpair⟩ := coil_of_decode h
    obtain ⟨coils, -, hperform⟩ := bind_ok_iff.1 hperform
    obtain ⟨-, rfl⟩ := Prod.mk.inj (Except.ok.inj hperform)
    exact hpair
  | writeSingleRegister =>
    obtain ⟨address, value, rfl, -, hpair⟩ := register_of_decode h
    obtain ⟨registers, -, hperform⟩ := bind_ok_iff.1 hperform
    obtain ⟨-, rfl⟩ := Prod.mk.inj (Except.ok.inj hperform)
    exact hpair
  | writeMultipleCoils =>
    obtain ⟨address, quantity, values, rfl, -, -, hpair⟩ := coils_of_decode h
    obtain ⟨coils, -, hperform⟩ := bind_ok_iff.1 hperform
    obtain ⟨-, rfl⟩ := Prod.mk.inj (Except.ok.inj hperform)
    exact hpair
  | writeMultipleRegisters =>
    obtain ⟨address, quantity, values, rfl, -, -, hpair⟩ := registers_of_decode h
    obtain ⟨registers, -, hperform⟩ := bind_ok_iff.1 hperform
    obtain ⟨-, rfl⟩ := Prod.mk.inj (Except.ok.inj hperform)
    exact hpair

end Operation

namespace StandardFunction

inductive Verdict (f : StandardFunction) (s : SlaveState) (payload : Octets) :
    Except Exception (SlaveState × Octets) → Prop
  | value (hinvalid : f.IsInvalid s.limits payload) :
    Verdict f s payload (.error .illegalDataValue)
  | address (hvalid : ¬ f.IsInvalid s.limits payload) (houtside : f.IsOutside s.registers payload) :
    Verdict f s payload (.error .illegalDataAddress)
  | done {s' : SlaveState} (hvalid : ¬ f.IsInvalid s.limits payload)
    (hinside : ¬ f.IsOutside s.registers payload)
    (hoverwrites : Overwrites (coilWritten f.code payload) (registerWritten f.code payload) s s') :
    Verdict f s payload (.ok (s', f.answer s.registers payload))

theorem verdict_apply (f : StandardFunction) (s : SlaveState) (payload : Octets) :
    f.Verdict s payload (f.apply s payload) := by
  cases hdecode : Operation.decode f s.limits payload with
  | error e =>
    obtain rfl := Operation.onlyRefuses_decode f s.limits payload e hdecode
    have happly : f.apply s payload = .error .illegalDataValue := by
      rw [apply, hdecode]
      rfl
    have hinvalid : f.IsInvalid s.limits payload := Classical.byContradiction fun hvalid => by
      obtain ⟨op, hop⟩ := Operation.exists_decode.2 hvalid
      rw [hdecode] at hop
      cases hop
    rw [happly]
    exact .value hinvalid
  | ok op =>
    have happly : f.apply s payload = op.perform s := by
      rw [apply, hdecode]
      rfl
    have hvalid := Operation.exists_decode.1 ⟨op, hdecode⟩
    cases hperform : op.perform s with
    | error e =>
      obtain rfl := Operation.onlyRefuses_perform op s e hperform
      have houtside : f.IsOutside s.registers payload := Classical.byContradiction fun hinside => by
        obtain ⟨done, hdone⟩ := (Operation.exists_perform hdecode).2 hinside
        rw [hperform] at hdone
        cases hdone
      rw [happly, hperform]
      exact .address hvalid houtside
    | ok done =>
      obtain ⟨s', answer⟩ := done
      obtain rfl := Operation.answer_of_perform hdecode hperform
      have hinside := (Operation.exists_perform hdecode).1 ⟨_, hperform⟩
      have hdone := happly.trans hperform
      rw [hdone]
      exact .done hvalid hinside (overwrites_apply hdone)

theorem apply_of_invalid {f : StandardFunction} {s : SlaveState} {payload : Octets}
    (h : f.IsInvalid s.limits payload) : f.apply s payload = .error .illegalDataValue := by
  have hverdict := f.verdict_apply s payload
  generalize f.apply s payload = outcome at hverdict ⊢
  cases hverdict with
  | value => rfl
  | address hvalid | done hvalid => exact absurd h hvalid

theorem apply_of_outside {f : StandardFunction} {s : SlaveState} {payload : Octets}
    (hvalid : ¬ f.IsInvalid s.limits payload) (h : f.IsOutside s.registers payload) :
    f.apply s payload = .error .illegalDataAddress := by
  have hverdict := f.verdict_apply s payload
  generalize f.apply s payload = outcome at hverdict ⊢
  cases hverdict with
  | value hinvalid => exact absurd hinvalid hvalid
  | address => rfl
  | done _ hinside => exact absurd h hinside

theorem apply_of_inside {f : StandardFunction} {s : SlaveState} {payload : Octets}
    (hvalid : ¬ f.IsInvalid s.limits payload) (hinside : ¬ f.IsOutside s.registers payload) :
    ∃ s', f.apply s payload = .ok (s', f.answer s.registers payload) ∧
      Overwrites (coilWritten f.code payload) (registerWritten f.code payload) s s' := by
  have hverdict := f.verdict_apply s payload
  generalize f.apply s payload = outcome at hverdict ⊢
  cases hverdict with
  | value hinvalid => exact absurd hinvalid hvalid
  | address _ houtside => exact absurd houtside hinside
  | done _ _ hoverwrites => exact ⟨_, rfl, hoverwrites⟩

/-- Wrong values are refused whatever the addresses are, and wrong addresses if the values are in
order. Any other request is carried out. -/
theorem handler_verdict (f : StandardFunction) (s : SlaveState) (request : Frame) :
    let run := f.handler s request
    let invalid := f.IsInvalid s.limits request.payload
    let outside := f.IsOutside s.registers request.payload
    (run.result = .error (.exception .illegalDataValue) ↔ invalid) ∧
      (run.result = .error (.exception .illegalDataAddress) ↔ ¬ invalid ∧ outside) ∧
      (run.result = .ok (f.answer s.registers request.payload) ↔ ¬ invalid ∧ ¬ outside) ∧
      (invalid ∨ outside → run.state = s) ∧
      (¬ invalid ∧ ¬ outside → Overwrites (coilWritten f.code request.payload)
        (registerWritten f.code request.payload) s run.state) := by
  rw [handler]
  generalize happly : f.apply s request.payload = outcome
  have hverdict : f.Verdict s request.payload outcome := happly ▸ f.verdict_apply s request.payload
  cases hverdict with
  | value hinvalid =>
    exact ⟨iff_of_true rfl hinvalid, iff_of_false (nomatch ·) fun h => h.1 hinvalid,
      iff_of_false (nomatch ·) fun h => h.1 hinvalid, fun _ => rfl, fun h => absurd hinvalid h.1⟩
  | address hvalid houtside =>
    exact ⟨iff_of_false (nomatch ·) hvalid, iff_of_true rfl ⟨hvalid, houtside⟩,
      iff_of_false (nomatch ·) fun h => h.2 houtside, fun _ => rfl, fun h => absurd houtside h.2⟩
  | done hvalid hinside hoverwrites =>
    exact ⟨iff_of_false (nomatch ·) hvalid, iff_of_false (nomatch ·) fun h => hinside h.2,
      iff_of_true rfl ⟨hvalid, hinside⟩, fun h => (h.elim hvalid hinside).elim,
      fun _ => hoverwrites⟩

example :
    let registers : RegisterMap :=
      { RegisterMap.blank 10 with
        coils := ⟨#[true, false, true, true, false, false, false, true, false, true]⟩
        holdingRegisters := ⟨#[0x1234, 0xABCD, 7]⟩ }
    let s : SlaveState := { registers, limits := {} }
    (readHoldingRegisters.handler s (.tcp 1 1 3 [0, 0, 0, 3])).result =
        .ok [6, 0x12, 0x34, 0xAB, 0xCD, 0, 7] ∧
      (readCoils.handler s (.tcp 2 1 1 [0, 0, 0, 10])).result = .ok [2, 0x8D, 2] := by
  constructor <;> cbv

end StandardFunction

end Modbus
