import Modbus.Proofs.Payload.Bits
import Modbus.Proofs.Registers.Verdict

namespace Modbus

open Payload

structure Limits.WithinStandard (l : Limits) : Prop where
  readRegisters : l.readRegisters ≤ Limits.standard.readRegisters
  writeRegisters : l.writeRegisters ≤ Limits.standard.writeRegisters
  readCoils : l.readCoils ≤ Limits.standard.readCoils
  writeCoils : l.writeCoils ≤ Limits.standard.writeCoils

structure RegisterMap.HasSize (r : RegisterMap) (size : Nat) : Prop where
  discreteInputs : r.discreteInputs.size = size
  coils : r.coils.size = size
  holdingRegisters : r.holdingRegisters.size = size
  inputRegisters : r.inputRegisters.size = size

namespace StandardFunction

/-- The function may be asked for so many cells at once. A single write is for one cell. -/
def Admits (f : StandardFunction) (l : Limits) (quantity : UInt16) : Prop :=
  match f with
  | .readCoils | .readDiscreteInputs => l.allowsCoilRead quantity = true
  | .readHoldingRegisters | .readInputRegisters => l.allowsRegisterRead quantity = true
  | .writeSingleCoil | .writeSingleRegister => quantity = 1
  | .writeMultipleCoils => l.allowsCoilWrite quantity = true
  | .writeMultipleRegisters => l.allowsRegisterWrite quantity = true

/-- A payload that asks for `quantity` cells from `address` on. The values of a write are any. -/
def Asks (f : StandardFunction) (address quantity : UInt16) (payload : Octets) : Prop :=
  match f with
  | .readCoils | .readDiscreteInputs | .readHoldingRegisters | .readInputRegisters =>
    payload = bigEndian address ++ bigEndian quantity
  | .writeSingleCoil => ∃ on : Bool,
    payload = bigEndian address ++ bigEndian (if on then Operation.coilOn else Operation.coilOff)
  | .writeSingleRegister => ∃ value, payload = bigEndian address ++ bigEndian value
  | .writeMultipleCoils => ∃ data, data.length = (quantity.toNat + 7) / 8 ∧
    payload = bigEndian address ++ (bigEndian quantity ++ Operation.counted data)
  | .writeMultipleRegisters => ∃ data, data.length = 2 * quantity.toNat ∧
    payload = bigEndian address ++ (bigEndian quantity ++ Operation.counted data)

def answerLength (f : StandardFunction) (quantity : Nat) : Nat :=
  match f with
  | .readCoils | .readDiscreteInputs => 1 + (quantity + 7) / 8
  | .readHoldingRegisters | .readInputRegisters => 1 + 2 * quantity
  | .writeSingleCoil | .writeSingleRegister | .writeMultipleCoils | .writeMultipleRegisters => 4

end StandardFunction

namespace Payload

variable (address quantity : UInt16)

theorem start_bigEndian (rest : Octets) : start (bigEndian address ++ rest) = address.toNat := by
  change start (highOctet address :: lowOctet address :: rest) = _
  rw [start_cons, word_highOctet_lowOctet]

theorem operand_bigEndian (rest : Octets) :
    operand (bigEndian address ++ (bigEndian quantity ++ rest)) = quantity.toNat := by
  change operand (highOctet address :: lowOctet address :: highOctet quantity ::
    lowOctet quantity :: rest) = _
  rw [operand_cons, word_highOctet_lowOctet]

theorem operand_range : operand (bigEndian address ++ bigEndian quantity) = quantity.toNat := by
  rw [← List.append_nil (bigEndian quantity), operand_bigEndian]

theorem byteCount_counted {data : Octets} (h : data.length < 256) :
    byteCount (bigEndian address ++ (bigEndian quantity ++ Operation.counted data)) =
      data.length := by
  change (UInt8.ofNat data.length).toNat = data.length
  rw [UInt8.toNat_ofNat', Nat.mod_eq_of_lt h]

theorem length_block (data : Octets) :
    (bigEndian address ++ (bigEndian quantity ++ Operation.counted data)).length =
      5 + data.length := by
  simp only [List.length_append, length_bigEndian, Operation.counted, List.length_cons]
  omega

/-- A block that the limits allow has its length in the one octet in front of its data. -/
theorem not_invalidBlock_counted {data : Octets} {largest : UInt16} {count : Nat}
    (hwithin : Limits.within largest quantity = true) (hdata : data.length = count)
    (hcount : count < 256) :
    ¬ InvalidBlock largest count
      (bigEndian address ++ (bigEndian quantity ++ Operation.counted data)) := by
  rw [not_invalidBlock, length_block, operand_bigEndian,
    byteCount_counted address quantity (hdata ▸ hcount)]
  exact ⟨Nat.le_add_right 5 _, Operation.within_iff.1 hwithin, hdata, rfl⟩

theorem length_cells {α : Type} {b : Bank α} {payload : Octets}
    (h : ¬ b.size < start payload + operand payload) :
    (cells b payload).length = operand payload := by
  have hsize : b.toList.length = b.size := Array.length_toList
  rw [cells, List.length_take, List.length_drop, hsize]
  omega

end Payload

namespace Operation

theorem length_bitsAnswer (bits : List Bool) :
    (bitsAnswer bits).length = 1 + (bits.length + 7) / 8 := by
  rw [bitsAnswer, counted, List.length_cons, length_packBits, Nat.add_comm]

theorem length_wordsAnswer (words : List UInt16) :
    (wordsAnswer words).length = 1 + 2 * words.length := by
  rw [wordsAnswer, counted, List.length_cons, length_words, Nat.add_comm]

end Operation

namespace StandardFunction

variable {f : StandardFunction} {l : Limits} {r : RegisterMap} {payload : Octets}
  {address quantity : UInt16}

theorem apply_ok {s s' : SlaveState} {done : Octets} (h : f.apply s payload = .ok (s', done)) :
    ¬ f.IsInvalid s.limits payload ∧ ¬ f.IsOutside s.registers payload ∧
      done = f.answer s.registers payload := by
  have hverdict := f.verdict_apply s payload
  rw [h] at hverdict
  cases hverdict with
  | done hvalid hinside => exact ⟨hvalid, hinside, rfl⟩

theorem length_answer (hvalid : ¬ f.IsInvalid l payload) (hinside : ¬ f.IsOutside r payload) :
    (f.answer r payload).length = f.answerLength (operand payload) := by
  cases f with
  | readCoils | readDiscreteInputs =>
    rw [answer, Operation.length_bitsAnswer, length_cells hinside, answerLength]
  | readHoldingRegisters | readInputRegisters =>
    rw [answer, Operation.length_wordsAnswer, length_cells hinside, answerLength]
  | writeSingleCoil =>
    have hlength : 4 ≤ payload.length := Nat.le_of_not_lt (not_or.1 hvalid).1
    rw [answer, answerLength, List.length_take, Nat.min_eq_left hlength]
  | writeSingleRegister =>
    have hlength : 4 ≤ payload.length := Nat.le_of_not_lt hvalid
    rw [answer, answerLength, List.length_take, Nat.min_eq_left hlength]
  | writeMultipleCoils | writeMultipleRegisters =>
    have hlength : 5 ≤ payload.length := (not_invalidBlock.1 hvalid).1
    rw [answer, answerLength, List.length_take, Nat.min_eq_left (by omega)]

/-- The longest answer is to a request for 125 registers or 2000 coils. -/
theorem answerLength_le (hl : l.WithinStandard) (hvalid : ¬ f.IsInvalid l payload) :
    f.answerLength (operand payload) ≤ 251 := by
  cases f with
  | readCoils | readDiscreteInputs =>
    have hlimit : l.readCoils.toNat ≤ 2000 := hl.readCoils
    have hoperand := (not_invalidRange.1 hvalid).2.2
    rw [answerLength]
    omega
  | readHoldingRegisters | readInputRegisters =>
    have hlimit : l.readRegisters.toNat ≤ 125 := hl.readRegisters
    have hoperand := (not_invalidRange.1 hvalid).2.2
    rw [answerLength]
    omega
  | writeSingleCoil | writeSingleRegister | writeMultipleCoils | writeMultipleRegisters =>
    exact Nat.le_add_left 4 247

theorem Asks.start (h : f.Asks address quantity payload) : start payload = address.toNat := by
  cases f with
  | readCoils | readDiscreteInputs | readHoldingRegisters | readInputRegisters =>
    rw [h, start_bigEndian]
  | writeSingleCoil | writeSingleRegister =>
    rcases h with ⟨value, rfl⟩
    rw [start_bigEndian]
  | writeMultipleCoils | writeMultipleRegisters =>
    rcases h with ⟨data, -, rfl⟩
    rw [start_bigEndian]

theorem Asks.valid (hl : l.WithinStandard) (hadmits : f.Admits l quantity)
    (h : f.Asks address quantity payload) : ¬ f.IsInvalid l payload := by
  cases f with
  | readCoils | readDiscreteInputs | readHoldingRegisters | readInputRegisters =>
    obtain rfl := h
    apply not_invalidRange.2
    rw [operand_range]
    exact ⟨Nat.le_refl 4, Operation.within_iff.1 hadmits⟩
  | writeSingleCoil =>
    rcases h with ⟨on, rfl⟩
    apply not_or.2
    rw [operand_range, Decidable.not_not]
    refine ⟨Nat.lt_irrefl 4, ?_⟩
    cases on
    · exact .inr rfl
    · exact .inl rfl
  | writeSingleRegister =>
    rcases h with ⟨value, rfl⟩
    exact Nat.lt_irrefl 4
  | writeMultipleCoils =>
    rcases h with ⟨data, hdata, rfl⟩
    have hlimit : l.writeCoils.toNat ≤ 1968 := hl.writeCoils
    have hquantity := (Operation.within_iff.1 hadmits).2
    rw [IsInvalid, operand_bigEndian]
    exact not_invalidBlock_counted address quantity hadmits hdata (by omega)
  | writeMultipleRegisters =>
    rcases h with ⟨data, hdata, rfl⟩
    have hlimit : l.writeRegisters.toNat ≤ 123 := hl.writeRegisters
    have hquantity := (Operation.within_iff.1 hadmits).2
    rw [IsInvalid, operand_bigEndian]
    exact not_invalidBlock_counted address quantity hadmits hdata (by omega)

/-- The longest request is one to write 123 registers or 1968 coils. -/
theorem Asks.length_le (hl : l.WithinStandard) (hadmits : f.Admits l quantity)
    (h : f.Asks address quantity payload) : payload.length ≤ 251 := by
  cases f with
  | readCoils | readDiscreteInputs | readHoldingRegisters | readInputRegisters =>
    obtain rfl := h
    exact Nat.le_add_left 4 247
  | writeSingleCoil | writeSingleRegister =>
    rcases h with ⟨value, rfl⟩
    exact Nat.le_add_left 4 247
  | writeMultipleCoils =>
    rcases h with ⟨data, hdata, rfl⟩
    have hlimit : l.writeCoils.toNat ≤ 1968 := hl.writeCoils
    have hquantity := (Operation.within_iff.1 hadmits).2
    rw [length_block]
    omega
  | writeMultipleRegisters =>
    rcases h with ⟨data, hdata, rfl⟩
    have hlimit : l.writeRegisters.toNat ≤ 123 := hl.writeRegisters
    have hquantity := (Operation.within_iff.1 hadmits).2
    rw [length_block]
    omega

theorem Asks.inside {size : Nat} (hr : r.HasSize size) (hadmits : f.Admits l quantity)
    (hsize : address.toNat + quantity.toNat ≤ size) (h : f.Asks address quantity payload) :
    ¬ f.IsOutside r payload := by
  have hstart := h.start
  have hdiscreteInputs := hr.discreteInputs
  have hcoils := hr.coils
  have hholdingRegisters := hr.holdingRegisters
  have hinputRegisters := hr.inputRegisters
  cases f with
  | readCoils | readDiscreteInputs | readHoldingRegisters | readInputRegisters =>
    obtain rfl := h
    rw [IsOutside, hstart, operand_range]
    omega
  | writeSingleCoil | writeSingleRegister =>
    obtain rfl : quantity = 1 := hadmits
    change address.toNat + 1 ≤ size at hsize
    rw [IsOutside, hstart]
    omega
  | writeMultipleCoils | writeMultipleRegisters =>
    rcases h with ⟨data, -, rfl⟩
    rw [IsOutside, hstart, operand_bigEndian]
    omega

end StandardFunction

end Modbus
