import Modbus.Operation
import Modbus.Proofs.Payload.Bits
import Modbus.Proofs.Registers.Cells

namespace Modbus

open Payload

/-- What a write gives to the coil at an address, if it covers it. The value of a single coil, or
the quantity of a block, is behind the address, and the bits of a block are behind its byte count.
-/
def coilWritten (function : UInt8) (payload : Octets) (address : Nat) : Option Bool :=
  match payload with
  | a₁ :: a₀ :: v₁ :: v₀ :: rest =>
    let start := (word a₁ a₀).toNat
    if function = FunctionCode.writeSingleCoil then
      if address = start then some (word v₁ v₀ == 0xFF00) else none
    else if function = FunctionCode.writeMultipleCoils then
      if start ≤ address ∧ address < start + (word v₁ v₀).toNat then
        some (bitAt (rest.drop 1) (address - start))
      else none
    else none
  | _ => none

def registerWritten (function : UInt8) (payload : Octets) (address : Nat) : Option UInt16 :=
  match payload with
  | a₁ :: a₀ :: v₁ :: v₀ :: rest =>
    let start := (word a₁ a₀).toNat
    if function = FunctionCode.writeSingleRegister then
      if address = start then some (word v₁ v₀) else none
    else if function = FunctionCode.writeMultipleRegisters then
      if start ≤ address ∧ address < start + (word v₁ v₀).toNat then
        let i := 2 * (address - start) + 1
        some (word (rest.getD i 0) (rest.getD (i + 1) 0))
      else none
    else none
  | _ => none

/-- The state after some cells were given new values: limits, sizes and inputs stay, and so do the
cells that were given none. -/
structure Overwrites (coil : Nat → Option Bool) (register : Nat → Option UInt16)
    (s s' : SlaveState) : Prop where
  limits : s'.limits = s.limits
  discreteInputs : s'.registers.discreteInputs = s.registers.discreteInputs
  inputRegisters : s'.registers.inputRegisters = s.registers.inputRegisters
  coils : ∀ i, s'.registers.coils.cells[i]? = s.registers.coils.cells[i]?.map ((coil i).getD ·)
  holdingRegisters : ∀ i, s'.registers.holdingRegisters.cells[i]? =
    s.registers.holdingRegisters.cells[i]?.map ((register i).getD ·)

theorem Overwrites.refl (s : SlaveState) : Overwrites (fun _ => none) (fun _ => none) s s := by
  constructor <;> simp

/-- Of two values the later one stays. -/
theorem Overwrites.trans {coil coil' : Nat → Option Bool} {register register' : Nat → Option UInt16}
    {s s' s'' : SlaveState} (h : Overwrites coil register s s')
    (h' : Overwrites coil' register' s' s'') :
    Overwrites (fun i => (coil' i).or (coil i)) (fun i => (register' i).or (register i)) s s'' where
  limits := h'.limits.trans h.limits
  discreteInputs := h'.discreteInputs.trans h.discreteInputs
  inputRegisters := h'.inputRegisters.trans h.inputRegisters
  coils i := by
    rw [h'.coils, h.coils, Option.map_map]
    cases coil' i <;> rfl
  holdingRegisters i := by
    rw [h'.holdingRegisters, h.holdingRegisters, Option.map_map]
    cases register' i <;> rfl

/-- The answer to a read of bits: a byte count, and as many octets, which show the cells in order
and nothing but zeros behind the last. -/
def ShowsBits (b : Bank Bool) (payload answer : Octets) : Prop :=
  ∃ (a₁ a₀ q₁ q₀ : UInt8) (rest : Octets) (count : UInt8) (data : Octets),
    payload = a₁ :: a₀ :: q₁ :: q₀ :: rest ∧ answer = count :: data ∧
      count.toNat = data.length ∧ data.length = ((word q₁ q₀).toNat + 7) / 8 ∧
      (∀ i < (word q₁ q₀).toNat, b.cells[(word a₁ a₀).toNat + i]? = some (bitAt data i)) ∧
      ∀ i, (word q₁ q₀).toNat ≤ i → bitAt data i = false

/-- The answer to a read of words: a byte count, and the cells in order, each highest octet first.
-/
def ShowsWords (b : Bank UInt16) (payload answer : Octets) : Prop :=
  ∃ (a₁ a₀ q₁ q₀ : UInt8) (rest : Octets) (count : UInt8) (words : List UInt16),
    payload = a₁ :: a₀ :: q₁ :: q₀ :: rest ∧ answer = count :: words.flatMap bigEndian ∧
      count.toNat = 2 * words.length ∧ words.length = (word q₁ q₀).toNat ∧
      ∀ i < (word q₁ q₀).toNat, b.cells[(word a₁ a₀).toNat + i]? = words[i]?

namespace Operation

theorem bind_ok_iff {ε α β : Type} {x : Except ε α} {f : α → Except ε β} {b : β} :
    x >>= f = .ok b ↔ ∃ a, x = .ok a ∧ f a = .ok b := by
  cases x with
  | error e => simp [bind, Except.bind]
  | ok a => simp [bind, Except.bind]

theorem readWord_ok {payload left : Octets} {w : UInt16} (h : readWord payload = .ok (w, left)) :
    ∃ high low, payload = high :: low :: left ∧ w = word high low := by
  match payload with
  | [] | [_] => cases h
  | high :: low :: rest =>
    cases h
    exact ⟨high, low, rfl, rfl⟩

theorem decodeRange_ok {allows : UInt16 → Bool} {payload : Octets} {address quantity : UInt16}
    (h : decodeRange allows payload = .ok (address, quantity)) :
    ∃ a₁ a₀ q₁ q₀ rest, payload = a₁ :: a₀ :: q₁ :: q₀ :: rest ∧ address = word a₁ a₀ ∧
      quantity = word q₁ q₀ := by
  obtain ⟨⟨a, left⟩, haddress, h⟩ := bind_ok_iff.1 h
  obtain ⟨⟨q, rest⟩, hquantity, h⟩ := bind_ok_iff.1 h
  obtain ⟨_, -, h⟩ := bind_ok_iff.1 h
  cases h
  obtain ⟨a₁, a₀, rfl, rfl⟩ := readWord_ok haddress
  obtain ⟨q₁, q₀, rfl, rfl⟩ := readWord_ok hquantity
  exact ⟨a₁, a₀, q₁, q₀, rest, rfl, rfl, rfl⟩

theorem decodeBlock_ok {allows : UInt16 → Bool} {octetsFor : Nat → Nat} {payload data : Octets}
    {address quantity : UInt16}
    (h : decodeBlock allows octetsFor payload = .ok (address, quantity, data)) :
    ∃ a₁ a₀ q₁ q₀ count, payload = a₁ :: a₀ :: q₁ :: q₀ :: count :: data ∧ address = word a₁ a₀ ∧
      quantity = word q₁ q₀ := by
  obtain ⟨⟨a, left⟩, haddress, h⟩ := bind_ok_iff.1 h
  obtain ⟨⟨q, left'⟩, hquantity, h⟩ := bind_ok_iff.1 h
  obtain ⟨⟨count, rest⟩, hcount, h⟩ := bind_ok_iff.1 h
  obtain ⟨_, -, h⟩ := bind_ok_iff.1 h
  cases h
  obtain ⟨a₁, a₀, rfl, rfl⟩ := readWord_ok haddress
  obtain ⟨q₁, q₀, rfl, rfl⟩ := readWord_ok hquantity
  cases left' with
  | nil => cases hcount
  | cons b rest =>
    cases hcount
    exact ⟨a₁, a₀, q₁, q₀, count, rfl, rfl, rfl⟩

theorem readWords_ok {n : Nat} {data left : Octets} {ws : List UInt16}
    (h : readWords n data = .ok (ws, left)) :
    ws.length = n ∧
      ∀ i < n, ws[i]? = some (word (data.getD (2 * i) 0) (data.getD (2 * i + 1) 0)) := by
  induction n generalizing data ws with
  | zero =>
    cases h
    exact ⟨rfl, fun i hi => absurd hi (Nat.not_lt_zero i)⟩
  | succ n ih =>
    obtain ⟨⟨w, rest⟩, hw, h⟩ := bind_ok_iff.1 h
    obtain ⟨⟨ws', left'⟩, hws, h⟩ := bind_ok_iff.1 h
    cases h
    obtain ⟨high, low, rfl, rfl⟩ := readWord_ok hw
    obtain ⟨hlength, hwords⟩ := ih hws
    refine ⟨congrArg (· + 1) hlength, fun i hi => ?_⟩
    cases i with
    | zero => rfl
    | succ i => exact hwords i (Nat.lt_of_succ_lt_succ hi)

def readCells {α : Type} (allows : UInt16 → Bool) (b : Bank α) (write : List α → Octets)
    (s : SlaveState) (payload : Octets) : Except Exception (SlaveState × Octets) := do
  let (address, quantity) ← decodeRange allows payload
  let cells ← b.read address quantity
  return (s, write cells)

theorem apply_readCoils (s : SlaveState) (payload : Octets) :
    StandardFunction.readCoils.apply s payload =
      readCells s.limits.allowsCoilRead s.registers.coils bitsAnswer s payload := by
  simp only [StandardFunction.apply, decode, bind_assoc, pure_bind]
  rfl

theorem apply_readDiscreteInputs (s : SlaveState) (payload : Octets) :
    StandardFunction.readDiscreteInputs.apply s payload =
      readCells s.limits.allowsCoilRead s.registers.discreteInputs bitsAnswer s payload := by
  simp only [StandardFunction.apply, decode, bind_assoc, pure_bind]
  rfl

theorem apply_readHoldingRegisters (s : SlaveState) (payload : Octets) :
    StandardFunction.readHoldingRegisters.apply s payload =
      readCells s.limits.allowsRegisterRead s.registers.holdingRegisters wordsAnswer s payload := by
  simp only [StandardFunction.apply, decode, bind_assoc, pure_bind]
  rfl

theorem apply_readInputRegisters (s : SlaveState) (payload : Octets) :
    StandardFunction.readInputRegisters.apply s payload =
      readCells s.limits.allowsRegisterRead s.registers.inputRegisters wordsAnswer s payload := by
  simp only [StandardFunction.apply, decode, bind_assoc, pure_bind]
  rfl

section ReadCells

variable {α : Type} {allows : UInt16 → Bool} {b : Bank α} {write : List α → Octets}
  {s s' : SlaveState} {payload answer : Octets}

theorem readCells_keeps (h : readCells allows b write s payload = .ok (s', answer)) : s' = s := by
  obtain ⟨⟨address, quantity⟩, -, h⟩ := bind_ok_iff.1 h
  obtain ⟨cells, -, h⟩ := bind_ok_iff.1 h
  cases h
  rfl

theorem readCells_ok (h : readCells allows b write s payload = .ok (s', answer)) :
    ∃ a₁ a₀ q₁ q₀ rest cells, payload = a₁ :: a₀ :: q₁ :: q₀ :: rest ∧ answer = write cells ∧
      cells.length = (word q₁ q₀).toNat ∧
      ∀ i < (word q₁ q₀).toNat, b.cells[(word a₁ a₀).toNat + i]? = cells[i]? := by
  obtain ⟨⟨address, quantity⟩, hrange, h⟩ := bind_ok_iff.1 h
  obtain ⟨cells, hread, h⟩ := bind_ok_iff.1 h
  cases h
  obtain ⟨a₁, a₀, q₁, q₀, rest, hpayload, rfl, rfl⟩ := decodeRange_ok hrange
  obtain ⟨hlength, hcells⟩ := Bank.read_ok hread
  exact ⟨a₁, a₀, q₁, q₀, rest, cells, hpayload, rfl, hlength, hcells⟩

end ReadCells

theorem toNat_count {data : Octets} (h : (counted data).length ≤ 252) :
    (UInt8.ofNat data.length).toNat = data.length := by
  rw [UInt8.toNat_ofNat']
  simp only [counted, List.length_cons] at h
  omega

variable {allows : UInt16 → Bool} {s s' : SlaveState} {payload answer : Octets}

theorem showsBits_of_ok {b : Bank Bool}
    (h : readCells allows b bitsAnswer s payload = .ok (s', answer))
    (hlength : answer.length ≤ 252) : ShowsBits b payload answer := by
  obtain ⟨a₁, a₀, q₁, q₀, rest, bits, hpayload, rfl, hbits, hcells⟩ := readCells_ok h
  refine ⟨a₁, a₀, q₁, q₀, rest, _, packBits bits, hpayload, rfl, toNat_count hlength, ?_, ?_, ?_⟩
  · rw [length_packBits, hbits]
  · intro i hi
    rw [hcells i hi, bitAt_packBits, List.getD_eq_getElem?_getD,
      List.getElem?_eq_getElem (hbits ▸ hi)]
    rfl
  · intro i hi
    rw [bitAt_packBits, List.getD_eq_getElem?_getD, List.getElem?_eq_none (hbits ▸ hi)]
    rfl

theorem showsWords_of_ok {b : Bank UInt16}
    (h : readCells allows b wordsAnswer s payload = .ok (s', answer))
    (hlength : answer.length ≤ 252) : ShowsWords b payload answer := by
  obtain ⟨a₁, a₀, q₁, q₀, rest, words, hpayload, rfl, hwords, hcells⟩ := readCells_ok h
  refine ⟨a₁, a₀, q₁, q₀, rest, _, words, hpayload, rfl, ?_, hwords, hcells⟩
  exact (toNat_count hlength).trans (length_words words)

/-- A block of values that a write lays over a bank, by address. -/
theorem getElem?_block {α : Type} {start : Nat} {values : List α} {value : Nat → α} {count : Nat}
    (hlength : values.length = count) (hvalues : ∀ i < count, values[i]? = some (value i))
    (address : Nat) :
    (if start ≤ address then values[address - start]? else none) =
      if start ≤ address ∧ address < start + count then some (value (address - start))
      else none := by
  by_cases hstart : start ≤ address
  · rw [if_pos hstart]
    by_cases hend : address < start + count
    · rw [if_pos ⟨hstart, hend⟩, hvalues _ (by omega)]
    · rw [if_neg fun h => hend h.2, List.getElem?_eq_none (by omega)]
  · rw [if_neg hstart, if_neg fun h => hstart h.1]

theorem overwrites_writeSingleCoil
    (h : StandardFunction.writeSingleCoil.apply s payload = .ok (s', answer)) :
    Overwrites (coilWritten FunctionCode.writeSingleCoil payload) (fun _ => none) s s' := by
  obtain ⟨op, hop, h⟩ := bind_ok_iff.1 h
  obtain ⟨⟨address, left⟩, haddress, hop⟩ := bind_ok_iff.1 hop
  obtain ⟨⟨value, rest⟩, hvalue, hop⟩ := bind_ok_iff.1 hop
  obtain ⟨a₁, a₀, rfl, rfl⟩ := readWord_ok haddress
  obtain ⟨v₁, v₀, rfl, rfl⟩ := readWord_ok hvalue
  -- Only two words stand for a coil, and any other one is refused.
  obtain ⟨coil, hcoil, rfl⟩ : ∃ coil, (word v₁ v₀ == 0xFF00) = coil ∧
      op = writeCoil (word a₁ a₀) coil := by
    dsimp only at hop
    split at hop
    · next hon => exact ⟨true, by rw [hon]; rfl, (Except.ok.inj hop).symm⟩
    · next hon =>
      split at hop
      · exact ⟨false, beq_false_of_ne hon, (Except.ok.inj hop).symm⟩
      · cases hop
  obtain ⟨coils, hset, h⟩ := bind_ok_iff.1 h
  cases h
  refine ⟨rfl, rfl, rfl, fun i => ?_, (Overwrites.refl s).holdingRegisters⟩
  exact (Bank.cells_set hset i).trans (by rw [← hcoil]; rfl)

theorem overwrites_writeSingleRegister
    (h : StandardFunction.writeSingleRegister.apply s payload = .ok (s', answer)) :
    Overwrites (fun _ => none) (registerWritten FunctionCode.writeSingleRegister payload) s s' := by
  obtain ⟨op, hop, h⟩ := bind_ok_iff.1 h
  obtain ⟨⟨address, left⟩, haddress, hop⟩ := bind_ok_iff.1 hop
  obtain ⟨⟨value, rest⟩, hvalue, hop⟩ := bind_ok_iff.1 hop
  cases hop
  obtain ⟨a₁, a₀, rfl, rfl⟩ := readWord_ok haddress
  obtain ⟨v₁, v₀, rfl, rfl⟩ := readWord_ok hvalue
  obtain ⟨registers, hset, h⟩ := bind_ok_iff.1 h
  cases h
  exact ⟨rfl, rfl, rfl, (Overwrites.refl s).coils, fun i => Bank.cells_set hset i⟩

theorem overwrites_writeMultipleCoils
    (h : StandardFunction.writeMultipleCoils.apply s payload = .ok (s', answer)) :
    Overwrites (coilWritten FunctionCode.writeMultipleCoils payload) (fun _ => none) s s' := by
  obtain ⟨op, hop, h⟩ := bind_ok_iff.1 h
  obtain ⟨⟨address, quantity, data⟩, hblock, hop⟩ := bind_ok_iff.1 hop
  cases hop
  obtain ⟨a₁, a₀, q₁, q₀, count, rfl, rfl, rfl⟩ := decodeBlock_ok hblock
  obtain ⟨coils, hwrite, h⟩ := bind_ok_iff.1 h
  cases h
  refine ⟨rfl, rfl, rfl, fun i => ?_, (Overwrites.refl s).holdingRegisters⟩
  refine (Bank.cells_write hwrite i).trans ?_
  rw [getElem?_block (length_unpackBits _ _) fun _ => getElem?_unpackBits _]
  rfl

theorem overwrites_writeMultipleRegisters
    (h : StandardFunction.writeMultipleRegisters.apply s payload = .ok (s', answer)) :
    Overwrites (fun _ => none) (registerWritten FunctionCode.writeMultipleRegisters payload)
      s s' := by
  obtain ⟨op, hop, h⟩ := bind_ok_iff.1 h
  obtain ⟨⟨address, quantity, data⟩, hblock, hop⟩ := bind_ok_iff.1 hop
  obtain ⟨⟨values, left⟩, hvalues, hop⟩ := bind_ok_iff.1 hop
  cases hop
  obtain ⟨a₁, a₀, q₁, q₀, count, rfl, rfl, rfl⟩ := decodeBlock_ok hblock
  obtain ⟨hlength, hwords⟩ := readWords_ok hvalues
  obtain ⟨registers, hwrite, h⟩ := bind_ok_iff.1 h
  cases h
  refine ⟨rfl, rfl, rfl, (Overwrites.refl s).coils, fun i => ?_⟩
  refine (Bank.cells_write hwrite i).trans ?_
  rw [getElem?_block hlength hwords]
  rfl

end Operation

theorem coilWritten_of_ne {function : UInt8} (hsingle : function ≠ FunctionCode.writeSingleCoil)
    (hblock : function ≠ FunctionCode.writeMultipleCoils) (payload : Octets) :
    coilWritten function payload = fun _ => none := by
  funext address
  unfold coilWritten
  split
  · rw [if_neg hsingle, if_neg hblock]
  · rfl

theorem registerWritten_of_ne {function : UInt8}
    (hsingle : function ≠ FunctionCode.writeSingleRegister)
    (hblock : function ≠ FunctionCode.writeMultipleRegisters) (payload : Octets) :
    registerWritten function payload = fun _ => none := by
  funext address
  unfold registerWritten
  split
  · rw [if_neg hsingle, if_neg hblock]
  · rfl

/-- A function that is no write overwrites nothing. -/
theorem Overwrites.of_read {function : UInt8} {s s' : SlaveState}
    (hcoils : function ≠ FunctionCode.writeSingleCoil ∧ function ≠ FunctionCode.writeMultipleCoils)
    (hregisters : function ≠ FunctionCode.writeSingleRegister ∧
      function ≠ FunctionCode.writeMultipleRegisters) (payload : Octets) (h : s' = s) :
    Overwrites (coilWritten function payload) (registerWritten function payload) s s' := by
  rw [coilWritten_of_ne hcoils.1 hcoils.2, registerWritten_of_ne hregisters.1 hregisters.2, h]
  exact .refl s

/-- A request that is not refused overwrites the cells that it covers, and no others. -/
theorem StandardFunction.overwrites_apply {f : StandardFunction} {s s' : SlaveState}
    {payload answer : Octets} (h : f.apply s payload = .ok (s', answer)) :
    Overwrites (coilWritten f.code payload) (registerWritten f.code payload) s s' := by
  cases f with
  | readCoils =>
    rw [Operation.apply_readCoils] at h
    exact .of_read (by decide) (by decide) payload (Operation.readCells_keeps h)
  | readDiscreteInputs =>
    rw [Operation.apply_readDiscreteInputs] at h
    exact .of_read (by decide) (by decide) payload (Operation.readCells_keeps h)
  | readHoldingRegisters =>
    rw [Operation.apply_readHoldingRegisters] at h
    exact .of_read (by decide) (by decide) payload (Operation.readCells_keeps h)
  | readInputRegisters =>
    rw [Operation.apply_readInputRegisters] at h
    exact .of_read (by decide) (by decide) payload (Operation.readCells_keeps h)
  | writeSingleCoil =>
    rw [registerWritten_of_ne (by decide) (by decide)]
    exact Operation.overwrites_writeSingleCoil h
  | writeSingleRegister =>
    rw [coilWritten_of_ne (by decide) (by decide)]
    exact Operation.overwrites_writeSingleRegister h
  | writeMultipleCoils =>
    rw [registerWritten_of_ne (by decide) (by decide)]
    exact Operation.overwrites_writeMultipleCoils h
  | writeMultipleRegisters =>
    rw [coilWritten_of_ne (by decide) (by decide)]
    exact Operation.overwrites_writeMultipleRegisters h

theorem StandardFunction.code_inj {f g : StandardFunction} (h : f.code = g.code) : f = g := by
  revert h
  cases f <;> cases g <;> decide

structure Shows (registers : RegisterMap) (function : UInt8) (payload answer : Octets) : Prop where
  coils : function = FunctionCode.readCoils → ShowsBits registers.coils payload answer
  discreteInputs : function = FunctionCode.readDiscreteInputs →
    ShowsBits registers.discreteInputs payload answer
  holdingRegisters : function = FunctionCode.readHoldingRegisters →
    ShowsWords registers.holdingRegisters payload answer
  inputRegisters : function = FunctionCode.readInputRegisters →
    ShowsWords registers.inputRegisters payload answer

theorem StandardFunction.shows_apply {f : StandardFunction} {s s' : SlaveState}
    {payload answer : Octets} (h : f.apply s payload = .ok (s', answer))
    (hlength : answer.length ≤ 252) : Shows s.registers f.code payload answer := by
  constructor <;> intro hcode
  · obtain rfl : f = .readCoils := code_inj hcode
    rw [Operation.apply_readCoils] at h
    exact Operation.showsBits_of_ok h hlength
  · obtain rfl : f = .readDiscreteInputs := code_inj hcode
    rw [Operation.apply_readDiscreteInputs] at h
    exact Operation.showsBits_of_ok h hlength
  · obtain rfl : f = .readHoldingRegisters := code_inj hcode
    rw [Operation.apply_readHoldingRegisters] at h
    exact Operation.showsWords_of_ok h hlength
  · obtain rfl : f = .readInputRegisters := code_inj hcode
    rw [Operation.apply_readInputRegisters] at h
    exact Operation.showsWords_of_ok h hlength

end Modbus
