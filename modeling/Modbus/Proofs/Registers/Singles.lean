import Modbus.Proofs.Registers.Extent

namespace Modbus

open Payload

/-- No bank has more cells than there are addresses. -/
def RegisterMap.Addressable (r : RegisterMap) : Prop := ∀ b, r.sizeOf b ≤ addressSpace

theorem RegisterMap.Addressable.alike {s s' : SlaveState} (h : s.registers.Addressable)
    (hs : s.Alike s') : s'.registers.Addressable := fun b => hs.sizes b ▸ h b

namespace StandardFunction

def single : StandardFunction → StandardFunction
  | writeMultipleCoils => writeSingleCoil
  | writeMultipleRegisters => writeSingleRegister
  | f => f

/-- The word behind the address in a request for the cell at place `i` alone. It is the value for
this cell, or says that one cell is to be read. -/
def singleOperand (f : StandardFunction) (payload : Octets) (i : Nat) : UInt16 :=
  match f with
  | .writeSingleCoil | .writeSingleRegister => word (payload.getD 2 0) (payload.getD 3 0)
  | .writeMultipleCoils => if bitAt (payload.drop 5) i then Operation.coilOn else Operation.coilOff
  | .writeMultipleRegisters => word (payload.getD (2 * i + 5) 0) (payload.getD (2 * i + 6) 0)
  | .readCoils | .readDiscreteInputs | .readHoldingRegisters | .readInputRegisters => 1

def singlePayload (f : StandardFunction) (payload : Octets) (i : Nat) : Octets :=
  bigEndian (UInt16.ofNat (start payload + i)) ++ bigEndian (f.singleOperand payload i)

def singles (f : StandardFunction) (payload : Octets) : List (UInt8 × Octets) :=
  (List.range (f.count payload)).map fun i => (f.single.code, f.singlePayload payload i)

variable {f : StandardFunction} {s : SlaveState} {payload : Octets} {i : Nat}

theorem count_read (h : f.IsRead) : f.count payload = operand payload := by
  cases f with
  | readCoils | readDiscreteInputs | readHoldingRegisters | readInputRegisters => rfl
  | writeSingleCoil | writeSingleRegister | writeMultipleCoils | writeMultipleRegisters =>
    exact h.elim

theorem singleOperand_read (h : f.IsRead) : f.singleOperand payload i = 1 := by
  cases f with
  | readCoils | readDiscreteInputs | readHoldingRegisters | readInputRegisters => rfl
  | writeSingleCoil | writeSingleRegister | writeMultipleCoils | writeMultipleRegisters =>
    exact h.elim

theorem operand_singlePayload :
    operand (f.singlePayload payload i) = (f.singleOperand payload i).toNat := operand_range _ _

theorem Serves.four_le_length (h : f.Serves s payload) : 4 ≤ payload.length := by
  have hvalid := h.valid
  cases f with
  | readCoils | readDiscreteInputs | readHoldingRegisters | readInputRegisters =>
    exact (not_invalidRange.1 hvalid).1
  | writeSingleCoil => exact Nat.le_of_not_lt (not_or.1 hvalid).1
  | writeSingleRegister => exact Nat.le_of_not_lt hvalid
  | writeMultipleCoils | writeMultipleRegisters =>
    exact Nat.le_of_succ_le (not_invalidBlock.1 hvalid).1

theorem valid_singlePayload (h : f.Serves s payload) :
    ¬ f.single.IsInvalid s.limits (f.singlePayload payload i) := by
  have hvalid := h.valid
  cases f with
  | readCoils | readDiscreteInputs | readHoldingRegisters | readInputRegisters =>
    -- A limit that admits the whole quantity admits one cell.
    have hlimit := (not_invalidRange.1 hvalid).2
    refine not_invalidRange.2 ⟨Nat.le_refl 4, ?_⟩
    rw [operand_singlePayload]
    exact ⟨Nat.le_refl 1, Nat.le_trans hlimit.1 hlimit.2⟩
  | writeSingleCoil =>
    obtain ⟨a₁, a₀, v₁, v₀, rest, rfl⟩ := eq_cons_of_four_le h.four_le_length
    rw [IsInvalid, operand_cons] at hvalid
    refine not_or.2 ⟨Nat.lt_irrefl 4, ?_⟩
    rw [operand_singlePayload]
    exact (not_or.1 hvalid).2
  | writeMultipleCoils =>
    refine not_or.2 ⟨Nat.lt_irrefl 4, ?_⟩
    rw [operand_singlePayload, singleOperand, Decidable.not_not]
    split
    · exact .inl rfl
    · exact .inr rfl
  | writeSingleRegister | writeMultipleRegisters => exact Nat.lt_irrefl 4

/-- A write gives the cell at place `i` the value that its single request has for it. -/
theorem coilWritten_place (h : f.Serves s payload) (hi : i < f.count payload)
    (hf : f.single = .writeSingleCoil) :
    coilWritten f.code payload (start payload + i) =
      some (f.singleOperand payload i == Operation.coilOn) := by
  obtain ⟨a₁, a₀, v₁, v₀, rest, rfl⟩ := eq_cons_of_four_le h.four_le_length
  cases f with
  | readCoils | readDiscreteInputs | readHoldingRegisters | readInputRegisters
  | writeSingleRegister | writeMultipleRegisters => cases hf
  | writeSingleCoil =>
    obtain rfl := Nat.lt_one_iff.1 hi
    rw [code, coilWritten_single, start_cons, Nat.add_zero, if_pos rfl]
    rfl
  | writeMultipleCoils =>
    have hplace : i < (word v₁ v₀).toNat := operand_cons .. ▸ hi
    rw [code, coilWritten_block, start_cons,
      if_pos ⟨Nat.le_add_right _ i, Nat.add_lt_add_left hplace _⟩, Nat.add_sub_cancel_left,
      singleOperand]
    -- The bits are behind address, quantity and byte count.
    change some (bitAt (rest.drop 1) i) = some ((if bitAt (rest.drop 1) i then _ else _) == _)
    cases bitAt (rest.drop 1) i <;> rfl

theorem registerWritten_place (h : f.Serves s payload) (hi : i < f.count payload)
    (hf : f.single = .writeSingleRegister) :
    registerWritten f.code payload (start payload + i) = some (f.singleOperand payload i) := by
  obtain ⟨a₁, a₀, v₁, v₀, rest, rfl⟩ := eq_cons_of_four_le h.four_le_length
  cases f with
  | readCoils | readDiscreteInputs | readHoldingRegisters | readInputRegisters
  | writeSingleCoil | writeMultipleCoils => cases hf
  | writeSingleRegister =>
    obtain rfl := Nat.lt_one_iff.1 hi
    rw [code, registerWritten_single, start_cons, Nat.add_zero, if_pos rfl]
    rfl
  | writeMultipleRegisters =>
    have hplace : i < (word v₁ v₀).toNat := operand_cons .. ▸ hi
    rw [code, registerWritten_block, start_cons,
      if_pos ⟨Nat.le_add_right _ i, Nat.add_lt_add_left hplace _⟩, Nat.add_sub_cancel_left,
      singleOperand]
    rfl

section InOrder

variable (h : f.Serves s payload) (hs : s.registers.Addressable) (hi : i < f.count payload)

include h hs hi

theorem toNat_singleAddress :
    (UInt16.ofNat (start payload + i)).toNat = start payload + i := by
  have hend : start payload + f.count payload ≤ 65536 :=
    Nat.le_trans (Nat.le_of_not_lt (mt isOutside_iff.2 h.inside)) (hs f.bank)
  rw [UInt16.toNat_ofNat']
  exact Nat.mod_eq_of_lt (by omega)

theorem start_singlePayload : start (f.singlePayload payload i) = start payload + i :=
  (start_bigEndian _ _).trans (toNat_singleAddress h hs hi)

/-- Each cell of a request that is served can be asked for alone. -/
theorem Serves.single : f.single.Serves s (f.singlePayload payload i) where
  valid := valid_singlePayload h
  inside := by
    have hend := mt isOutside_iff.2 h.inside
    have hbank : f.single.bank = f.bank := by cases f <;> rfl
    have hone : f.single.count (f.singlePayload payload i) = 1 := by
      cases f with
      | readCoils | readDiscreteInputs | readHoldingRegisters | readInputRegisters =>
        exact operand_singlePayload
      | writeSingleCoil | writeSingleRegister | writeMultipleCoils | writeMultipleRegisters => rfl
    -- The range of one cell ends where that of all ends, or before.
    rw [isOutside_iff, hbank, hone, start_singlePayload h hs hi]
    omega
  length_le := by
    have hone : f.single.answerLength (operand (f.singlePayload payload i)) =
        f.single.answerLength 1 := by
      rw [operand_singlePayload]
      cases f <;> rfl
    rw [hone]
    cases f <;> decide

/-- A request for one cell gives it what the whole request gives it. -/
theorem coilWritten_singlePayload (address : Nat) :
    coilWritten f.single.code (f.singlePayload payload i) address =
      if address = start payload + i then coilWritten f.code payload address else none := by
  have haddress := toNat_singleAddress h hs hi
  cases f with
  | readCoils | readDiscreteInputs | readHoldingRegisters | readInputRegisters
  | writeSingleRegister | writeMultipleRegisters =>
    rw [coilWritten_of_ne (by decide) (by decide), coilWritten_of_ne (by decide) (by decide),
      ite_self]
  | writeSingleCoil | writeMultipleCoils =>
    refine (coilWritten_pair _ _ address).trans ?_
    rw [haddress]
    split
    · next hplace =>
      subst hplace
      exact (coilWritten_place h hi rfl).symm
    · rfl

theorem registerWritten_singlePayload (address : Nat) :
    registerWritten f.single.code (f.singlePayload payload i) address =
      if address = start payload + i then registerWritten f.code payload address else none := by
  have haddress := toNat_singleAddress h hs hi
  cases f with
  | readCoils | readDiscreteInputs | readHoldingRegisters | readInputRegisters
  | writeSingleCoil | writeMultipleCoils =>
    rw [registerWritten_of_ne (by decide) (by decide),
      registerWritten_of_ne (by decide) (by decide), ite_self]
  | writeSingleRegister | writeMultipleRegisters =>
    refine (registerWritten_pair _ _ address).trans ?_
    rw [haddress]
    split
    · next hplace =>
      subst hplace
      exact (registerWritten_place h hi rfl).symm
    · rfl

/-- A read of one cell reads the cell at its place. -/
theorem cells_singlePayload {α : Type} {b : Bank α} {c : α} (hread : f.IsRead)
    (hc : (cells b payload)[i]? = some c) : cells b (f.singlePayload payload i) = [c] := by
  have hone : operand (f.singlePayload payload i) = 1 := by
    rw [operand_singlePayload, singleOperand_read hread]
    rfl
  have hplace : i < operand payload := count_read hread ▸ hi
  rw [cells, List.getElem?_take_of_lt hplace, List.getElem?_drop] at hc
  rw [cells, hone, start_singlePayload h hs hi, List.take_one, List.head?_drop, hc]
  rfl

end InOrder

theorem map_cells_singlePayload {α : Type} {b : Bank α} (h : f.Serves s payload)
    (hs : s.registers.Addressable) (hread : f.IsRead)
    (hb : ¬ b.size < start payload + operand payload) (write : List α → Octets) :
    ((List.range (f.count payload)).map fun i => write (cells b (f.singlePayload payload i))) =
      (cells b payload).map fun c => write [c] := by
  have hlength := length_cells hb
  apply List.ext_getElem
  · rw [List.length_map, List.length_map, List.length_range, hlength, count_read hread]
  · intro i hi hi'
    rw [List.length_map] at hi hi'
    rw [List.length_range] at hi
    rw [List.getElem_map, List.getElem_map, List.getElem_range,
      cells_singlePayload h hs hi hread (List.getElem?_eq_getElem hi')]

end StandardFunction

/-! ### The cells in front of an address -/

def upTo {α : Type} (written : Nat → Option α) (bound address : Nat) : Option α :=
  if address < bound then written address else none

section UpTo

variable {α : Type} {bound : Nat}

theorem upTo_succ (written : Nat → Option α) : upTo written (bound + 1) = fun address =>
    (if address = bound then written address else none).or (upTo written bound address) := by
  funext address
  unfold upTo
  -- In front of the bound, at it, and behind it.
  rcases Nat.lt_trichotomy address bound with hlt | rfl | hgt
  · rw [if_pos (Nat.lt_succ_of_lt hlt), if_neg (Nat.ne_of_lt hlt), if_pos hlt, Option.none_or]
  · rw [if_pos (Nat.lt_succ_self address), if_pos rfl, if_neg (Nat.lt_irrefl address),
      Option.or_none]
  · rw [if_neg (Nat.not_lt.2 hgt), if_neg (Nat.ne_of_gt hgt), if_neg (Nat.lt_asymm hgt),
      Option.none_or]

theorem upTo_none : upTo (fun _ => (none : Option α)) bound = fun _ => none :=
  funext fun _ => ite_self none

variable {written : UInt8 → Octets → Nat → Option α} {bank : BankName} {f : StandardFunction}
  {payload : Octets}

theorem WritesInto.upTo_start (h : WritesInto written bank) :
    upTo (written f.code payload) (start payload) = fun _ => none := by
  funext address
  unfold upTo
  split
  · next hlt =>
    rw [Option.eq_none_iff_forall_ne_some]
    exact fun value hvalue => absurd (h.covers hvalue).2.1 (Nat.not_le_of_lt hlt)
  · rfl

theorem WritesInto.upTo_end (h : WritesInto written bank) :
    upTo (written f.code payload) (start payload + f.count payload) = written f.code payload := by
  funext address
  unfold upTo
  split
  · rfl
  · next hle =>
    rw [eq_comm, Option.eq_none_iff_forall_ne_some]
    exact fun value hvalue => hle (h.covers hvalue).2.2

end UpTo

/-! ### Answers taken apart -/

def BitByBit (whole : Octets) (parts : List Octets) : Prop :=
  ∃ (bits : List Bool) (data : Octets), whole = UInt8.ofNat data.length :: data ∧
    data.length = (bits.length + 7) / 8 ∧ (∀ i, bitAt data i = bits.getD i false) ∧
    parts = bits.map fun bit => [1, bit.toUInt8]

def WordByWord (whole : Octets) (parts : List Octets) : Prop :=
  ∃ words : List UInt16, whole = UInt8.ofNat (2 * words.length) :: words.flatMap bigEndian ∧
    parts = words.map fun w => 2 :: bigEndian w

theorem bitByBit_bitsAnswer (bits : List Bool) :
    BitByBit (Operation.bitsAnswer bits) (bits.map fun bit => Operation.bitsAnswer [bit]) := by
  refine ⟨bits, packBits bits, rfl, length_packBits bits, bitAt_packBits bits, ?_⟩
  congr 1
  funext bit
  cases bit <;> decide +kernel

theorem wordByWord_wordsAnswer (words : List UInt16) :
    WordByWord (Operation.wordsAnswer words) (words.map fun w => Operation.wordsAnswer [w]) := by
  refine ⟨words, ?_, rfl⟩
  rw [Operation.wordsAnswer, Operation.counted, length_words]

namespace StandardFunction

variable {f : StandardFunction} {s : SlaveState} {payload : Octets}

theorem bitByBit_answer (h : f.Serves s payload) (hs : s.registers.Addressable)
    (hf : f = .readCoils ∨ f = .readDiscreteInputs) :
    BitByBit (f.answer s.registers payload) ((List.range (f.count payload)).map fun i =>
      f.single.answer s.registers (f.singlePayload payload i)) := by
  obtain rfl | rfl := hf
  all_goals
    have hparts := map_cells_singlePayload h hs trivial h.inside Operation.bitsAnswer
    exact hparts ▸ bitByBit_bitsAnswer _

theorem wordByWord_answer (h : f.Serves s payload) (hs : s.registers.Addressable)
    (hf : f = .readHoldingRegisters ∨ f = .readInputRegisters) :
    WordByWord (f.answer s.registers payload) ((List.range (f.count payload)).map fun i =>
      f.single.answer s.registers (f.singlePayload payload i)) := by
  obtain rfl | rfl := hf
  all_goals
    have hparts := map_cells_singlePayload h hs trivial h.inside Operation.wordsAnswer
    exact hparts ▸ wordByWord_wordsAnswer _

end StandardFunction

end Modbus
