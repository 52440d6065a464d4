import Modbus.Proofs.Registers.Refusal

namespace Modbus

namespace Payload

/-- The word in front, the first address that a request covers. -/
def start (payload : Octets) : Nat := ofBigEndian (payload.take 2)

/-- The word behind the address, a quantity or the value for a single cell. -/
def operand (payload : Octets) : Nat := ofBigEndian ((payload.drop 2).take 2)

/-- The octet behind the two words, which counts the data of a block. -/
def byteCount (payload : Octets) : Nat := (payload.getD 4 0).toNat

theorem start_cons (a₁ a₀ : UInt8) (rest : Octets) :
    start (a₁ :: a₀ :: rest) = (word a₁ a₀).toNat := ofBigEndian_pair a₁ a₀

theorem operand_cons (a₁ a₀ v₁ v₀ : UInt8) (rest : Octets) :
    operand (a₁ :: a₀ :: v₁ :: v₀ :: rest) = (word v₁ v₀).toNat := ofBigEndian_pair v₁ v₀

theorem eq_cons_of_four_le {payload : Octets} (h : 4 ≤ payload.length) :
    ∃ a₁ a₀ v₁ v₀ rest, payload = a₁ :: a₀ :: v₁ :: v₀ :: rest := by
  match payload with
  | a₁ :: a₀ :: v₁ :: v₀ :: rest => exact ⟨a₁, a₀, v₁, v₀, rest, rfl⟩
  | [] | [_] | [_, _] | [_, _, _] => simp at h

def Exceeds (largest : UInt16) (payload : Octets) : Prop :=
  ¬ (1 ≤ operand payload ∧ operand payload ≤ largest.toNat)

def InvalidRange (largest : UInt16) (payload : Octets) : Prop :=
  payload.length < 4 ∨ Exceeds largest payload

/-- A bulk write whose quantity is out of range, or whose data is not announced and given as the
`count` octets that the quantity takes. -/
def InvalidBlock (largest : UInt16) (count : Nat) (payload : Octets) : Prop :=
  payload.length < 5 ∨ Exceeds largest payload ∨ byteCount payload ≠ count ∨
    payload.length ≠ 5 + byteCount payload

end Payload

open Payload

namespace StandardFunction

/-- The values in a payload are none that the function takes. -/
def IsInvalid (f : StandardFunction) (l : Limits) (payload : Octets) : Prop :=
  match f with
  | .readCoils | .readDiscreteInputs => InvalidRange l.readCoils payload
  | .readHoldingRegisters | .readInputRegisters => InvalidRange l.readRegisters payload
  | .writeSingleCoil => payload.length < 4 ∨ ¬ (operand payload = 0xFF00 ∨ operand payload = 0)
  | .writeSingleRegister => payload.length < 4
  | .writeMultipleCoils => InvalidBlock l.writeCoils ((operand payload + 7) / 8) payload
  | .writeMultipleRegisters => InvalidBlock l.writeRegisters (2 * operand payload) payload

end StandardFunction

theorem exists_ok_ite {α : Type} {p : Prop} [Decidable p] {a : α} {e : Exception} :
    (∃ b, (if p then .ok a else .error e : Except Exception α) = .ok b) ↔ p := by
  split
  · next h => exact ⟨fun _ => h, fun _ => ⟨a, rfl⟩⟩
  · next h => exact ⟨fun ⟨_, hok⟩ => (nomatch hok), fun hp => absurd hp h⟩

theorem exists_ok_map {α β : Type} {x : Except Exception α} {f : α → β} :
    (∃ b, (x >>= fun a => pure (f a)) = .ok b) ↔ ∃ a, x = .ok a := by
  cases x with
  | error e => exact ⟨fun ⟨_, hok⟩ => (nomatch hok), fun ⟨_, hok⟩ => (nomatch hok)⟩
  | ok a => exact ⟨fun _ => ⟨a, rfl⟩, fun _ => ⟨f a, rfl⟩⟩

namespace Payload

theorem not_invalidRange {largest : UInt16} {payload : Octets} :
    ¬ InvalidRange largest payload ↔
      4 ≤ payload.length ∧ 1 ≤ operand payload ∧ operand payload ≤ largest.toNat := by
  unfold InvalidRange Exceeds
  omega

theorem not_invalidBlock {largest : UInt16} {count : Nat} {payload : Octets} :
    ¬ InvalidBlock largest count payload ↔
      5 ≤ payload.length ∧ (1 ≤ operand payload ∧ operand payload ≤ largest.toNat) ∧
        byteCount payload = count ∧ payload.length = 5 + byteCount payload := by
  unfold InvalidBlock Exceeds
  omega

/-- As many words are read as there are pairs of octets. -/
theorem exists_readWords {n : Nat} {data : Octets} (h : 2 * n ≤ data.length) :
    ∃ words, readWords n data = .ok words := by
  induction n generalizing data with
  | zero => exact ⟨_, rfl⟩
  | succ n ih =>
    match data with
    | high :: low :: rest =>
      simp only [List.length_cons] at h
      obtain ⟨⟨words, left⟩, hwords⟩ := ih (show 2 * n ≤ rest.length by omega)
      refine ⟨(word high low :: words, left), ?_⟩
      rw [readWords]
      exact Operation.bind_ok_iff.2 ⟨_, rfl, Operation.bind_ok_iff.2 ⟨_, hwords, rfl⟩⟩
    | [] | [_] =>
      simp only [List.length_cons, List.length_nil] at h
      omega

end Payload

namespace Operation

theorem within_iff {largest quantity : UInt16} :
    Limits.within largest quantity = true ↔
      1 ≤ quantity.toNat ∧ quantity.toNat ≤ largest.toNat := by
  rw [Limits.within, Bool.and_eq_true, decide_eq_true_eq, decide_eq_true_eq, UInt16.le_iff_toNat_le,
    UInt16.le_iff_toNat_le]
  rfl

theorem decodeRange_cons (allows : UInt16 → Bool) (a₁ a₀ q₁ q₀ : UInt8) (rest : Octets) :
    decodeRange allows (a₁ :: a₀ :: q₁ :: q₀ :: rest) =
      if allows (word q₁ q₀) then .ok (word a₁ a₀, word q₁ q₀) else .error .illegalDataValue := by
  change (do require (allows (word q₁ q₀)); return (word a₁ a₀, word q₁ q₀)) = _
  cases allows (word q₁ q₀) <;> rfl

theorem decodeCoil_cons (a₁ a₀ v₁ v₀ : UInt8) (rest : Octets) :
    decodeCoil (a₁ :: a₀ :: v₁ :: v₀ :: rest) =
      if word v₁ v₀ = coilOn then .ok (writeCoil (word a₁ a₀) true)
      else if word v₁ v₀ = coilOff then .ok (writeCoil (word a₁ a₀) false)
      else .error .illegalDataValue := rfl

theorem decodeBlock_cons (allows : UInt16 → Bool) (octetsFor : Nat → Nat)
    (a₁ a₀ q₁ q₀ count : UInt8) (data : Octets) :
    decodeBlock allows octetsFor (a₁ :: a₀ :: q₁ :: q₀ :: count :: data) =
      if allows (word q₁ q₀) = true ∧ count.toNat = octetsFor (word q₁ q₀).toNat ∧
          data.length = count.toNat then .ok (word a₁ a₀, word q₁ q₀, data)
      else .error .illegalDataValue := by
  change (do
    require (allows (word q₁ q₀) && count.toNat == octetsFor (word q₁ q₀).toNat &&
      data.length == count.toNat)
    return (word a₁ a₀, word q₁ q₀, data)) = _
  rw [require]
  simp only [Bool.and_eq_true, beq_iff_eq, and_assoc]
  split <;> rfl

theorem exists_decodeRange {largest : UInt16} {payload : Octets} :
    (∃ range, decodeRange (Limits.within largest) payload = .ok range) ↔
      ¬ InvalidRange largest payload := by
  rw [not_invalidRange]
  by_cases hlength : 4 ≤ payload.length
  · obtain ⟨a₁, a₀, q₁, q₀, rest, rfl⟩ := eq_cons_of_four_le hlength
    rw [decodeRange_cons, exists_ok_ite, within_iff, operand_cons]
    exact (and_iff_right hlength).symm
  · refine ⟨?_, fun h => absurd h.1 hlength⟩
    rintro ⟨⟨address, quantity⟩, h⟩
    obtain ⟨a₁, a₀, q₁, q₀, rest, rfl, -, -⟩ := decodeRange_ok h
    simp at hlength

theorem decodeCoil_short {payload : Octets} (h : payload.length < 4) :
    decodeCoil payload = .error .illegalDataValue := by
  match payload with
  | [] | [_] | [_, _] | [_, _, _] => rfl
  | _ :: _ :: _ :: _ :: _ =>
    simp only [List.length_cons] at h
    omega

theorem decodeRegister_short {payload : Octets} (h : payload.length < 4) :
    decodeRegister payload = .error .illegalDataValue := by
  match payload with
  | [] | [_] | [_, _] | [_, _, _] => rfl
  | _ :: _ :: _ :: _ :: _ =>
    simp only [List.length_cons] at h
    omega

theorem exists_decodeCoil {payload : Octets} :
    (∃ op, decodeCoil payload = .ok op) ↔
      ¬ (payload.length < 4 ∨ ¬ (operand payload = 0xFF00 ∨ operand payload = 0)) := by
  by_cases hlength : payload.length < 4
  · rw [decodeCoil_short hlength]
    exact ⟨fun ⟨_, hok⟩ => (nomatch hok), fun h => absurd (.inl hlength) h⟩
  · obtain ⟨a₁, a₀, v₁, v₀, rest, rfl⟩ := eq_cons_of_four_le (Nat.le_of_not_lt hlength)
    have hon : word v₁ v₀ = coilOn ↔ (word v₁ v₀).toNat = 0xFF00 := UInt16.toNat_inj.symm
    have hoff : word v₁ v₀ = coilOff ↔ (word v₁ v₀).toNat = 0 := UInt16.toNat_inj.symm
    rw [decodeCoil_cons, operand_cons, not_or, Decidable.not_not, and_iff_right hlength, ← hon,
      ← hoff]
    by_cases hv : word v₁ v₀ = coilOn
    · rw [if_pos hv]
      exact ⟨fun _ => .inl hv, fun _ => ⟨_, rfl⟩⟩
    · rw [if_neg hv, exists_ok_ite, or_iff_right hv]

theorem exists_decodeRegister {payload : Octets} :
    (∃ op, decodeRegister payload = .ok op) ↔ ¬ payload.length < 4 := by
  by_cases hlength : payload.length < 4
  · rw [decodeRegister_short hlength]
    exact ⟨fun ⟨_, hok⟩ => (nomatch hok), fun h => absurd hlength h⟩
  · obtain ⟨a₁, a₀, v₁, v₀, rest, rfl⟩ := eq_cons_of_four_le (Nat.le_of_not_lt hlength)
    exact ⟨fun _ => hlength, fun _ => ⟨_, rfl⟩⟩

theorem exists_decodeBlock {largest : UInt16} {octetsFor : Nat → Nat} {payload : Octets} :
    (∃ block, decodeBlock (Limits.within largest) octetsFor payload = .ok block) ↔
      ¬ InvalidBlock largest (octetsFor (operand payload)) payload := by
  rw [not_invalidBlock]
  constructor
  · rintro ⟨⟨address, quantity, data⟩, h⟩
    obtain ⟨a₁, a₀, q₁, q₀, count, rfl, -, -⟩ := decodeBlock_ok h
    rw [decodeBlock_cons] at h
    obtain ⟨hwithin, hcount, hdata⟩ := exists_ok_ite.1 ⟨_, h⟩
    rw [within_iff] at hwithin
    rw [operand_cons]
    exact ⟨by simp, hwithin, hcount, by simp [byteCount, hdata]; omega⟩
  · rintro ⟨hlength, hwithin, hcount, hdata⟩
    obtain ⟨a₁, a₀, q₁, q₀, rest, rfl⟩ := eq_cons_of_four_le (Nat.le_of_succ_le hlength)
    cases rest with
    | nil => simp at hlength
    | cons count data =>
      rw [operand_cons] at hwithin hcount
      rw [decodeBlock_cons, exists_ok_ite, within_iff]
      refine ⟨hwithin, hcount, ?_⟩
      simp only [byteCount, List.getD_cons_succ, List.getD_cons_zero, List.length_cons] at hdata
      omega

/-- The data of a block is as long as its quantity demands. -/
theorem length_of_decodeBlock {allows : UInt16 → Bool} {octetsFor : Nat → Nat}
    {payload data : Octets} {address quantity : UInt16}
    (h : decodeBlock allows octetsFor payload = .ok (address, quantity, data)) :
    data.length = octetsFor quantity.toNat := by
  obtain ⟨a₁, a₀, q₁, q₀, count, rfl, rfl, rfl⟩ := decodeBlock_ok h
  rw [decodeBlock_cons] at h
  obtain ⟨-, hcount, hdata⟩ := exists_ok_ite.1 ⟨_, h⟩
  exact hdata.trans hcount

theorem exists_decodeRegisters {l : Limits} {payload : Octets} :
    (∃ op, decodeRegisters l payload = .ok op) ↔
      ¬ InvalidBlock l.writeRegisters (2 * operand payload) payload := by
  have hvalid : (∃ block, decodeBlock l.allowsRegisterWrite (fun q => q * 2) payload = .ok block) ↔
      ¬ InvalidBlock l.writeRegisters (operand payload * 2) payload := exists_decodeBlock
  rw [Nat.mul_comm, ← hvalid]
  constructor
  · rintro ⟨op, h⟩
    obtain ⟨block, hblock, -⟩ := bind_ok_iff.1 h
    exact ⟨block, hblock⟩
  · rintro ⟨⟨address, quantity, data⟩, hblock⟩
    have hdata := length_of_decodeBlock hblock
    obtain ⟨⟨values, left⟩, hwords⟩ : ∃ words, readWords quantity.toNat data = .ok words :=
      exists_readWords (Nat.le_of_eq (by rw [hdata, Nat.mul_comm]))
    exact ⟨writeRegisters address quantity values,
      bind_ok_iff.2 ⟨_, hblock, bind_ok_iff.2 ⟨_, hwords, rfl⟩⟩⟩

/-- A payload is read as an operation unless its values are none that the function takes. -/
theorem exists_decode {f : StandardFunction} {l : Limits} {payload : Octets} :
    (∃ op, decode f l payload = .ok op) ↔ ¬ f.IsInvalid l payload := by
  cases f with
  | readCoils | readDiscreteInputs | readHoldingRegisters | readInputRegisters =>
    exact exists_ok_map.trans exists_decodeRange
  | writeSingleCoil => exact exists_decodeCoil
  | writeSingleRegister => exact exists_decodeRegister
  | writeMultipleCoils => exact exists_ok_map.trans exists_decodeBlock
  | writeMultipleRegisters => exact exists_decodeRegisters

end Operation

end Modbus
