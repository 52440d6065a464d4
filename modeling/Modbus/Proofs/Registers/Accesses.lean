import Modbus.Proofs.Registers.Cells

namespace Modbus.Bank

variable {α : Type}

inductive Access (α : Type)
  | read (address quantity : UInt16)
  | write (address : UInt16) (values : List α)
  | get (address : UInt16)
  | set (address : UInt16) (value : α)

/-- Takes over the bank that a write leaves. One that is refused leaves none. -/
def takeOver (b : Bank α) : Except Exception (Bank α) → Except Exception (List α) × Bank α
  | .ok b' => (.ok [], b')
  | .error e => (.error e, b)

def perform (b : Bank α) : Access α → Except Exception (List α) × Bank α
  | .read address quantity => (b.read address quantity, b)
  | .write address values => b.takeOver (b.write address values)
  | .get address => ((b.get address).map fun value => [value], b)
  | .set address value => b.takeOver (b.set address value)

def performAll (b : Bank α) (accesses : List (Access α)) : Bank α :=
  accesses.foldl (fun b access => (b.perform access).2) b

/-- What a read comes to: the cells in order, or a refusal since they are not all there. -/
inductive Reads (b : Bank α) (address quantity : UInt16) :
    Except Exception (List α) × Bank α → Prop
  | shown {values : List α} (hend : address.toNat + quantity.toNat ≤ b.size)
    (hlength : values.length = quantity.toNat)
    (hcells : ∀ i < quantity.toNat, values[i]? = b.cells[address.toNat + i]?) :
    Reads b address quantity (.ok values, b)
  | refused (hend : b.size < address.toNat + quantity.toNat) :
    Reads b address quantity (.error .illegalDataAddress, b)

/-- What a write comes to: the values in their cells and all other cells as they were, or a refusal
since the cells are not all there. -/
inductive Writes (b : Bank α) (address : UInt16) (values : List α) :
    Except Exception (List α) × Bank α → Prop
  | written {b' : Bank α} (hend : address.toNat + values.length ≤ b.size)
    (hsize : b'.size = b.size)
    (hcells : ∀ i : Nat, b'.cells[i]? =
      if address.toNat ≤ i ∧ i < address.toNat + values.length then values[i - address.toNat]?
      else b.cells[i]?) :
    Writes b address values (.ok [], b')
  | refused (hend : b.size < address.toNat + values.length) :
    Writes b address values (.error .illegalDataAddress, b)

theorem reads (b : Bank α) (address quantity : UInt16) :
    b.Reads address quantity (b.perform (.read address quantity)) := by
  rw [perform]
  by_cases hend : address.toNat + quantity.toNat ≤ b.size
  · have hread : b.read address quantity =
        .ok (b.cells.extract address.toNat (address.toNat + quantity.toNat)).toList :=
      if_pos (covers_iff.2 hend)
    obtain ⟨hlength, hcells⟩ := read_ok hread
    rw [hread]
    exact .shown hend hlength fun i hi => (hcells i hi).symm
  · have hread : b.read address quantity = .error .illegalDataAddress :=
      if_neg (mt covers_iff.1 hend)
    rw [hread]
    exact .refused (Nat.lt_of_not_le hend)

theorem writes (b : Bank α) (address : UInt16) (values : List α) :
    b.Writes address values (b.perform (.write address values)) := by
  rw [perform]
  by_cases hend : address.toNat + values.length ≤ b.size
  · have hwrite : b.write address values = .ok ⟨overlay b.cells address.toNat values⟩ :=
      if_pos (covers_iff.2 hend)
    rw [hwrite]
    apply Writes.written hend (size_write hwrite)
    intro i
    rw [cells_write hwrite]
    by_cases hi : address.toNat ≤ i ∧ i < address.toNat + values.length
    · have hvalue : i - address.toNat < values.length := by omega
      have hcell : i < b.cells.size := Nat.lt_of_lt_of_le hi.2 hend
      simp [hi, hvalue, hcell]
    · have hnone : (if address.toNat ≤ i then values[i - address.toNat]? else none) = none := by
        split
        · apply List.getElem?_eq_none
          omega
        · rfl
      simp [hi, hnone]
  · have hwrite : b.write address values = .error .illegalDataAddress :=
      if_neg (mt covers_iff.1 hend)
    rw [hwrite]
    exact .refused (Nat.lt_of_not_le hend)

/-! ### Single cells -/

/-- To look at one cell is to read a range of length 1. -/
theorem map_get (b : Bank α) (address : UInt16) :
    (b.get address).map (fun value => [value]) = b.read address 1 := by
  by_cases hend : address.toNat < b.cells.size
  · have hread : b.read address 1 =
        .ok (b.cells.extract address.toNat (address.toNat + 1)).toList :=
      if_pos (covers_iff.2 hend)
    obtain ⟨hlength, hcells⟩ := read_ok hread
    obtain ⟨value, hvalue⟩ := List.length_eq_one_iff.1 hlength
    have hcell : b.cells[address.toNat]? = some value := by
      have h := hcells 0 (by decide)
      rwa [hvalue] at h
    rw [get, hcell, hread, hvalue]
    rfl
  · have hread : b.read address 1 = .error .illegalDataAddress :=
      if_neg (mt covers_iff.1 hend)
    rw [get, Array.getElem?_eq_none (Nat.le_of_not_lt hend), hread]
    rfl

/-- To change one cell is to write a range of length 1. -/
theorem set_eq_write (b : Bank α) (address : UInt16) (value : α) :
    b.set address value = b.write address [value] := by
  unfold set write
  simp only [covers_iff]
  rfl

theorem perform_get (b : Bank α) (address : UInt16) :
    b.perform (.get address) = b.perform (.read address 1) := by
  change ((b.get address).map _, b) = (b.read address 1, b)
  rw [map_get]

theorem perform_set (b : Bank α) (address : UInt16) (value : α) :
    b.perform (.set address value) = b.perform (.write address [value]) := by
  change b.takeOver (b.set address value) = b.takeOver (b.write address [value])
  rw [set_eq_write]

/-! ### Accesses in a row -/

/-- The value that an access gives to the cell at an address of a bank of the given size. An access
that does not fit the bank gives none. -/
def Access.given (size i : Nat) : Access α → Option α
  | .write address values =>
    if address.toNat + values.length ≤ size ∧ address.toNat ≤ i then values[i - address.toNat]?
    else none
  | .set address value => if address.toNat < size ∧ i = address.toNat then some value else none
  | .read _ _ | .get _ => none

def lastGiven (size i : Nat) (accesses : List (Access α)) : Option α :=
  (accesses.filterMap (Access.given size i)).getLast?

theorem cells_write_perform (b : Bank α) (address : UInt16) (values : List α) (i : Nat) :
    (b.perform (.write address values)).2.cells[i]? =
      b.cells[i]?.map (((Access.write address values).given b.size i).getD ·) := by
  change (b.takeOver (b.write address values)).2.cells[i]? = _
  unfold Access.given
  by_cases hend : address.toNat + values.length ≤ b.size
  · have hwrite : b.write address values = .ok ⟨overlay b.cells address.toNat values⟩ :=
      if_pos (covers_iff.2 hend)
    rw [hwrite]
    simpa [takeOver, hend] using cells_write hwrite i
  · have hwrite : b.write address values = .error .illegalDataAddress :=
      if_neg (mt covers_iff.1 hend)
    rw [hwrite]
    simp [takeOver, hend]

theorem Access.given_set (size i : Nat) (address : UInt16) (value : α) :
    (Access.set address value).given size i = (Access.write address [value]).given size i := by
  unfold Access.given
  by_cases hi : i = address.toNat
  · simp only [hi, and_true, List.length_singleton, Nat.succ_le_iff, Nat.le_refl, Nat.sub_self,
      List.getElem?_cons_zero]
  · by_cases hle : address.toNat ≤ i
    · have hbehind : ¬ i - address.toNat = 0 := by omega
      simp [hi, hle, hbehind]
    · simp [hi, hle]

/-- A cell has the value that an access gives to it, or the one that it had. -/
theorem cells_perform (b : Bank α) (access : Access α) (i : Nat) :
    (b.perform access).2.cells[i]? = b.cells[i]?.map ((access.given b.size i).getD ·) := by
  cases access with
  | read address quantity => simp [perform, Access.given]
  | get address => simp [perform, Access.given]
  | write address values => exact cells_write_perform b address values i
  | set address value =>
    rw [perform_set, Access.given_set]
    exact cells_write_perform b address [value] i

theorem size_perform (b : Bank α) (access : Access α) : (b.perform access).2.size = b.size :=
  size_of_getElem? (b.cells_perform access)

theorem cells_performAll (b : Bank α) (accesses : List (Access α)) (i : Nat) :
    (b.performAll accesses).cells[i]? =
      b.cells[i]?.map ((lastGiven b.size i accesses).getD ·) := by
  induction accesses generalizing b with
  | nil => simp [performAll, lastGiven]
  | cons access accesses ih =>
    have hrest := ih (b.perform access).2
    rw [size_perform, cells_perform, Option.map_map] at hrest
    have hlast : lastGiven b.size i (access :: accesses) =
        (lastGiven b.size i accesses).or (access.given b.size i) :=
      getLast?_filterMap_cons (Access.given b.size i) access accesses
    change ((b.perform access).2.performAll accesses).cells[i]? = _
    -- the first access counts only where no later one gives a value
    rw [hrest, hlast]
    congr 1
    funext value
    cases lastGiven b.size i accesses <;> rfl

theorem size_performAll (b : Bank α) (accesses : List (Access α)) :
    (b.performAll accesses).size = b.size :=
  size_of_getElem? (b.cells_performAll accesses)

/-- After any accesses, a bank has as many cells as before, reads and writes go through just where
all cells are there, single cells are ranges of length 1, and a cell holds the last value that an
access gave to it. -/
theorem performAll_map (b : Bank α) (accesses : List (Access α)) :
    let b' := b.performAll accesses
    b'.size = b.size ∧
    (∀ address quantity, b'.Reads address quantity (b'.perform (.read address quantity))) ∧
    (∀ address values, b'.Writes address values (b'.perform (.write address values))) ∧
    (∀ address, b'.perform (.get address) = b'.perform (.read address 1)) ∧
    (∀ address value, b'.perform (.set address value) = b'.perform (.write address [value])) ∧
    ∀ address quantity values, b'.read address quantity = .ok values →
      ∀ i < quantity.toNat, values[i]? = b.cells[address.toNat + i]?.map
        ((lastGiven b.size (address.toNat + i) accesses).getD ·) := by
  intro b'
  refine ⟨b.size_performAll accesses, b'.reads, b'.writes, b'.perform_get, b'.perform_set, ?_⟩
  intro address quantity values hread i hi
  rw [← (read_ok hread).2 i hi]
  exact b.cells_performAll accesses _

/-- Two ranges that overlap, a cell in both, and a range that does not fit and gives nothing. -/
theorem performAll_map_overlap :
    let b : Bank UInt16 := .replicate 4 0
    let accesses : List (Access UInt16) :=
      [.write 0 [1, 2, 3], .write 2 [7, 8], .set 2 9, .write 3 [5, 5], .get 4]
    b.performAll accesses = ⟨#[1, 2, 9, 8]⟩ ∧
      (b.performAll accesses).read 1 3 = .ok [2, 9, 8] ∧
      [(2 : UInt16), 9, 8][1]? = some ((lastGiven 4 2 accesses).getD 0) ∧
      lastGiven 4 2 accesses = some 9 ∧ lastGiven 4 3 accesses = some 8 := by
  intro b accesses
  have hcells : b.performAll accesses = ⟨#[1, 2, 9, 8]⟩ := by decide +kernel
  have hread : (b.performAll accesses).read 1 3 = .ok [2, 9, 8] := by
    rw [hcells]
    rfl
  obtain ⟨-, -, -, -, -, hlast⟩ := b.performAll_map accesses
  exact ⟨hcells, hread, hlast 1 3 _ hread 1 (by decide), by decide +kernel, by decide +kernel⟩

end Modbus.Bank
