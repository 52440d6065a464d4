import Modbus.Exception

namespace Modbus

structure Bank (α : Type) where
  cells : Array α
  deriving DecidableEq

namespace Bank

variable {α : Type}

def replicate (size : Nat) (blank : α) : Bank α := ⟨Array.replicate size blank⟩

def size (b : Bank α) : Nat := b.cells.size

def isEmpty (b : Bank α) : Bool := b.cells.isEmpty

def toList (b : Bank α) : List α := b.cells.toList

def covers (b : Bank α) (address : UInt16) (quantity : Nat) : Bool :=
  address.toNat + quantity ≤ b.size

def read (b : Bank α) (address quantity : UInt16) : Except Exception (List α) :=
  if b.covers address quantity.toNat then
    .ok (b.cells.extract address.toNat (address.toNat + quantity.toNat)).toList
  else
    .error .illegalDataAddress

/-- The cells with `values` laid over them from `start` on. -/
def overlay (cells : Array α) (start : Nat) : List α → Array α
  | [] => cells
  | v :: values => overlay (cells.setIfInBounds start v) (start + 1) values

def write (b : Bank α) (address : UInt16) (values : List α) : Except Exception (Bank α) :=
  if b.covers address values.length then
    .ok ⟨overlay b.cells address.toNat values⟩
  else
    .error .illegalDataAddress

def get (b : Bank α) (address : UInt16) : Except Exception α :=
  match b.cells[address.toNat]? with
  | some v => .ok v
  | none => .error .illegalDataAddress

def set (b : Bank α) (address : UInt16) (value : α) : Except Exception (Bank α) :=
  if address.toNat < b.size then
    .ok ⟨b.cells.setIfInBounds address.toNat value⟩
  else
    .error .illegalDataAddress

theorem size_overlay (cells : Array α) (start : Nat) (values : List α) :
    (overlay cells start values).size = cells.size := by
  induction values generalizing cells start with
  | nil => rfl
  | cons v values ih => rw [overlay, ih, Array.size_setIfInBounds]

theorem getElem?_overlay (cells : Array α) (start : Nat) (values : List α) (i : Nat) :
    (overlay cells start values)[i]? =
      if i < cells.size then
        (if start ≤ i then values[i - start]? else none).or cells[i]?
      else none := by
  induction values generalizing cells start with
  | nil =>
    by_cases hi : i < cells.size <;> simp [overlay, hi]
  | cons v values ih =>
    rw [overlay, ih, Array.size_setIfInBounds]
    by_cases hi : i < cells.size
    · simp only [hi, if_true, Array.getElem?_setIfInBounds]
      by_cases h₁ : start + 1 ≤ i
      · have h₂ : start ≤ i := by omega
        have h₃ : i - start = (i - (start + 1)) + 1 := by omega
        have h₄ : ¬ start = i := by omega
        simp [h₁, h₂, h₃, h₄]
      · by_cases h₂ : start = i
        · subst h₂
          simp [hi, h₁]
        · have h₃ : ¬ start ≤ i := by omega
          simp [h₁, h₂, h₃]
    · simp [hi]

theorem size_write {b b' : Bank α} {address : UInt16} {values : List α}
    (h : b.write address values = .ok b') : b'.size = b.size := by
  unfold write at h
  split at h
  · cases h
    exact size_overlay _ _ _
  · cases h

theorem size_set {b b' : Bank α} {address : UInt16} {value : α}
    (h : b.set address value = .ok b') : b'.size = b.size := by
  unfold set at h
  split at h
  · cases h
    exact Array.size_setIfInBounds
  · cases h

end Bank

end Modbus
