import Modbus.Bank

namespace Modbus

/-- Of the values that come from the entries of a list, the last one, with one more entry in front.
-/
theorem getLast?_filterMap_cons {α β : Type} (f : β → Option α) (x : β) (xs : List β) :
    ((x :: xs).filterMap f).getLast? = (xs.filterMap f).getLast?.or (f x) := by
  cases hx : f x with
  | none => rw [List.filterMap_cons_none hx, Option.or_none]
  | some value =>
    rw [List.filterMap_cons_some hx, List.getLast?_cons]
    cases (xs.filterMap f).getLast? <;> rfl

namespace Bank

variable {α : Type} {b b' : Bank α}

theorem covers_iff {address : UInt16} {quantity : Nat} :
    b.covers address quantity = true ↔ address.toNat + quantity ≤ b.cells.size := decide_eq_true_iff

theorem read_ok {address quantity : UInt16} {values : List α}
    (h : b.read address quantity = .ok values) :
    values.length = quantity.toNat ∧
      ∀ i < quantity.toNat, b.cells[address.toNat + i]? = values[i]? := by
  unfold read at h
  split at h
  · next hcovers =>
    obtain rfl := Except.ok.inj h
    have hend := covers_iff.1 hcovers
    constructor
    · rw [Array.length_toList, Array.size_extract]
      omega
    · intro i hi
      rw [Array.getElem?_toList, Array.getElem?_extract_of_lt (by omega)]
      exact Array.getElem?_eq_getElem _
  · cases h

theorem cells_write {address : UInt16} {values : List α} (h : b.write address values = .ok b')
    (i : Nat) :
    b'.cells[i]? = b.cells[i]?.map
      ((if address.toNat ≤ i then values[i - address.toNat]? else none).getD ·) := by
  unfold write at h
  split at h
  · obtain rfl := Except.ok.inj h
    rw [getElem?_overlay]
    by_cases hi : i < b.cells.size
    · rw [if_pos hi, Array.getElem?_eq_getElem hi]
      cases (if address.toNat ≤ i then values[i - address.toNat]? else none) <;> rfl
    · rw [if_neg hi, Array.getElem?_eq_none (Nat.le_of_not_lt hi)]
      rfl
  · cases h

theorem cells_set {address : UInt16} {value : α} (h : b.set address value = .ok b') (i : Nat) :
    b'.cells[i]? = b.cells[i]?.map ((if i = address.toNat then some value else none).getD ·) := by
  unfold set at h
  split at h
  · next haddress =>
    obtain rfl := Except.ok.inj h
    have hinside : address.toNat < b.cells.size := haddress
    rw [Array.getElem?_setIfInBounds]
    by_cases hi : i = address.toNat
    · subst hi
      rw [if_pos rfl, if_pos rfl, if_pos hinside, Array.getElem?_eq_getElem hinside]
      rfl
    · rw [if_neg (Ne.symm hi), if_neg hi]
      cases b.cells[i]? <;> rfl
  · cases h

theorem size_of_getElem? {change : Nat → α → α}
    (h : ∀ i, b'.cells[i]? = b.cells[i]?.map (change i)) : b'.size = b.size := by
  have hbehind (i : Nat) : b'.cells.size ≤ i ↔ b.cells.size ≤ i := by
    rw [← Array.getElem?_eq_none_iff, h, Option.map_eq_none_iff, Array.getElem?_eq_none_iff]
  have hlow := hbehind b'.cells.size
  have hhigh := hbehind b.cells.size
  unfold size
  omega

/-- A bank is no more than its cells. -/
theorem eq_of_getElem? (h : ∀ i : Nat, b.cells[i]? = b'.cells[i]?) : b = b' :=
  congrArg mk (Array.ext_getElem? h)

end Bank

end Modbus
