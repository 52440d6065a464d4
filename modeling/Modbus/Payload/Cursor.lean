import Modbus.Exception
import Modbus.Octets

namespace Modbus.Payload

/-- A payload of fewer octets than 64 bits can count, and a position that is not behind its end. -/
@[ext]
structure Cursor where
  data : Octets
  position : UInt64
  countable : data.length < UInt64.size
  within : position.toNat ≤ data.length

/-- The sum, unless it takes more than 64 bits. -/
def sum? (a b : UInt64) : Option UInt64 :=
  if a.toNat + b.toNat < UInt64.size then some (a + b) else none

theorem toNat_sum {a b : UInt64} (h : a.toNat + b.toNat < UInt64.size) :
    (a + b).toNat = a.toNat + b.toNat := by
  rw [UInt64.toNat_add]
  exact Nat.mod_eq_of_lt h

namespace Cursor

def start (data : Octets) (countable : data.length < UInt64.size) : Cursor :=
  ⟨data, 0, countable, Nat.zero_le _⟩

def remaining (c : Cursor) : UInt64 := UInt64.ofNat c.data.length - c.position

theorem toNat_next (c : Cursor) (h : c.position.toNat < c.data.length) :
    (c.position + 1).toNat = c.position.toNat + 1 :=
  toNat_sum (Nat.lt_of_le_of_lt h c.countable)

def readOctet (c : Cursor) : Except Exception UInt8 × Cursor :=
  if h : c.position.toNat < c.data.length then
    (.ok c.data[c.position.toNat],
      { c with position := c.position + 1, within := by rwa [c.toNat_next h] })
  else
    (.error .illegalDataValue, c)

def readOctets (c : Cursor) (count : UInt64) : Except Exception Octets × Cursor :=
  match sum? c.position count with
  | none => (.error .illegalDataValue, c)
  | some stop =>
    if h : c.position ≤ stop ∧ stop.toNat ≤ c.data.length then
      (.ok (c.data.extract c.position.toNat stop.toNat), { c with position := stop, within := h.2 })
    else
      (.error .illegalDataValue, c)

def readWord (c : Cursor) : Except Exception UInt16 × Cursor :=
  let (octets, after) := c.readOctets 2
  (octets.map fun octets => UInt16.ofNat (ofBigEndian octets), after)

end Cursor

end Modbus.Payload
