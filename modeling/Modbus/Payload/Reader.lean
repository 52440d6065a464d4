import Modbus.Exception
import Modbus.Octets

namespace Modbus.Payload

abbrev Reading (α : Type) := Except Exception (α × Octets)

def readOctets (n : Nat) (left : Octets) : Reading Octets :=
  if n ≤ left.length then .ok (left.splitAt n) else .error .illegalDataValue

def readOctet : Octets → Reading UInt8
  | b :: left => .ok (b, left)
  | [] => .error .illegalDataValue

def readWord : Octets → Reading UInt16
  | high :: low :: left => .ok (word high low, left)
  | _ => .error .illegalDataValue

def readWords : Nat → Octets → Except Exception (List UInt16 × Octets)
  | 0, left => .ok ([], left)
  | n + 1, left => do
    let (w, left) ← readWord left
    let (ws, left) ← readWords n left
    return (w :: ws, left)

theorem readOctets_append (taken left : Octets) :
    readOctets taken.length (taken ++ left) = .ok (taken, left) := by
  simp [readOctets]

theorem readWord_append (w : UInt16) (left : Octets) :
    readWord (bigEndian w ++ left) = .ok (w, left) := by
  simp [readWord, bigEndian, word_highOctet_lowOctet]

end Modbus.Payload
