namespace Modbus.Text

def hexDigit (n : Nat) : Char := "0123456789ABCDEF".toList.getD n '?'

def hexDigits : Nat → Nat → List Char
  | 0, _ => []
  | width + 1, n => hexDigits width (n / 16) ++ [hexDigit (n % 16)]

def hex8 (n : UInt8) : String := String.ofList (hexDigits 2 n.toNat)

def hex16 (n : UInt16) : String := String.ofList (hexDigits 4 n.toNat)

theorem length_hexDigits (width n : Nat) : (hexDigits width n).length = width := by
  induction width generalizing n with
  | zero => rfl
  | succ width ih => simp [hexDigits, ih]

end Modbus.Text
