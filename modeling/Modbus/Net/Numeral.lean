namespace Modbus.Net

def digitValue? (c : Char) : Option Nat :=
  if '0' ≤ c ∧ c ≤ '9' then some (c.toNat - '0'.toNat)
  else if 'a' ≤ c ∧ c ≤ 'f' then some (c.toNat - 'a'.toNat + 10)
  else if 'A' ≤ c ∧ c ≤ 'F' then some (c.toNat - 'A'.toNat + 10)
  else none

def numeral? (radix : Nat) (digits : List Char) : Option Nat :=
  match digits with
  | [] => none
  | _ => digits.foldlM (fun n c => do
      let d ← digitValue? c
      if d < radix then some (n * radix + d) else none) 0

def numeralUpTo? (radix largest : Nat) (digits : List Char) : Option Nat :=
  (numeral? radix digits).filter (· ≤ largest)

/-- A port number, with any number of leading zeros. -/
def port? (digits : List Char) : Option UInt16 := (numeralUpTo? 10 65535 digits).map UInt16.ofNat

def hexText (n : UInt16) : String := String.ofList (Nat.toDigits 16 n.toNat)

def fields (separator : Char) : List Char → List (List Char)
  | [] => [[]]
  | c :: rest =>
    match fields separator rest with
    | [] => [[c]]
    | f :: fs => if c = separator then [] :: f :: fs else (c :: f) :: fs

end Modbus.Net
