namespace Modbus

structure Duration where
  nanoseconds : Nat
  deriving DecidableEq, Repr

namespace Duration

def ofMilliseconds (n : Nat) : Duration := ⟨n * 1000000⟩

def ofSeconds (n : Nat) : Duration := ⟨n * 1000000000⟩

def brief : Duration := ⟨100⟩

def isZero (d : Duration) : Bool := d.nanoseconds == 0

/-- A unit of `10 ^ digits` nanoseconds, which leaves a fraction of at most `digits` digits. -/
structure TimeUnit where
  digits : Nat
  symbol : String

/-- The units in the order they are tried. The last one takes what no larger one does, zero
included. -/
def unitFor (nanoseconds : Nat) : TimeUnit :=
  if nanoseconds ≥ Nat.pow 10 9 then ⟨9, "s"⟩
  else if nanoseconds ≥ Nat.pow 10 6 then ⟨6, "ms"⟩
  else if nanoseconds ≥ Nat.pow 10 3 then ⟨3, "µs"⟩
  else ⟨0, "ns"⟩

def decimalDigits : Nat → Nat → List Char
  | 0, _ => []
  | width + 1, n => decimalDigits width (n / 10) ++ [Nat.digitChar (n % 10)]

def trimZeros (digits : List Char) : List Char :=
  (digits.reverse.dropWhile (· == '0')).reverse

def fraction (digits : List Char) : String :=
  match trimZeros digits with
  | [] => ""
  | ds => "." ++ String.ofList ds

def text (d : Duration) : String :=
  let u := unitFor d.nanoseconds
  let scale := Nat.pow 10 u.digits
  toString (d.nanoseconds / scale) ++ fraction (decimalDigits u.digits (d.nanoseconds % scale))
    ++ u.symbol

example : (Duration.mk 0).text = "0ns" := by decide +kernel
example : (Duration.mk 20500000).text = "20.5ms" := by decide +kernel
example : (Duration.mk 1000000001).text = "1.000000001s" := by decide +kernel

end Duration

end Modbus
