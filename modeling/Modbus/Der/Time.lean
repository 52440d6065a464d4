import Modbus.Der.Value

namespace Modbus.Der

structure PointInTime where
  year : Nat
  month : Nat
  day : Nat
  hour : Nat
  minute : Nat
  second : Nat
  deriving DecidableEq, Repr

def isLeapYear (year : Nat) : Bool := year % 4 == 0 && (year % 100 != 0 || year % 400 == 0)

def daysIn (year month : Nat) : Nat :=
  if month = 2 then (if isLeapYear year then 29 else 28)
  else if month = 4 || month = 6 || month = 9 || month = 11 then 30
  else 31

def PointInTime.isValid (t : PointInTime) : Bool :=
  1 ≤ t.month && t.month ≤ 12 && 1 ≤ t.day && t.day ≤ daysIn t.year t.month
    && t.hour ≤ 23 && t.minute ≤ 59 && t.second ≤ 59

def digit? (b : UInt8) : Option Nat :=
  if 0x30 ≤ b && b ≤ 0x39 then some (b.toNat - 0x30) else none

def readPair : Octets → Option (Nat × Octets)
  | a :: b :: rest => do
    let a ← digit? a
    let b ← digit? b
    return (a * 10 + b, rest)
  | _ => none

/-- The seconds, which are left out where a single character follows the minutes. -/
def readSeconds : Octets → Option (Nat × Octets)
  | [] => none
  | [zone] => some (0, [zone])
  | rest => readPair rest

def isOffset (digits : Octets) : Bool :=
  match readPair digits with
  | none => false
  | some (hours, rest) =>
    match readPair rest with
    | some (minutes, []) => hours ≤ 25 && minutes ≤ 59
    | _ => false

def isZone : Octets → Bool
  | [] => false
  | [z] => z == 0x5A
  | sign :: digits => (sign == 0x2B || sign == 0x2D) && isOffset digits

def isFractionAndZone : Octets → Bool
  | 0x2E :: rest =>
    let digits := rest.takeWhile fun b => (digit? b).isSome
    digits.length ≤ 3 && rest.drop digits.length == [0x5A]
  | zone => zone == [0x5A]

/-- A year below 50 is of this century, any other of the last one. -/
def utcTime? (text : Octets) : Option PointInTime := do
  let (year, rest) ← readPair text
  let (month, rest) ← readPair rest
  let (day, rest) ← readPair rest
  let (hour, rest) ← readPair rest
  let (minute, rest) ← readPair rest
  let (second, zone) ← readSeconds rest
  let year := if year < 50 then 2000 + year else 1900 + year
  let t : PointInTime := { year, month, day, hour, minute, second }
  if t.isValid && isZone zone then some t else none

def generalizedTime? (text : Octets) : Option PointInTime := do
  let (century, rest) ← readPair text
  let (year, rest) ← readPair rest
  let (month, rest) ← readPair rest
  let (day, rest) ← readPair rest
  let (hour, rest) ← readPair rest
  let (minute, rest) ← readPair rest
  let (second, rest) ← readSeconds rest
  let t : PointInTime := { year := century * 100 + year, month, day, hour, minute, second }
  if t.isValid && isFractionAndZone rest then some t else none

/-- The next element is a point in time, whatever its class and whether it holds other elements. -/
def readTime (octets : Octets) : Option (PointInTime × Octets) := do
  let (e, rest) ← readElement octets
  if e.header.tag = Tag.utcTime then (utcTime? e.content).map (·, rest)
  else if e.header.tag = Tag.generalizedTime then (generalizedTime? e.content).map (·, rest)
  else none

end Modbus.Der
