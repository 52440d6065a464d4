import Modbus.Octets

namespace Modbus.Sha512

/-- The number whose power `n` is, rounded down: `bits` more bits are found, from the highest on. -/
def rootFrom (exponent n : Nat) : (bits root : Nat) → Nat
  | 0, root => root
  | bits + 1, root =>
    let next := root + Nat.pow 2 bits
    rootFrom exponent n bits (if Nat.pow next exponent ≤ n then next else root)

/-- The first 64 bits of the fractional part of a root of a number below 512. -/
def fraction (exponent n : Nat) : UInt64 :=
  UInt64.ofNat (rootFrom exponent (n * Nat.pow 2 (64 * exponent)) 73 0)

def isPrime (n : Nat) : Bool := 2 ≤ n && (List.range n).all fun d => d < 2 || n % d != 0

def primes : List Nat := (List.range 410).filter isPrime

def roundConstants : List UInt64 := primes.map (fraction 3)

structure State where
  a : UInt64
  b : UInt64
  c : UInt64
  d : UInt64
  e : UInt64
  f : UInt64
  g : UInt64
  h : UInt64
  deriving DecidableEq, Repr

namespace State

def initial : State :=
  ⟨fraction 2 2, fraction 2 3, fraction 2 5, fraction 2 7, fraction 2 11, fraction 2 13,
    fraction 2 17, fraction 2 19⟩

def add (s t : State) : State :=
  ⟨s.a + t.a, s.b + t.b, s.c + t.c, s.d + t.d, s.e + t.e, s.f + t.f, s.g + t.g, s.h + t.h⟩

def toList (s : State) : List UInt64 := [s.a, s.b, s.c, s.d, s.e, s.f, s.g, s.h]

end State

def rotate (w : UInt64) (count : UInt64) : UInt64 := (w >>> count) ||| (w <<< (64 - count))

def schedule : (n : Nat) → List UInt64 → List UInt64
  | 0, window => window
  | n + 1, [] => schedule n []
  | n + 1, w :: window =>
    let u := window.getD 0 0
    let v := window.getD 13 0
    let next :=
      w + (rotate u 1 ^^^ rotate u 8 ^^^ (u >>> 7)) + window.getD 8 0
        + (rotate v 19 ^^^ rotate v 61 ^^^ (v >>> 6))
    w :: schedule n (window ++ [next])

def round (s : State) (k w : UInt64) : State :=
  let first :=
    s.h + (rotate s.e 14 ^^^ rotate s.e 18 ^^^ rotate s.e 41)
      + ((s.e &&& s.f) ^^^ (~~~s.e &&& s.g)) + k + w
  let second :=
    (rotate s.a 28 ^^^ rotate s.a 34 ^^^ rotate s.a 39)
      + ((s.a &&& s.b) ^^^ (s.a &&& s.c) ^^^ (s.b &&& s.c))
  ⟨first + second, s.a, s.b, s.c, s.d + first, s.e, s.f, s.g⟩

def pieces {α : Type} (size : Nat) (l : List α) : List (List α) :=
  match l with
  | [] => []
  | a :: rest => (a :: rest.take size) :: pieces size (rest.drop size)
termination_by l.length
decreasing_by simp only [List.length_drop, List.length_cons]; omega

def compress (s : State) (block : Octets) : State :=
  let words := (pieces 7 block).map fun octets => UInt64.ofNat (ofBigEndian octets)
  let rounds := roundConstants.zip (schedule 64 words)
  s.add (rounds.foldl (fun s (k, w) => round s k w) s)

def padded (message : Octets) : Octets :=
  let zeros := (239 - message.length % 128) % 128
  message ++ 0x80 :: List.replicate zeros 0 ++ bigEndianOf 16 (8 * message.length)

def digest (message : Octets) : Octets :=
  ((pieces 127 (padded message)).foldl compress .initial).toList.flatMap fun w =>
    bigEndianOf 8 w.toNat

end Modbus.Sha512
