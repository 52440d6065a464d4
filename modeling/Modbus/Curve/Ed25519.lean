import Modbus.Digest.Sha512
import Modbus.Residue

namespace Modbus.Curve.Ed25519

def prime : Nat := Nat.pow 2 255 - 19

/-- The `d` of the curve, `-121665 / 121666`. -/
def coefficient : Nat :=
  Residue.sub prime 0 121665 * Residue.inverse prime 121666 % prime

/-- The point `(x / z, y / z)`, with `t = xy / z`. -/
structure Point where
  x : Nat
  y : Nat
  z : Nat
  t : Nat
  deriving DecidableEq, Repr

def neutral : Point := ⟨0, 1, 1, 0⟩

def ofCoordinates (x y : Nat) : Point := ⟨x, y, 1, x * y % prime⟩

/-- The point that multiples are taken of. Its second coordinate is `4 / 5`. -/
def base : Point :=
  ofCoordinates 0x216936D3CD6E53FEC0A4E231FDD6DC5C692CC7609525A7B2C9562D608F25D51A
    0x6666666666666666666666666666666666666666666666666666666666666658

def add (a b : Point) : Point :=
  let p := prime
  let m := Residue.sub p a.y a.x * Residue.sub p b.y b.x % p
  let n := (a.y + a.x) * (b.y + b.x) % p
  let c := 2 * coefficient * a.t * b.t % p
  let d := 2 * a.z * b.z % p
  let e := Residue.sub p n m
  let f := Residue.sub p d c
  let g := (d + c) % p
  let h := (n + m) % p
  ⟨e * f % p, g * h % p, f * g % p, e * h % p⟩

def multiply (n : Nat) (a : Point) : Point :=
  if n = 0 then neutral
  else
    let half := multiply (n / 2) (add a a)
    if n % 2 = 1 then add half a else half
termination_by n

/-- The second coordinate with the lowest octet first, and in its highest bit whether the first
coordinate is odd. -/
def encode (a : Point) : Octets :=
  let inverse := Residue.inverse prime a.z
  let x := a.x * inverse % prime
  let y := a.y * inverse % prime
  (bigEndianOf 32 (y + x % 2 * Nat.pow 2 255)).reverse

/-- The secret multiplier that a seed stands for: half of its digest, with the lowest octet first,
as a multiple of eight between `2 ^ 254` and `2 ^ 255`. -/
def multiplier (seed : Octets) : Nat :=
  let half := ofBigEndian ((Sha512.digest seed).take 32).reverse
  Nat.pow 2 254 + half % Nat.pow 2 254 / 8 * 8

def publicKey (seed : Octets) : Octets := encode (multiply (multiplier seed) base)

end Modbus.Curve.Ed25519
