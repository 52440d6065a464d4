import Modbus.Octets
import Modbus.Residue

namespace Modbus.Curve

structure Cubic where
  prime : Nat
  /-- How many points there are. -/
  order : Nat
  /-- Coordinates of the generating point. -/
  generator : Nat × Nat
  /-- How many octets a coordinate takes. -/
  size : Nat
  deriving DecidableEq, Repr

namespace Cubic

def p256 : Cubic where
  prime := Nat.pow 2 256 - Nat.pow 2 224 + Nat.pow 2 192 + Nat.pow 2 96 - 1
  order := 0xFFFFFFFF00000000FFFFFFFFFFFFFFFFBCE6FAADA7179E84F3B9CAC2FC632551
  generator :=
    (0x6B17D1F2E12C4247F8BCE6E563A440F277037D812DEB33A0F4A13945D898C296,
      0x4FE342E2FE1A7F9B8EE7EB4A7C0F9E162BCE33576B315ECECBB6406837BF51F5)
  size := 32

def p384 : Cubic where
  prime := Nat.pow 2 384 - Nat.pow 2 128 - Nat.pow 2 96 + Nat.pow 2 32 - 1
  order := Nat.pow 2 384 - 0x389CB27E0BC8D220A7E5F24DB74F58851313E695333AD68D
  generator :=
    (0xAA87CA22BE8B05378EB1C71EF320AD746E1D3B628BA79B98 * Nat.pow 2 192
        + 0x59F741E082542A385502F25DBF55296C3A545E3872760AB7,
      0x3617DE4A96262C6F5D9E98BF9292DC29F8F41DBD289A147C * Nat.pow 2 192
        + 0xE9DA3113B5F0B8C00A60B1CE1D7E819D7A431D7C90EA0E5F)
  size := 48

/-- The point `(x / z², y / z³)`, or the neutral point if `z` is zero. -/
structure Point where
  x : Nat
  y : Nat
  z : Nat
  deriving DecidableEq, Repr

def neutral : Point := ⟨1, 1, 0⟩

def double (c : Cubic) (a : Point) : Point :=
  let p := c.prime
  let delta := a.z * a.z % p
  let gamma := a.y * a.y % p
  let beta := a.x * gamma % p
  let alpha := 3 * Residue.sub p a.x delta * (a.x + delta) % p
  let x := Residue.sub p (alpha * alpha % p) (8 * beta % p)
  let y := Residue.sub p (alpha * Residue.sub p (4 * beta % p) x % p) (8 * gamma * gamma % p)
  ⟨x, y, 2 * a.y * a.z % p⟩

def add (c : Cubic) (a b : Point) : Point :=
  if a.z = 0 then b
  else if b.z = 0 then a
  else
    let p := c.prime
    let aa := a.z * a.z % p
    let bb := b.z * b.z % p
    let u := a.x * bb % p
    let h := Residue.sub p (b.x * aa % p) u
    let s := a.y * (b.z * bb % p) % p
    let r := Residue.sub p (b.y * (a.z * aa % p) % p) s
    if h = 0 then (if r = 0 then c.double a else neutral)
    else
      let hh := h * h % p
      let hhh := h * hh % p
      let v := u * hh % p
      let x := Residue.sub p (Residue.sub p (r * r % p) hhh) (2 * v % p)
      let y := Residue.sub p (r * Residue.sub p v x % p) (s * hhh % p)
      ⟨x, y, h * (a.z * b.z % p) % p⟩

def multiply (c : Cubic) (n : Nat) (a : Point) : Point :=
  if n = 0 then neutral
  else
    let half := c.multiply (n / 2) (c.double a)
    if n % 2 = 1 then c.add half a else half
termination_by n

def encode (c : Cubic) (a : Point) : Octets :=
  let p := c.prime
  let inverse := Residue.inverse p a.z
  let square := inverse * inverse % p
  4 :: (bigEndianOf c.size (a.x * square % p)
    ++ bigEndianOf c.size (a.y * (square * inverse % p) % p))

def publicPoint (c : Cubic) (secret : Nat) : Octets :=
  c.encode (c.multiply secret ⟨c.generator.1, c.generator.2, 1⟩)

end Cubic

end Modbus.Curve
