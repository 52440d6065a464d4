import Modbus.PublicKey

namespace Modbus.PrivateKey

structure Rsa where
  modulus : Nat
  publicExponent : Nat
  privateExponent : Nat
  p : Nat
  q : Nat
  /-- The private exponent modulo `p - 1`. -/
  exponentP : Nat
  /-- The private exponent modulo `q - 1`. -/
  exponentQ : Nat
  /-- The inverse of `q` modulo `p`. -/
  coefficient : Nat
  deriving DecidableEq, Repr

namespace Rsa

open Der.Strict

def bitLength (n : Nat) : Nat := if n = 0 then 0 else n.log2 + 1

/-- The sizes that a modulus may have: its octets hold at least 2048 bits, and it has at most 4096
bits. -/
def isModulus (n : Nat) : Bool :=
  n % 2 = 1 && 2048 ≤ (bitLength n + 7) / 8 * 8 && bitLength n ≤ 4096

def isPublicExponent (e : Nat) : Bool := e % 2 = 1 && 65537 ≤ e && e < Nat.pow 2 33

def factorLength (k : Rsa) : Nat := (bitLength k.modulus + 1) / 2

def isFactor (k : Rsa) (p : Nat) : Bool :=
  p % 2 = 1 && bitLength p = k.factorLength && k.factorLength % 512 = 0

def isPrivateExponent (k : Rsa) : Bool :=
  k.privateExponent % 2 = 1 && k.factorLength < bitLength k.privateExponent
    && k.privateExponent < k.modulus

def isUsable (k : Rsa) : Bool :=
  isModulus k.modulus && isPublicExponent k.publicExponent && k.isFactor k.p && k.isFactor k.q
    && k.p * k.q % k.modulus = 0 && k.isPrivateExponent
    && k.exponentP % 2 = 1 && k.exponentP < k.p && k.exponentQ % 2 = 1 && k.exponentQ < k.q
    && k.coefficient < k.p && k.coefficient * k.q % k.p = 1

def publicKey (k : Rsa) : PublicKey :=
  { kind := .rsa
    bits := encode sequence (encodeNatural k.modulus ++ encodeNatural k.publicExponent) }

def read? (octets : Octets) : Option Rsa := do
  match ← naturals? (← only sequence octets) with
  | [0, modulus, publicExponent, privateExponent, p, q, exponentP, exponentQ, coefficient] =>
    return { modulus, publicExponent, privateExponent, p, q, exponentP, exponentQ, coefficient }
  | _ => none

def publicKey? (octets : Octets) : Option PublicKey := do
  let k ← read? octets
  if k.isUsable then some k.publicKey else none

end Rsa

end Modbus.PrivateKey
