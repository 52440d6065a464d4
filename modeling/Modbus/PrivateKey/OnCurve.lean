import Modbus.Curve.Cubic
import Modbus.PublicKey

namespace Modbus.PrivateKey.OnCurve

open Curve (Cubic)
open Der.Strict

structure Bare where
  secret : Octets
  curve : Option Octets
  point : Octets
  deriving DecidableEq, Repr

def readBare (octets : Octets) : Option Bare := do
  let content ← only sequence octets
  let (version, rest) ← readNatural content
  let (secret, rest) ← read octetString rest
  let (curve, rest) ← readOptional (context 0) rest
  let point ← only bitString (← only (context 1) rest)
  if version = 1 then return { secret, curve, point := ← bits? point } else none

/-- The public key that belongs to a bare private key on a given curve. The secret number has the
size of a coordinate, and is neither zero nor as large as the order of the group. -/
def publicKey? (kind : KeyKind) (curve : Cubic) (octets : Octets) : Option PublicKey := do
  let key ← readBare octets
  let secret := ofBigEndian key.secret
  if key.curve.all (· == kind.identifier) && key.secret.length = curve.size && 1 ≤ secret
      && secret < curve.order && curve.publicPoint secret = key.point then
    some { kind, bits := key.point }
  else none

end Modbus.PrivateKey.OnCurve
