import Modbus.Curve.Ed25519
import Modbus.Pem
import Modbus.PrivateKey.OnCurve
import Modbus.PrivateKey.Rsa

namespace Modbus.PrivateKey

open Der.Strict

structure Wrapped where
  algorithm : Octets
  key : Octets
  publicKey : Option Octets
  deriving DecidableEq, Repr

def readPublicKey (octets : Octets) : Option Octets :=
  match only (context 1) octets with
  | some content => only bitString content >>= bits?
  | none => only (plainContext 1) octets >>= bits?

/-- Version, kind and key. Attributes are skipped, and a public key follows in version 1 only. -/
def Wrapped.read? (octets : Octets) : Option Wrapped := do
  let content ← only sequence octets
  let (version, rest) ← readNatural content
  let (algorithm, rest) ← read sequence rest
  let (key, rest) ← read octetString rest
  let (_, rest) ← readOptional (context 0) rest
  match version with
  | 0 => if rest.isEmpty then some { algorithm, key, publicKey := none } else none
  | 1 => return { algorithm, key, publicKey := some (← readPublicKey rest) }
  | _ => none

def ofSeed? (told : Option Octets) (octets : Octets) : Option PublicKey := do
  let seed ← only octetString octets
  let bits := Curve.Ed25519.publicKey seed
  if seed.length = 32 && told.all (· == bits) then some { kind := .ed25519, bits } else none

/-- The public key that belongs to a key that is wrapped as of the given kind. All but the last kind
have to be wrapped in version 0. -/
def Wrapped.publicKey? (w : Wrapped) (kind : KeyKind) : Option PublicKey :=
  if w.algorithm ≠ kind.algorithm then none
  else
    match kind, w.publicKey with
    | .rsa, none => Rsa.publicKey? w.key
    | .p256, none => OnCurve.publicKey? .p256 .p256 w.key
    | .p384, none => OnCurve.publicKey? .p384 .p384 w.key
    | .ed25519, told => ofSeed? told w.key
    | _, some _ => none

def publicKey? (key : Pem.Section) : Option PublicKey :=
  if key.label = "PRIVATE KEY" then do
    let wrapped ← Wrapped.read? key.content
    [KeyKind.rsa, .p256, .p384, .ed25519].findSome? wrapped.publicKey?
  else if key.label = "RSA PRIVATE KEY" then Rsa.publicKey? key.content
  else if key.label = "EC PRIVATE KEY" then
    (OnCurve.publicKey? .p256 .p256 key.content).or (OnCurve.publicKey? .p384 .p384 key.content)
  else none

end Modbus.PrivateKey
