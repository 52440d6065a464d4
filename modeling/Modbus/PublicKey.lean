import Modbus.Der.Strict

namespace Modbus

inductive KeyKind
  | rsa
  | p256
  | p384
  | ed25519
  deriving DecidableEq, Repr

namespace KeyKind

open Der.Strict

/-- The identifier 1.2.840.10045.2.1, of keys on a curve that is named beside it. -/
def onCurve : Octets := encode objectIdentifier [0x2A, 0x86, 0x48, 0xCE, 0x3D, 0x02, 0x01]

/-- The identifier by which a key is known to be of the kind, together with others or alone:
1.2.840.113549.1.1.1, 1.2.840.10045.3.1.7, 1.3.132.0.34 or 1.3.101.112. -/
def identifier : KeyKind → Octets
  | rsa => encode objectIdentifier [0x2A, 0x86, 0x48, 0x86, 0xF7, 0x0D, 0x01, 0x01, 0x01]
  | p256 => encode objectIdentifier [0x2A, 0x86, 0x48, 0xCE, 0x3D, 0x03, 0x01, 0x07]
  | p384 => encode objectIdentifier [0x2B, 0x81, 0x04, 0x00, 0x22]
  | ed25519 => encode objectIdentifier [0x2B, 0x65, 0x70]

def algorithm : KeyKind → Octets
  | rsa => rsa.identifier ++ encode null []
  | p256 => onCurve ++ p256.identifier
  | p384 => onCurve ++ p384.identifier
  | ed25519 => ed25519.identifier

end KeyKind

structure PublicKey where
  kind : KeyKind
  bits : Octets
  deriving DecidableEq, Repr

def PublicKey.info (k : PublicKey) : Octets :=
  Der.Strict.encode Der.Strict.sequence k.kind.algorithm ++ Der.Strict.encodeBits k.bits

end Modbus
