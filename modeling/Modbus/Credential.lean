import Modbus.Der.Strict
import Modbus.Fault

namespace Modbus.Credential

open Der.Strict

inductive Place
  | leaf
  | root
  deriving DecidableEq, Repr

def orBadEncoding {α : Type} (o : Option α) : Except CertificateFlaw α :=
  match o with
  | some a => .ok a
  | none => .error .badEncoding

/-- The last arc of the extension for the uses of a key, whose value is not a sequence. -/
def keyUsage : UInt8 := 15

/-- The last arcs of the extensions that are understood: the uses of the key, other names of the
subject, whether it is an authority, the names it may certify, lists of revocations, and the
purposes of the key. -/
def understood : List UInt8 := [keyUsage, 17, 19, 30, 31, 37]

def understood? : Octets → Option UInt8
  | [0x55, 0x1D, arc] => if understood.contains arc then some arc else none
  | _ => none

/-- Whether an extension is critical. Where nothing is said it is not. -/
def readCritical (octets : Octets) : Option (Bool × Octets) := do
  match ← readOptional boolean octets with
  | (none, rest) => return (false, rest)
  | (some [0xFF], rest) => return (true, rest)
  | (some [0x00], rest) => return (false, rest)
  | _ => none

def noteExtension (place : Place) (seen : List UInt8) (kind : Octets) (critical : Bool)
    (value : Octets) : Except CertificateFlaw (List UInt8) :=
  match understood? kind with
  | none => if critical && place = .leaf then .error .unsupportedCriticalExtension else .ok seen
  | some arc =>
    if seen.contains arc then .error .repeatedExtension
    else if arc = keyUsage || (only sequence value).isSome then .ok (arc :: seen)
    else .error .badEncoding

def checkExtension (place : Place) (seen : List UInt8) (content : Octets) :
    Except CertificateFlaw (List UInt8) := do
  let (kind, rest) ← orBadEncoding (read objectIdentifier content)
  let (critical, rest) ← orBadEncoding (readCritical rest)
  let (value, rest) ← orBadEncoding (read octetString rest)
  let seen ← noteExtension place seen kind critical value
  if rest.isEmpty then return seen else throw .badEncoding

/-- What stands behind the public key: nothing, or under tag 3 at least one extension. -/
def checkExtensions (place : Place) (octets : Octets) : Except CertificateFlaw Unit :=
  if octets.isEmpty then .ok ()
  else do
    let (tagged, rest) ← orBadEncoding (read (context 3) octets)
    let (content, unread) ← orBadEncoding (read sequence tagged)
    let (extensions, broken) := Der.readMany (read sequence) content
    let _ ← extensions.foldlM (checkExtension place) []
    if extensions.isEmpty || !(broken ++ unread ++ rest).isEmpty then throw .badEncoding

def skipVersion (signed : Octets) : Except CertificateFlaw Octets :=
  match read (context 0) signed with
  | none => .error .unsupportedVersion
  | some (content, rest) => do
    let (version, behind) ← orBadEncoding (readNatural content)
    if version > 255 then throw .badEncoding
    else if version = 2 && behind.isEmpty then return rest
    else throw .unsupportedVersion

def publicKeyOfSigned (place : Place) (algorithm signed : Octets) :
    Except CertificateFlaw Octets := do
  let rest ← skipVersion signed
  let (_, rest) ← orBadEncoding (read integer rest)
  let (signature, rest) ← orBadEncoding (read sequence rest)
  if signature ≠ algorithm then throw .signatureAlgorithmMismatch
  let (_, rest) ← orBadEncoding (read sequence rest)
  let (_, rest) ← orBadEncoding (read sequence rest)
  let (_, rest) ← orBadEncoding (read sequence rest)
  let (publicKey, rest) ← orBadEncoding (read sequence rest)
  checkExtensions place rest
  return publicKey

/-- The lengths of certificates are below this one. -/
def lengthLimit : Nat := 65535

def publicKey (place : Place) (certificate : Octets) : Except CertificateFlaw Octets := do
  let content ← orBadEncoding (only sequence certificate)
  if lengthLimit ≤ content.length then throw .badEncoding
  let (signed, rest) ← orBadEncoding (read sequence content)
  let (algorithm, rest) ← orBadEncoding (read sequence rest)
  let _ ← orBadEncoding (only bitString rest >>= bits?)
  publicKeyOfSigned place algorithm signed

/-- The certificate is of version 1, which is older and has no extensions. -/
def isVersionOne (certificate : Octets) : Bool :=
  let read? := do
    let (signed, rest) ← read sequence (← only sequence certificate)
    let (_, rest) ← read sequence rest
    let _ ← only bitString rest
    let (_, rest) ← read integer signed
    let (_, rest) ← read sequence rest
    let (_, rest) ← read sequence rest
    let (_, rest) ← read sequence rest
    let (_, rest) ← read sequence rest
    only sequence rest
  read?.isSome

def checkRoot (certificate : Octets) : Except CertificateFlaw Unit :=
  match publicKey .root certificate with
  | .ok _ => .ok ()
  | .error .unsupportedVersion => if isVersionOne certificate then .ok () else .error .badEncoding
  | .error flaw => .error flaw

end Modbus.Credential
