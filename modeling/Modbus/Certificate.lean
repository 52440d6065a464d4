import Modbus.Der.Time

namespace Modbus

structure NameAttribute where
  kind : Octets
  tag : Nat
  value : Octets
  deriving DecidableEq, Repr

structure Extension where
  kind : Octets
  critical : Bool
  value : Octets
  deriving DecidableEq, Repr

structure Certificate where
  version : Nat
  subject : List NameAttribute
  extensions : List Extension
  deriving DecidableEq, Repr

namespace Certificate

open Der

/-- The version, counted from zero, which is also the version where none is written. -/
def readVersion (octets : Octets) : Option (Nat × Octets) := do
  let (content, rest) ← readOptional 0 octets
  match content with
  | none => return (0, rest)
  | some content =>
    let (version, _) ← readNatural content
    if version < Nat.pow 2 32 then some (version, rest) else none

def readAlgorithm (octets : Octets) : Option (Octets × Octets) := do
  let (content, rest) ← readSequence octets
  let (kind, parameters) ← readObjectIdentifier content
  if parameters.isEmpty then some (kind, rest)
  else
    let _ ← readElement parameters
    return (kind, rest)

def readNameAttribute (octets : Octets) : Option (NameAttribute × Octets) := do
  let (content, rest) ← readSequence octets
  let (kind, value) ← readObjectIdentifier content
  let (e, _) ← readElement value
  return ({ kind, tag := e.header.tag, value := e.content }, rest)

def readNamePart (octets : Octets) : Option (List NameAttribute × Octets) := do
  let (content, rest) ← readSet octets
  match readMany readNameAttribute content with
  | ([], _) => none
  | (attributes, _) => some (attributes, rest)

/-- The attributes of all parts up to the first that cannot be read. -/
def readName (octets : Octets) : Option (List NameAttribute × Octets) := do
  let (content, rest) ← readSequence octets
  return ((readMany readNamePart content).1.flatten, rest)

def readValidity (octets : Octets) : Option (PointInTime × PointInTime × Octets) := do
  let (content, rest) ← readSequence octets
  let (first, content) ← readTime content
  let (last, _) ← readTime content
  return (first, last, rest)

def skipPublicKey (octets : Octets) : Option Octets := do
  let (content, rest) ← readSequence octets
  let (_, content) ← readAlgorithm content
  let _ ← readBitString content
  return rest

def readExtension (octets : Octets) : Option (Extension × Octets) := do
  let (content, rest) ← readSequence octets
  let (kind, content) ← readObjectIdentifier content
  let (critical, content) := readOptionalBoolean content
  let (value, _) ← readOctetString content
  return ({ kind, critical, value }, rest)

/-- The extensions, under tag 3 and behind all else. -/
def readExtensions (octets : Octets) : Option (List Extension) :=
  if octets.isEmpty then some []
  else do
    let (header, rest) ← readHeader octets
    if header.tag ≠ 3 then none
    let (content, rest) ← readSequence rest
    let (extensions, unread) := readMany readExtension content
    if rest.isEmpty && unread.isEmpty then some extensions else none

def ofSigned? (content : Octets) : Option Certificate := do
  let (version, rest) ← readVersion content
  let rest ← skipTagged Tag.integer rest
  let (_, rest) ← readAlgorithm rest
  let (_, rest) ← readName rest
  let (_, _, rest) ← readValidity rest
  let (subject, rest) ← readName rest
  let rest ← skipPublicKey rest
  let rest ← skipOptionalBits 1 rest
  let rest ← skipOptionalBits 2 rest
  let extensions ← readExtensions rest
  return { version, subject, extensions }

def read? (octets : Octets) : Option (Certificate × Octets) := do
  let (content, rest) ← readSequence octets
  let (signed, content) ← readSequence content
  let certificate ← ofSigned? signed
  let (_, content) ← readAlgorithm content
  let _ ← readBitString content
  return (certificate, rest)

end Certificate

end Modbus
