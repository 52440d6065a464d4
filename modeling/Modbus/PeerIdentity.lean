import Modbus.Certificate
import Modbus.Text.Utf8

namespace Modbus

structure PeerIdentity where
  commonName : Option String := none
  role : Option String := none
  deriving DecidableEq, Repr

namespace PeerIdentity

open Der

/-- 2.5.4.3 -/
def commonNameKind : Octets := [0x55, 0x04, 0x03]

def roleArcs : List UInt64 := [1, 3, 6, 1, 4, 1, 50316, 802, 1]

def roleIdentifierText : String := ".".intercalate (roleArcs.map fun arc => toString arc.toNat)

def attributeText? (a : NameAttribute) : Option String :=
  if a.tag = Tag.utf8String || a.tag = Tag.numericString || a.tag = Tag.printableString
      || a.tag = Tag.ia5String then
    Text.ofUtf8? a.value
  else none

/-- The first common name counts, and it counts for nothing if it is no text. -/
def commonName? (subject : List NameAttribute) : Option String :=
  (subject.find? (·.kind == commonNameKind)).bind attributeText?

/-- What is inside a UTF-8 string whose length takes one octet, perhaps behind the octet that
announces it. Any other value is its own content. -/
def roleContent (value : Octets) : Octets :=
  match value with
  | 0x0C :: 0x81 :: length :: content => if length.toNat = content.length then content else value
  | 0x0C :: length :: content =>
    if length < 0x80 && length.toNat = content.length then content else value
  | _ => value

def decodeRole (value : Octets) : Option String :=
  match roleContent value with
  | [] => none
  | content => Text.ofUtf8? content

def role? (extensions : List Extension) : Option String :=
  (extensions.find? fun e => arcs? e.kind == some roleArcs).bind fun e => decodeRole e.value

def ofCertificate (c : Certificate) : PeerIdentity :=
  { commonName := commonName? c.subject, role := role? c.extensions }

/-- The identity that a chain gives, leaf first: an empty one without a leaf, and none if the leaf
is no certificate. What follows the certificate is not looked at. -/
def ofChain? : List Octets → Option PeerIdentity
  | [] => some {}
  | leaf :: _ => (Certificate.read? leaf).map fun (c, _) => ofCertificate c

end PeerIdentity

end Modbus
