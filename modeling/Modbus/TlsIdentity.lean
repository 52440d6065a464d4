import Modbus.Credential
import Modbus.PrivateKey

namespace Modbus

structure TlsIdentity where
  /-- Leaf first. -/
  chain : List Octets
  key : Pem.Section
  clientRoots : List Octets
  deriving DecidableEq, Repr

namespace TlsIdentity

structure File where
  name : String
  content : Except PathFault Octets

def File.octets (f : File) : Except PemFault Octets := f.content.mapError .unreadable

def inFile {α : Type} (f : File) (r : Except PemFault α) : Except ServerError α :=
  r.mapError fun cause => .certificate (.file f.name cause)

def loadCertificates (f : File) : Except ServerError (List Octets) := do
  let found ← inFile f (f.octets >>= Pem.certificates)
  if found.isEmpty then throw (.certificate (.noCertificates f.name)) else return found

def loadKey (f : File) : Except ServerError Pem.Section := inFile f (f.octets >>= Pem.privateKey)

/-- The chain is loaded first, then the roots, then the key. -/
def load (chain key clientRoots : File) : Except ServerError TlsIdentity := do
  let chain ← loadCertificates chain
  let clientRoots ← loadCertificates clientRoots
  let key ← loadKey key
  return { chain, key, clientRoots }

def text (i : TlsIdentity) : String :=
  "TlsIdentity \x7b cert_chain: " ++ toString i.chain.length ++ ", client_roots: "
    ++ toString i.clientRoots.length ++ ", .. \x7d"

def ofFlaw {α : Type} (r : Except CertificateFlaw α) : Except ServerError α :=
  r.mapError fun flaw => .tls (.invalidCertificate flaw)

/-- The private key can be used, and the leaf certificate has the public key that belongs to it. -/
def checkKey (leaf : Octets) (key : Pem.Section) : Except ServerError Unit :=
  match PrivateKey.publicKey? key with
  | none => .error (.tls .unusableKey)
  | some publicKey => do
    let info ← ofFlaw (Credential.publicKey .leaf leaf)
    if info = publicKey.info then return () else throw (.tls .keyMismatch)

/-- The identity can secure a listener: there is a chain, every root can be one, there is a root,
and the key is the leaf's. The first of these that fails is reported. Of the chain only the leaf is
looked at. -/
def check (i : TlsIdentity) : Except ServerError Unit :=
  match i.chain with
  | [] => .error (.certificate .emptyChain)
  | leaf :: _ => do
    i.clientRoots.forM fun root => ofFlaw (Credential.checkRoot root)
    if i.clientRoots.isEmpty then throw (.tls .noTrustAnchors)
    checkKey leaf i.key

end TlsIdentity

end Modbus
