import Modbus.Duration
import Modbus.Exception
import Modbus.Octets
import Modbus.Text.Hex
import Modbus.Text.Listing

namespace Modbus

inductive StreamFault
  | unexpectedEof
  | connectionReset
  | connectionAborted
  | brokenPipe
  | writeZero
  | other (name : String)
  deriving DecidableEq, Repr

/-- The stream broke because the peer went away. -/
def StreamFault.isDeparture : StreamFault → Bool
  | unexpectedEof | connectionReset | connectionAborted | brokenPipe => true
  | writeZero | other _ => false

inductive FrameFault
  | tcpTooShort (length : Nat)
  | lengthMismatch (announced remaining : Nat)
  | foreignProtocol (id : UInt16)
  | announcedLength (announced smallest largest : Nat)
  | rtuTooShort (length : Nat)
  | checksum (expected received : UInt16)
  | described (text : String)
  deriving DecidableEq, Repr

def FrameFault.text : FrameFault → String
  | tcpTooShort n => "TCP frame too short: " ++ toString n ++ " bytes"
  | lengthMismatch announced remaining =>
    "length field " ++ toString announced ++ " does not match " ++ toString remaining
      ++ " remaining bytes"
  | foreignProtocol id => "protocol id must be 0, got " ++ toString id.toNat
  | announcedLength announced smallest largest =>
    "MBAP length " ++ toString announced ++ " outside " ++ toString smallest ++ "..="
      ++ toString largest
  | rtuTooShort n => "RTU frame too short: " ++ toString n ++ " bytes"
  | checksum expected received =>
    "CRC mismatch: expected 0x" ++ Text.hex16 expected ++ ", got 0x" ++ Text.hex16 received
  | described text => text

inductive ConfigFault
  | bankSize (largest given : Nat)
  | zeroDuration (setting : String)
  | limit (setting : String) (largest : UInt16)
  | unitAddress (given largest : UInt8)
  | zeroBaudRate
  | described (text : String)
  deriving DecidableEq, Repr

def ConfigFault.text : ConfigFault → String
  | bankSize largest given =>
    "bank_size must be 1..=" ++ toString largest ++ ", got " ++ toString given
  | zeroDuration setting => setting ++ " must be non-zero"
  | limit setting largest => setting ++ " must be 1..=" ++ toString largest.toNat
  | unitAddress given largest =>
    "RTU slave address " ++ toString given.toNat ++ " outside 1..=" ++ toString largest.toNat
  | zeroBaudRate => "baud rate must be positive"
  | described text => text

inductive PathFault
  | missing
  | notDirectory
  | directory
  | nameTooLong
  deriving DecidableEq, Repr

def PathFault.text : PathFault → String
  | missing => "No such file or directory"
  | notDirectory => "Not a directory"
  | directory => "Is a directory"
  | nameTooLong => "File name too long"

def PathFault.code : PathFault → Nat
  | missing => 2
  | notDirectory => 20
  | directory => 21
  | nameTooLong => 36

inductive PemFault
  | unreadable (cause : PathFault)
  | illegalSectionStart (line : Octets)
  | missingSectionEnd (label : Octets)
  | invalidCharacter (octet : UInt8)
  | prematurePadding
  | invalidTrailingPadding
  | noItems
  deriving DecidableEq, Repr

def PemFault.text : PemFault → String
  | unreadable cause =>
    "I/O error: " ++ cause.text ++ " (os error " ++ toString cause.code ++ ")"
  | illegalSectionStart line => "illegal section start: " ++ Text.listingOctets line
  | missingSectionEnd label => "missing section end marker: " ++ Text.listingOctets label
  | invalidCharacter octet =>
    "base64 decode error: InvalidCharacter(" ++ toString octet.toNat ++ ")"
  | prematurePadding => "base64 decode error: PrematurePadding"
  | invalidTrailingPadding => "base64 decode error: InvalidTrailingPadding"
  | noItems => "no items found"

inductive CertificateFault
  | file (name : String) (cause : PemFault)
  | noCertificates (file : String)
  | emptyChain
  | described (text : String)
  deriving DecidableEq, Repr

def CertificateFault.text : CertificateFault → String
  | file name cause => name ++ ": " ++ cause.text
  | noCertificates name => name ++ ": no certificates found"
  | emptyChain => "empty server certificate chain"
  | described text => text

inductive CertificateFlaw
  | badEncoding
  | unsupportedVersion
  | signatureAlgorithmMismatch
  | repeatedExtension
  | unsupportedCriticalExtension
  deriving DecidableEq, Repr

def CertificateFlaw.text : CertificateFlaw → String
  | badEncoding => "BadEncoding"
  | unsupportedVersion => "Other(OtherError(UnsupportedCertVersion))"
  | signatureAlgorithmMismatch => "Other(OtherError(SignatureAlgorithmMismatch))"
  | repeatedExtension => "Other(OtherError(ExtensionValueInvalid))"
  | unsupportedCriticalExtension => "Other(OtherError(UnsupportedCriticalExtension))"

inductive TlsFault
  | invalidCertificate (flaw : CertificateFlaw)
  | noTrustAnchors
  | unusableKey
  | keyMismatch
  | described (text : String)
  deriving DecidableEq, Repr

def TlsFault.text : TlsFault → String
  | invalidCertificate flaw => "invalid peer certificate: " ++ flaw.text
  | noTrustAnchors => "client verifier: no root trust anchors were provided"
  | unusableKey => "unexpected error: failed to parse private key as RSA, ECDSA, or EdDSA"
  | keyMismatch => "keys may not be consistent: KeyMismatch"
  | described text => text

inductive SerialFault
  | invalidPath
  | unreachable (cause : PathFault)
  | notTerminal
  | described (text : String)
  deriving DecidableEq, Repr

def SerialFault.text : SerialFault → String
  | invalidPath => "Invalid argument"
  | unreachable cause => cause.text
  | notTerminal => "Not a typewriter"
  | described text => text

inductive ServerError
  | stream (fault : StreamFault) (text : String)
  | malformedFrame (cause : FrameFault)
  | tls (cause : TlsFault)
  | certificate (cause : CertificateFault)
  | serial (cause : SerialFault)
  | timeout (operation : String) (limit : Duration)
  | serverClosed
  | config (cause : ConfigFault)
  | exception (e : Exception)
  deriving DecidableEq, Repr

namespace ServerError

def message : ServerError → String
  | stream _ text => "I/O error: " ++ text
  | malformedFrame cause => "Malformed frame: " ++ cause.text
  | tls cause => "TLS error: " ++ cause.text
  | certificate cause => "Certificate error: " ++ cause.text
  | serial cause => "Serial port error: " ++ cause.text
  | timeout operation limit => "Timeout: " ++ operation ++ " exceeded " ++ limit.text
  | serverClosed => "Server closed"
  | config cause => "Configuration error: " ++ cause.text
  | exception e => "Modbus exception: " ++ e.text

def isEndOfStream : ServerError → Bool
  | stream fault _ => fault.isDeparture
  | _ => false

def earlyEof : ServerError := stream .unexpectedEof "early eof"

def writeZero : ServerError := stream .writeZero "write zero"

end ServerError

end Modbus
