import Modbus.Crc
import Modbus.Exception
import Modbus.Fault
import Modbus.FunctionCode
import Modbus.Octets

namespace Modbus

inductive Envelope
  | tcp (transaction protocol : UInt16)
  | rtu
  deriving DecidableEq, Repr

structure Frame where
  envelope : Envelope
  unit : UInt8
  function : UInt8
  payload : Octets
  deriving DecidableEq, Repr

namespace Frame

def tcp (transaction : UInt16) (unit function : UInt8) (payload : Octets) : Frame :=
  ⟨.tcp transaction 0, unit, function, payload⟩

def rtu (unit function : UInt8) (payload : Octets) : Frame := ⟨.rtu, unit, function, payload⟩

def transaction? (f : Frame) : Option UInt16 :=
  match f.envelope with
  | .tcp transaction _ => some transaction
  | .rtu => none

def body (f : Frame) : Octets := f.unit :: f.function :: f.payload

/-- The length field is cut to its sixteen bits. -/
def encode (f : Frame) : Octets :=
  match f.envelope with
  | .tcp transaction protocol =>
    bigEndian transaction ++ bigEndian protocol ++ bigEndian (UInt16.ofNat f.body.length) ++ f.body
  | .rtu => f.body ++ littleEndian (Crc.checksum f.body)

/-- Accepts a length field that counts exactly what follows it, and protocol 0. -/
def decodeTcp : Octets → Except ServerError Frame
  | t₁ :: t₀ :: p₁ :: p₀ :: l₁ :: l₀ :: unit :: function :: payload =>
    let announced := (word l₁ l₀).toNat
    let remaining := payload.length + 2
    let protocol := word p₁ p₀
    if announced ≠ remaining then
      .error (.malformedFrame (.lengthMismatch announced remaining))
    else if protocol ≠ 0 then
      .error (.malformedFrame (.foreignProtocol protocol))
    else
      .ok ⟨.tcp (word t₁ t₀) protocol, unit, function, payload⟩
  | raw => .error (.malformedFrame (.tcpTooShort raw.length))

def splitChecksum (raw : Octets) : Option (Octets × UInt16) :=
  match raw.drop (raw.length - 2) with
  | [low, high] => some (raw.take (raw.length - 2), word high low)
  | _ => none

def decodeRtu (raw : Octets) : Except ServerError Frame :=
  match splitChecksum raw with
  | some (unit :: function :: payload, received) =>
    let expected := Crc.checksum (unit :: function :: payload)
    if received ≠ expected then
      .error (.malformedFrame (.checksum expected received))
    else
      .ok ⟨.rtu, unit, function, payload⟩
  | _ => .error (.malformedFrame (.rtuTooShort raw.length))

def decodeLike (envelope : Envelope) (raw : Octets) : Except ServerError Frame :=
  match envelope with
  | .tcp _ _ => decodeTcp raw
  | .rtu => decodeRtu raw

def response (request : Frame) : Frame := { request with payload := [] }

def withPayload (f : Frame) (payload : Octets) : Frame := { f with payload }

/-- The frame as an exception response. `success` is none, and leaves the frame as it is. -/
def withException (f : Frame) (e : Exception) : Frame :=
  if e.isSuccess then f
  else { f with function := f.function ||| FunctionCode.exceptionFlag, payload := [e.code] }

def isException (f : Frame) : Bool := f.function &&& FunctionCode.exceptionFlag != 0

def exception? (f : Frame) : Option Exception :=
  if f.isException then f.payload.head?.bind Exception.ofCode? else none

theorem length_body (f : Frame) : f.body.length = f.payload.length + 2 := rfl

theorem splitChecksum_append (body : Octets) (low high : UInt8) :
    splitChecksum (body ++ [low, high]) = some (body, word high low) := by
  simp [splitChecksum]

end Frame

end Modbus
