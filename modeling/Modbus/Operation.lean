import Modbus.FunctionCode
import Modbus.Payload.Bits
import Modbus.Payload.Builder
import Modbus.Payload.Reader
import Modbus.SlaveState

namespace Modbus

inductive StandardFunction
  | readCoils
  | readDiscreteInputs
  | readHoldingRegisters
  | readInputRegisters
  | writeSingleCoil
  | writeSingleRegister
  | writeMultipleCoils
  | writeMultipleRegisters
  deriving DecidableEq, Repr

def StandardFunction.code : StandardFunction → UInt8
  | readCoils => FunctionCode.readCoils
  | readDiscreteInputs => FunctionCode.readDiscreteInputs
  | readHoldingRegisters => FunctionCode.readHoldingRegisters
  | readInputRegisters => FunctionCode.readInputRegisters
  | writeSingleCoil => FunctionCode.writeSingleCoil
  | writeSingleRegister => FunctionCode.writeSingleRegister
  | writeMultipleCoils => FunctionCode.writeMultipleCoils
  | writeMultipleRegisters => FunctionCode.writeMultipleRegisters

def StandardFunction.all : List StandardFunction :=
  [.readCoils, .readDiscreteInputs, .readHoldingRegisters, .readInputRegisters, .writeSingleCoil,
    .writeSingleRegister, .writeMultipleCoils, .writeMultipleRegisters]

inductive Operation
  | readCoils (address quantity : UInt16)
  | readDiscreteInputs (address quantity : UInt16)
  | readHoldingRegisters (address quantity : UInt16)
  | readInputRegisters (address quantity : UInt16)
  | writeCoil (address : UInt16) (value : Bool)
  | writeRegister (address value : UInt16)
  | writeCoils (address quantity : UInt16) (values : List Bool)
  | writeRegisters (address quantity : UInt16) (values : List UInt16)
  deriving DecidableEq, Repr

namespace Operation

open Payload

def coilOn : UInt16 := 0xFF00

def coilOff : UInt16 := 0x0000

def require (holds : Bool) : Except Exception Unit :=
  if holds then .ok () else .error .illegalDataValue

/-- Address and quantity of a read. What follows them is not looked at. -/
def decodeRange (allows : UInt16 → Bool) (payload : Octets) :
    Except Exception (UInt16 × UInt16) := do
  let (address, left) ← readWord payload
  let (quantity, _) ← readWord left
  require (allows quantity)
  return (address, quantity)

def decodeCoil (payload : Octets) : Except Exception Operation := do
  let (address, left) ← readWord payload
  let (value, _) ← readWord left
  if value = coilOn then return writeCoil address true
  else if value = coilOff then return writeCoil address false
  else throw .illegalDataValue

def decodeRegister (payload : Octets) : Except Exception Operation := do
  let (address, left) ← readWord payload
  let (value, _) ← readWord left
  return writeRegister address value

/-- Address, quantity and data of a bulk write. The byte count has to fit both the quantity and the
data. -/
def decodeBlock (allows : UInt16 → Bool) (octetsFor : Nat → Nat) (payload : Octets) :
    Except Exception (UInt16 × UInt16 × Octets) := do
  let (address, left) ← readWord payload
  let (quantity, left) ← readWord left
  let (count, data) ← readOctet left
  require (allows quantity && count.toNat == octetsFor quantity.toNat && data.length == count.toNat)
  return (address, quantity, data)

def decodeCoils (l : Limits) (payload : Octets) : Except Exception Operation := do
  let (address, quantity, data) ← decodeBlock l.allowsCoilWrite (fun q => (q + 7) / 8) payload
  return writeCoils address quantity (unpackBits data quantity.toNat)

def decodeRegisters (l : Limits) (payload : Octets) : Except Exception Operation := do
  let (address, quantity, data) ← decodeBlock l.allowsRegisterWrite (fun q => q * 2) payload
  let (values, _) ← readWords quantity.toNat data
  return writeRegisters address quantity values

def decode (f : StandardFunction) (l : Limits) (payload : Octets) : Except Exception Operation :=
  match f with
  | .readCoils => do
    let (address, quantity) ← decodeRange l.allowsCoilRead payload
    return readCoils address quantity
  | .readDiscreteInputs => do
    let (address, quantity) ← decodeRange l.allowsCoilRead payload
    return readDiscreteInputs address quantity
  | .readHoldingRegisters => do
    let (address, quantity) ← decodeRange l.allowsRegisterRead payload
    return readHoldingRegisters address quantity
  | .readInputRegisters => do
    let (address, quantity) ← decodeRange l.allowsRegisterRead payload
    return readInputRegisters address quantity
  | .writeSingleCoil => decodeCoil payload
  | .writeSingleRegister => decodeRegister payload
  | .writeMultipleCoils => decodeCoils l payload
  | .writeMultipleRegisters => decodeRegisters l payload

/-- The number of octets, cut to one octet itself, and then the octets. -/
def counted (data : Octets) : Octets := UInt8.ofNat data.length :: data

def bitsAnswer (bits : List Bool) : Octets := counted (packBits bits)

def wordsAnswer (words : List UInt16) : Octets := counted (words.flatMap bigEndian)

def pairAnswer (a b : UInt16) : Octets := bigEndian a ++ bigEndian b

/-- The state afterwards and the answer. A write is answered with its address, and its value or
quantity. -/
def perform (op : Operation) (s : SlaveState) : Except Exception (SlaveState × Octets) :=
  match op with
  | readCoils address quantity => do
    let bits ← s.registers.coils.read address quantity
    return (s, bitsAnswer bits)
  | readDiscreteInputs address quantity => do
    let bits ← s.registers.discreteInputs.read address quantity
    return (s, bitsAnswer bits)
  | readHoldingRegisters address quantity => do
    let words ← s.registers.holdingRegisters.read address quantity
    return (s, wordsAnswer words)
  | readInputRegisters address quantity => do
    let words ← s.registers.inputRegisters.read address quantity
    return (s, wordsAnswer words)
  | writeCoil address value => do
    let coils ← s.registers.coils.set address value
    return ({ s with registers.coils := coils },
      pairAnswer address (if value then coilOn else coilOff))
  | writeRegister address value => do
    let registers ← s.registers.holdingRegisters.set address value
    return ({ s with registers.holdingRegisters := registers }, pairAnswer address value)
  | writeCoils address quantity values => do
    let coils ← s.registers.coils.write address values
    return ({ s with registers.coils := coils }, pairAnswer address quantity)
  | writeRegisters address quantity values => do
    let registers ← s.registers.holdingRegisters.write address values
    return ({ s with registers.holdingRegisters := registers }, pairAnswer address quantity)

end Operation

def StandardFunction.apply (f : StandardFunction) (s : SlaveState) (payload : Octets) :
    Except Exception (SlaveState × Octets) := do
  let op ← Operation.decode f s.limits payload
  op.perform s

end Modbus
