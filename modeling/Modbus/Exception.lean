namespace Modbus

/-- `success` says that there is no exception; its code is never sent. -/
inductive Exception
  | success
  | illegalFunction
  | illegalDataAddress
  | illegalDataValue
  | slaveDeviceFailure
  | acknowledge
  | slaveDeviceBusy
  | negativeAcknowledge
  | memoryParityError
  | gatewayPathUnavailable
  | gatewayTargetFailedToRespond
  deriving DecidableEq, Repr

namespace Exception

def code : Exception → UInt8
  | success => 0x00
  | illegalFunction => 0x01
  | illegalDataAddress => 0x02
  | illegalDataValue => 0x03
  | slaveDeviceFailure => 0x04
  | acknowledge => 0x05
  | slaveDeviceBusy => 0x06
  | negativeAcknowledge => 0x07
  | memoryParityError => 0x08
  | gatewayPathUnavailable => 0x0A
  | gatewayTargetFailedToRespond => 0x0B

def sendable : List Exception :=
  [illegalFunction, illegalDataAddress, illegalDataValue, slaveDeviceFailure, acknowledge,
    slaveDeviceBusy, negativeAcknowledge, memoryParityError, gatewayPathUnavailable,
    gatewayTargetFailedToRespond]

def ofCode? (code : UInt8) : Option Exception := sendable.find? (·.code == code)

def isSuccess (e : Exception) : Bool := e == success

def text : Exception → String
  | success => "success"
  | illegalFunction => "illegal function"
  | illegalDataAddress => "illegal data address"
  | illegalDataValue => "illegal data value"
  | slaveDeviceFailure => "slave device failure"
  | acknowledge => "acknowledge"
  | slaveDeviceBusy => "slave device busy"
  | negativeAcknowledge => "negative acknowledge"
  | memoryParityError => "memory parity error"
  | gatewayPathUnavailable => "gateway path unavailable"
  | gatewayTargetFailedToRespond => "gateway target device failed to respond"

theorem ofCode?_code (e : Exception) (h : e ≠ success) : ofCode? e.code = some e := by
  cases e <;> first | exact absurd rfl h | decide

theorem code_ne_zero (e : Exception) (h : e ≠ success) : e.code ≠ 0 := by
  cases e <;> first | exact absurd rfl h | decide

theorem code_of_ofCode? {c : UInt8} {e : Exception} (h : ofCode? c = some e) : e.code = c := by
  simpa using List.find?_some h

end Exception

end Modbus
