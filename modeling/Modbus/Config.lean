import Modbus.Fault
import Modbus.Limits
import Modbus.RegisterMap

namespace Modbus

structure Config where
  bankSize : Nat := RegisterMap.addressSpace
  limits : Limits := {}
  /-- How long a connection waits for the answer to a request, time in the queue included. -/
  requestTimeout : Duration := .ofMilliseconds 5000
  handshakeTimeout : Duration := .ofMilliseconds 10000
  /-- A handler that runs longer than this is reported. -/
  handlerBudget : Duration := .ofMilliseconds 100
  /-- Silence that ends a serial frame of unknown length. -/
  frameGap : Duration := .ofMilliseconds 5
  deriving DecidableEq, Repr

namespace Config

def checkLimit (setting : String) (largest value : UInt16) : Except ServerError Unit :=
  if Limits.within largest value then .ok () else .error (.config (.limit setting largest))

def checkLimits (l : Limits) : Except ServerError Unit := do
  checkLimit "max_read_registers" Limits.standard.readRegisters l.readRegisters
  checkLimit "max_write_registers" Limits.standard.writeRegisters l.writeRegisters
  checkLimit "max_read_coils" Limits.standard.readCoils l.readCoils
  checkLimit "max_write_coils" Limits.standard.writeCoils l.writeCoils

def checkPositive (setting : String) (d : Duration) : Except ServerError Unit :=
  if d.isZero then .error (.config (.zeroDuration setting)) else .ok ()

def checkBankSize (size : Nat) : Except ServerError Unit :=
  if size = 0 || size > RegisterMap.addressSpace then
    .error (.config (.bankSize RegisterMap.addressSpace size))
  else
    .ok ()

/-- The first setting that cannot be honoured is reported. -/
def validate (c : Config) : Except ServerError Unit := do
  checkBankSize c.bankSize
  checkPositive "request_timeout" c.requestTimeout
  checkPositive "handshake_timeout" c.handshakeTimeout
  checkPositive "rtu_frame_gap" c.frameGap
  checkLimits c.limits

end Config

end Modbus
