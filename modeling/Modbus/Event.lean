import Modbus.Fault
import Modbus.Frame
import Modbus.Handler

namespace Modbus

inductive Level
  | trace
  | debug
  | info
  | warn
  | error
  deriving DecidableEq, Repr

def Level.name : Level → String
  | trace => "TRACE"
  | debug => "DEBUG"
  | info => "INFO"
  | warn => "WARN"
  | error => "ERROR"

inductive Event
  | frameParsed (transaction : UInt16) (length : Nat) (unit function : UInt8)
  | requestReceived (unit function : UInt8) (length : Nat)
  | budgetExceeded (function : UInt8) (elapsed budget : Duration)
  | handlerPanicked (function : UInt8) (payload : PanicPayload)
  | payloadTooLong (function : UInt8) (length limit : Nat)
  | requestRefused (function : UInt8) (e : Exception)
  | requestDropped (function : UInt8)
  | accessPanicked (payload : PanicPayload)
  | frameSkipped (unit : UInt8)
  | connectionClosed (peer : String)
  | connectionEnded (peer : String) (e : ServerError)
  | badPacket (peer : String) (e : ServerError)
  | connectionFailed (peer : String) (e : ServerError)
  deriving DecidableEq, Repr

namespace Event

def level : Event → Level
  | frameParsed .. | requestReceived .. | requestRefused .. | requestDropped .. => .debug
  | connectionClosed .. | connectionEnded .. => .debug
  | frameSkipped .. => .trace
  | budgetExceeded .. | badPacket .. => .warn
  | handlerPanicked .. | payloadTooLong .. | accessPanicked .. | connectionFailed .. => .error

def functionText (function : UInt8) : String := "FC=" ++ Text.hex8 function

def describedFunction (function : UInt8) : String :=
  functionText function ++ " (" ++ FunctionCode.description function ++ ")"

def text (timeText : Duration → String) : Event → String
  | frameParsed transaction length unit function =>
    "Parsed TCP frame: trans_id=" ++ Text.hex16 transaction ++ ", length=" ++ toString length
      ++ ", unit_id=" ++ toString unit.toNat ++ ", " ++ functionText function
  | requestReceived unit function length =>
    "Request: unit=" ++ toString unit.toNat ++ " " ++ describedFunction function ++ ", data_len="
      ++ toString length
  | budgetExceeded function elapsed budget =>
    "Handler for " ++ describedFunction function ++ " took " ++ timeText elapsed ++ ", budget "
      ++ budget.text
  | handlerPanicked function payload =>
    "Handler for " ++ functionText function ++ " panicked: " ++ payload.message
  | payloadTooLong function length limit =>
    "Handler for " ++ functionText function ++ " returned " ++ toString length ++ " bytes, limit "
      ++ toString limit
  | requestRefused function e => "Exception response " ++ functionText function ++ ": " ++ e.text
  | requestDropped function =>
    "Dropping request " ++ functionText function ++ ": requester gone or deadline passed"
  | accessPanicked payload => "State access panicked: " ++ payload.message
  | frameSkipped unit => "Skipping RTU frame for unit " ++ toString unit.toNat
  | connectionClosed peer => "Connection " ++ peer ++ " closed by peer"
  | connectionEnded peer e => "Connection " ++ peer ++ " ended: " ++ e.message
  | badPacket peer e => "Bad packet from " ++ peer ++ ": " ++ e.message
  | connectionFailed peer e => "Connection " ++ peer ++ " failed: " ++ e.message

def line (timeText : Duration → String) (e : Event) : String :=
  e.level.name ++ " " ++ e.text timeText

def ofDecoded (f : Frame) : List Event :=
  match f.envelope with
  | .tcp transaction _ => [frameParsed transaction f.body.length f.unit f.function]
  | .rtu => []

def ofConnectionError (peer : String) (e : ServerError) : Event :=
  if e.isEndOfStream then connectionEnded peer e
  else match e with
    | .malformedFrame _ => badPacket peer e
    | _ => connectionFailed peer e

end Event

end Modbus
