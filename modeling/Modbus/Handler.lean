import Modbus.Frame
import Modbus.Operation
import Modbus.Session

namespace Modbus

inductive PanicPayload
  | text (message : String)
  | other
  deriving DecidableEq, Repr

def PanicPayload.message : PanicPayload → String
  | text message => message
  | other => "non-string panic payload"

inductive Abort
  | exception (e : Exception)
  | panic (payload : PanicPayload)
  deriving DecidableEq, Repr

abbrev HandlerResult := Except Abort Octets

/-- One run of a handler: the state it leaves, what it returns, and how long it takes. -/
structure Invocation where
  state : SlaveState
  result : HandlerResult
  elapsed : Duration

abbrev NativeHandler := SlaveState → Frame → Invocation

abbrev ContextHandler := RequestContext → Moment → Frame → HandlerResult × Duration

inductive Handler
  | native (run : NativeHandler)
  | contextual (run : ContextHandler)

namespace Handler

def kind : Handler → String
  | native _ => "FunctionHandler::Native"
  | contextual _ => "FunctionHandler::Context"

def invoke (h : Handler) (s : SlaveState) (c : RequestContext) (m : Moment) (request : Frame) :
    Invocation :=
  match h with
  | native run => run s request
  | contextual run =>
    let (result, elapsed) := run c m request
    { state := s, result, elapsed }

end Handler

/-- A standard function as a handler. It takes next to no time, and a refused request leaves the
state as it was. -/
def StandardFunction.handler (f : StandardFunction) : NativeHandler := fun s request =>
  match f.apply s request.payload with
  | .ok (s', payload) => { state := s', result := .ok payload, elapsed := .brief }
  | .error e => { state := s, result := .error (.exception e), elapsed := .brief }

end Modbus
