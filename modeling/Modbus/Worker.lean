import Modbus.DispatchTable
import Modbus.Event

namespace Modbus

structure Worker where
  state : SlaveState
  table : DispatchTable
  budget : Duration

namespace Worker

def payloadLimit : Nat := 252

def answer (request : Frame) (result : HandlerResult) : Frame × List Event :=
  let function := request.function
  match result with
  | .ok payload =>
    if payload.length > payloadLimit then
      (request.response.withException .slaveDeviceFailure,
        [.payloadTooLong function payload.length payloadLimit])
    else
      (request.response.withPayload payload, [])
  | .error (.exception e) =>
    (request.response.withException e, if e.isSuccess then [] else [.requestRefused function e])
  | .error (.panic payload) =>
    (request.response.withException .slaveDeviceFailure,
      [.handlerPanicked function payload, .requestRefused function .slaveDeviceFailure])

/-- A request that has been handled. `early` is reported before the handler runs and `late` when it
is done. -/
structure Handling where
  state : SlaveState
  response : Frame
  elapsed : Duration
  early : List Event
  late : List Event

def Handling.events (h : Handling) : List Event := h.early ++ h.late

/-- Runs the handler of the request's function code. A code without one is illegal. -/
def invoke (w : Worker) (m : Moment) (c : RequestContext) (request : Frame) : Invocation :=
  match w.table.lookup request.function with
  | some h => h.invoke w.state c m request
  | none => ⟨w.state, .error (.exception .illegalFunction), ⟨0⟩⟩

def budgetReport (w : Worker) (function : UInt8) (elapsed : Duration) : List Event :=
  if elapsed.nanoseconds > w.budget.nanoseconds then [.budgetExceeded function elapsed w.budget]
  else []

def handle (w : Worker) (m : Moment) (c : RequestContext) (request : Frame) : Handling :=
  let run := w.invoke m c request
  let (response, reports) := answer request run.result
  { state := run.state
    response
    elapsed := run.elapsed
    early := [.requestReceived request.unit request.function request.payload.length]
    late := w.budgetReport request.function run.elapsed ++ reports }

/-- Takes a request from the queue. It is dropped if nobody waits for the answer any more, or if its
context is cancelled or expired. -/
def take? (w : Worker) (m : Moment) (awaited : Bool) (c : RequestContext) (request : Frame) :
    Option Handling :=
  if awaited && !c.isCancelled m && !c.isExpired m then some (w.handle m c request) else none

/-- An access to the state from outside, which may break down after it has changed something. -/
abbrev Access (α : Type) := SlaveState → SlaveState × Except PanicPayload α

/-- Runs an access. One that breaks down is answered as if the server were closed. -/
def access {α : Type} (w : Worker) (run : Access α) :
    Worker × Except ServerError α × List Event :=
  let (state, result) := run w.state
  let w := { w with state }
  match result with
  | .ok value => (w, .ok value, [])
  | .error payload => (w, .error .serverClosed, [.accessPanicked payload])

end Worker

end Modbus
