import Modbus.Framing.Mbap
import Modbus.Framing.Rtu
import Modbus.Sink
import Modbus.Worker

namespace Modbus

inductive Framing
  | mbap
  /-- A serial line, perhaps bound to one unit. -/
  | rtu (own : Option UInt8)
  deriving DecidableEq, Repr

namespace Framing

def readFrame : Framing → Line → Line.Read (Option Octets)
  | mbap => Mbap.readFrame
  | rtu _ => Rtu.readFrame

def decode : Framing → Octets → Except ServerError Frame
  | mbap => Frame.decodeTcp
  | rtu _ => Frame.decodeRtu

def executes : Framing → UInt8 → Bool
  | mbap, _ => true
  | rtu own, unit => Rtu.isAddressed own unit

/-- A frame for the unit is answered, if it is executed. -/
def answers : Framing → UInt8 → Bool
  | mbap, _ => true
  | rtu _, unit => unit != Rtu.broadcastUnit

theorem weight_readFrame_lt {f : Framing} {line rest : Line} {raw : Octets}
    (h : f.readFrame line = (.ok (some raw), rest)) : rest.weight < line.weight := by
  cases f with
  | mbap => exact Mbap.weight_readFrame_lt h
  | rtu own => exact Rtu.weight_readFrame_lt h

end Framing

inductive Ending
  /-- The stream ended between two frames. -/
  | closed
  | failed (e : ServerError)
  /-- A deadline lies beyond what the clock can show. -/
  | overflow
  /-- It does not: the connection waits for more. -/
  | waiting
  deriving DecidableEq, Repr

/-- The session is cancelled when serving it ends, however it ends. -/
def Ending.cancels : Ending → Bool
  | waiting => false
  | closed | failed _ | overflow => true

def Ending.events (peer : String) : Ending → List Event
  | closed => [.connectionClosed peer]
  | failed e => [.ofConnectionError peer e]
  | overflow | waiting => []

structure Connection where
  session : Session
  framing : Framing
  requestTimeout : Duration
  deriving DecidableEq, Repr

/-- When the requests of a connection are submitted, and how long each waits in the queue, by the
number of requests before it. -/
structure Schedule where
  submitted : Nat → Moment
  queued : Nat → Duration

def Schedule.idle (m : Moment) : Schedule := ⟨fun _ => m, fun _ => ⟨0⟩⟩

/-- The end of a connection and what it leaves. `executed` holds the requests that were handled, and
`events` all reports in order. -/
structure Visit where
  worker : Worker
  line : Line
  sink : Sink
  ending : Ending
  executed : List Frame
  events : List Event

namespace Connection

/-- The moment at which a request is submitted. The session has a token of its own, which nobody else
cancels, and it is not cancelled before serving ends. -/
def moment (c : Connection) (schedule : Schedule) (served : Nat) : Moment :=
  (schedule.submitted served).sparing c.session.token

theorem now_moment (c : Connection) (schedule : Schedule) (served : Nat) :
    (c.moment schedule served).now = (schedule.submitted served).now := rfl

/-- One request: what it leaves, and the ending if there is no next one. The reports in `late` come
after those of the ending. -/
structure Exchange where
  worker : Worker
  sink : Sink
  ending : Option Ending
  executed : List Frame
  events : List Event
  late : List Event

def timedOut (c : Connection) : Ending := .failed (.timeout "request" c.requestTimeout)

/-- Submits a request, writes the response and flushes it. The time in the queue and the time of the handler
together have to stay below the timeout. A request that is given up in the queue is dropped when its
turn comes, and so is one whose turn comes just at its deadline. One that is given up while its
handler runs is executed all the same. -/
def exchange (c : Connection) (m : Moment) (queued : Duration) (w : Worker) (sink : Sink)
    (request : Frame) : Exchange :=
  match Time.after? m.now c.requestTimeout with
  | none => ⟨w, sink, some .overflow, [], [], []⟩
  | some deadline =>
    let limit := c.requestTimeout.nanoseconds
    if limit < queued.nanoseconds then
      ⟨w, sink, some c.timedOut, [], [], [.requestDropped request.function]⟩
    else
      match w.take? (m.later queued) true (c.session.context (some deadline)) request with
      | none =>
        ⟨w, sink, some (.failed .serverClosed), [], [.requestDropped request.function], []⟩
      | some h =>
        let w := { w with state := h.state }
        if limit ≤ queued.nanoseconds + h.elapsed.nanoseconds then
          ⟨w, sink, some c.timedOut, [request], h.early, h.late⟩
        else if c.framing.answers request.unit then
          match sink.send h.response.encode with
          | (.ok (), sink) => ⟨w, sink, none, [request], h.events, []⟩
          | (.error e, sink) => ⟨w, sink, some (.failed e), [request], h.events, []⟩
        else
          ⟨w, sink, none, [request], h.events, []⟩

def finish (c : Connection) (w : Worker) (line : Line) (sink : Sink) (ending : Ending) : Visit :=
  ⟨w, line, sink, ending, [], ending.events c.session.describe⟩

def prepend (executed : List Frame) (events : List Event) (v : Visit) : Visit :=
  { v with executed := executed ++ v.executed, events := events ++ v.events }

def serveFrom (c : Connection) (schedule : Schedule) (served : Nat) (w : Worker) (line : Line)
    (sink : Sink) : Visit :=
  match _h : c.framing.readFrame line with
  | (.ok none, rest) => c.finish w rest sink .closed
  | (.error .stalled, rest) => c.finish w rest sink .waiting
  | (.error (.failed e), rest) => c.finish w rest sink (.failed e)
  | (.ok (some raw), rest) =>
    match c.framing.decode raw with
    | .error e => c.finish w rest sink (.failed e)
    | .ok frame =>
      if c.framing.executes frame.unit then
        let x := c.exchange (c.moment schedule served) (schedule.queued served) w sink frame
        let events := Event.ofDecoded frame ++ x.events
        match x.ending with
        | some ending =>
          let v := c.finish x.worker rest x.sink ending
          prepend x.executed events { v with events := v.events ++ x.late }
        | none =>
          prepend x.executed events (serveFrom c schedule (served + 1) x.worker rest x.sink)
      else
        prepend [] (Event.ofDecoded frame ++ [.frameSkipped frame.unit])
          (serveFrom c schedule served w rest sink)
termination_by line.weight
decreasing_by all_goals exact Framing.weight_readFrame_lt _h

def serve (c : Connection) (schedule : Schedule) (w : Worker) (line : Line) (sink : Sink) : Visit :=
  c.serveFrom schedule 0 w line sink

end Connection

end Modbus
