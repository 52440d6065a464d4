import Mathlib.Logic.Relation
import Modbus.Connection
import Modbus.Proofs.Queue.Step

namespace Modbus.Traffic

inductive Exit
  | ended (e : Ending)
  | stopped
  deriving DecidableEq, Repr

/-- The session is cancelled as well when its connection is stopped. -/
def Exit.cancels : Exit → Bool
  | ended e => e.cancels
  | stopped => true

/-- Where a connection stands. A request has a number while it is in flight, that is from when it is
submitted until its connection goes on to the next one or is left. -/
inductive Stage
  | reading
  | received (request : Frame)
  /-- The deadline is set, and the request is about to be submitted. -/
  | stamped (request : Frame) (deadline : Time)
  | awaiting (number : Nat) (request : Frame) (deadline : Time)
  | answering (number : Nat) (request response : Frame)
  | leaving (exit : Exit)
  /-- The session is cancelled too. -/
  | gone (exit : Exit)
  deriving DecidableEq, Repr

namespace Stage

def number? : Stage → Option Nat
  | awaiting number _ _ | answering number _ _ => some number
  | reading | received _ | stamped _ _ | leaving _ | gone _ => none

def isSuspended : Stage → Bool
  | reading | awaiting _ _ _ | answering _ _ _ => true
  | received _ | stamped _ _ | leaving _ | gone _ => false

def isGone : Stage → Bool
  | gone _ => true
  | _ => false

/-- A deadline beyond what the clock can show breaks the connection down. -/
def ofDeadline (request : Frame) : Option Time → Stage
  | some deadline => stamped request deadline
  | none => leaving (.ended .overflow)

end Stage

structure Loop where
  stage : Stage
  line : Line
  sink : Sink

namespace Loop

/-- Reads the next frame, unless the line only has silence to come. -/
def read (c : Connection) (loop : Loop) : Option Loop :=
  match c.framing.readFrame loop.line with
  | (.ok none, line) => some { loop with stage := .leaving (.ended .closed), line }
  | (.error .stalled, _) => none
  | (.error (.failed e), line) => some { loop with stage := .leaving (.ended (.failed e)), line }
  | (.ok (some raw), line) =>
    match c.framing.decode raw with
    | .error e => some { loop with stage := .leaving (.ended (.failed e)), line }
    | .ok frame =>
      some { loop with
        stage := if c.framing.executes frame.unit then .received frame else .reading
        line }

def reply (c : Connection) (request response : Frame) (loop : Loop) : Loop :=
  if c.framing.answers request.unit then
    match loop.sink.send response.encode with
    | (.ok (), sink) => { loop with stage := .reading, sink }
    | (.error e, sink) => { loop with stage := .leaving (.ended (.failed e)), sink }
  else { loop with stage := .reading }

end Loop

/-- The connections there are to be, and what is on their streams. Every session has a token of its
own. -/
structure Network (ι : Type) where
  connection : ι → Connection
  line : ι → Line
  sink : ι → Sink
  own_token : ∀ i j, (connection i).session.token = (connection j).session.token → i = j

namespace Network

variable {ι : Type}

def session (n : Network ι) (i : ι) : Session := (n.connection i).session

def token (n : Network ι) (i : ι) : CancelToken := (n.session i).token

end Network

/-- The worker with its queue, and the connections, which are clients of it beside others. The
numbers of the requests that connections are done with are kept, and no step reads them. -/
structure State (ι κ α : Type) where
  hub : Queue.System (ι ⊕ κ) α
  loops : ι → Loop
  finished : List Nat := []

namespace State

variable {ι κ α : Type} [DecidableEq ι] [DecidableEq κ]

def stage (y : State ι κ α) (i : ι) : Stage := (y.loops i).stage

def client (y : State ι κ α) (i : ι) : Queue.Client α := y.hub.clients (.inl i)

def setLoop (y : State ι κ α) (i : ι) (loop : Loop) : State ι κ α :=
  { y with loops := fun j => if j = i then loop else y.loops j }

def setStage (y : State ι κ α) (i : ι) (stage : Stage) : State ι κ α :=
  y.setLoop i { y.loops i with stage }

def release (y : State ι κ α) (i : ι) : State ι κ α :=
  { y with hub := y.hub.setClient (.inl i) .ready }

def finish (y : State ι κ α) (i : ι) : State ι κ α :=
  { y with finished := y.finished ++ (y.stage i).number?.toList }

def submit (y : State ι κ α) (i : ι) (session : Session) (request : Frame) (deadline : Time) :
    State ι κ α :=
  { y.setStage i (.awaiting y.hub.submitted.length request deadline) with
    hub := y.hub.submit (.inl i) (.request (session.context (some deadline)) request) }

def leave (y : State ι κ α) (i : ι) (exit : Exit) : State ι κ α :=
  ((y.finish i).release i).setStage i (.leaving exit)

def hangUp (y : State ι κ α) (i : ι) (token : CancelToken) (exit : Exit) : State ι κ α :=
  { y.setStage i (.gone exit) with
    hub.moment := if exit.cancels then y.hub.moment.cancel token else y.hub.moment }

end State

variable {ι κ α : Type} [DecidableEq ι] [DecidableEq κ]

/-- What a connection does by itself, and what it suffers when it is stopped. -/
inductive Moves (c : Connection) (i : ι) (y : State ι κ α) : State ι κ α → Prop
  | read {loop : Loop} (hstage : y.stage i = .reading) (hread : (y.loops i).read c = some loop) :
    Moves c i y (y.setLoop i loop)
  | stamp {request : Frame} (hstage : y.stage i = .received request) :
    Moves c i y (y.setStage i
      (.ofDeadline request (Time.after? y.hub.moment.now c.requestTimeout)))
  | submit {request : Frame} {deadline : Time} (hstage : y.stage i = .stamped request deadline) :
    Moves c i y (y.submit i c.session request deadline)
  /-- There is no worker any more. -/
  | refuse {request : Frame} {deadline : Time} (hstage : y.stage i = .stamped request deadline) :
    Moves c i y (y.leave i (.ended (.failed .serverClosed)))
  | respond {number : Nat} {request response : Frame} {deadline : Time}
    (hstage : y.stage i = .awaiting number request deadline)
    (hanswer : y.client i = .answered number (.ok (.response response))) :
    Moves c i y ((y.release i).setStage i (.answering number request response))
  | fail {number : Nat} {request : Frame} {deadline : Time} {e : ServerError}
    (hstage : y.stage i = .awaiting number request deadline)
    (hanswer : y.client i = .answered number (.error e)) :
    Moves c i y (y.leave i (.ended (.failed e)))
  | timeOut {number : Nat} {request : Frame} {deadline : Time}
    (hstage : y.stage i = .awaiting number request deadline)
    (hwaits : y.client i = .waiting number) (hlate : deadline ≤ y.hub.moment.now) :
    Moves c i y (y.leave i (.ended c.timedOut))
  | reply {number : Nat} {request response : Frame}
    (hstage : y.stage i = .answering number request response) :
    Moves c i y ((y.finish i).setLoop i ((y.loops i).reply c request response))
  | stop (hsuspended : (y.stage i).isSuspended = true) : Moves c i y (y.leave i .stopped)
  | hangUp {exit : Exit} (hstage : y.stage i = .leaving exit) :
    Moves c i y (y.hangUp i c.session.token exit)

/-- What happens without a connection: to the worker, to the clock, and to others, who have any
contexts they like but cannot cancel a session. -/
inductive Passes (n : Network ι) (y : Queue.System (ι ⊕ κ) α) : Queue.System (ι ⊕ κ) α → Prop
  | submit {k : κ} (job : Queue.Job α) (h : y.clients (.inr k) = .ready) :
    Passes n y (y.submit (.inr k) job)
  | abandon {k : κ} {number : Nat} (h : y.clients (.inr k) = .waiting number) :
    Passes n y (y.setClient (.inr k) .ready)
  | receive {k : κ} {number : Nat} {outcome : Queue.Outcome α}
    (h : y.clients (.inr k) = .answered number outcome) : Passes n y (y.setClient (.inr k) .ready)
  | cancel {token : CancelToken} (h : ∀ i, token ≠ n.token i) :
    Passes n y { y with moment := y.moment.cancel token }
  | elapse (span : Duration) : Passes n y { y with moment := y.moment.later span }
  | install (table : DispatchTable) : Passes n y { y with worker.table := table }
  | work {y' : Queue.System (ι ⊕ κ) α} (h : y.work = some y') : Passes n y y'

inductive Step (n : Network ι) (y : State ι κ α) : State ι κ α → Prop
  | move {i : ι} {y' : State ι κ α} (h : Moves (n.connection i) i y y') : Step n y y'
  | pass {hub : Queue.System (ι ⊕ κ) α} (h : Passes n y.hub hub) : Step n y { y with hub }

abbrev Steps (n : Network ι) : State ι κ α → State ι κ α → Prop := Relation.ReflTransGen (Step n)

def start (n : Network ι) (w : Worker) (now : Time) : State ι κ α where
  hub := { worker := w, moment := .quiet now }
  loops i := ⟨.reading, n.line i, n.sink i⟩

abbrev Reachable (n : Network ι) (w : Worker) (now : Time) (y : State ι κ α) : Prop :=
  Steps n (start n w now) y

end Modbus.Traffic
