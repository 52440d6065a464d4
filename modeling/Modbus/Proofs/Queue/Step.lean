import Modbus.Worker

namespace Modbus.Queue

inductive Job (α : Type)
  | request (context : RequestContext) (frame : Frame)
  | access (run : Worker.Access α)

inductive Reply (α : Type)
  | response (frame : Frame)
  | value (a : α)

abbrev Outcome (α : Type) := Except ServerError (Reply α)

namespace Job

variable {α : Type}

/-- A job that is taken from the queue is either executed or dropped. An access is never dropped. -/
def admitted (w : Worker) (m : Moment) (awaited : Bool) : Job α → Bool
  | request context frame => (w.take? m awaited context frame).isSome
  | access _ => true

def perform (w : Worker) (m : Moment) : Job α → Worker × Outcome α
  | request context frame =>
    let h := w.handle m context frame
    ({ w with state := h.state }, .ok (.response h.response))
  | access run =>
    let (w, result, _) := w.access run
    (w, result.map .value)

end Job

/-- A job in the queue. Its number tells apart the replies to different jobs, also of one client. -/
structure Submission (ι α : Type) where
  number : Nat
  client : ι
  job : Job α

inductive Client (α : Type)
  | ready
  | waiting (number : Nat)
  | answered (number : Nat) (outcome : Outcome α)

def Client.awaits {α : Type} (number : Nat) : Client α → Bool
  | waiting n => n == number
  | ready | answered _ _ => false

inductive Phase (ι α : Type)
  | idle
  /-- Taken from the queue, and about to be executed. -/
  | started (s : Submission ι α)
  /-- Executed, and about to be answered. -/
  | finished (s : Submission ι α) (outcome : Outcome α)

namespace Phase

variable {ι α : Type}

def upcoming : Phase ι α → List (Submission ι α)
  | started s => [s]
  | idle | finished _ _ => []

def held : Phase ι α → List (Submission ι α)
  | started s | finished s _ => [s]
  | idle => []

end Phase

structure Taking (ι α : Type) where
  submission : Submission ι α
  moment : Moment
  awaited : Bool

structure Execution (ι α : Type) where
  submission : Submission ι α
  moment : Moment
  table : DispatchTable

structure Delivery (ι α : Type) where
  submission : Submission ι α
  outcome : Outcome α

/-- The worker, its queue and its clients. The last four fields keep what has happened so far, and
no step reads them but to number the submissions. -/
structure System (ι α : Type) where
  worker : Worker
  moment : Moment
  queue : List (Submission ι α) := []
  phase : Phase ι α := .idle
  clients : ι → Client α := fun _ => .ready
  submitted : List (Submission ι α) := []
  taken : List (Taking ι α) := []
  executed : List (Execution ι α) := []
  delivered : List (Delivery ι α) := []

namespace System

variable {ι α : Type} [DecidableEq ι]

def setClient (y : System ι α) (i : ι) (c : Client α) : System ι α :=
  { y with clients := fun j => if j = i then c else y.clients j }

def submit (y : System ι α) (i : ι) (job : Job α) : System ι α :=
  let s : Submission ι α := ⟨y.submitted.length, i, job⟩
  { y.setClient i (.waiting s.number) with
    queue := y.queue ++ [s]
    submitted := y.submitted ++ [s] }

def awaits (y : System ι α) (s : Submission ι α) : Bool := (y.clients s.client).awaits s.number

/-- Sends a reply. It is lost if its client does not wait for it any more. -/
def deliver (y : System ι α) (s : Submission ι α) (outcome : Outcome α) : System ι α :=
  if y.awaits s then
    { y.setClient s.client (.answered s.number outcome) with
      delivered := y.delivered ++ [⟨s, outcome⟩] }
  else y

def taking (y : System ι α) (s : Submission ι α) : Taking ι α := ⟨s, y.moment, y.awaits s⟩

def pop (y : System ι α) (s : Submission ι α) (rest : List (Submission ι α)) : System ι α :=
  { y with queue := rest, taken := y.taken ++ [y.taking s] }

/-- Takes the first job. Who waits for one that is dropped hears that the server is closed. -/
def take (y : System ι α) (s : Submission ι α) (rest : List (Submission ι α)) : System ι α :=
  if s.job.admitted y.worker y.moment (y.awaits s) then { y.pop s rest with phase := .started s }
  else (y.pop s rest).deliver s (.error .serverClosed)

def execute (y : System ι α) (s : Submission ι α) : System ι α :=
  let result := s.job.perform y.worker y.moment
  { y with
    worker := result.1
    phase := .finished s result.2
    executed := y.executed ++ [⟨s, y.moment, y.worker.table⟩] }

def work (y : System ι α) : Option (System ι α) :=
  match y.phase, y.queue with
  | .idle, [] => none
  | .idle, s :: rest => some (y.take s rest)
  | .started s, _ => some (y.execute s)
  | .finished s outcome, _ => some { y.deliver s outcome with phase := .idle }

/-- One step of anybody. A job is submitted by a client that has no other job out. -/
inductive Step : System ι α → System ι α → Prop
  | submit {y : System ι α} {i : ι} (job : Job α) (h : y.clients i = .ready) :
    Step y (y.submit i job)
  | abandon {y : System ι α} {i : ι} {number : Nat} (h : y.clients i = .waiting number) :
    Step y (y.setClient i .ready)
  | receive {y : System ι α} {i : ι} {number : Nat} {outcome : Outcome α}
    (h : y.clients i = .answered number outcome) : Step y (y.setClient i .ready)
  | cancel (y : System ι α) (token : CancelToken) :
    Step y { y with moment := y.moment.cancel token }
  | elapse (y : System ι α) (span : Duration) : Step y { y with moment := y.moment.later span }
  | install (y : System ι α) (table : DispatchTable) : Step y { y with worker.table := table }
  | work {y y' : System ι α} (h : y.work = some y') : Step y y'

inductive Reachable (w : Worker) (m : Moment) : System ι α → Prop
  | start : Reachable w m { worker := w, moment := m }
  | step {y y' : System ι α} (h : Reachable w m y) (hstep : Step y y') : Reachable w m y'

def run : Nat → System ι α → System ι α
  | 0, y => y
  | n + 1, y =>
    match y.work with
    | none => y
    | some y' => y'.run n

end System

end Modbus.Queue
