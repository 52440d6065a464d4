import Modbus.Net.SocketAddress

namespace Modbus

inductive Transport
  | tcp
  | tls
  | rtu
  deriving DecidableEq, Repr

def Transport.name : Transport → String
  | tcp => "Tcp"
  | tls => "Tls"
  | rtu => "Rtu"

/-- Nanoseconds on a clock that never goes back. -/
abbrev Time := Nat

/-- The clock counts seconds in 63 bits. -/
def Time.limit : Nat := Nat.pow 2 63 * 1000000000

def Time.after? (now : Time) (span : Duration) : Option Time :=
  if now + span.nanoseconds < Time.limit then some (now + span.nanoseconds) else none

theorem Time.eq_of_after? {now time : Time} {span : Duration} (h : after? now span = some time) :
    time = now + span.nanoseconds := by
  unfold after? at h
  split at h
  · exact (Option.some.inj h).symm
  · cases h

/-- Shared by a connection and the contexts of all of its requests. -/
abbrev CancelToken := Nat

/-- The moment at which a context is asked: the time, and the tokens cancelled so far. -/
structure Moment where
  now : Time
  cancelled : CancelToken → Bool

namespace Moment

def quiet (now : Time) : Moment := ⟨now, fun _ => false⟩

def later (m : Moment) (span : Duration) : Moment := { m with now := m.now + span.nanoseconds }

def cancel (m : Moment) (token : CancelToken) : Moment :=
  { m with cancelled := fun t => t == token || m.cancelled t }

def sparing (m : Moment) (token : CancelToken) : Moment :=
  { m with cancelled := fun t => t != token && m.cancelled t }

theorem cancelled_sparing_self (m : Moment) (token : CancelToken) :
    (m.sparing token).cancelled token = false := by
  simp [sparing]

theorem sparing_of_not_cancelled {m : Moment} {token : CancelToken}
    (h : m.cancelled token = false) : m.sparing token = m := by
  have hcancelled : (fun t => t != token && m.cancelled t) = m.cancelled := by
    funext t
    by_cases ht : t = token <;> simp [ht, h]
  rw [sparing, hcancelled]

end Moment

structure RequestContext where
  transport : Transport
  peer : Option Net.SocketAddress := none
  identity : Option String := none
  role : Option String := none
  deadline : Option Time := none
  token : CancelToken
  deriving DecidableEq, Repr

namespace RequestContext

def detached (transport : Transport) (token : CancelToken) : RequestContext := { transport, token }

def host (c : RequestContext) : Option Net.IpAddress := c.peer.map (·.host)

def isCancelled (c : RequestContext) (m : Moment) : Bool := m.cancelled c.token

def isExpired (c : RequestContext) (m : Moment) : Bool :=
  match c.deadline with
  | some deadline => m.now ≥ deadline
  | none => false

end RequestContext

structure Session where
  transport : Transport
  peer : Option Net.SocketAddress := none
  identity : Option String := none
  role : Option String := none
  token : CancelToken
  deriving DecidableEq, Repr

namespace Session

def describe (s : Session) : String :=
  match s.peer, s.identity with
  | some peer, some identity => s.transport.name ++ " " ++ peer.text ++ " (" ++ identity ++ ")"
  | some peer, none => s.transport.name ++ " " ++ peer.text
  | none, _ => s.transport.name ++ " link"

def context (s : Session) (deadline : Option Time) : RequestContext :=
  { transport := s.transport, peer := s.peer, identity := s.identity, role := s.role, deadline,
    token := s.token }

end Session

end Modbus
