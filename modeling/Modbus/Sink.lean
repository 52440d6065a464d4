import Modbus.Fault

namespace Modbus

inductive Uptake
  | upTo (count : Nat)
  | fails (fault : StreamFault) (text : String)
  deriving DecidableEq, Repr

structure Sink where
  /-- What becomes of a write, given the number of writes before it, the number of octets taken by
  them, and the number of octets that it offers. -/
  pattern : Nat → Nat → Nat → Uptake
  /-- What a flush fails with, given the number of flushes before it and the number of octets taken.
  -/
  flushFault : Nat → Nat → Option (StreamFault × String) := fun _ _ => none
  writes : Nat := 0
  taken : Nat := 0
  /-- Taken since the last flush. -/
  pending : Octets := []
  /-- Taken between the flushes before. -/
  flushed : List Octets := []

namespace Sink

def eager : Sink := { pattern := fun _ _ offered => .upTo offered }

def slow (count : Nat) : Sink := { pattern := fun _ _ _ => .upTo count }

/-- Takes what the given sink does until `count` octets are taken in all, and then fails. -/
def failingAfter (s : Sink) (count : Nat) (fault : StreamFault) (text : String) : Sink :=
  let pattern (writes taken offered : Nat) : Uptake :=
    if taken < count then
      match s.pattern writes taken offered with
      | .upTo n => .upTo (min n (count - taken))
      | failure => failure
    else .fails fault text
  { s with pattern }

def accept (s : Sink) (octets : Octets) : Sink :=
  { s with
    writes := s.writes + 1, taken := s.taken + octets.length, pending := s.pending ++ octets }

/-- Writes until all is taken. A write of which nothing is taken is an error. -/
def writeAll (s : Sink) (octets : Octets) : Except ServerError Unit × Sink :=
  match octets with
  | [] => (.ok (), s)
  | b :: rest =>
    match s.pattern s.writes s.taken (rest.length + 1) with
    | .fails fault text => (.error (.stream fault text), { s with writes := s.writes + 1 })
    | .upTo 0 => (.error .writeZero, { s with writes := s.writes + 1 })
    | .upTo (n + 1) => writeAll (s.accept (b :: rest.take n)) (rest.drop n)
termination_by octets.length
decreasing_by simp only [List.length_cons, List.length_drop]; omega

/-- Hands on what was taken since the last flush. If that fails, it stays pending. -/
def flush (s : Sink) : Except ServerError Unit × Sink :=
  match s.flushFault s.flushed.length s.taken with
  | some (fault, text) => (.error (.stream fault text), s)
  | none => (.ok (), { s with pending := [], flushed := s.flushed ++ [s.pending] })

def send (s : Sink) (message : Octets) : Except ServerError Unit × Sink :=
  match s.writeAll message with
  | (.ok (), s) => s.flush
  | (.error e, s) => (.error e, s)

end Sink

end Modbus
