import Modbus.Fault

namespace Modbus

/-- An arrival without octets is a read that returns nothing, as at the end of the stream. -/
inductive Arrival
  | data (octets : Octets)
  /-- The line is quiet for longer than the gap between frames. -/
  | silence
  | failure (fault : StreamFault) (text : String)
  /-- Nothing more ever comes. -/
  | stall
  deriving DecidableEq, Repr

/-- What is still to arrive. Behind the last arrival the stream has ended. -/
abbrev Line := List Arrival

def Arrival.octets : Arrival → Octets
  | .data octets => octets
  | _ => []

namespace Line

def octets (line : Line) : Octets := line.flatMap Arrival.octets

/-- Arrivals and their octets; every read that returns something makes it smaller. -/
def weight : Line → Nat
  | [] => 0
  | .data octets :: rest => octets.length + 1 + weight rest
  | _ :: rest => 1 + weight rest

inductive Stop
  | failed (e : ServerError)
  | stalled
  deriving DecidableEq, Repr

abbrev Read (α : Type) := Except Stop α × Line

def Read.andThen {α β : Type} (r : Read α) (next : α → Line → Read β) : Read β :=
  match r with
  | (.ok a, line) => next a line
  | (.error stop, line) => (.error stop, line)

/-- At most `limit` octets, waiting through silence. None are returned at the end of the stream. -/
def read (limit : Nat) : Line → Read Octets
  | [] => (.ok [], [])
  | .data octets :: rest =>
    if octets.length ≤ limit then (.ok octets, rest)
    else (.ok (octets.take limit), .data (octets.drop limit) :: rest)
  | .silence :: rest => read limit rest
  | .failure fault text :: rest => (.error (.failed (.stream fault text)), rest)
  | .stall :: rest => (.error .stalled, .stall :: rest)

/-- At most `limit` octets, giving up when the line is quiet. -/
def readUntilQuiet (limit : Nat) : Line → Read Octets
  | .silence :: rest => (.ok [], rest)
  | .stall :: rest => (.ok [], .stall :: rest)
  | line => read limit line

def readExact (count : Nat) (line : Line) : Read Octets :=
  match count, line with
  | 0, line => (.ok [], line)
  | _ + 1, [] => (.error (.failed .earlyEof), [])
  | count + 1, .data octets :: rest =>
    if octets.length = 0 then (.error (.failed .earlyEof), rest)
    else if octets.length ≤ count + 1 then
      (readExact (count + 1 - octets.length) rest).andThen fun more rest =>
        (.ok (octets ++ more), rest)
    else (.ok (octets.take (count + 1)), .data (octets.drop (count + 1)) :: rest)
  | count + 1, .silence :: rest => readExact (count + 1) rest
  | _ + 1, .failure fault text :: rest => (.error (.failed (.stream fault text)), rest)
  | _ + 1, .stall :: rest => (.error .stalled, .stall :: rest)

theorem weight_andThen_le {α β : Type} {r : Read α} {f : α → Line → Read β} {n : Nat}
    (hr : r.2.weight ≤ n) (hf : ∀ a line, line.weight ≤ n → (f a line).2.weight ≤ n) :
    (r.andThen f).2.weight ≤ n := by
  obtain ⟨_ | a, line⟩ := r
  · exact hr
  · exact hf a line hr

theorem weight_read_le (limit : Nat) (line : Line) : (read limit line).2.weight ≤ line.weight := by
  fun_induction read limit line <;> grind [weight]

theorem weight_read_lt {limit : Nat} {line rest : Line} {octets : Octets}
    (h : read limit line = (.ok octets, rest)) (hne : octets ≠ []) : rest.weight < line.weight := by
  fun_induction read limit line with
  | case1 => grind
  | case2 => grind [weight]
  | case3 =>
    simp only [Prod.mk.injEq, Except.ok.injEq] at h
    obtain ⟨rfl, rfl⟩ := h
    cases limit with
    | zero => simp at hne
    | succ n => simp only [weight, List.length_drop]; omega
  | case4 rest ih =>
    have := ih h
    simp only [weight]
    omega
  | case5 => simp at h
  | case6 => simp at h

theorem weight_readUntilQuiet_le (limit : Nat) (line : Line) :
    (readUntilQuiet limit line).2.weight ≤ line.weight := by
  unfold readUntilQuiet
  split
  · simp [weight]
  · simp
  · exact weight_read_le limit line

theorem weight_readUntilQuiet_lt {limit : Nat} {line rest : Line} {octets : Octets}
    (h : readUntilQuiet limit line = (.ok octets, rest)) (hne : octets ≠ []) :
    rest.weight < line.weight := by
  unfold readUntilQuiet at h
  split at h
  · simp_all
  · simp_all
  · exact weight_read_lt h hne

theorem weight_readExact_le (count : Nat) (line : Line) :
    (readExact count line).2.weight ≤ line.weight := by
  fun_induction readExact count line with
  | case4 count octets rest _ _ ih =>
    refine weight_andThen_le (Nat.le_trans ih ?_) fun _ _ h => h
    simp only [weight]
    omega
  | _ => grind [weight]

end Line

end Modbus
