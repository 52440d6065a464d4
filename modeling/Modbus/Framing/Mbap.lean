import Modbus.Frame
import Modbus.Line

namespace Modbus.Mbap

def headerLength : Nat := 7

def smallestLength : Nat := 2

def largestLength : Nat := 254

/-- The length that a header announces, counted from the unit on. -/
def announcedLength (header : Octets) : Nat :=
  match header with
  | [_, _, _, _, high, low, _] => (word high low).toNat
  | _ => 0

/-- What follows a header. A length out of range is refused before anything is read. -/
def readBody (header : Octets) (line : Line) : Line.Read (Option Octets) :=
  let announced := announcedLength header
  if announced < smallestLength || largestLength < announced then
    (.error (.failed (.malformedFrame (.announcedLength announced smallestLength largestLength))),
      line)
  else
    (line.readExact (announced - 1)).andThen fun body line => (.ok (some (header ++ body)), line)

def readFrame (line : Line) : Line.Read (Option Octets) :=
  (line.read headerLength).andThen fun first line =>
    if first.isEmpty then (.ok none, line)
    else
      (line.readExact (headerLength - first.length)).andThen fun rest line =>
        readBody (first ++ rest) line

theorem weight_readBody_le (header : Octets) (line : Line) :
    (readBody header line).2.weight ≤ line.weight := by
  unfold readBody
  dsimp only
  split
  · exact Nat.le_refl _
  · exact Line.weight_andThen_le (Line.weight_readExact_le _ _) fun _ _ h => h

/-- Reading a frame takes something off the line. -/
theorem weight_readFrame_lt {line rest : Line} {raw : Octets}
    (h : readFrame line = (.ok (some raw), rest)) : rest.weight < line.weight := by
  unfold readFrame at h
  cases hread : line.read headerLength with
  | mk result left =>
    rw [hread] at h
    cases result with
    | error stop => simp [Line.Read.andThen] at h
    | ok first =>
      simp only [Line.Read.andThen] at h
      split at h
      · simp at h
      · next hne =>
        have hlt := Line.weight_read_lt hread (by simpa using hne)
        have hle := Line.weight_andThen_le
          (Line.weight_readExact_le (headerLength - first.length) left)
          (f := fun more line => readBody (first ++ more) line)
          fun more line hline => Nat.le_trans (weight_readBody_le _ _) hline
        simp only [Line.Read.andThen, h] at hle
        omega

end Modbus.Mbap
