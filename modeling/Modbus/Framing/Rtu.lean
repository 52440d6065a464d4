import Modbus.Frame
import Modbus.Line

namespace Modbus.Rtu

def checksumLength : Nat := 2

def longestFrame : Nat := 256

def readSize : Nat := 64

/-- Executed by every slave, and answered by none. -/
def broadcastUnit : UInt8 := 0

def largestUnit : UInt8 := 247

inductive Extent
  /-- Two words and the checksum. -/
  | fixed
  /-- Two words, a byte count, as many octets, and the checksum. -/
  | counted
  | untilQuiet
  deriving DecidableEq, Repr

def extent (function : UInt8) : Extent :=
  if FunctionCode.readCoils ≤ function && function ≤ FunctionCode.writeSingleRegister then .fixed
  else if function == FunctionCode.writeMultipleCoils
      || function == FunctionCode.writeMultipleRegisters then .counted
  else .untilQuiet

/-- What arrives until the line is quiet or ends, or the frame is as long as one can be. What a read
returns beyond that is lost. -/
def collect (raw : Octets) (line : Line) : Line.Read Octets :=
  if raw.length < longestFrame then
    match _h : line.readUntilQuiet readSize with
    | (.ok [], rest) => (.ok raw, rest)
    | (.ok (b :: more), rest) => collect (raw ++ (b :: more).take (longestFrame - raw.length)) rest
    | (.error stop, rest) => (.error stop, rest)
  else (.ok raw, line)
termination_by line.weight
decreasing_by exact Line.weight_readUntilQuiet_lt _h (by simp)

def readCounted (head : Octets) (line : Line) : Line.Read Octets :=
  (line.readExact 5).andThen fun fields line =>
    let count := (fields.getLast?.getD 0).toNat
    (line.readExact (count + checksumLength)).andThen fun data line =>
      (.ok (head ++ fields ++ data), line)

def readBody (head : Octets) (line : Line) : Line.Read Octets :=
  match extent (head.getLast?.getD 0) with
  | .fixed =>
    (line.readExact (4 + checksumLength)).andThen fun rest line => (.ok (head ++ rest), line)
  | .counted => readCounted head line
  | .untilQuiet => collect head line

def readFrame (line : Line) : Line.Read (Option Octets) :=
  (line.read 2).andThen fun first line =>
    if first.isEmpty then (.ok none, line)
    else
      (line.readExact (2 - first.length)).andThen fun rest line =>
        (readBody (first ++ rest) line).andThen fun raw line => (.ok (some raw), line)

def checkUnit (unit : UInt8) : Except ServerError Unit :=
  if 1 ≤ unit && unit ≤ largestUnit then .ok ()
  else .error (.config (.unitAddress unit largestUnit))

/-- A slave with its own unit executes what is for that unit, and broadcasts. Without one it
executes everything. -/
def isAddressed (own : Option UInt8) (unit : UInt8) : Bool :=
  match own with
  | some own => unit == own || unit == broadcastUnit
  | none => true

theorem weight_collect_le (raw : Octets) (line : Line) :
    (collect raw line).2.weight ≤ line.weight := by
  fun_induction collect raw line with
  | case1 raw line _ rest h =>
    have := Line.weight_readUntilQuiet_le readSize line
    rw [h] at this
    exact this
  | case2 raw line _ b more rest h ih =>
    have := Line.weight_readUntilQuiet_le readSize line
    rw [h] at this
    exact Nat.le_trans ih this
  | case3 raw line _ stop rest h =>
    have := Line.weight_readUntilQuiet_le readSize line
    rw [h] at this
    exact this
  | case4 => exact Nat.le_refl _

theorem weight_readBody_le (head : Octets) (line : Line) :
    (readBody head line).2.weight ≤ line.weight := by
  unfold readBody
  split
  · exact Line.weight_andThen_le (Line.weight_readExact_le _ _) fun _ _ h => h
  · exact Line.weight_andThen_le (Line.weight_readExact_le _ _) fun _ _ h =>
      Line.weight_andThen_le (Nat.le_trans (Line.weight_readExact_le _ _) h) fun _ _ h => h
  · exact weight_collect_le _ _

/-- Reading a frame takes something off the line. -/
theorem weight_readFrame_lt {line rest : Line} {raw : Octets}
    (h : readFrame line = (.ok (some raw), rest)) : rest.weight < line.weight := by
  unfold readFrame at h
  cases hread : line.read 2 with
  | mk result left =>
    rw [hread] at h
    cases result with
    | error stop => simp [Line.Read.andThen] at h
    | ok first =>
      simp only [Line.Read.andThen] at h
      split at h
      · simp at h
      · next hne =>
        have hlt := Line.weight_read_lt hread (by simpa using hne)
        have hle := Line.weight_andThen_le (Line.weight_readExact_le (2 - first.length) left)
          (f := fun more line =>
            (readBody (first ++ more) line).andThen fun raw line => (.ok (some raw), line))
          fun more line hline => Line.weight_andThen_le
            (Nat.le_trans (weight_readBody_le _ _) hline) fun _ _ h => h
        simp only [Line.Read.andThen] at hle
        rw [h] at hle
        exact Nat.lt_of_le_of_lt hle hlt

end Modbus.Rtu
