import Modbus.FileTree
import Modbus.Framing.Rtu
import Modbus.Text.Quoted

namespace Modbus

inductive DataBits
  | five
  | six
  | seven
  | eight
  deriving DecidableEq, Repr

def DataBits.name : DataBits → String
  | five => "Five"
  | six => "Six"
  | seven => "Seven"
  | eight => "Eight"

inductive Parity
  | none
  | odd
  | even
  deriving DecidableEq, Repr

def Parity.name : Parity → String
  | none => "None"
  | odd => "Odd"
  | even => "Even"

inductive StopBits
  | one
  | two
  deriving DecidableEq, Repr

def StopBits.name : StopBits → String
  | one => "One"
  | two => "Two"

structure SerialPort where
  path : String
  baudRate : UInt32
  dataBits : DataBits := .eight
  parity : Parity := .none
  stopBits : StopBits := .one
  /-- The unit that the port is bound to. -/
  unit : Option UInt8 := Option.none
  deriving DecidableEq, Repr

namespace SerialPort

def unitText (p : SerialPort) : String :=
  match p.unit with
  | none => "None"
  | some unit => "Some(" ++ toString unit.toNat ++ ")"

def text (p : SerialPort) : String :=
  "RtuConfig \x7b path: " ++ Text.quoted p.path ++ ", baud_rate: " ++ toString p.baudRate.toNat
    ++ ", data_bits: " ++ p.dataBits.name ++ ", parity: " ++ p.parity.name ++ ", stop_bits: "
    ++ p.stopBits.name ++ ", unit_id: " ++ p.unitText ++ " \x7d"

def check (p : SerialPort) : Except ServerError Unit := do
  if p.baudRate = 0 then throw (.config .zeroBaudRate)
  match p.unit with
  | some unit => Rtu.checkUnit unit
  | none => return ()

/-- Opens the port, given what a path leads to. Only a terminal is a port. -/
def openPort (find : String → Except PathFault FileTree) (p : SerialPort) :
    Except ServerError Unit := do
  p.check
  if p.path.contains '\x00' then throw (.serial .invalidPath)
  match find p.path with
  | .error cause => throw (.serial (.unreachable cause))
  | .ok (.directory _) => throw (.serial (.unreachable .directory))
  | .ok (.file _ isTerminal) => if isTerminal then return () else throw (.serial .notTerminal)

end SerialPort

end Modbus
