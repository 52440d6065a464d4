namespace Modbus

structure Limits where
  readRegisters : UInt16 := 125
  writeRegisters : UInt16 := 123
  readCoils : UInt16 := 2000
  writeCoils : UInt16 := 1968
  deriving DecidableEq, Repr

namespace Limits

def standard : Limits := {}

def within (largest count : UInt16) : Bool := 1 ≤ count && count ≤ largest

def allowsRegisterRead (l : Limits) (count : UInt16) : Bool := within l.readRegisters count

def allowsRegisterWrite (l : Limits) (count : UInt16) : Bool := within l.writeRegisters count

def allowsCoilRead (l : Limits) (count : UInt16) : Bool := within l.readCoils count

def allowsCoilWrite (l : Limits) (count : UInt16) : Bool := within l.writeCoils count

end Limits

end Modbus
