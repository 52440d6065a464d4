import Modbus.Octets

namespace Modbus.Crc

/-- The generator without its leading term, least significant bit first. -/
def generator : UInt16 := 0xA001

def shift (register : UInt16) : UInt16 :=
  if register &&& 1 = 1 then (register >>> 1) ^^^ generator else register >>> 1

def shifts : Nat → UInt16 → UInt16
  | 0, register => register
  | n + 1, register => shifts n (shift register)

def absorb (register : UInt16) (octet : UInt8) : UInt16 := shifts 8 (register ^^^ octet.toUInt16)

def run (register : UInt16) (octets : Octets) : UInt16 := octets.foldl absorb register

def initial : UInt16 := 0xFFFF

def checksum (octets : Octets) : UInt16 := run initial octets

theorem run_cons (r : UInt16) (b : UInt8) (bs : Octets) : run r (b :: bs) = run (absorb r b) bs :=
  rfl

theorem run_append (r : UInt16) (xs ys : Octets) : run r (xs ++ ys) = run (run r xs) ys :=
  List.foldl_append

/-- The check value of the standard's test string "123456789". -/
example : checksum [0x31, 0x32, 0x33, 0x34, 0x35, 0x36, 0x37, 0x38, 0x39] = 0x4B37 := by
  decide +kernel

end Modbus.Crc
