import Modbus.Bank

namespace Modbus

structure RegisterMap where
  discreteInputs : Bank Bool
  coils : Bank Bool
  holdingRegisters : Bank UInt16
  inputRegisters : Bank UInt16
  deriving DecidableEq

namespace RegisterMap

def addressSpace : Nat := 65536

/-- Four blank banks of one size, which is cut to the address space. -/
def blank (size : Nat) : RegisterMap :=
  let size := min size addressSpace
  { discreteInputs := .replicate size false
    coils := .replicate size false
    holdingRegisters := .replicate size 0
    inputRegisters := .replicate size 0 }

end RegisterMap

end Modbus
