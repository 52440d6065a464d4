import Modbus.Limits
import Modbus.RegisterMap

namespace Modbus

structure SlaveState where
  registers : RegisterMap
  limits : Limits
  deriving DecidableEq

end Modbus
