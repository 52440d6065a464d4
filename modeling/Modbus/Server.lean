import Modbus.Config
import Modbus.Connection
import Modbus.SerialPort
import Modbus.TlsIdentity

namespace Modbus

structure Server where
  config : Config
  worker : Worker
  listeners : List Net.SocketAddress := []
  /-- For each serial line that was served, whether serving it has ended. -/
  serialLines : List Bool := []

namespace Server

def create (config : Config) (table : DispatchTable) : Except ServerError Server := do
  config.validate
  let state := { registers := .blank config.bankSize, limits := config.limits }
  return { config, worker := { state, table, budget := config.handlerBudget } }

def listen (s : Server) (bound : Net.SocketAddress) : Server :=
  { s with listeners := s.listeners ++ [bound] }

def listenTcp (s : Server) (bound : Except ServerError Net.SocketAddress) :
    Except ServerError Server := do
  return s.listen (← bound)

/-- Listens to clients with certificates. The identity is checked before the address is bound. -/
def listenTls (s : Server) (identity : TlsIdentity)
    (bound : Except ServerError Net.SocketAddress) : Except ServerError Server := do
  identity.check
  return s.listen (← bound)

def serveSerial (s : Server) (own : Option UInt8) (token : CancelToken) (m : Moment) (line : Line)
    (sink : Sink) : Except ServerError (Server × Visit) := do
  if let some own := own then Rtu.checkUnit own
  let c : Connection :=
    { session := { transport := .rtu, token }
      framing := .rtu own
      requestTimeout := s.config.requestTimeout }
  let visit := c.serve (.idle m) s.worker line sink
  return ({ s with
    worker := visit.worker, serialLines := s.serialLines ++ [visit.ending.cancels] }, visit)

/-- Stops all listeners and serial lines. The worker goes on. -/
def close (s : Server) : Server :=
  { s with listeners := [], serialLines := s.serialLines.map fun _ => true }

end Server

end Modbus
