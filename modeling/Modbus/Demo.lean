import Modbus.About
import Modbus.Server

namespace Modbus.Demo

/-- What the demonstration finds outside: what binding an address leads to, given those that are
bound already, and what files read as. -/
structure Host where
  bind : List Net.SocketAddress → Net.SocketAddress → Except ServerError Net.SocketAddress
  readFile : String → Except PathFault Octets

structure Transcript where
  lines : List String
  result : Except ServerError Unit

def countNonzeroCode : UInt8 := 0x41

def authorizeResetCode : UInt8 := 0x42

def config : Config :=
  { limits := { readRegisters := 100 }, requestTimeout := .ofSeconds 3 }

def countNonzero : NativeHandler := fun s _ =>
  let count := (s.registers.holdingRegisters.toList.filter (· != 0)).length
  { state := s, result := .ok (bigEndian (UInt16.ofNat (min count 65535))), elapsed := .brief }

def authorizeReset : ContextHandler := fun c _ _ =>
  if c.role = some "operator" then (.error (.exception .success), .brief)
  else (.error (.exception .illegalFunction), .brief)

def seed (r : RegisterMap) : Except Exception RegisterMap := do
  let holdingRegisters ← r.holdingRegisters.write 0 [10, 20, 30, 40]
  let inputRegisters ← r.inputRegisters.write 0 [0x4248, 0x0000]
  let coils ← r.coils.write 0 [true, false, true, true]
  return { r with holdingRegisters, inputRegisters, coils }

def table : DispatchTable :=
  (DispatchTable.standard.registerNative countNonzeroCode countNonzero).registerContextual
    authorizeResetCode authorizeReset

def seeded (s : Server) : Except ServerError Server := do
  match seed s.worker.state.registers with
  | .ok registers =>
    return { s with worker := { s.worker with state := { s.worker.state with registers } } }
  | .error e => throw (.exception e)

def banner : List String := ["🚀 " ++ about, "============================================="]

def configPart : List String :=
  ["", "🎛️  Part 1: Configuration", "-------------------------",
    "  Bank size: " ++ toString config.bankSize,
    "  Max read registers: " ++ toString config.limits.readRegisters.toNat,
    "  Request timeout: " ++ config.requestTimeout.text]

def memoryPart : List String :=
  ["", "📦 Part 2: Register Memory", "--------------------------",
    "  Holding registers 0-3 = [10, 20, 30, 40]",
    "  Input registers 0-1 = [0x4248, 0x0000] (50.0 as F32)",
    "  Coils 0-3 = [ON, OFF, ON, ON]"]

def functionPart (codes : List UInt8) : List String :=
  ["", "🔧 Part 3: Custom Function Codes", "--------------------------------",
    "  FC" ++ Text.hex8 countNonzeroCode ++ ": count non-zero holding registers",
    "  FC" ++ Text.hex8 authorizeResetCode
      ++ ": accepted only from TLS clients with role \"operator\"",
    "  Served codes: " ++ Text.listingOctets codes]

def listenerPart : List String := ["", "🔌 Part 4: Listeners", "--------------------"]

def servingPart : List String := ["", "⏳ Serving until Ctrl+C..."]

def farewell : List String :=
  ["", "🎉 Server stopped!", "🔗 Repository: https://github.com/EvanL1/voltage_modbus"]

def bindText (host : Host) (taken : List Net.SocketAddress) (text : String) :
    Except ServerError Net.SocketAddress := do
  host.bind taken (← (← Net.Endpoint.parse text).resolve)

/-- The port above that of the listener in the clear, and the last port above itself. -/
def tlsAddressText (tcp : Net.SocketAddress) : String :=
  tcp.host.text ++ ":" ++ toString (min (tcp.port.toNat + 1) 65535)

/-- What is said about the listener for clients with certificates. It needs exactly three files. -/
def tlsLine (host : Host) (s : Server) (tcp : Net.SocketAddress) (files : List String) : String :=
  match files with
  | [chain, key, roots] =>
    let file (name : String) : TlsIdentity.File := ⟨name, host.readFile name⟩
    match TlsIdentity.load (file chain) (file key) (file roots) with
    | .error e => "  ⚠️  Unable to load TLS identity: " ++ e.message
    | .ok identity =>
      let bound := bindText host s.listeners (tlsAddressText tcp)
      match s.listenTls identity bound, bound with
      | .ok _, .ok address => "  ✅ Modbus/TLS on " ++ address.text
      | .error e, _ | .ok _, .error e => "  ⚠️  TLS listener failed: " ++ e.message
  | _ => "  (pass cert.pem key.pem client_ca.pem to enable TLS)"

def run (host : Host) (listenAddress : String) (files : List String) : Transcript :=
  let opening := banner ++ configPart
  match Server.create config table >>= seeded with
  | .error e => ⟨opening, .error e⟩
  | .ok server =>
    let prepared :=
      opening ++ memoryPart ++ functionPart server.worker.table.codes ++ listenerPart
    let bound := bindText host server.listeners listenAddress
    match server.listenTcp bound, bound with
    | .ok server, .ok address =>
      let listening :=
        ["  ✅ Modbus/TCP on " ++ address.text, tlsLine host server address files]
      ⟨prepared ++ listening ++ servingPart ++ farewell, .ok ()⟩
    | .error e, _ | .ok _, .error e => ⟨prepared, .error e⟩

end Modbus.Demo
