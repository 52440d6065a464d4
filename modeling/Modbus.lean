import Modbus.About
import Modbus.Bank
import Modbus.Certificate
import Modbus.Config
import Modbus.Connection
import Modbus.Crc
import Modbus.Credential
import Modbus.Curve.Cubic
import Modbus.Curve.Ed25519
import Modbus.Demo
import Modbus.Der.Element
import Modbus.Der.Strict
import Modbus.Der.Time
import Modbus.Der.Value
import Modbus.Digest.Sha512
import Modbus.DispatchTable
import Modbus.Duration
import Modbus.Event
import Modbus.Exception
import Modbus.Fault
import Modbus.FileTree
import Modbus.Frame
import Modbus.Framing.Mbap
import Modbus.Framing.Rtu
import Modbus.FunctionCode
import Modbus.Handler
import Modbus.Limits
import Modbus.Line
import Modbus.Main
import Modbus.Net.HostName
import Modbus.Net.IpAddress
import Modbus.Net.Numeral
import Modbus.Net.SocketAddress
import Modbus.Octets
import Modbus.Operation
import Modbus.Payload.Bits
import Modbus.Payload.Builder
import Modbus.Payload.Cursor
import Modbus.Payload.Reader
import Modbus.PeerIdentity
import Modbus.Pem
import Modbus.Pem.Base64
import Modbus.PrivateKey
import Modbus.PrivateKey.OnCurve
import Modbus.PrivateKey.Rsa
import Modbus.Proofs.Checksum.Bursts
import Modbus.Proofs.Checksum.Inversions
import Modbus.Proofs.Checksum.Register
import Modbus.Proofs.Checksum.Residue
import Modbus.Proofs.Connection.Breaks
import Modbus.Proofs.Connection.Deadlines
import Modbus.Proofs.Connection.Run
import Modbus.Proofs.Connection.Serial
import Modbus.Proofs.Connection.SharedLine
import Modbus.Proofs.Connection.Stream
import Modbus.Proofs.Connection.Transports
import Modbus.Proofs.Der.Length
import Modbus.Proofs.Dispatch.Codes
import Modbus.Proofs.Dispatch.History
import Modbus.Proofs.Frame.Accepted
import Modbus.Proofs.Frame.Codec
import Modbus.Proofs.Framing.Answers
import Modbus.Proofs.Framing.Boundaries
import Modbus.Proofs.Framing.Chunking
import Modbus.Proofs.Framing.Layout
import Modbus.Proofs.Framing.Mbap
import Modbus.Proofs.Framing.Rtu
import Modbus.Proofs.Identity.Role
import Modbus.Proofs.Line.Breaks
import Modbus.Proofs.Line.Signals
import Modbus.Proofs.Payload.Bits
import Modbus.Proofs.Payload.Cursor
import Modbus.Proofs.Payload.Packing
import Modbus.Proofs.Queue.Books
import Modbus.Proofs.Queue.Cancelled
import Modbus.Proofs.Queue.Clients
import Modbus.Proofs.Queue.Drain
import Modbus.Proofs.Queue.Linearization
import Modbus.Proofs.Queue.Step
import Modbus.Proofs.Registers.Accesses
import Modbus.Proofs.Registers.Cells
import Modbus.Proofs.Registers.Effect
import Modbus.Proofs.Registers.Extent
import Modbus.Proofs.Registers.Refusal
import Modbus.Proofs.Registers.Requests
import Modbus.Proofs.Registers.Singles
import Modbus.Proofs.Registers.Values
import Modbus.Proofs.Registers.Verdict
import Modbus.Proofs.Sink.Writes
import Modbus.Proofs.Traffic.Bounds
import Modbus.Proofs.Traffic.Confined
import Modbus.Proofs.Traffic.Exchange
import Modbus.Proofs.Traffic.Regular
import Modbus.Proofs.Traffic.Step
import Modbus.Proofs.Worker.CellByCell
import Modbus.Proofs.Worker.Configured
import Modbus.Proofs.Worker.Memory
import Modbus.Proofs.Worker.Order
import Modbus.Proofs.Worker.Padding
import Modbus.Proofs.Worker.Response
import Modbus.Proofs.Worker.Served
import Modbus.Proofs.Worker.Standard
import Modbus.Proofs.Worker.Success
import Modbus.Proofs.Worker.Turns
import Modbus.PublicKey
import Modbus.RegisterMap
import Modbus.Residue
import Modbus.SerialPort
import Modbus.Server
import Modbus.Session
import Modbus.Sink
import Modbus.SlaveState
import Modbus.Text.Hex
import Modbus.Text.Hidden
import Modbus.Text.Listing
import Modbus.Text.Quoted
import Modbus.Text.Utf8
import Modbus.TlsIdentity
import Modbus.Worker
import Modbus.Payload.Cursor
import Modbus.Proofs.Payload.Cursor
