import Modbus.Demo

namespace Modbus.Main

def pathFault : IO.Error → PathFault
  | .inappropriateType _ code _ => if code = 20 then .notDirectory else .directory
  | .invalidArgument .. => .nameTooLong
  | _ => .missing

def read (path : String) : IO (Except PathFault Octets) := do
  try
    return .ok (← IO.FS.readBinFile path).toList
  catch e =>
    return .error (pathFault e)

def host (files : List (String × Except PathFault Octets)) : Demo.Host :=
  { bind := fun _ a => .ok a
    readFile := fun name => (files.lookup name).getD (.error .missing) }

end Modbus.Main

def main (args : List String) : IO UInt32 := do
  let (address, paths) :=
    match args with
    | [] => ("127.0.0.1:5020", [])
    | address :: paths => (address, paths)
  let files ← paths.mapM fun path => return (path, ← Modbus.Main.read path)
  let transcript := Modbus.Demo.run (Modbus.Main.host files) address paths
  for line in transcript.lines do
    IO.println line
  match transcript.result with
  | .ok () => return 0
  | .error e =>
    IO.eprintln ("Error: " ++ e.message)
    return 1
