import Modbus.Fault

namespace Modbus

inductive FileTree
  | directory (entries : List (String × FileTree))
  /-- What it reads as. A terminal can be talked to as a serial port. -/
  | file (content : Octets) (isTerminal : Bool)

namespace FileTree

def longestName : Nat := 255

def longestPath : Nat := 4095

/-- Follows names downwards, or upwards to the nearest of the directories passed. Only a directory
has anything behind a slash. -/
def walk (above : List FileTree) (here : FileTree) : List String → Except PathFault FileTree
  | [] => .ok here
  | name :: names =>
    match here with
    | file .. => .error .notDirectory
    | directory entries =>
      if name.isEmpty || name = "." then walk above here names
      else if name = ".." then
        match above with
        | [] => walk [] here names
        | parent :: above => walk above parent names
      else if longestName < name.utf8ByteSize then .error .nameTooLong
      else
        match entries.lookup name with
        | none => .error .missing
        | some next => walk (here :: above) next names

/-- What a path leads to, from the root if it begins with a slash, and else from the directory with
the given names below the root. -/
def find (root : FileTree) (current : List String) (path : String) : Except PathFault FileTree :=
  if path.isEmpty then .error .missing
  else if longestPath < path.utf8ByteSize then .error .nameTooLong
  else
    let names := path.splitOn "/"
    walk [] root (if path.startsWith "/" then names else current ++ names)

def content : FileTree → Except PathFault Octets
  | directory _ => .error .directory
  | file content _ => .ok content

end FileTree

end Modbus
