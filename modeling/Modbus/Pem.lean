import Modbus.Pem.Base64
import Modbus.Text.Utf8

namespace Modbus.Pem

structure Section where
  label : String
  content : Octets
  deriving DecidableEq, Repr

structure Sections where
  found : List Section
  fault : Option PemFault
  deriving DecidableEq, Repr

def isLineEnd (b : UInt8) : Bool := b = 0x0A || b = 0x0D

def lines : Octets → List Octets
  | [] => []
  | b :: rest =>
    if isLineEnd b then [b] :: lines rest
    else
      match lines rest with
      | [] => [[b]]
      | line :: more => (b :: line) :: more

def opening : Octets := Text.toUtf8 "-----BEGIN "

def closing : Octets := Text.toUtf8 "-----END "

def dashes : Octets := Text.toUtf8 "-----"

/-- The label of a line that opens a section: what stands before its last five dashes, which only
blanks and the line end may follow or separate. -/
def label (line : Octets) : Except PemFault Octets :=
  let trailer := (line.reverse.takeWhile fun b => b = 0x2D || b = 0x20 || isLineEnd b).reverse
  if trailer.count 0x2D = 5 then
    let fromDash := trailer.dropWhile (· != 0x2D)
    .ok ((line.take (line.length - fromDash.length)).drop opening.length)
  else .error (.illegalSectionStart line)

/-- The line closes the section with the label. Nothing is asked of what follows. -/
def closes (label line : Octets) : Bool := (closing ++ label ++ dashes).isPrefixOf line

/-- The labels whose content is decoded. Sections with other labels are skipped. -/
def knownLabels : List String :=
  ["CERTIFICATE", "PUBLIC KEY", "RSA PRIVATE KEY", "PRIVATE KEY", "EC PRIVATE KEY", "X509 CRL",
    "CERTIFICATE REQUEST", "ECHCONFIG"]

def knownLabel? (label : Octets) : Option String :=
  knownLabels.find? fun known => Text.toUtf8 known == label

structure OpenSection where
  label : Octets
  lines : List Octets
  deriving DecidableEq, Repr

def OpenSection.text (s : OpenSection) : Octets := s.lines.reverse.flatten

/-- Reads on inside a section, or outside of one. An opening line inside a section changes the label
and keeps the lines. -/
def sectionsFrom : Option OpenSection → List Octets → Sections
  | none, [] => ⟨[], none⟩
  | some current, [] => ⟨[], some (.missingSectionEnd current.label)⟩
  | current, line :: rest =>
    if opening.isPrefixOf line then
      match label line with
      | .error fault => ⟨[], some fault⟩
      | .ok label => sectionsFrom (some ⟨label, (current.map (·.lines)).getD []⟩) rest
    else
      match current with
      | none => sectionsFrom none rest
      | some current =>
        if closes current.label line then
          match knownLabel? current.label with
          | none => sectionsFrom none rest
          | some label =>
            match Base64.decode current.text with
            | .error fault => ⟨[], some fault⟩
            | .ok content =>
              let more := sectionsFrom none rest
              { more with found := ⟨label, content⟩ :: more.found }
        else sectionsFrom (some { current with lines := line :: current.lines }) rest

def sections (text : Octets) : Sections := sectionsFrom none (lines text)

def certificates (text : Octets) : Except PemFault (List Octets) :=
  let s := sections text
  match s.fault with
  | some fault => .error fault
  | none => .ok ((s.found.filter (·.label == "CERTIFICATE")).map (·.content))

def isPrivateKey (s : Section) : Bool :=
  s.label == "PRIVATE KEY" || s.label == "RSA PRIVATE KEY" || s.label == "EC PRIVATE KEY"

def privateKey (text : Octets) : Except PemFault Section :=
  let s := sections text
  match s.found.find? isPrivateKey with
  | some key => .ok key
  | none => .error (s.fault.getD .noItems)

end Modbus.Pem
