import FortranWriter.Highlight
import FortranWriter.Terminal
import FortranWriter.Text.Decimal
/-! Markup of highlighted source, for a terminal or none at all. -/
namespace FortranWriter.Highlight

structure Colour where
  red : Nat
  green : Nat
  blue : Nat
deriving DecidableEq, Repr

/-- How a segment is shown: its colour, and whether in italics or in bold. -/
structure Face where
  colour : Colour
  italic : Bool := false
deriving DecidableEq, Repr

/-- Plain text, indentation and newlines have no face. -/
def face? : Tag → Option Face
  | .neutral | .indent | .newline => none
  | .label => some { colour := ⟨96, 152, 154⟩ }
  | .continuation | .structural => some { colour := ⟨153, 153, 153⟩ }
  | .comment => some { colour := ⟨117, 80, 123⟩, italic := true }
  | .keyword => some { colour := ⟨52, 101, 164⟩ }
  | .declaration => some { colour := ⟨143, 89, 2⟩ }
  | .string => some { colour := ⟨78, 154, 6⟩ }
  | .numeric => some { colour := ⟨173, 127, 168⟩ }
  | .operator => some { colour := ⟨204, 0, 0⟩ }

def Colour.parameters (colour : Colour) : Text :=
  "38;2;".toList ++ Decimal.ofNat colour.red ++ ";".toList ++ Decimal.ofNat colour.green ++
    ";".toList ++ Decimal.ofNat colour.blue

/-- A text in a face, which ends with the text. -/
def Face.wrap (face : Face) (t : Text) : Text :=
  (if face.italic then Terminal.italic else Terminal.bold)
    (Terminal.sequence face.colour.parameters ++ t ++ Terminal.sequence "39".toList)

def onTerminal (segment : Segment) : Text :=
  match face? segment.tag with
  | some face => face.wrap segment.text
  | none => if segment.tag = .newline then ['\n'] else segment.text

def plainly (segment : Segment) : Text :=
  segment.text

/-- Highlighted source with the markup of each segment. It ends in a newline if there is any. -/
def display (markup : Segment → Text) (text : Text) (form : SourceForm) : Text :=
  let output := (highlight text form).flatMap markup
  if output.isEmpty || output.getLast? == some '\n' then output else output ++ ['\n']

end FortranWriter.Highlight
