import FortranWriter.Descriptor
import FortranWriter.Refusal
import FortranWriter.Terminal
import FortranWriter.Text.Position
/-! How errors are shown to users, with escape sequences for a terminal. -/
namespace FortranWriter

/-- A complaint on one line, with the path that it is about. -/
def Complaint.message (complaint : Complaint) (path : Option Text) : Text :=
  match path with
  | none => complaint.problem ++ ": ".toList ++ complaint.details
  | some path => complaint.problem ++ ' ' :: path ++ ": ".toList ++ complaint.details

namespace Report
open Terminal

def mark : Text :=
  brightRed "error".toList ++ ": ".toList

/-- The place of a fault in a descriptor, and what is wrong there. -/
def parsingFault (fault : Descriptor.ParsingFault) (filename source : Text) : Text :=
  let position := Position.ofOffset source fault.offset
  mark ++ filename ++ ':' :: Decimal.ofNat (position.line + 1) ++
    ':' :: Decimal.ofNat (position.column + 1) ++ ' ' :: bold fault.problem

def bar : Text :=
  brightBlue ['|']

def lineAt (source : Text) (position : Position) : Text :=
  source.lines[position.line]?.getD ['?']

/-- A line of a text between an empty row and one that points at a column. -/
def excerpt (source : Text) (position : Position) : Text :=
  let number := Decimal.ofNat (position.line + 1)
  let width := max 3 number.length
  let margin := Text.spaces width ++ ' ' :: bar
  margin ++ '\n' :: brightBlue (Text.alignRight width number) ++ ' ' :: bar ++
    ' ' :: lineAt source position ++ '\n' :: margin ++
    ' ' :: brightRed (Text.alignRight (position.column + 1) ['^'])

/-- The place of a fault with the line it is on, set on lines of their own and then trimmed. -/
def parsingFaultInFull (fault : Descriptor.ParsingFault) (filename source : Text) : Text :=
  Text.trimAscii ('\n' :: parsingFault fault filename source ++ "\n\n".toList ++
    excerpt source (Position.ofOffset source fault.offset) ++ '\n' :: Text.spaces 8)

def loading (complaint : Complaint) (filename : Text) : Text :=
  mark ++ filename ++ ": ".toList ++ bold complaint.problem ++
    if complaint.details.isEmpty then [] else " (".toList ++ complaint.details ++ [')']

/-- Why nothing was generated from a descriptor: a complaint about what it says, or about a path. -/
def generation (complaint : Complaint) (path : Option Text) (filename : Text) : Text :=
  match path with
  | none => mark ++ filename ++ ": ".toList ++ bold complaint.problem ++ '\n' :: complaint.details
  | some path => mark ++ bold complaint.problem ++ ' ' :: path ++ ": ".toList ++ complaint.details

end Report
end FortranWriter
