import FortranWriter.Text.Basic
/-! Source text before it is laid out: nested fragments, and the lines they consist of. -/
namespace FortranWriter

mutual

/-- An element of a body: a statement line, or a construct of several parts. -/
inductive Fragment where
  | line (text : Text)
  | block (parts : List Part)
deriving Repr

/-- A part of a construct: a line at the depth of the construct, or a body one level deeper. -/
inductive Part where
  | line (text : Text)
  | body (fragments : List Fragment)
deriving Repr

end

/-- A line and the number of constructs around it. -/
structure Line where
  depth : Nat
  text : Text
deriving DecidableEq, Repr

namespace Line

def indentWidth : Nat := 2

def indentation (line : Line) : Nat :=
  line.depth * indentWidth

def render (line : Line) : Text :=
  Text.spaces line.indentation ++ line.text

/-- The lines of a stored text at a depth. Blank ones are left out. -/
def ofText (depth : Nat) (text : Text) : List Line :=
  (text.lines.filter fun t => !Text.isAllBlank t).map (Line.mk depth)

end Line

mutual

def Fragment.linesAt (depth : Nat) : Fragment → List Line
  | .line text => Line.ofText depth text
  | .block parts => Part.linesOfAll depth parts

def Part.linesAt (depth : Nat) : Part → List Line
  | .line text => Line.ofText depth text
  | .body fragments => Fragment.linesOfAll (depth + 1) fragments

def Part.linesOfAll (depth : Nat) : List Part → List Line
  | [] => []
  | part :: rest => part.linesAt depth ++ Part.linesOfAll depth rest

def Fragment.linesOfAll (depth : Nat) : List Fragment → List Line
  | [] => []
  | fragment :: rest => fragment.linesAt depth ++ Fragment.linesOfAll depth rest

end

namespace Fragment

def lines (fragment : Fragment) : List Line :=
  fragment.linesAt 0

def text (fragment : Fragment) : Text :=
  Text.joinWith ['\n'] (fragment.lines.map Line.render)

/-- Text of several lines becomes a block of lines, so that each of them is indented by what the
text is put into. -/
def ofText (t : Text) : Fragment :=
  if t.contains '\n' then .block (t.lines.map Part.line) else .line t

end Fragment
end FortranWriter
