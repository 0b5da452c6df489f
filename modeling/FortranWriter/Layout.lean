import FortranWriter.Emission
import FortranWriter.Fragment
import FortranWriter.Layout.Reading
import FortranWriter.Layout.Split
/-! Laying lines out in fixed or free form: labels and comments go to the columns that the form
requires, and statements that are too long are continued on the next line. -/
namespace FortranWriter
namespace Layout

/-- Columns 1 to 6 of a statement's first line, the label in the first five. -/
def labelField (label : Text) : Text :=
  Text.alignRight 5 label ++ [' ']

def continuationField : Text :=
  "     &".toList

/-- A statement in fixed form behind its first six columns and its indentation. -/
def fixedStatement (limit : Nat) (field indent statement : Text) : List Text :=
  let lead := field ++ indent
  if lead.length + statement.length ≤ limit then [lead ++ statement]
  else
    match split (capacity limit lead.length) (capacity limit 6) statement with
    | [] => []
    | first :: rest =>
      (lead ++ first.text) :: rest.map fun piece => continuationField ++ piece.text

/-- Comments have `c` in column 1. A label moves out of its statement into its own columns, and the
blanks that were in front of it become indentation. -/
def fixedLine (limit : Nat) (line : Line) : List Text :=
  match read line.text with
  | .comment [] => ["c".toList]
  | .comment content => ["c     ".toList ++ content]
  | .labelled lead label statement =>
    fixedStatement limit (labelField label) (Text.spaces (line.indentation + lead.length)) statement
  | .plain statement =>
    fixedStatement limit (labelField []) (Text.spaces line.indentation) statement

/-- The pieces of a continued statement in free form: each but the last ends in `&`, behind a space
if the break is at a blank, and each but the first begins with `&`. -/
def freePieces (indent mark : Text) : List Piece → List Text
  | [] => []
  | [piece] => [indent ++ mark ++ piece.text]
  | piece :: next :: rest =>
    (indent ++ mark ++ piece.text ++ if piece.cut then ['&'] else [' ', '&']) ::
      freePieces indent ['&'] (next :: rest)

/-- Two columns are kept free for the marker at the end and one for the marker at the start. -/
def freeStatement (limit : Nat) (indent statement : Text) : List Text :=
  if indent.length + statement.length ≤ limit then [indent ++ statement]
  else
    freePieces indent []
      (split (capacity limit (indent.length + 2)) (capacity limit (indent.length + 3)) statement)

/-- Lines are indented by their depth; comments are never continued. -/
def freeLine (limit : Nat) (line : Line) : List Text :=
  let indent := Text.spaces line.indentation
  match read line.text with
  | .comment _ => [indent ++ line.text.trimStart]
  | _ => freeStatement limit indent line.text

def line (form : SourceForm) (limit : Nat) (line : Line) : List Text :=
  match form with
  | .fixed => fixedLine limit line
  | .free => freeLine limit line

end Layout

/-- The physical lines of fragments, without line endings. -/
def layout (fragments : List Fragment) (emission : Emission) : List Text :=
  (fragments.flatMap Fragment.lines).flatMap (Layout.line emission.form emission.limit)

end FortranWriter
