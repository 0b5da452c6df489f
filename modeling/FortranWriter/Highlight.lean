import FortranWriter.Emission
import FortranWriter.Highlight.Lexeme
/-! Highlighting of laid out source: every line is cut into segments, line endings becoming a single
newline. -/
namespace FortranWriter
namespace Highlight

/-- Comments in fixed form are told by their first column. -/
def isFixedComment (line : Text) : Bool :=
  match line with
  | ['c'] => true
  | 'c' :: ' ' :: _ => true
  | 'C' :: _ => true
  | '*' :: _ => true
  | _ => false

/-- Columns 1 to 5, column 6 and the rest of a line, if spaces and digits are in the first five and
a space or a continuation marker in the sixth. -/
def columns? (line : Text) : Option (Text × Char × Text) :=
  match line.drop 5 with
  | mark :: rest =>
    if (line.take 5).all (fun c => c == ' ' || c.isDigit) && (mark == ' ' || mark == '&') then
      some (line.take 5, mark, rest)
    else none
  | [] => none

/-- The blanks in front of a text, and the text cut into segments by what it is. -/
def indented (segments : Text → List Segment) (t : Text) : List Segment :=
  segment? .indent (Text.leading t) ++ segments (Text.trimStart t)

def fixedLine (line : Text) : List Segment :=
  if isFixedComment line then [⟨.comment, line⟩]
  else
    match columns? line with
    | some (field, mark, rest) =>
      indented (segment? .label) field ++
        ⟨if mark = '&' then .continuation else .indent, [mark]⟩ :: indented lexemes rest
    | none => lexemes line

/-- One to five digits and the spaces behind them, if there are such. -/
def leadingLabel? (t : Text) : Option (Text × Text × Text) :=
  let label := t.takeWhile Char.isDigit
  let rest := t.dropWhile Char.isDigit
  let gap := rest.takeWhile (· == ' ')
  if !label.isEmpty && label.length ≤ 5 && !gap.isEmpty then
    some (label, gap, rest.dropWhile (· == ' '))
  else none

def freeContent (t : Text) : List Segment :=
  match t with
  | '!' :: _ => [⟨.comment, t⟩]
  | '&' :: rest => ⟨.continuation, ['&']⟩ :: lexemes rest
  | _ =>
    match leadingLabel? t with
    | some (label, gap, rest) => ⟨.label, label⟩ :: ⟨.neutral, gap⟩ :: lexemes rest
    | none => lexemes t

def line : SourceForm → Text → List Segment
  | .fixed, t => fixedLine t
  | .free, t => indented freeContent t

end Highlight

open Highlight in
/-- The segments of a source text, each line ending in a newline. -/
def highlight (text : Text) (form : SourceForm) : List Segment :=
  text.lines.flatMap fun line => Highlight.line form line ++ [⟨.newline, ['\n']⟩]

end FortranWriter
