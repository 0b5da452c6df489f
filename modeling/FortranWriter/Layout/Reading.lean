import FortranWriter.Label
/-! How the text of a line is read before it is laid out: a comment, a labelled statement, or a
plain one. -/
namespace FortranWriter.Layout

inductive Reading where
  | comment (content : Text)
  | labelled (lead label statement : Text)
  | plain (statement : Text)
deriving DecidableEq, Repr

/-- Blanks, one to five digits, blanks, and a statement: the first three and the last. -/
def labelled? (t : Text) : Option (Text × Text × Text) :=
  let number := Text.trimStart t
  let label := number.takeWhile Char.isDigit
  let rest := number.dropWhile Char.isDigit
  let statement := Text.trimStart rest
  if Label.isToken label && rest.head?.any isBlank && !statement.isEmpty then
    some (Text.leading t, label, statement)
  else none

/-- A text that begins with an exclamation mark is a comment, blanks in front of it and behind the
mark not counting; else a label is looked for. -/
def read (t : Text) : Reading :=
  match Text.trimStart t with
  | '!' :: content => .comment (Text.trimStart content)
  | _ =>
    match labelled? t with
    | some (lead, label, statement) => .labelled lead label statement
    | none => .plain t

end FortranWriter.Layout
