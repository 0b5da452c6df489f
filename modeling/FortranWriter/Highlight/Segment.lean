import FortranWriter.Text.Basic
/-! Pieces of source text with the kind of thing each of them is. -/
namespace FortranWriter.Highlight

inductive Tag where
  | neutral
  | indent
  | newline
  | label
  | continuation
  | comment
  | keyword
  | declaration
  | string
  | numeric
  | operator
  | structural
deriving DecidableEq, Repr

structure Segment where
  tag : Tag
  text : Text
deriving DecidableEq, Repr

/-- The segment of a text, or nothing where there is no text. -/
def segment? (tag : Tag) (text : Text) : List Segment :=
  if text.isEmpty then [] else [⟨tag, text⟩]

def textOf (segments : List Segment) : Text :=
  segments.flatMap Segment.text

end FortranWriter.Highlight
