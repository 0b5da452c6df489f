import FortranWriter.Text.Basic
/-! Bytes of a text in UTF-8 by line and column. -/
namespace FortranWriter

/-- The line feeds in front of a place and the characters between it and the last of them. -/
structure Position where
  line : Nat
  column : Nat
deriving DecidableEq, Repr, Inhabited

namespace Position

def advance (position : Position) (c : Char) : Position :=
  if c = '\n' then ⟨position.line + 1, 0⟩ else ⟨position.line, position.column + 1⟩

def behind (t : Text) : Position :=
  t.foldl advance ⟨0, 0⟩

/-- The characters that end at or before a byte offset: all of them if it is past the end. -/
def upTo : Nat → Text → Text
  | _, [] => []
  | offset, c :: rest =>
    if offset < c.utf8Size then [] else c :: upTo (offset - c.utf8Size) rest

def ofOffset (source : Text) (offset : Nat) : Position :=
  behind (upTo offset source)

end Position
end FortranWriter
