import FortranWriter.Text.Basic
/-! Splitting a statement that is too long into pieces. A piece ends before a blank outside every
character literal if there is one, and the blank begins the next piece, so that the pieces make up
the statement. -/
namespace FortranWriter.Layout

/-- A piece of a statement. It is cut if the break after it is not at a blank, so that a word or a
literal goes on in the next piece. -/
structure Piece where
  text : Text
  cut : Bool
deriving DecidableEq, Repr

/-- The position of the last space outside literals, the first position of the text excepted. The
count of the positions before the text is given, and whether a literal is open. -/
def lastBreak? (inside : Bool) (position : Nat) : Text → Option Nat
  | [] => none
  | c :: rest =>
    match lastBreak? (if c = '\'' then !inside else inside) (position + 1) rest with
    | some later => some later
    | none => if c = ' ' ∧ inside = false ∧ 0 < position then some position else none

/-- The pieces of a text, the first no wider than one capacity and the others no wider than the
other. Each round takes one character at least, so the fuel is the length of the text. -/
def splitFrom (rest : Nat) : (fuel capacity : Nat) → (inside : Bool) → Text → List Piece
  | 0, _, _, t => [⟨t, false⟩]
  | fuel + 1, capacity, inside, t =>
    if t.length ≤ capacity then [⟨t, false⟩]
    else
      let window := t.take capacity
      match lastBreak? inside 0 window with
      | some position =>
        ⟨t.take position, false⟩ :: splitFrom rest fuel rest false (t.drop position)
      | none =>
        ⟨window, true⟩ ::
          splitFrom rest fuel rest (Literal.insideAfter inside window) (t.drop capacity)

def split (first rest : Nat) (t : Text) : List Piece :=
  splitFrom rest t.length first false t

/-- However deep a statement is nested, so many columns are left for its content. -/
def minimumWidth : Nat := 8

def capacity (limit used : Nat) : Nat :=
  max (limit - used) minimumWidth

end FortranWriter.Layout
