import FortranWriter.Proofs.Layout.Pieces
import FortranWriter.Proofs.Layout.Reading
/-! Free form read back: the physical lines of a continued statement, joined at their marks, are the
statement with one more blank wherever it was broken at one, and its literals are as they were. -/
namespace FortranWriter.FreeForm
open Layout

/-- A statement broken over physical lines. In front of its text stand what precedes it in the whole
statement and the mark of its first line; behind it come its physical lines, and the text with one
more blank in front of each blank at which it is broken. A break at a blank, marked by a blank and
an ampersand, has an even number of apostrophes in front; a break within a token or literal is
marked by the ampersand alone. -/
inductive Broken (indent : Text) : (before mark t : Text) → List Text → Text → Prop
  | whole {before mark t} : Broken indent before mark t [indent ++ mark ++ t] t
  | atBlank {before mark piece rest lines padded} : piece ≠ [] →
      (before ++ piece).count '\'' % 2 = 0 →
      Broken indent (before ++ piece) ['&'] (' ' :: rest) lines padded →
      Broken indent before mark (piece ++ ' ' :: rest)
        ((indent ++ mark ++ piece ++ [' ', '&']) :: lines) (piece ++ ' ' :: padded)
  | within {before mark piece rest lines padded} : piece ≠ [] →
      Broken indent (before ++ piece) ['&'] rest lines padded →
      Broken indent before mark (piece ++ rest)
        ((indent ++ mark ++ piece ++ ['&']) :: lines) (piece ++ padded)

def behind? (front line : Text) : Option Text :=
  if front.isPrefixOf line then some (line.drop front.length) else none

def beforeMark? (line : Text) : Option Text :=
  if line.getLast? = some '&' then some line.dropLast else none

/-- Joins physical lines. Each loses its indentation, each but the first the ampersand at its front,
and each but the last the one at its end. -/
def rejoin? (indent mark : Text) : List Text → Option Text
  | [] => none
  | [line] => behind? (indent ++ mark) line
  | line :: next :: rest => do
    let body ← behind? (indent ++ mark) line
    let piece ← beforeMark? body
    let more ← rejoin? indent ['&'] (next :: rest)
    return piece ++ more

theorem behind?_append (front t : Text) : behind? front (front ++ t) = some t := by
  rw [behind?, if_pos (List.isPrefixOf_iff_prefix.mpr (List.prefix_append front t)), List.drop_left]

theorem beforeMark?_append (t : Text) : beforeMark? (t ++ ['&']) = some t := by
  rw [beforeMark?, if_pos List.getLast?_concat, List.dropLast_concat]

theorem rejoin?_cons {indent : Text} (mark piece : Text) {padded : Text} {lines : List Text}
    (rest : rejoin? indent ['&'] lines = some padded) :
    rejoin? indent mark ((indent ++ mark ++ (piece ++ ['&'])) :: lines) =
      some (piece ++ padded) := by
  cases lines with
  | nil => cases rest
  | cons next lines =>
      rw [rejoin?, behind?_append, Option.bind_eq_bind, Option.bind_some, beforeMark?_append, rest]
      rfl

theorem Broken.rejoin? {indent before mark t padded : Text} {lines : List Text}
    (h : Broken indent before mark t lines padded) :
    FreeForm.rejoin? indent mark lines = some padded := by
  induction h with
  | whole => exact behind?_append _ _
  | @atBlank before mark piece rest lines padded _ _ _ ih =>
      have joined := rejoin?_cons mark (piece ++ [' ']) ih
      rw [List.append_assoc piece, List.append_assoc piece, ← List.append_assoc] at joined
      exact joined
  | @within before mark piece rest lines padded _ _ ih =>
      rw [List.append_assoc (indent ++ mark)]
      exact rejoin?_cons mark piece ih

theorem Broken.head?_eq {indent before mark t padded : Text} {lines : List Text}
    (h : Broken indent before mark t lines padded) : padded.head? = t.head? := by
  cases h with
  | whole => rfl
  | atBlank filled _ _ =>
      obtain ⟨c, piece, rfl⟩ := List.exists_cons_of_ne_nil filled
      rfl
  | within filled _ =>
      obtain ⟨c, piece, rfl⟩ := List.exists_cons_of_ne_nil filled
      rfl

/-- The blanks that are added leave every literal of the whole statement as it is. -/
theorem Broken.contents {indent before mark t padded : Text} {lines : List Text}
    (h : Broken indent before mark t lines padded) :
    Literal.contents (before ++ padded) = Literal.contents (before ++ t) := by
  induction h with
  | whole => rfl
  | @atBlank before mark piece rest lines padded _ even broken ih =>
      obtain ⟨more, rfl⟩ := List.head?_eq_some_iff.mp broken.head?_eq
      rw [← List.append_assoc, ← List.append_assoc, Literal.contents_blank more even]
      exact ih
  | @within before mark piece rest lines padded _ _ ih =>
      rw [← List.append_assoc, ← List.append_assoc]
      exact ih

theorem Splits.broken {before t : Text} {pieces : List Piece} (indent mark : Text)
    (h : Splits before t pieces) :
    ∃ padded, Broken indent before mark t (freePieces indent mark pieces) padded := by
  induction h generalizing mark with
  | @whole before t => exact ⟨t, .whole⟩
  | @atBlank before piece rest pieces filled closed later ih =>
      obtain ⟨padded, broken⟩ := ih ['&']
      rw [freePieces_cons _ _ _ later.ne_nil]
      exact ⟨piece ++ ' ' :: padded,
        .atBlank filled ((Literal.insideAfter_false_iff _).mp closed) broken⟩
  | @within before piece rest pieces filled later ih =>
      obtain ⟨padded, broken⟩ := ih ['&']
      rw [freePieces_cons _ _ _ later.ne_nil]
      exact ⟨piece ++ padded, .within filled broken⟩

theorem broken_freeStatement (limit : Nat) (indent statement : Text) :
    ∃ padded, Broken indent [] [] statement (freeStatement limit indent statement) padded := by
  rw [freeStatement_eq]
  exact Splits.broken indent [] (splits_piecesWithin _ _ _ _ statement)

theorem freeLine_of_not_comment (limit : Nat) {line : Line}
    (statement : ∀ content, ¬ IsComment line.text content) :
    freeLine limit line = freeStatement limit (Text.spaces line.indentation) line.text := by
  rw [freeLine]
  split
  · case _ content found => exact absurd ((read_eq_comment_iff _ _).mp found) (statement content)
  · rfl

/-- The physical lines of every statement in free form, joined at their marks, give the statement
with one more blank in front of each blank at which it was broken, and with the same literals. -/
theorem rejoin_layout (fragments : List Fragment) (emission : Emission)
    (free : emission.form = .free) :
    layout fragments emission = (fragments.flatMap Fragment.lines).flatMap
        (Layout.line emission.form emission.limit) ∧
      ∀ line ∈ fragments.flatMap Fragment.lines, (∀ content, ¬ IsComment line.text content) →
        ∃ padded, Broken (Text.spaces (2 * line.depth)) [] [] line.text
            (Layout.line emission.form emission.limit line) padded ∧
          rejoin? (Text.spaces (2 * line.depth)) []
            (Layout.line emission.form emission.limit line) = some padded ∧
          Literal.contents padded = Literal.contents line.text := by
  refine ⟨rfl, ?_⟩
  intro line _ statement
  obtain ⟨padded, broken⟩ :=
    broken_freeStatement emission.limit (Text.spaces line.indentation) line.text
  rw [← freeLine_of_not_comment emission.limit statement, line.indentation_eq] at broken
  rw [free]
  exact ⟨padded, broken, broken.rejoin?, broken.contents⟩

/-- Within eight columns a literal is cut three times, twice beside blanks of its own, and the only
blanks that are added stand outside of it. -/
theorem rejoin_layout_narrow :
    ∃ padded, Layout.line .free 0 ⟨1, "greeting = 'it''s  a fine day' // name".toList⟩ =
        ["  greeting&".toList, "  & = &".toList, "  & 'it''s &".toList, "  & a fine &".toList,
          "  &day' // &".toList, "  & name".toList] ∧
      rejoin? (Text.spaces 2) []
        (Layout.line .free 0 ⟨1, "greeting = 'it''s  a fine day' // name".toList⟩) = some padded ∧
      padded = "greeting =  'it''s  a fine day' //  name".toList ∧
      Literal.contents padded = ["it's  a fine day".toList] := by
  obtain ⟨padded, -, joined, same⟩ := (rejoin_layout
    [.block [.line "program p".toList,
      .body [.line "greeting = 'it''s  a fine day' // name".toList]]]
    { form := .free, maxLineLength := some 0 } rfl).2
    ⟨1, "greeting = 'it''s  a fine day' // name".toList⟩ (by decide +kernel)
    ((read_eq_plain_iff _ _).mp rfl).2.1
  refine ⟨padded, by decide +kernel, joined, ?_, same.trans (by decide +kernel)⟩
  exact Option.some.inj (joined.symm.trans (by decide +kernel))

end FortranWriter.FreeForm
