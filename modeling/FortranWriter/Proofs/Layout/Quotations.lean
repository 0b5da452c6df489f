import FortranWriter.Proofs.Layout.FreeForm
import FortranWriter.Proofs.Text.Literals
/-! Free form read back by the rule of the language: what becomes of the literals of a statement
that is continued. Only apostrophes are minded where it is broken, so a blank may be added in a
literal between quotation marks. -/
namespace FortranWriter.FreeForm
open Layout Quotation

/-- What a line has behind the ampersand that it begins with. -/
def resumed? (row : Text) : Option Text :=
  match Text.trimStart row with
  | '&' :: rest => some rest
  | _ => none

/-- Joins a line with those behind it: it loses the ampersand at its end, and the next one goes on
behind the one at its front. -/
def joinFrom (body : Text) : List Text → Option Text
  | [] => some body
  | next :: rest => do
    let piece ← beforeMark? body
    let resumed ← resumed? next
    let more ← joinFrom resumed rest
    return piece ++ more

def join? : List Text → Option Text
  | [] => none
  | row :: rest => joinFrom row rest

/-- Pieces with a second blank at each break at one. -/
def padded : List Piece → Text
  | [] => []
  | [piece] => piece.text
  | piece :: next :: rest =>
      piece.text ++ (if piece.cut then [] else [' ']) ++ padded (next :: rest)

/-- What a statement has in front of each blank at which it is broken. -/
def blankBreaks (before : Text) : List Piece → List Text
  | [] | [_] => []
  | piece :: next :: rest =>
    (if piece.cut then [] else [before ++ piece.text]) ++
      blankBreaks (before ++ piece.text) (next :: rest)

section
variable (before text : Text) {rest : List Piece} (more : rest ≠ [])
include more

theorem padded_atBlank : padded (⟨text, false⟩ :: rest) = text ++ ' ' :: padded rest := by
  obtain ⟨next, rest, rfl⟩ := List.exists_cons_of_ne_nil more
  rw [padded, if_neg Bool.false_ne_true, List.append_assoc, List.singleton_append]

theorem padded_within : padded (⟨text, true⟩ :: rest) = text ++ padded rest := by
  obtain ⟨next, rest, rfl⟩ := List.exists_cons_of_ne_nil more
  rw [padded, if_pos rfl, List.append_nil]

theorem blankBreaks_atBlank : blankBreaks before (⟨text, false⟩ :: rest) =
    (before ++ text) :: blankBreaks (before ++ text) rest := by
  obtain ⟨next, rest, rfl⟩ := List.exists_cons_of_ne_nil more
  rw [blankBreaks, if_neg Bool.false_ne_true, List.singleton_append]

theorem blankBreaks_within : blankBreaks before (⟨text, true⟩ :: rest) =
    blankBreaks (before ++ text) rest := by
  obtain ⟨next, rest, rfl⟩ := List.exists_cons_of_ne_nil more
  rw [blankBreaks, if_pos rfl, List.nil_append]

end

theorem resumed?_append {indent : Text} (blank : indent.isAllBlank = true) (t : Text) :
    resumed? (indent ++ ['&'] ++ t) = some t := by
  have mark : Text.BeginsFilled ('&' :: t) := Text.beginsFilled_cons (by decide)
  rw [resumed?, List.append_assoc, List.singleton_append, Text.trimStart_append blank mark]
  rfl

theorem beforeMark?_piece (front : Text) (piece : Piece) :
    beforeMark? (front ++ (piece.text ++ if piece.cut then ['&'] else [' ', '&'])) =
      some (front ++ (piece.text ++ if piece.cut then [] else [' '])) := by
  cases piece.cut with
  | true => rw [if_pos rfl, if_pos rfl, ← List.append_assoc, beforeMark?_append, List.append_nil]
  | false =>
      have space :
          front ++ (piece.text ++ [' ', '&']) = front ++ (piece.text ++ [' ']) ++ ['&'] := by
        simp only [List.append_assoc, List.cons_append, List.nil_append]
      rw [if_neg Bool.false_ne_true, if_neg Bool.false_ne_true, space, beforeMark?_append]

theorem exists_joinFrom_freePieces {indent : Text} (blank : indent.isAllBlank = true) (mark : Text)
    (piece : Piece) (pieces : List Piece) : ∃ body rest,
      freePieces indent mark (piece :: pieces) = (indent ++ mark ++ body) :: rest ∧
        ∀ front, joinFrom (front ++ body) rest = some (front ++ padded (piece :: pieces)) := by
  induction pieces generalizing piece mark with
  | nil => exact ⟨piece.text, [], rfl, fun front => rfl⟩
  | cons next pieces ih =>
      obtain ⟨body, rest, rows, joined⟩ := ih ['&'] next
      refine ⟨piece.text ++ (if piece.cut then ['&'] else [' ', '&']),
        (indent ++ ['&'] ++ body) :: rest, ?_, fun front => ?_⟩
      · rw [freePieces, rows, List.append_assoc]
      · have more : joinFrom body rest = some (padded (next :: pieces)) := joined []
        rw [joinFrom, beforeMark?_piece, resumed?_append blank, padded]
        simp only [Option.bind_eq_bind, Option.bind_some, more, Option.pure_def, List.append_assoc]

theorem join?_freePieces {indent : Text} (blank : indent.isAllBlank = true) {pieces : List Piece}
    (some : pieces ≠ []) :
    join? (freePieces indent [] pieces) = .some (indent ++ padded pieces) := by
  obtain ⟨piece, others, rfl⟩ := List.exists_cons_of_ne_nil some
  obtain ⟨body, rest, rows, joined⟩ := exists_joinFrom_freePieces blank [] piece others
  rw [rows, List.append_nil]
  exact joined indent

section
variable {before t : Text} {pieces : List Piece}

theorem head?_padded (h : Splits before t pieces) : (padded pieces).head? = t.head? := by
  cases h with
  | whole => rfl
  | atBlank filled _ later =>
      obtain ⟨c, piece, rfl⟩ := List.exists_cons_of_ne_nil filled
      rw [padded_atBlank _ later.ne_nil]
      rfl
  | within filled later =>
      obtain ⟨c, piece, rfl⟩ := List.exists_cons_of_ne_nil filled
      rw [padded_within _ later.ne_nil]
      rfl

/-- Each break at a blank that is in a literal makes the literals wider by one. -/
theorem width_padded (h : Splits before t pieces) : width (before ++ padded pieces) =
    width (before ++ t) +
      (blankBreaks before pieces).countP fun front => (unclosed? front).isSome := by
  induction h with
  | whole => rfl
  | @atBlank before piece rest pieces filled closed later ih =>
      obtain ⟨more, begun⟩ := List.head?_eq_some_iff.mp (head?_padded later)
      have wider := width_blank (before ++ piece) more
      rw [begun] at ih
      rw [padded_atBlank _ later.ne_nil, blankBreaks_atBlank _ _ later.ne_nil, begun,
        List.countP_cons, ← List.append_assoc, ← List.append_assoc, ← Nat.add_assoc, ← ih]
      exact wider
  | @within before piece rest pieces filled later ih =>
      rw [padded_within _ later.ne_nil, blankBreaks_within _ _ later.ne_nil, ← List.append_assoc,
        ← List.append_assoc]
      exact ih

theorem literals_padded (h : Splits before t pieces)
    (outside : ∀ front ∈ blankBreaks before pieces, unclosed? front = none) :
    literals (before ++ padded pieces) = literals (before ++ t) := by
  induction h with
  | whole => rfl
  | @atBlank before piece rest pieces filled closed later ih =>
      obtain ⟨more, begun⟩ := List.head?_eq_some_iff.mp (head?_padded later)
      rw [blankBreaks_atBlank _ _ later.ne_nil, List.forall_mem_cons] at outside
      have others := ih outside.2
      rw [begun] at others
      rw [padded_atBlank _ later.ne_nil, begun, ← List.append_assoc, ← List.append_assoc]
      exact (literals_blank outside.1 more).trans others
  | @within before piece rest pieces filled later ih =>
      rw [blankBreaks_within _ _ later.ne_nil] at outside
      rw [padded_within _ later.ne_nil, ← List.append_assoc, ← List.append_assoc]
      exact ih outside

theorem literals_padded_iff (h : Splits before t pieces) :
    literals (before ++ padded pieces) = literals (before ++ t) ↔
      ∀ front ∈ blankBreaks before pieces, unclosed? front = none := by
  refine ⟨fun same front mem => ?_, literals_padded h⟩
  have wider := width_padded h
  rw [width, width, Literal.widthFrom, Literal.widthFrom, ← literals, ← literals, same,
    Nat.left_eq_add, List.countP_eq_zero] at wider
  exact Option.not_isSome_iff_eq_none.mp (wider front mem)

theorem blank_of_mem_blankBreaks (h : Splits before t pieces) {front : Text}
    (mem : front ∈ blankBreaks before pieces) :
    (∃ rest, before ++ t = front ++ ' ' :: rest) ∧ Literal.insideAfter false front = false := by
  induction h with
  | whole => exact absurd mem List.not_mem_nil
  | @atBlank before piece rest pieces filled closed later ih =>
      rw [blankBreaks_atBlank _ _ later.ne_nil] at mem
      rw [← List.append_assoc]
      rcases List.mem_cons.mp mem with rfl | later
      · exact ⟨⟨rest, rfl⟩, closed⟩
      · exact ih later
  | @within before piece rest pieces filled later ih =>
      rw [blankBreaks_within _ _ later.ne_nil] at mem
      rw [← List.append_assoc]
      exact ih mem

end

/-- What a line has in front of each blank at which it is broken in free form. -/
def lineBreaks (limit : Nat) (line : Line) : List Text :=
  blankBreaks [] (piecesWithin limit line.indentation (line.indentation + 2) (line.indentation + 3)
    line.text)

/-- The physical lines of a statement, joined by the rule of the language, have the literals of the
statement exactly if it is broken at no blank in a literal. It never is where every such blank has
an odd number of apostrophes in front. -/
theorem literals_layout_iff (fragments : List Fragment) (emission : Emission)
    (free : emission.form = .free) :
    layout fragments emission = (fragments.flatMap Fragment.lines).flatMap
        (Layout.line emission.form emission.limit) ∧
      ∀ line ∈ fragments.flatMap Fragment.lines, (∀ content, ¬ IsComment line.text content) →
        ∃ joined, join? (Layout.line emission.form emission.limit line) = some joined ∧
          (literals joined = literals line.text ↔
            ∀ front ∈ lineBreaks emission.limit line, unclosed? front = none) ∧
          ((∀ front rest, line.text = front ++ ' ' :: rest → unclosed? front ≠ none →
            front.count '\'' % 2 = 1) → literals joined = literals line.text) := by
  refine ⟨rfl, ?_⟩
  intro line _ statement
  have size : (Text.spaces line.indentation).length = line.indentation := Text.length_spaces _
  have rows := freeLine_of_not_comment emission.limit statement
  rw [freeStatement_eq, size] at rows
  have splits := splits_piecesWithin emission.limit line.indentation (line.indentation + 2)
    (line.indentation + 3) line.text
  have kept := literals_padded_iff splits
  rw [← literals_spaces_append line.indentation ([] ++ padded _)] at kept
  refine ⟨_, ?_, kept, fun odd => kept.mpr fun front mem => ?_⟩
  · rw [free, Layout.line, rows]
    exact join?_freePieces (Text.isAllBlank_spaces _) splits.ne_nil
  · obtain ⟨⟨rest, text⟩, even⟩ := blank_of_mem_blankBreaks splits mem
    refine Decidable.byContradiction fun inside => ?_
    have parity := odd front rest text inside
    rw [Literal.insideAfter_false_iff] at even
    omega

/-- A literal between apostrophes with quotation marks in it is cut within twelve columns. -/
theorem literals_layout_iff_narrow :
    Layout.line .free 12 ⟨0, "print *, 'a \"b\" c d', n".toList⟩ =
        ["print *, &".toList, "& 'a \"b\" c&".toList, "& d', n".toList] ∧
      ∃ joined, join? (Layout.line .free 12 ⟨0, "print *, 'a \"b\" c d', n".toList⟩) = some joined ∧
        literals joined = [(⟨'\'', by decide⟩, "a \"b\" c d".toList)] := by
  obtain ⟨joined, found, kept, -⟩ := (literals_layout_iff
    [.line "print *, 'a \"b\" c d', n".toList] { maxLineLength := some 12 } rfl).2
    ⟨0, "print *, 'a \"b\" c d', n".toList⟩ (by decide +kernel) (by decide)
  have same := kept.mpr (by decide +kernel)
  exact ⟨by decide +kernel, joined, found, same.trans (by decide +kernel)⟩

/-- A literal between quotation marks has one more blank in it when it is read back. -/
theorem not_literals_layout : ¬ ∀ (fragments : List Fragment) (emission : Emission),
    emission.form = .free → ∀ line ∈ fragments.flatMap Fragment.lines,
      (∀ content, ¬ IsComment line.text content) → Closed line.text →
        ∃ joined, join? (Layout.line emission.form emission.limit line) = some joined ∧
          literals joined = literals line.text := by
  intro all
  have closed : Closed "s = \"a b c d e f\"".toList := by
    refine ⟨by decide, fun front rest text => ?_⟩
    have mark : '!' ∈ "s = \"a b c d e f\"".toList := by
      rw [text]
      exact List.mem_append_right _ List.mem_cons_self
    exact absurd mark (by decide)
  obtain ⟨joined, found, same⟩ := all [.line "s = \"a b c d e f\"".toList]
    { maxLineLength := some 12 } rfl
    ⟨0, "s = \"a b c d e f\"".toList⟩ (by decide +kernel) (by decide) closed
  have read : join? (Layout.line .free 12 ⟨0, "s = \"a b c d e f\"".toList⟩) =
      some "s = \"a b  c d e f\"".toList := by
    decide +kernel
  have joined_eq : joined = "s = \"a b  c d e f\"".toList := Option.some.inj (found.symm.trans read)
  rw [joined_eq] at same
  exact absurd same (by decide +kernel)

end FortranWriter.FreeForm
