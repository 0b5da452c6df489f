import FortranWriter.Proofs.Layout.Rounds
/-! What splitting a statement does to its text: the pieces make it up, and a break at a blank is
outside every literal of the text as a whole. -/
namespace FortranWriter.Layout

theorem lastBreak?_append (inside : Bool) (position : Nat) (front t : Text) :
    lastBreak? inside position (front ++ t) =
      (lastBreak? (Literal.insideAfter inside front) (position + front.length) t).or
        (lastBreak? inside position front) := by
  induction front generalizing inside position with
  | nil => exact (Option.or_none).symm
  | cons c front ih =>
      have size : position + (c :: front).length = position + 1 + front.length := by
        rw [List.length_cons]
        omega
      rw [List.cons_append, lastBreak?, ih, size, lastBreak?, Literal.insideAfter]
      cases lastBreak? (Literal.insideAfter (if c = '\'' then !inside else inside) front)
        (position + 1 + front.length) t with
      | some later => rfl
      | none => rfl

theorem insideAfter_spaces (n : Nat) : Literal.insideAfter false (Text.spaces n) = false := by
  induction n with
  | zero => rfl
  | succ n ih => exact ih

theorem split_of_fits {first rest : Nat} {t : Text} (fits : t.length ≤ first) :
    split first rest t = [⟨t, false⟩] := by
  rw [split]
  cases t with
  | nil => rfl
  | cons c t => exact splitFrom_of_fits fits

theorem splitFrom_ne_nil (rest fuel capacity : Nat) (inside : Bool) (t : Text) :
    splitFrom rest fuel capacity inside t ≠ [] := by
  cases fuel with
  | zero => exact List.cons_ne_nil _ _
  | succ fuel =>
      by_cases fits : t.length ≤ capacity
      · rw [splitFrom_of_fits fits]
        exact List.cons_ne_nil _ _
      · obtain ⟨piece, behind, left, round⟩ := exists_round capacity inside t
        rw [round.splitFrom_eq (Nat.lt_of_not_le fits)]
        exact List.cons_ne_nil _ _

theorem exists_split_cons {first : Nat} {t : Text} (long : first < t.length) (rest : Nat) :
    ∃ piece pieces, split first rest t = piece :: pieces ∧ pieces ≠ [] := by
  obtain ⟨fuel, size⟩ := Nat.exists_eq_succ_of_ne_zero (Nat.ne_zero_of_lt long)
  obtain ⟨piece, behind, left, round⟩ := exists_round first false t
  rw [split, size]
  exact ⟨piece, _, round.splitFrom_eq long rest fuel, splitFrom_ne_nil _ _ _ _ _⟩

theorem length_split_eq_one_iff {first rest : Nat} {t : Text} :
    (split first rest t).length = 1 ↔ t.length ≤ first := by
  constructor
  · intro single
    refine Nat.le_of_not_lt fun long => ?_
    obtain ⟨piece, pieces, parts, several⟩ := exists_split_cons long rest
    rw [parts, List.length_cons, Nat.add_eq_right, List.length_eq_zero_iff] at single
    exact several single
  · intro fits
    rw [split_of_fits fits, List.length_singleton]

/-- Nothing is lost by splitting: the pieces make up the text. -/
theorem splitFrom_flatMap_text (rest fuel capacity : Nat) (inside : Bool) (t : Text) :
    (splitFrom rest fuel capacity inside t).flatMap Piece.text = t := by
  induction fuel generalizing capacity inside t with
  | zero => exact List.append_nil t
  | succ fuel ih =>
      by_cases fits : t.length ≤ capacity
      · rw [splitFrom_of_fits fits]
        exact List.append_nil t
      · obtain ⟨piece, behind, left, round⟩ := exists_round capacity inside t
        rw [round.splitFrom_eq (Nat.lt_of_not_le fits), List.flatMap_cons, ih, round.append_eq]

theorem split_flatMap_text (first rest : Nat) (t : Text) :
    (split first rest t).flatMap Piece.text = t :=
  splitFrom_flatMap_text rest t.length first false t

theorem minimumWidth_le_capacity (limit used : Nat) : minimumWidth ≤ capacity limit used :=
  Nat.le_max_right _ _

theorem capacity_pos (limit used : Nat) : 0 < capacity limit used :=
  Nat.lt_of_lt_of_le (by decide) (minimumWidth_le_capacity limit used)

theorem freePieces_cons (indent mark : Text) (piece : Piece) {rest : List Piece} (h : rest ≠ []) :
    freePieces indent mark (piece :: rest) =
      (indent ++ mark ++ piece.text ++ if piece.cut then ['&'] else [' ', '&']) ::
        freePieces indent ['&'] rest := by
  cases rest with
  | nil => exact absurd rfl h
  | cons next rest => rfl

/-- Pieces of a text, told together with what stands in front of the text in its statement: no piece
that is followed by another is empty, and one that is not cut ends in front of a blank, with no
apostrophe open in the statement up to there. -/
inductive Splits : (before t : Text) → List Piece → Prop
  | whole {before t} : Splits before t [⟨t, false⟩]
  | atBlank {before piece rest pieces} : piece ≠ [] →
      Literal.insideAfter false (before ++ piece) = false →
      Splits (before ++ piece) (' ' :: rest) pieces →
      Splits before (piece ++ ' ' :: rest) (⟨piece, false⟩ :: pieces)
  | within {before piece rest pieces} : piece ≠ [] → Splits (before ++ piece) rest pieces →
      Splits before (piece ++ rest) (⟨piece, true⟩ :: pieces)

theorem Splits.ne_nil {before t : Text} {pieces : List Piece} (h : Splits before t pieces) :
    pieces ≠ [] := by
  cases h <;> exact List.cons_ne_nil _ _

/-- Splitting is right as long as it is told rightly whether a literal is open in front. -/
theorem Rounds.splits {rest capacity : Nat} {inside : Bool} {t : Text} {pieces : List Piece}
    (h : Rounds rest capacity inside t pieces) (restPos : 0 < rest) (pos : 0 < capacity)
    (before : Text) (known : Literal.insideAfter false before = inside) :
    Splits before t pieces := by
  induction h generalizing before with
  | last => exact .whole
  | @next capacity inside t _ _ _ pieces long round _ ih =>
      have filled := round.text_ne_nil pos long
      cases round with
      | @atBlank position found =>
          obtain ⟨after, text, left, -, outside⟩ := lastBreak?_window found
          have closed : Literal.insideAfter false (before ++ t.take position) = false := by
            rw [Literal.insideAfter_append, known, outside]
          have others := ih restPos (before ++ t.take position) closed
          rw [left] at others
          have whole := Splits.atBlank filled closed others
          rw [← text] at whole
          exact whole
      | within =>
          have goesOn : Literal.insideAfter false (before ++ t.take capacity) =
              Literal.insideAfter inside (t.take capacity) := by
            rw [Literal.insideAfter_append, known]
          have whole := Splits.within filled (ih restPos _ goesOn)
          rw [List.take_append_drop] at whole
          exact whole

theorem splits_split {first rest : Nat} (firstPos : 0 < first) (restPos : 0 < rest) (t : Text) :
    Splits [] t (split first rest t) :=
  (rounds_split firstPos restPos t).splits restPos firstPos [] rfl

/-- The pieces that a statement is laid out in: it is left whole if it fits. -/
def piecesWithin (limit lead first rest : Nat) (statement : Text) : List Piece :=
  if lead + statement.length ≤ limit then [⟨statement, false⟩]
  else split (capacity limit first) (capacity limit rest) statement

theorem piecesWithin_flatMap_text (limit lead first rest : Nat) (statement : Text) :
    (piecesWithin limit lead first rest statement).flatMap Piece.text = statement := by
  rw [piecesWithin]
  split
  · exact List.append_nil statement
  · exact split_flatMap_text _ _ statement

theorem splits_piecesWithin (limit lead first rest : Nat) (statement : Text) :
    Splits [] statement (piecesWithin limit lead first rest statement) := by
  rw [piecesWithin]
  split
  · exact .whole
  · exact splits_split (capacity_pos _ _) (capacity_pos _ _) statement

theorem freeStatement_eq (limit : Nat) (indent statement : Text) :
    freeStatement limit indent statement = freePieces indent []
      (piecesWithin limit indent.length (indent.length + 2) (indent.length + 3) statement) := by
  rw [freeStatement, piecesWithin]
  split
  · rw [freePieces, List.append_nil]
  · rfl

/-- The physical lines of pieces in fixed form, the first behind what leads up to it. -/
def fixedRows (lead : Text) : List Piece → List Text
  | [] => []
  | piece :: rest => (lead ++ piece.text) :: fixedRows continuationField rest

theorem fixedRows_continuationField (pieces : List Piece) :
    fixedRows continuationField pieces =
      pieces.map fun piece => continuationField ++ piece.text := by
  induction pieces with
  | nil => rfl
  | cons piece pieces ih => rw [fixedRows, ih, List.map_cons]

theorem fixedStatement_eq (limit : Nat) (field indent statement : Text) :
    fixedStatement limit field indent statement = fixedRows (field ++ indent)
      (piecesWithin limit (field ++ indent).length (field ++ indent).length 6 statement) := by
  rw [fixedStatement, piecesWithin]
  split
  · rfl
  · split
    · case _ none => rw [none, fixedRows]
    · case _ first rest parts => rw [parts, fixedRows, fixedRows_continuationField]

/-- The first physical line of a statement in fixed form, and those that go on with it. -/
theorem exists_fixedStatement_eq (limit : Nat) (field indent statement : Text) : ∃ first rest,
    piecesWithin limit (field ++ indent).length (field ++ indent).length 6 statement =
        first :: rest ∧
      fixedStatement limit field indent statement = (field ++ indent ++ first.text) ::
        rest.map fun piece => continuationField ++ piece.text := by
  have splits :=
    splits_piecesWithin limit (field ++ indent).length (field ++ indent).length 6 statement
  obtain ⟨first, rest, parts⟩ := List.exists_cons_of_ne_nil splits.ne_nil
  refine ⟨first, rest, parts, ?_⟩
  rw [fixedStatement_eq, parts, fixedRows, fixedRows_continuationField]

end FortranWriter.Layout
