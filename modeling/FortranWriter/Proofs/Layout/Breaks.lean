import FortranWriter.Proofs.Layout.Pieces
/-! How wide the pieces of a statement are, and where it is broken: at the last space outside its
literals for which there is room, and if there is none, behind as many characters as there is room
for. -/
namespace FortranWriter.Layout

theorem insideAfter_of_no_break {inside : Bool} {position : Nat} {t : Text}
    (none : lastBreak? inside position t = none) {front more : Text}
    (text : t = front ++ ' ' :: more) (later : 0 < position + front.length) :
    Literal.insideAfter inside front = true := by
  rw [text, ← List.singleton_append, lastBreak?_append, lastBreak?_append, Option.or_eq_none_iff,
    Option.or_eq_none_iff] at none
  obtain ⟨⟨-, space⟩, -⟩ := none
  cases outside : Literal.insideAfter inside front with
  | true => rfl
  | false =>
      rw [outside, lastBreak?, lastBreak?, if_pos ⟨rfl, rfl, later⟩] at space
      cases space

/-- Behind its first character a piece has no space that is outside the
literals of its statement. -/
def Unbroken (before piece : Text) : Prop :=
  ∀ front more, piece = front ++ ' ' :: more → front ≠ [] →
    Literal.insideAfter false (before ++ front) = true

/-- Pieces that keep to their columns, the first behind a text and each behind those in front of it.
One that ends at a space leaves a column or more, and one that is cut leaves none and could not have
ended at a space. -/
inductive Fits (rest : Nat) : (before : Text) → (capacity : Nat) → List Piece → Prop
  | last {before capacity piece} : piece.text.length ≤ capacity → Fits rest before capacity [piece]
  | atBlank {before capacity piece pieces} : piece.length < capacity →
      Fits rest (before ++ piece) rest pieces → Fits rest before capacity (⟨piece, false⟩ :: pieces)
  | within {before capacity piece pieces} : piece.length = capacity → Unbroken before piece →
      Fits rest (before ++ piece) rest pieces → Fits rest before capacity (⟨piece, true⟩ :: pieces)

theorem Fits.ne_nil {rest capacity : Nat} {before : Text} {pieces : List Piece}
    (h : Fits rest before capacity pieces) : pieces ≠ [] := by
  cases h <;> exact List.cons_ne_nil _ _

theorem Rounds.fits {rest capacity : Nat} {inside : Bool} {t : Text} {pieces : List Piece}
    (h : Rounds rest capacity inside t pieces) (before : Text)
    (known : Literal.insideAfter false before = inside) : Fits rest before capacity pieces := by
  induction h generalizing before with
  | last fits => exact .last fits
  | next long round _ ih =>
      cases round with
      | atBlank found =>
          obtain ⟨-, inWindow, inText⟩ := lastBreak?_bounds found
          obtain ⟨-, -, -, -, outside⟩ := lastBreak?_window found
          apply Fits.atBlank
          · rw [List.length_take_of_le (Nat.le_of_lt inText)]
            exact inWindow
          · apply ih
            rw [Literal.insideAfter_append, known, outside]
      | within none =>
          apply Fits.within
          · exact List.length_take_of_le (Nat.le_of_lt long)
          · intro front more text some
            rw [Literal.insideAfter_append, known]
            apply insideAfter_of_no_break none text
            rw [Nat.zero_add]
            exact List.length_pos_iff.mpr some
          · apply ih
            rw [Literal.insideAfter_append, known]

theorem fits_split {first rest : Nat} (firstPos : 0 < first) (restPos : 0 < rest) (t : Text) :
    Fits rest [] first (split first rest t) :=
  (rounds_split firstPos restPos t).fits [] rfl

theorem Fits.length_le {rest capacity : Nat} {before : Text} {piece : Piece} {pieces : List Piece}
    (h : Fits rest before capacity (piece :: pieces)) : piece.text.length ≤ capacity := by
  cases h with
  | last narrow => exact narrow
  | atBlank narrow _ => exact Nat.le_of_lt narrow
  | within full _ _ => exact Nat.le_of_eq full

theorem Fits.later {rest capacity : Nat} {before : Text} {piece : Piece} {pieces : List Piece}
    (h : Fits rest before capacity (piece :: pieces)) (several : pieces ≠ []) :
    Fits rest (before ++ piece.text) rest pieces := by
  cases h with
  | last => exact absurd rfl several
  | atBlank _ later => exact later
  | within _ _ later => exact later

theorem Fits.length_le_of_mem {rest capacity : Nat} {before : Text} {piece : Piece}
    {pieces : List Piece} (h : Fits rest before capacity (piece :: pieces)) :
    ∀ other ∈ pieces, other.text.length ≤ rest := by
  induction pieces generalizing before capacity piece with
  | nil =>
      intro other mem
      cases mem
  | cons next pieces ih =>
      have later := h.later (List.cons_ne_nil _ _)
      intro other mem
      rcases List.mem_cons.mp mem with rfl | mem
      · exact later.length_le
      · exact ih later other mem

/-- Whatever is used of whatever limit, splitting comes to an end, and in one way: with pieces that
keep to the columns that are left and make up the text, and none of which is empty unless the text
is, so that there are no more of them than characters. -/
theorem split_progresses (limit used later : Nat) (t : Text) :
    (∀ pieces, Rounds (capacity limit later) (capacity limit used) false t pieces ↔
      pieces = split (capacity limit used) (capacity limit later) t) ∧
    (split (capacity limit used) (capacity limit later) t).flatMap Piece.text = t ∧
    (∃ first others, split (capacity limit used) (capacity limit later) t = first :: others ∧
      first.text.length ≤ capacity limit used ∧
      ∀ piece ∈ others, piece.text.length ≤ capacity limit later) ∧
    (t ≠ [] → (∀ piece ∈ split (capacity limit used) (capacity limit later) t, piece.text ≠ []) ∧
      (split (capacity limit used) (capacity limit later) t).length ≤ t.length) := by
  have firstPos : 0 < capacity limit used := capacity_pos limit used
  have restPos : 0 < capacity limit later := capacity_pos limit later
  have rounds := rounds_split firstPos restPos t
  refine ⟨fun pieces => ⟨rounds.unique, ?_⟩, split_flatMap_text _ _ t, ?_, fun some => ?_⟩
  · rintro rfl
    exact rounds
  · have fits := fits_split firstPos restPos t
    obtain ⟨first, others, parts⟩ := List.exists_cons_of_ne_nil fits.ne_nil
    rw [parts] at fits
    exact ⟨first, others, parts, fits.length_le, fits.length_le_of_mem⟩
  · exact ⟨rounds.filled restPos firstPos some, rounds.length_le restPos firstPos some⟩

/-- What the break behind a piece is like that has so many columns and stands between a text and
another piece. -/
structure Breaks (before : Text) (capacity : Nat) (piece next : Piece) : Prop where
  atBlank : piece.cut = false →
    next.text.head? = some ' ' ∧ (before ++ piece.text).count '\'' % 2 = 0
  within : piece.cut = true → piece.text.length = capacity ∧
    ∀ front more, piece.text = front ++ ' ' :: more → front ≠ [] →
      (before ++ front).count '\'' % 2 = 1

/-- One value for the first piece, and another for one that stands behind others. -/
def atFirst {α : Type} (first rest : α) : List Piece → α
  | [] => first
  | _ :: _ => rest

theorem atFirst_self {α : Type} (rest : α) (front : List Piece) :
    atFirst rest rest front = rest := by
  cases front <;> rfl

theorem Splits.head?_eq {before t : Text} {piece : Piece} {pieces : List Piece}
    (h : Splits before t (piece :: pieces)) : piece.text.head? = t.head? := by
  cases h with
  | whole => rfl
  | atBlank filled _ _ =>
      obtain ⟨c, front, rfl⟩ := List.exists_cons_of_ne_nil filled
      rfl
  | within filled _ =>
      obtain ⟨c, front, rfl⟩ := List.exists_cons_of_ne_nil filled
      rfl

theorem Splits.later {before t : Text} {piece : Piece} {pieces : List Piece}
    (h : Splits before t (piece :: pieces)) (several : pieces ≠ []) :
    ∃ u, Splits (before ++ piece.text) u pieces := by
  cases h with
  | whole => exact absurd rfl several
  | atBlank _ _ later => exact ⟨_, later⟩
  | within _ later => exact ⟨_, later⟩

theorem breaks_head {rest capacity : Nat} {before t : Text} {piece next : Piece}
    {pieces : List Piece} (splits : Splits before t (piece :: next :: pieces))
    (fits : Fits rest before capacity (piece :: next :: pieces)) :
    Breaks before capacity piece next := by
  cases splits with
  | atBlank _ outside later =>
      constructor
      · intro _
        exact ⟨later.head?_eq, (Literal.insideAfter_false_iff _).mp outside⟩
      · intro cut
        cases cut
  | within =>
      cases fits with
      | within full unbroken _ =>
          constructor
          · intro cut
            cases cut
          · intro _
            refine ⟨full, fun front more text some => ?_⟩
            exact (Literal.insideAfter_true_iff _).mp (unbroken front more text some)

theorem breaks_of_append {rest capacity : Nat} {before t : Text} {piece next : Piece}
    {front pieces : List Piece} (splits : Splits before t (front ++ piece :: next :: pieces))
    (fits : Fits rest before capacity (front ++ piece :: next :: pieces)) :
    Breaks (before ++ front.flatMap Piece.text) (atFirst capacity rest front) piece next := by
  induction front generalizing before capacity t with
  | nil =>
      rw [List.flatMap_nil, List.append_nil]
      exact breaks_head splits fits
  | cons other front ih =>
      have several : front ++ piece :: next :: pieces ≠ [] :=
        List.append_ne_nil_of_right_ne_nil _ (List.cons_ne_nil _ _)
      obtain ⟨u, splitsLater⟩ := splits.later several
      have found := ih splitsLater (fits.later several)
      rw [List.append_assoc, ← List.flatMap_cons, atFirst_self] at found
      exact found

/-- A text is broken at blanks outside its literals, or else behind pieces that are full and have no
such blank. The apostrophes are counted from the beginning of the whole text. -/
theorem breaks_split {first rest : Nat} (firstPos : 0 < first) (restPos : 0 < rest) {t : Text}
    {front behind : List Piece} {piece next : Piece}
    (parts : split first rest t = front ++ piece :: next :: behind) :
    Breaks (front.flatMap Piece.text) (atFirst first rest front) piece next := by
  have splits := splits_split firstPos restPos t
  have fits := fits_split firstPos restPos t
  rw [parts] at splits fits
  exact breaks_of_append splits fits

end FortranWriter.Layout
