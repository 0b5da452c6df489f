import FortranWriter.Proofs.Layout.Breaks
import Mathlib.Order.Bounds.Basic
/-! Which of its spaces a statement is broken at: the last one outside the literals that is among
the characters there is room for. The space right behind them is not looked at, so that a piece that
is full is taken to be cut even where the text goes on at a space. -/
namespace FortranWriter.Layout

/-- A text has a space at a position, outside its literals between apostrophes. -/
def HasSpace (t : Text) (position : Nat) : Prop :=
  t[position]? = some ' ' ∧ (t.take position).count '\'' % 2 = 0

instance (t : Text) (position : Nat) : Decidable (HasSpace t position) :=
  inferInstanceAs (Decidable (_ ∧ _))

/-- The widths below a bound with which a piece that starts at a position of a text ends in front of
such a space. -/
def spaceWidths (t : Text) (start bound : Nat) : Set Nat :=
  {width | 0 < width ∧ width < bound ∧ HasSpace t (start + width)}

theorem insideAfter_take_add {t : Text} {start : Nat} {inside : Bool}
    (known : Literal.insideAfter false (t.take start) = inside) (width : Nat) :
    Literal.insideAfter false (t.take (start + width)) =
      Literal.insideAfter inside ((t.drop start).take width) := by
  rw [List.take_add, Literal.insideAfter_append, known]

theorem hasSpace_add_iff {t : Text} {start width : Nat} {inside : Bool}
    (known : Literal.insideAfter false (t.take start) = inside) :
    HasSpace t (start + width) ↔ (t.drop start)[width]? = some ' ' ∧
      Literal.insideAfter inside ((t.drop start).take width) = false := by
  rw [HasSpace, List.getElem?_drop, ← Literal.insideAfter_false_iff, insideAfter_take_add known]

theorem getElem?_eq_some_iff_append {t : Text} {position : Nat} {c : Char} :
    t[position]? = some c ↔ ∃ front more, t = front ++ c :: more ∧ position = front.length := by
  constructor
  · intro found
    obtain ⟨inText, here⟩ := List.getElem?_eq_some_iff.mp found
    refine ⟨t.take position, t.drop (position + 1), ?_, ?_⟩
    · rw [← here, ← List.drop_eq_getElem_cons inText, List.take_append_drop]
    · rw [List.length_take_of_le (Nat.le_of_lt inText)]
  · rintro ⟨front, more, rfl, rfl⟩
    rw [List.getElem?_append_right (Nat.le_refl _), Nat.sub_self]
    rfl

theorem take_of_window {t front more : Text} {c : Char} {capacity : Nat}
    (window : t.take capacity = front ++ c :: more) :
    front.length < capacity ∧ t.take front.length = front := by
  have size := congrArg List.length window
  rw [List.length_take, List.length_append, List.length_cons] at size
  have narrow : front.length < capacity := by omega
  refine ⟨narrow, ?_⟩
  rw [← Nat.min_eq_left (Nat.le_of_lt narrow), ← List.take_take, window, List.take_left]

/-- Such a width is told from the characters there is room for: they have a space behind so many. -/
theorem mem_spaceWidths_iff {t : Text} {start capacity width : Nat} {inside : Bool}
    (known : Literal.insideAfter false (t.take start) = inside) :
    width ∈ spaceWidths t start capacity ↔ 0 < width ∧ ∃ front more,
      (t.drop start).take capacity = front ++ ' ' :: more ∧ width = front.length ∧
        Literal.insideAfter inside front = false := by
  rw [spaceWidths, Set.mem_ofPred_eq, hasSpace_add_iff known]
  refine and_congr_right fun _ => ?_
  constructor
  · rintro ⟨narrow, space, outside⟩
    rw [← List.getElem?_take_of_lt narrow] at space
    obtain ⟨front, more, window, rfl⟩ := getElem?_eq_some_iff_append.mp space
    rw [(take_of_window window).2] at outside
    exact ⟨front, more, window, rfl, outside⟩
  · rintro ⟨front, more, window, rfl, outside⟩
    obtain ⟨narrow, lead⟩ := take_of_window window
    rw [← List.getElem?_take_of_lt narrow, lead]
    exact ⟨narrow, getElem?_eq_some_iff_append.mpr ⟨front, more, window, rfl⟩, outside⟩

/-- No space outside the literals is behind the one that is found. -/
theorem le_of_lastBreak? {inside : Bool} {position found : Nat} {t front more : Text}
    (h : lastBreak? inside position t = some found) (text : t = front ++ ' ' :: more)
    (outside : Literal.insideAfter inside front = false) (later : 0 < position + front.length) :
    position + front.length ≤ found := by
  rw [text, lastBreak?_append] at h
  cases behind : lastBreak? (Literal.insideAfter inside front) (position + front.length)
      (' ' :: more) with
  | some place =>
      obtain ⟨_, _, _, size, _, _⟩ := lastBreak?_spec behind
      rw [behind, Option.some_or, Option.some.injEq] at h
      omega
  | none =>
      have opened := insideAfter_of_no_break behind (List.nil_append _).symm later
      rw [outside] at opened
      cases opened

theorem isGreatest_of_lastBreak? {t : Text} {start capacity position : Nat} {inside : Bool}
    (known : Literal.insideAfter false (t.take start) = inside)
    (found : lastBreak? inside 0 ((t.drop start).take capacity) = some position) :
    IsGreatest (spaceWidths t start capacity) position := by
  constructor
  · obtain ⟨front, more, window, size, positive, outside⟩ := lastBreak?_spec found
    rw [Nat.zero_add] at size
    exact (mem_spaceWidths_iff known).mpr ⟨positive, front, more, window, size, outside⟩
  · intro width other
    obtain ⟨positive, front, more, window, rfl, outside⟩ := (mem_spaceWidths_iff known).mp other
    rw [← Nat.zero_add front.length] at positive ⊢
    exact le_of_lastBreak? found window outside positive

theorem spaceWidths_eq_empty {t : Text} {start capacity : Nat} {inside : Bool}
    (known : Literal.insideAfter false (t.take start) = inside)
    (none : lastBreak? inside 0 ((t.drop start).take capacity) = none) :
    spaceWidths t start capacity = ∅ := by
  refine Set.eq_empty_iff_forall_notMem.mpr fun width other => ?_
  obtain ⟨positive, front, more, window, rfl, outside⟩ := (mem_spaceWidths_iff known).mp other
  rw [← Nat.zero_add front.length] at positive
  rw [insideAfter_of_no_break none window positive] at outside
  cases outside

/-- Where a piece ends that another follows: in front of the last space outside the literals that is
among the characters there is room for, or if there is none, behind all of these. -/
inductive Ends (t : Text) (start capacity : Nat) : Piece → Prop
  | atSpace {piece} : IsGreatest (spaceWidths t start capacity) piece.length →
      Ends t start capacity ⟨piece, false⟩
  | full {piece} : spaceWidths t start capacity = ∅ → piece.length = capacity →
      Ends t start capacity ⟨piece, true⟩

/-- The same of each of several pieces. -/
inductive EndsAll (rest : Nat) (t : Text) : (start capacity : Nat) → List Piece → Prop
  | last {start capacity piece} : EndsAll rest t start capacity [piece]
  | cons {start capacity piece pieces} : Ends t start capacity piece →
      EndsAll rest t (start + piece.text.length) rest pieces →
      EndsAll rest t start capacity (piece :: pieces)

theorem Rounds.endsAll {rest capacity : Nat} {inside : Bool} {t u : Text} {pieces : List Piece}
    (h : Rounds rest capacity inside u pieces) {start : Nat} (place : u = t.drop start)
    (known : Literal.insideAfter false (t.take start) = inside) :
    EndsAll rest t start capacity pieces := by
  -- each piece starts where the one before it ends, and it is known whether a literal is open there
  induction h generalizing start with
  | last => exact .last
  | @next capacity _ _ _ _ _ _ long round _ ih =>
      subst place
      cases round with
      | @atBlank position found =>
          obtain ⟨_, _, inText⟩ := lastBreak?_bounds found
          obtain ⟨_, _, _, _, outside⟩ := lastBreak?_window found
          have size : ((t.drop start).take position).length = position :=
            List.length_take_of_le (Nat.le_of_lt inText)
          have greatest := isGreatest_of_lastBreak? known found
          refine .cons (.atSpace (by rw [size]; exact greatest)) ?_
          rw [size]
          exact ih List.drop_drop ((insideAfter_take_add known position).trans outside)
      | within none =>
          have size : ((t.drop start).take capacity).length = capacity :=
            List.length_take_of_le (Nat.le_of_lt long)
          refine .cons (.full (spaceWidths_eq_empty known none) size) ?_
          rw [size]
          exact ih List.drop_drop (insideAfter_take_add known capacity)

theorem EndsAll.uncons {rest : Nat} {t : Text} {start capacity : Nat} {piece : Piece}
    {pieces : List Piece} (h : EndsAll rest t start capacity (piece :: pieces))
    (several : pieces ≠ []) :
    Ends t start capacity piece ∧ EndsAll rest t (start + piece.text.length) rest pieces := by
  cases h with
  | last => exact absurd rfl several
  | cons here later => exact ⟨here, later⟩

theorem EndsAll.of_append {rest : Nat} {t : Text} {start capacity : Nat} {piece next : Piece}
    {front behind : List Piece}
    (h : EndsAll rest t start capacity (front ++ piece :: next :: behind)) :
    Ends t (start + (front.flatMap Piece.text).length) (atFirst capacity rest front) piece := by
  induction front generalizing start capacity with
  | nil => exact (h.uncons (List.cons_ne_nil _ _)).1
  | cons other front ih =>
      have several : front ++ piece :: next :: behind ≠ [] :=
        List.append_ne_nil_of_right_ne_nil _ (List.cons_ne_nil _ _)
      have found := ih (h.uncons several).2
      rw [atFirst_self] at found
      rw [List.flatMap_cons, List.length_append, ← Nat.add_assoc]
      exact found

/-- A break that is told and chosen as it ought to be: it is no cut exactly if the text goes on
at a space outside the literals, and if there is such a space that the text in front of fits, it
is at the last of them. -/
structure Exact (t : Text) (start capacity : Nat) (piece : Piece) : Prop where
  told : piece.cut = false ↔ HasSpace t (start + piece.text.length)
  latest : (spaceWidths t start (capacity + 1)).Nonempty →
    IsGreatest (spaceWidths t start (capacity + 1)) piece.text.length

/-- One column more makes no difference unless it brings a space. -/
theorem spaceWidths_succ {t : Text} {start capacity : Nat}
    (none : ¬ HasSpace t (start + capacity)) :
    spaceWidths t start (capacity + 1) = spaceWidths t start capacity := by
  ext width
  refine and_congr_right fun _ => ⟨fun ⟨narrow, space⟩ => ⟨?_, space⟩, fun ⟨narrow, space⟩ =>
    ⟨Nat.lt_succ_of_lt narrow, space⟩⟩
  refine Nat.lt_of_le_of_ne (Nat.le_of_lt_succ narrow) ?_
  rintro rfl
  exact none space

theorem Ends.exact_iff {t : Text} {start capacity : Nat} {piece : Piece}
    (ends : Ends t start capacity piece) (pos : 0 < capacity) :
    Exact t start capacity piece ↔ ¬ HasSpace t (start + capacity) := by
  constructor
  · intro exact space
    have among : capacity ∈ spaceWidths t start (capacity + 1) := ⟨pos, Nat.lt_succ_self _, space⟩
    cases ends with
    | atSpace greatest =>
        have widest := (exact.latest ⟨_, among⟩).2 among
        exact absurd greatest.1.2.1 (Nat.not_lt_of_ge widest)
    | full _ size =>
        rw [← size] at space
        cases exact.told.mpr space
  · intro none
    cases ends with
    | atSpace greatest =>
        refine ⟨⟨fun _ => greatest.1.2.2, fun _ => rfl⟩, fun _ => ?_⟩
        rw [spaceWidths_succ none]
        exact greatest
    | full empty size =>
        refine ⟨⟨fun cut => (nomatch cut), fun space => absurd (size ▸ space) none⟩, fun some => ?_⟩
        rw [spaceWidths_succ none, empty] at some
        exact absurd some Set.not_nonempty_empty

/-- Each piece but the last ends at the last space outside the literals that is among the characters
there is room for, and is cut behind all of these if there is none. So its break is told and chosen
as it ought to be exactly if there is no such space right behind that room. -/
theorem exact_split_iff (first rest : Nat) (t : Text) (firstPos : 0 < first) (restPos : 0 < rest)
    (front : List Piece) (piece next : Piece) (behind : List Piece)
    (parts : split first rest t = front ++ piece :: next :: behind) :
    t = front.flatMap Piece.text ++ piece.text ++ (next :: behind).flatMap Piece.text ∧
      Ends t (front.flatMap Piece.text).length (atFirst first rest front) piece ∧
      (Exact t (front.flatMap Piece.text).length (atFirst first rest front) piece ↔
        ¬ HasSpace t ((front.flatMap Piece.text).length + atFirst first rest front)) := by
  have whole := split_flatMap_text first rest t
  have all : EndsAll rest t 0 first (split first rest t) :=
    (rounds_split firstPos restPos t).endsAll List.drop_zero.symm rfl
  rw [parts] at all whole
  rw [List.flatMap_append, List.flatMap_cons, ← List.append_assoc] at whole
  have ends := all.of_append
  rw [Nat.zero_add] at ends
  refine ⟨whole.symm, ends, ends.exact_iff ?_⟩
  cases front with
  | nil => exact firstPos
  | cons => exact restPos

/-- The first piece ends in front of the only space it could end at, as the one behind the room for
it is in a literal; the fourth is full, and the space behind it is not seen. -/
theorem exact_split_iff_call :
    split 9 9 "call f('a b c', 'it''s', gamma_max, n)".toList =
        [⟨"call".toList, false⟩, ⟨" f('a b c".toList, true⟩, ⟨"',".toList, false⟩,
          ⟨" 'it''s',".toList, true⟩, ⟨" gamma_ma".toList, true⟩, ⟨"x, n)".toList, false⟩] ∧
      Exact "call f('a b c', 'it''s', gamma_max, n)".toList 0 9 ⟨"call".toList, false⟩ ∧
      ¬ Exact "call f('a b c', 'it''s', gamma_max, n)".toList 15 9 ⟨" 'it''s',".toList, true⟩ := by
  have parts : split 9 9 "call f('a b c', 'it''s', gamma_max, n)".toList =
      [⟨"call".toList, false⟩, ⟨" f('a b c".toList, true⟩, ⟨"',".toList, false⟩,
        ⟨" 'it''s',".toList, true⟩, ⟨" gamma_ma".toList, true⟩, ⟨"x, n)".toList, false⟩] := by
    decide +kernel
  have first := (exact_split_iff 9 9 _ (by decide) (by decide) [] _ _ _ parts).2.2
  have fourth := (exact_split_iff 9 9 _ (by decide) (by decide)
    [⟨"call".toList, false⟩, ⟨" f('a b c".toList, true⟩, ⟨"',".toList, false⟩] _ _ _ parts).2.2
  exact ⟨parts, first.mpr (by decide +kernel), fun exact => fourth.mp exact (by decide +kernel)⟩

/-- A name that takes all the room there is for it is told to be cut in front of
the space it ends at. -/
theorem not_exact_split : ¬ ∀ (first rest : Nat) (t : Text), 0 < first → 0 < rest →
    ∀ front piece next behind, split first rest t = front ++ piece :: next :: behind →
      Exact t (front.flatMap Piece.text).length (atFirst first rest front) piece := by
  intro all
  have exact := all 10 9 "total_area = 1".toList (by decide) (by decide) []
    ⟨"total_area".toList, true⟩ ⟨" = 1".toList, false⟩ [] (by decide +kernel)
  have uncut := exact.told.mpr (by decide +kernel)
  cases uncut

end FortranWriter.Layout
