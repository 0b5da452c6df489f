import FortranWriter.Layout
import FortranWriter.Proofs.Text.Literals
/-! Splitting a statement as the rounds of a loop, each of which takes a piece off what is left.
Nothing bounds their number: they come to an end because each takes a character at least, if
there is room for one. -/
namespace FortranWriter.Layout

/-- Where a text can be broken at a blank, that blank is a space, and nothing is open there. -/
theorem lastBreak?_spec {inside : Bool} {position found : Nat} {t : Text}
    (h : lastBreak? inside position t = some found) :
    ∃ front rest, t = front ++ ' ' :: rest ∧ found = position + front.length ∧ 0 < found ∧
      Literal.insideAfter inside front = false := by
  induction t generalizing inside position with
  | nil => cases h
  | cons c t ih =>
      rw [lastBreak?] at h
      split at h
      · case _ later deeper =>
          obtain ⟨front, rest, text, place, positive, outside⟩ := ih (deeper.trans h)
          refine ⟨c :: front, rest, ?_, ?_, positive, outside⟩
          · rw [text, List.cons_append]
          · rw [place, List.length_cons]; omega
      · split at h
        · case _ here =>
            obtain ⟨blank, outside, positive⟩ := here
            cases h
            exact ⟨[], t, by rw [blank, List.nil_append], rfl, positive, outside⟩
        · cases h

/-- The same for the window at the front of a text: what is behind the break begins with a space. -/
theorem lastBreak?_window {inside : Bool} {capacity position : Nat} {t : Text}
    (h : lastBreak? inside 0 (t.take capacity) = some position) :
    ∃ rest, t = t.take position ++ ' ' :: rest ∧ t.drop position = ' ' :: rest ∧
      t.take position ≠ [] ∧ Literal.insideAfter inside (t.take position) = false := by
  obtain ⟨front, rest, window, place, positive, outside⟩ := lastBreak?_spec h
  have whole : t = front ++ ' ' :: (rest ++ t.drop capacity) := by
    rw [← List.cons_append, ← List.append_assoc, ← window, List.take_append_drop]
  have size : position = front.length := by rw [place, Nat.zero_add]
  have front_eq : t.take position = front := by rw [whole, size, List.take_left]
  have rest_eq : t.drop position = ' ' :: (rest ++ t.drop capacity) := by
    conv => lhs; rw [whole, size, List.drop_left]
  refine ⟨rest ++ t.drop capacity, ?_, rest_eq, ?_, ?_⟩
  · rw [front_eq]; exact whole
  · rw [front_eq]; intro empty; rw [size, empty] at positive; exact absurd positive (by decide)
  · rw [front_eq]; exact outside

theorem lastBreak?_bounds {inside : Bool} {capacity position : Nat} {t : Text}
    (h : lastBreak? inside 0 (t.take capacity) = some position) :
    0 < position ∧ position < capacity ∧ position < t.length := by
  obtain ⟨front, rest, window, place, positive, -⟩ := lastBreak?_spec h
  have size := congrArg List.length window
  rw [List.length_take, List.length_append, List.length_cons] at size
  omega

/-- What one round takes off a text that does not fit, with whether a literal is open behind it, and
what it leaves. -/
inductive Round (capacity : Nat) (inside : Bool) (t : Text) : Piece → Bool → Text → Prop
  | atBlank {position} : lastBreak? inside 0 (t.take capacity) = some position →
      Round capacity inside t ⟨t.take position, false⟩ false (t.drop position)
  | within : lastBreak? inside 0 (t.take capacity) = none →
      Round capacity inside t ⟨t.take capacity, true⟩
        (Literal.insideAfter inside (t.take capacity)) (t.drop capacity)

/-- Rounds one after the other, until what is left fits. -/
inductive Rounds (rest : Nat) : (capacity : Nat) → (inside : Bool) → Text → List Piece → Prop
  | last {capacity inside t} : t.length ≤ capacity → Rounds rest capacity inside t [⟨t, false⟩]
  | next {capacity inside t piece behind left pieces} : capacity < t.length →
      Round capacity inside t piece behind left → Rounds rest rest behind left pieces →
      Rounds rest capacity inside t (piece :: pieces)

section
variable {rest capacity : Nat} {inside behind : Bool} {t left : Text} {piece : Piece}
  {pieces : List Piece}

theorem exists_round (capacity : Nat) (inside : Bool) (t : Text) :
    ∃ piece behind left, Round capacity inside t piece behind left := by
  cases found : lastBreak? inside 0 (t.take capacity) with
  | some position => exact ⟨_, _, _, .atBlank found⟩
  | none => exact ⟨_, _, _, .within found⟩

theorem Round.unique (round : Round capacity inside t piece behind left)
    {other : Piece} {after : Bool} {u : Text}
    (again : Round capacity inside t other after u) :
    other = piece ∧ after = behind ∧ u = left := by
  cases round with
  | atBlank found =>
      cases again with
      | atBlank same =>
          rw [found] at same
          cases same
          exact ⟨rfl, rfl, rfl⟩
      | within none =>
          rw [found] at none
          cases none
  | within none =>
      cases again with
      | atBlank found =>
          rw [none] at found
          cases found
      | within => exact ⟨rfl, rfl, rfl⟩

theorem Round.append_eq (round : Round capacity inside t piece behind left) :
    piece.text ++ left = t := by
  cases round with
  | atBlank => exact List.take_append_drop _ t
  | within => exact List.take_append_drop _ t

theorem Round.left_ne_nil (round : Round capacity inside t piece behind left)
    (long : capacity < t.length) : left ≠ [] := by
  cases round with
  | atBlank found =>
      exact mt List.drop_eq_nil_iff.mp (Nat.not_le_of_gt (lastBreak?_bounds found).2.2)
  | within => exact mt List.drop_eq_nil_iff.mp (Nat.not_le_of_gt long)

/-- A round takes a character at least: the blank of a break is not the first one, and a cut is
behind as many as there is room for. -/
theorem Round.text_ne_nil (round : Round capacity inside t piece behind left) (pos : 0 < capacity)
    (long : capacity < t.length) : piece.text ≠ [] := by
  cases round with
  | atBlank found =>
      obtain ⟨_, -, -, filled, -⟩ := lastBreak?_window found
      exact filled
  | within =>
      apply List.ne_nil_of_length_pos
      rw [List.length_take_of_le (Nat.le_of_lt long)]
      exact pos

theorem Round.length_lt (round : Round capacity inside t piece behind left) (pos : 0 < capacity)
    (long : capacity < t.length) : left.length < t.length := by
  have taken : 0 < piece.text.length := List.length_pos_iff.mpr (round.text_ne_nil pos long)
  rw [← round.append_eq, List.length_append]
  omega

theorem splitFrom_of_fits {fuel : Nat} (fits : t.length ≤ capacity) :
    splitFrom rest (fuel + 1) capacity inside t = [⟨t, false⟩] := by
  rw [splitFrom, if_pos fits]

theorem Round.splitFrom_eq (round : Round capacity inside t piece behind left)
    (long : capacity < t.length) (rest fuel : Nat) :
    splitFrom rest (fuel + 1) capacity inside t =
      piece :: splitFrom rest fuel rest behind left := by
  rw [splitFrom, if_neg (Nat.not_le_of_gt long)]
  cases round with
  | atBlank found => simp only [found]
  | within none => simp only [none]

/-- A text is split in rounds, which the length of the text is fuel enough for. -/
theorem rounds_splitFrom (restPos : 0 < rest) {fuel : Nat} (pos : 0 < capacity)
    (enough : t.length ≤ fuel) :
    Rounds rest capacity inside t (splitFrom rest fuel capacity inside t) := by
  induction fuel generalizing capacity inside t with
  | zero => exact .last (Nat.le_trans enough (Nat.zero_le capacity))
  | succ fuel ih =>
      by_cases fits : t.length ≤ capacity
      · rw [splitFrom_of_fits fits]
        exact .last fits
      · have long : capacity < t.length := Nat.lt_of_not_le fits
        obtain ⟨piece, behind, left, round⟩ := exists_round capacity inside t
        have shorter : left.length < t.length := round.length_lt pos long
        rw [round.splitFrom_eq long]
        exact .next long round (ih restPos (by omega))

theorem rounds_split {first : Nat} (firstPos : 0 < first) (restPos : 0 < rest) (t : Text) :
    Rounds rest first false t (split first rest t) :=
  rounds_splitFrom restPos firstPos (Nat.le_refl _)

/-- No two splittings of a text come to an end. -/
theorem Rounds.unique (h : Rounds rest capacity inside t pieces) {others : List Piece}
    (again : Rounds rest capacity inside t others) : others = pieces := by
  induction h generalizing others with
  | last fits =>
      cases again with
      | last => rfl
      | next long => exact absurd fits (Nat.not_le_of_gt long)
  | next long round _ ih =>
      cases again with
      | last fits => exact absurd fits (Nat.not_le_of_gt long)
      | next _ same more =>
          obtain ⟨rfl, rfl, rfl⟩ := round.unique same
          rw [ih more]

theorem Rounds.of_break (h : Rounds rest capacity inside t pieces) (long : capacity < t.length)
    {position : Nat} (found : lastBreak? inside 0 (t.take capacity) = some position) :
    ∃ others, pieces = ⟨t.take position, false⟩ :: others ∧
      Rounds rest rest false (t.drop position) others := by
  cases h with
  | last fits => exact absurd fits (Nat.not_le_of_gt long)
  | next _ round others =>
      obtain ⟨rfl, rfl, rfl⟩ := (Round.atBlank found).unique round
      exact ⟨_, rfl, others⟩

theorem Rounds.filled (h : Rounds rest capacity inside t pieces) (restPos : 0 < rest)
    (pos : 0 < capacity) (some : t ≠ []) : ∀ piece ∈ pieces, piece.text ≠ [] := by
  induction h with
  | last => exact List.forall_mem_singleton.mpr some
  | next long round _ ih =>
      have others := ih restPos (round.left_ne_nil long)
      exact List.forall_mem_cons.mpr ⟨round.text_ne_nil pos long, others⟩

/-- There are no more rounds than characters. -/
theorem Rounds.length_le (h : Rounds rest capacity inside t pieces) (restPos : 0 < rest)
    (pos : 0 < capacity) (some : t ≠ []) : pieces.length ≤ t.length := by
  induction h with
  | last => exact List.length_pos_iff.mpr some
  | next long round _ ih =>
      have shorter := round.length_lt pos long
      have others := ih restPos (round.left_ne_nil long)
      rw [List.length_cons]
      omega

end
end FortranWriter.Layout
