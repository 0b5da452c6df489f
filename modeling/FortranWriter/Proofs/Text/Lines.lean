import FortranWriter.Proofs.Text.Terminated
/-! How many lines a text falls into, and which texts have a carriage return in a line. -/
namespace FortranWriter.Text

/-- A carriage return that no line feed follows. -/
def HasLoneReturn (t : Text) : Prop :=
  ∃ front rest, t = front ++ '\r' :: rest ∧ rest.head? ≠ some '\n'

section
variable {c : Char} {t u : Text}

theorem not_hasLoneReturn_nil : ¬ HasLoneReturn [] := by
  rintro ⟨front, rest, text, -⟩
  exact absurd text.symm (List.append_ne_nil_of_right_ne_nil _ (List.cons_ne_nil _ _))

theorem hasLoneReturn_cons_iff :
    HasLoneReturn (c :: t) ↔ (c = '\r' ∧ t.head? ≠ some '\n') ∨ HasLoneReturn t := by
  constructor
  · rintro ⟨front, rest, text, apart⟩
    cases front with
    | nil =>
        cases text
        exact .inl ⟨rfl, apart⟩
    | cons d front =>
        cases text
        exact .inr ⟨front, rest, rfl, apart⟩
  · rintro (⟨rfl, apart⟩ | ⟨front, rest, rfl, apart⟩)
    · exact ⟨[], t, rfl, apart⟩
    · exact ⟨c :: front, rest, rfl, apart⟩

theorem hasLoneReturn_append_iff (bare : '\r' ∉ u) : HasLoneReturn (u ++ t) ↔ HasLoneReturn t := by
  induction u with
  | nil => rfl
  | cons c u ih =>
      rw [List.mem_cons, not_or] at bare
      rw [List.cons_append, hasLoneReturn_cons_iff, ih bare.2]
      exact or_iff_right fun h => bare.1 h.1.symm

/-- Whether a text has one is settled where its line ends. -/
theorem hasLoneReturn_append_feed_iff (bare : '\r' ∉ u) :
    HasLoneReturn (t ++ '\n' :: u) ↔ HasLoneReturn (t ++ ['\n']) := by
  induction t with
  | nil =>
      have without : ¬ HasLoneReturn u := by
        rintro ⟨front, rest, rfl, -⟩
        simp at bare
      simp [hasLoneReturn_cons_iff, without, not_hasLoneReturn_nil]
  | cons c t ih =>
      have next : (t ++ '\n' :: u).head? = (t ++ ['\n']).head? := by cases t <;> rfl
      rw [List.cons_append, List.cons_append, hasLoneReturn_cons_iff, hasLoneReturn_cons_iff, ih,
        next]

/-- Only those in front of a line feed go with it. -/
theorem exists_return_mem_lines_iff : (∃ line ∈ t.lines, '\r' ∈ line) ↔ t.HasLoneReturn := by
  fun_induction lines t with
  | case1 => simp [not_hasLoneReturn_nil]
  | case2 rest ih => simpa [hasLoneReturn_cons_iff] using ih
  | case3 rest ih => simpa [hasLoneReturn_cons_iff] using ih
  | case4 c rest _ _ none ih =>
      obtain rfl := lines_eq_nil_iff.mp none
      simp [hasLoneReturn_cons_iff, not_hasLoneReturn_nil, eq_comm]
  | case5 c rest _ apart line more found ih =>
      have lone : c = '\r' ∧ rest.head? ≠ some '\n' ↔ c = '\r' := by
        refine and_iff_left_of_imp fun carriage feed => ?_
        obtain ⟨behind, same⟩ := List.head?_eq_some_iff.mp feed
        exact apart behind carriage same
      rw [found] at ih
      rw [hasLoneReturn_cons_iff, lone, ← ih]
      simp only [List.mem_cons, exists_eq_or_imp, or_assoc, @eq_comm _ '\r']

theorem length_lines_newline_cons : (lines ('\n' :: t)).length = t.lines.length + 1 := by
  rw [lines, List.length_cons]

/-- A character that ends no line belongs to the first of those behind it. -/
theorem length_lines_cons (other : c ≠ '\n') (filled : t ≠ []) :
    (lines (c :: t)).length = t.lines.length := by
  generalize whole : c :: t = s
  cases s using lines.fun_cases with
  | case1 => cases whole
  | case2 rest =>
      cases whole
      exact absurd rfl other
  | case3 rest =>
      cases whole
      rw [lines, lines]
  | case4 d rest _ _ none =>
      cases whole
      exact absurd (lines_eq_nil_iff.mp none) filled
  | case5 d rest newline apart line more found =>
      cases whole
      rw [lines, found]
      · rfl
      · exact newline
      · exact apart

theorem length_lines_append_of_one (filled : u ≠ []) (one : u.lines.length = 1) :
    (lines (t ++ u)).length = t.count '\n' + 1 := by
  induction t with
  | nil => exact one
  | cons c t ih =>
      by_cases newline : c = '\n'
      · rw [newline, List.cons_append, length_lines_newline_cons, ih, List.count_cons_self]
      · rw [List.cons_append,
          length_lines_cons newline (List.append_ne_nil_of_right_ne_nil _ filled), ih,
          List.count_cons_of_ne newline]

/-- A text has a line for each line feed, and one more if there is something
behind the last of them. -/
theorem length_lines_append (filled : u ≠ []) (unbroken : '\n' ∉ u) :
    (lines (t ++ u)).length = t.count '\n' + 1 :=
  length_lines_append_of_one filled (by rw [lines_eq_singleton filled unbroken]; rfl)

def Ended (t : Text) : Prop :=
  ∀ c, t.getLast? = some c → c = '\n'

theorem length_lines_of_ended (ended : t.Ended) : t.lines.length = t.count '\n' := by
  rcases List.eq_nil_or_concat t with rfl | ⟨front, c, rfl⟩
  · rfl
  · rw [List.concat_eq_append] at ended ⊢
    obtain rfl := ended c List.getLast?_concat
    rw [length_lines_append_of_one (List.cons_ne_nil _ _) rfl, List.count_append]
    rfl

theorem length_lines_of_not_ended (more : ¬ t.Ended) : t.lines.length = t.count '\n' + 1 := by
  rcases List.eq_nil_or_concat t with rfl | ⟨front, c, rfl⟩
  · exact absurd (fun c last => nomatch last) more
  · rw [List.concat_eq_append] at more ⊢
    have other : c ≠ '\n' := by
      rintro rfl
      refine more fun d last => ?_
      rw [List.getLast?_concat] at last
      exact (Option.some.inj last).symm
    have unbroken : '\n' ∉ [c] := fun mem => other (List.mem_singleton.mp mem).symm
    rw [length_lines_append (List.cons_ne_nil _ _) unbroken, List.count_append,
      List.count_eq_zero_of_not_mem unbroken]

/-- A place has a line of the text to itself unless it is behind a last line
feed, with nothing there. -/
theorem getElem?_lines_eq_none_iff :
    (lines (t ++ u))[t.count '\n']? = none ↔ u = [] ∧ (t ++ u).Ended := by
  rw [List.getElem?_eq_none_iff]
  by_cases ended : (t ++ u).Ended
  · rw [length_lines_of_ended ended, List.count_append]
    constructor
    · intro bound
      have bare : '\n' ∉ u := List.count_eq_zero.mp (by omega)
      refine ⟨?_, ended⟩
      rcases List.eq_nil_or_concat u with none | ⟨front, c, rfl⟩
      · exact none
      · rw [List.concat_eq_append] at ended bare
        have last := ended c (by rw [← List.append_assoc, List.getLast?_concat])
        exact absurd (List.mem_append_right _ (List.mem_singleton.mpr last.symm)) bare
    · rintro ⟨rfl, -⟩
      exact Nat.le_refl _
  · rw [length_lines_of_not_ended ended, List.count_append]
    exact ⟨fun bound => absurd bound (by omega), fun h => absurd h.2 ended⟩

end

end FortranWriter.Text
