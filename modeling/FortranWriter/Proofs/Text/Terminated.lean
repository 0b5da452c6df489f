import FortranWriter.Proofs.Text.OneLine
/-! Texts in which every line ends in a line feed and nothing else, and what the lines of any other
text become when each of them is given one. -/
namespace FortranWriter.Text

/-- The lines of a text, each with a line feed behind it. -/
def normalised (t : Text) : Text :=
  t.lines.flatMap (· ++ ['\n'])

/-- Every line ends in a line feed that no carriage return stands in front of. -/
structure Terminated (t : Text) : Prop where
  ended : ∀ c, t.getLast? = some c → c = '\n'
  bare : ¬ ['\r', '\n'] <:+: t

theorem getLast?_normalised (t : Text) :
    t.normalised = [] ∨ t.normalised.getLast? = some '\n' := by
  unfold normalised
  rcases List.eq_nil_or_concat t.lines with none | ⟨front, line, found⟩
  · left
    rw [none]
    rfl
  · right
    rw [found, List.concat_eq_append, List.flatMap_append, List.flatMap_singleton,
      ← List.append_assoc, List.getLast?_concat]

theorem terminated_nil : Terminated [] := by
  constructor
  · intro c last
    cases last
  · intro pair
    cases List.infix_nil.mp pair

theorem not_terminated_singleton {c : Char} (other : c ≠ '\n') : ¬ Terminated [c] :=
  fun h => other (h.ended c rfl)

theorem terminated_cons_iff {c : Char} {t : Text} (filled : t ≠ []) :
    Terminated (c :: t) ↔ Terminated t ∧ ¬ (c = '\r' ∧ t.head? = some '\n') := by
  obtain ⟨d, u, rfl⟩ := List.exists_cons_of_ne_nil filled
  have pair : ['\r', '\n'] <:+: c :: d :: u ↔ (c = '\r' ∧ d = '\n') ∨ ['\r', '\n'] <:+: d :: u := by
    rw [List.infix_cons_iff, List.cons_prefix_cons, List.cons_prefix_cons]
    simp only [List.nil_prefix, and_true, eq_comm]
  constructor
  · rintro ⟨ended, bare⟩
    rw [pair, not_or] at bare
    refine ⟨⟨ended, bare.2⟩, ?_⟩
    simpa only [List.head?_cons, Option.some.injEq] using bare.1
  · rintro ⟨⟨ended, bare⟩, apart⟩
    refine ⟨ended, ?_⟩
    rw [pair, not_or]
    exact ⟨by simpa only [List.head?_cons, Option.some.injEq] using apart, bare⟩

theorem newline_terminated_iff {t : Text} : Terminated ('\n' :: t) ↔ Terminated t := by
  cases t with
  | nil =>
      refine ⟨fun _ => terminated_nil, fun _ => ⟨fun c last => ?_, fun pair => ?_⟩⟩
      · cases last
        rfl
      · exact absurd pair.length_le (by decide)
  | cons d u =>
      rw [terminated_cons_iff (List.cons_ne_nil d u)]
      exact and_iff_left fun h => absurd h.1 (by decide)

theorem lines_eq_nil_iff {t : Text} : t.lines = [] ↔ t = [] := by
  fun_cases lines t <;> simp

/-- Exactly the texts whose lines end so are their own lines put together again. -/
theorem normalised_eq_iff {t : Text} : t.normalised = t ↔ t.Terminated := by
  unfold normalised
  fun_induction lines t with
  | case1 => exact ⟨fun _ => terminated_nil, fun _ => rfl⟩
  | case2 rest ih =>
      rw [newline_terminated_iff, ← ih, List.flatMap_cons]
      exact ⟨List.tail_eq_of_cons_eq, congrArg _⟩
  | case3 rest ih =>
      constructor
      -- the carriage return is lost
      · intro same
        cases List.head_eq_of_cons_eq same
      · intro h
        exact absurd ⟨[], rest, rfl⟩ h.bare
  | case4 c rest newline _ none ih =>
      obtain rfl := lines_eq_nil_iff.mp none
      refine ⟨fun same => ?_, fun h => absurd h (not_terminated_singleton newline)⟩
      cases List.tail_eq_of_cons_eq same
  | case5 c rest newline apart line more found ih =>
      have filled : rest ≠ [] := by
        rintro rfl
        cases found
      rw [found, List.flatMap_cons] at ih
      rw [List.flatMap_cons, List.cons_append, List.cons_append, List.cons.injEq, eq_self, true_and,
        ih, terminated_cons_iff filled]
      refine (and_iff_left ?_).symm
      rintro ⟨rfl, head⟩
      obtain ⟨more, rfl⟩ := List.head?_eq_some_iff.mp head
      exact apart more rfl rfl

end FortranWriter.Text
