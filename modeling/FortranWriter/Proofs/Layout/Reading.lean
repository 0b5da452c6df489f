import FortranWriter.Fragment
import FortranWriter.Layout.Reading
import FortranWriter.Proofs.Text.Blanks
/-! The shapes of a line, as texts put together from blanks, digits and the rest, and that reading a
line finds exactly the shape it has. -/
namespace FortranWriter

theorem Line.indentation_eq (line : Line) : line.indentation = 2 * line.depth :=
  Nat.mul_comm _ _

namespace Layout

/-- Blanks, an exclamation mark, blanks, and the content of the comment. -/
structure IsComment (t content : Text) : Prop where
  parts : ∃ lead gap : Text, t = lead ++ '!' :: (gap ++ content) ∧
    lead.isAllBlank = true ∧ gap.isAllBlank = true
  filled : content.BeginsFilled

/-- Blanks or none, one to five digits, at least one blank, and a statement. -/
structure IsLabelled (t lead label statement : Text) : Prop where
  parts : ∃ gap : Text, t = lead ++ (label ++ (gap ++ statement)) ∧
    gap ≠ [] ∧ gap.isAllBlank = true
  lead_blank : lead.isAllBlank = true
  digits : ∀ c ∈ label, c.isDigit = true
  one_le : 1 ≤ label.length
  le_five : label.length ≤ 5
  nonempty : statement ≠ []
  filled : statement.BeginsFilled

theorem isToken_iff (label : Text) : Label.isToken label = true ↔
    (∀ c ∈ label, c.isDigit = true) ∧ 1 ≤ label.length ∧ label.length ≤ 5 := by
  rw [Label.isToken, Bool.and_eq_true, Decimal.isDigits_iff, decide_eq_true_eq,
    ← List.length_pos_iff]
  exact ⟨fun h => ⟨h.1.2, h.1.1, h.2⟩, fun h => ⟨⟨h.2.1, h.1⟩, h.2.2⟩⟩

theorem IsComment.trimStart_eq {t content : Text} (h : IsComment t content) :
    ∃ rest : Text, t.trimStart = '!' :: rest ∧ rest.trimStart = content := by
  obtain ⟨⟨lead, gap, text, leadBlank, gapBlank⟩, filled⟩ := h
  refine ⟨gap ++ content, ?_, Text.trimStart_append gapBlank filled⟩
  rw [text]
  exact Text.trimStart_append leadBlank (Text.beginsFilled_cons (by decide))

theorem isComment_of_trimStart {t rest : Text} (h : t.trimStart = '!' :: rest) :
    IsComment t rest.trimStart := by
  refine ⟨⟨t.leading, rest.leading, ?_, t.leading_isAllBlank, rest.leading_isAllBlank⟩,
    rest.beginsFilled_trimStart⟩
  rw [rest.leading_append_trimStart, ← h, t.leading_append_trimStart]

theorem exists_isComment_iff {t : Text} :
    (∃ content, IsComment t content) ↔ t.trimStart.head? = some '!' := by
  rw [List.head?_eq_some_iff]
  constructor
  · rintro ⟨content, comment⟩
    obtain ⟨rest, mark, -⟩ := comment.trimStart_eq
    exact ⟨rest, mark⟩
  · rintro ⟨rest, mark⟩
    exact ⟨_, isComment_of_trimStart mark⟩

instance (t : Text) : Decidable (∀ content, ¬ IsComment t content) :=
  decidable_of_iff (t.trimStart.head? ≠ some '!')
    ((not_congr exists_isComment_iff).symm.trans not_exists)

theorem IsLabelled.labelled?_eq {t lead label statement : Text}
    (h : IsLabelled t lead label statement) :
    labelled? t = some (lead, label, statement) := by
  obtain ⟨⟨gap, text, gapSome, gapBlank⟩, leadBlank, digits, one_le, le_five, nonempty, filled⟩ := h
  obtain ⟨g, more, rfl⟩ := List.exists_cons_of_ne_nil gapSome
  obtain ⟨d, label, rfl⟩ := List.exists_cons_of_length_pos one_le
  have blank : isBlank g = true := Text.isAllBlank_iff.mp gapBlank g List.mem_cons_self
  have digit : d.isDigit = true := digits d List.mem_cons_self
  have stop : ∀ c, (g :: more ++ statement).head? = some c → c.isDigit = false := by
    intro c head
    cases head
    exact Bool.eq_false_iff.mpr fun isDigit => by
      rw [isBlank_of_isDigit isDigit] at blank
      cases blank
  have labelFilled : Text.BeginsFilled (d :: label ++ (g :: more ++ statement)) :=
    Text.beginsFilled_cons (isBlank_of_isDigit digit)
  have number : t.trimStart = d :: label ++ (g :: more ++ statement) := by
    rw [text]; exact Text.trimStart_append leadBlank labelFilled
  have front : t.leading = lead := by
    rw [text]; exact Text.leading_append leadBlank labelFilled
  have behind : Text.trimStart (g :: more ++ statement) = statement :=
    Text.trimStart_append gapBlank filled
  have token : Label.isToken (d :: label) = true := (isToken_iff _).mpr ⟨digits, one_le, le_five⟩
  have shown : statement.isEmpty = false := List.isEmpty_eq_false_iff.mpr nonempty
  rw [labelled?, number, Text.takeWhile_of_stop digits stop, Text.dropWhile_of_stop digits stop,
    behind, front, token, shown, List.cons_append, List.head?_cons, Option.any_some, blank]
  rfl

theorem isLabelled_of_labelled? {t lead label statement : Text}
    (h : labelled? t = some (lead, label, statement)) : IsLabelled t lead label statement := by
  simp only [labelled?] at h
  split at h
  · case _ found =>
      cases h
      simp only [Bool.and_eq_true, Bool.not_eq_true', List.isEmpty_eq_false_iff] at found
      obtain ⟨⟨token, gapHead⟩, nonempty⟩ := found
      obtain ⟨digits, one_le, le_five⟩ := (isToken_iff _).mp token
      refine ⟨⟨Text.leading (t.trimStart.dropWhile Char.isDigit), ?_, ?_,
        Text.leading_isAllBlank _⟩,
        t.leading_isAllBlank, digits, one_le, le_five, nonempty, Text.beginsFilled_trimStart _⟩
      · rw [Text.leading_append_trimStart, List.takeWhile_append_dropWhile,
          Text.leading_append_trimStart]
      · intro empty
        have filled := Text.beginsFilled_trimStart (t.trimStart.dropWhile Char.isDigit)
        have whole := Text.leading_append_trimStart (t.trimStart.dropWhile Char.isDigit)
        rw [empty, List.nil_append] at whole
        rw [whole] at filled
        obtain ⟨c, head, blank⟩ := (Option.any_eq_true _ _).mp gapHead
        rw [filled c head] at blank
        cases blank
  · cases h

theorem labelled?_eq_none_iff {t : Text} :
    labelled? t = none ↔ ∀ lead label statement, ¬ IsLabelled t lead label statement := by
  rw [Option.eq_none_iff_forall_ne_some]
  constructor
  · intro none lead label statement shape
    exact none _ shape.labelled?_eq
  · intro unlabelled parts some
    exact unlabelled _ _ _ (isLabelled_of_labelled? some)

instance (t : Text) : Decidable (∀ lead label statement, ¬ IsLabelled t lead label statement) :=
  decidable_of_iff _ labelled?_eq_none_iff

theorem read_eq_comment_iff (t content : Text) :
    read t = .comment content ↔ IsComment t content := by
  constructor
  · intro h
    rw [read] at h
    split at h
    · case _ rest mark =>
        cases h
        exact isComment_of_trimStart mark
    · split at h <;> cases h
  · intro h
    obtain ⟨rest, mark, behind⟩ := h.trimStart_eq
    rw [read, mark]
    exact congrArg Reading.comment behind

theorem IsLabelled.not_isComment {t lead label statement content : Text}
    (h : IsLabelled t lead label statement) : ¬ IsComment t content := by
  intro comment
  obtain ⟨rest, mark, -⟩ := comment.trimStart_eq
  obtain ⟨⟨gap, text, -, -⟩, leadBlank, digits, one_le, -, -, -⟩ := h
  cases label with
  | nil => exact absurd one_le (by decide)
  | cons d label =>
      have digit := digits d List.mem_cons_self
      have filled : Text.BeginsFilled (d :: label ++ (gap ++ statement)) :=
        Text.beginsFilled_cons (isBlank_of_isDigit digit)
      rw [text, Text.trimStart_append leadBlank filled] at mark
      cases mark
      cases digit

theorem read_eq_labelled_iff (t lead label statement : Text) :
    read t = .labelled lead label statement ↔ IsLabelled t lead label statement := by
  constructor
  · intro h
    rw [read] at h
    split at h
    · cases h
    · split at h
      · case _ found =>
          cases h
          exact isLabelled_of_labelled? found
      · cases h
  · intro h
    rw [read]
    split
    · case _ rest mark => exact absurd (isComment_of_trimStart mark) h.not_isComment
    · rw [h.labelled?_eq]

theorem read_eq_plain_iff (t statement : Text) : read t = .plain statement ↔
    statement = t ∧ (∀ content, ¬ IsComment t content) ∧
      ∀ lead label rest, ¬ IsLabelled t lead label rest := by
  constructor
  · intro h
    refine ⟨?_, ?_, ?_⟩
    · rw [read] at h
      split at h
      · cases h
      · split at h <;> cases h
        rfl
    · intro content comment
      rw [(read_eq_comment_iff t content).mpr comment] at h
      cases h
    · intro lead label rest labelled
      rw [(read_eq_labelled_iff t lead label rest).mpr labelled] at h
      cases h
  · rintro ⟨rfl, noComment, noLabel⟩
    cases found : read statement with
    | comment content => exact absurd ((read_eq_comment_iff _ _).mp found) (noComment content)
    | labelled lead label rest =>
        exact absurd ((read_eq_labelled_iff _ _ _ _).mp found) (noLabel lead label rest)
    | plain other =>
        rw [read] at found
        split at found
        · cases found
        · split at found <;> cases found
          rfl

end Layout
end FortranWriter
