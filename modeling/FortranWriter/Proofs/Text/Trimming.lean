import FortranWriter.Proofs.Text.Blanks
import Mathlib.Data.List.DropRight
/-! Trimmed texts: trimming leaves a text with no blank at either end, and leaves exactly
such texts as they are. -/
namespace FortranWriter.Text
variable {t : Text}

def EndsFilled (t : Text) : Prop :=
  ∀ c, t.getLast? = some c → isBlank c = false

structure Trimmed (t : Text) : Prop where
  begins : t.BeginsFilled
  ends : t.EndsFilled

theorem trimEnd_eq_rdropWhile (t : Text) : t.trimEnd = t.rdropWhile isBlank :=
  rfl

theorem endsFilled_trimEnd (t : Text) : t.trimEnd.EndsFilled := by
  intro c last
  rw [trimEnd_eq_rdropWhile] at last
  have some : t.rdropWhile isBlank ≠ [] := by
    intro none
    rw [none] at last
    cases last
  rw [List.getLast?_eq_some_getLast some] at last
  cases last
  exact Bool.eq_false_iff.mpr (List.rdropWhile_last_not isBlank t some)

theorem BeginsFilled.trimEnd (filled : t.BeginsFilled) : t.trimEnd.BeginsFilled := by
  obtain ⟨blanks, whole⟩ : t.trimEnd <+: t := List.rdropWhile_prefix isBlank t
  intro c first
  apply filled c
  rw [← whole, List.head?_append, first, Option.some_or]

theorem trimmed_trim (t : Text) : t.trim.Trimmed :=
  ⟨(beginsFilled_trimStart t).trimEnd, endsFilled_trimEnd t.trimStart⟩

theorem trim_eq_self_iff : t.trim = t ↔ t.Trimmed := by
  constructor
  · intro same
    rw [← same]
    exact trimmed_trim t
  · rintro ⟨begins, ends⟩
    have front : Text.trimStart ([] ++ t) = t := trimStart_append rfl begins
    rw [List.nil_append] at front
    rw [trim, front, trimEnd_eq_rdropWhile, List.rdropWhile_eq_self_iff]
    intro some
    exact Bool.eq_false_iff.mp (ends _ (List.getLast?_eq_some_getLast some))

theorem EndsFilled.shown (ends : t.EndsFilled) (some : t ≠ []) : t.isAllBlank = false := by
  have filled := ends _ (List.getLast?_eq_some_getLast some)
  rw [← Bool.not_eq_true, isAllBlank_iff]
  intro blank
  rw [blank _ (List.getLast_mem some)] at filled
  cases filled

end FortranWriter.Text
