import FortranWriter.Proofs.Highlight.Lexemes
import FortranWriter.Proofs.Wording
/-! Numbers as loop bounds. The check of a bound and the highlighter tell in different ways what a
single numeric token is, and differ where the exponent of a number has a sign. -/
namespace FortranWriter
open Highlight (IsNumber lexemes)

namespace Text

theorem trim_of_filled {t : Text} (filled : ∀ c ∈ t, isBlank c = false) : t.trim = t :=
  trim_eq_self_iff.mpr ⟨fun c first => filled c (List.mem_of_mem_head? first),
    fun c last => filled c (List.mem_of_getLast? last)⟩

end Text

namespace Highlight
variable {sign t : Text} {c : Char}

theorem isTokenRest_of_part (h : c.isDigit = true ∨ c = '.' ∨ c ∈ "eEdD".toList) :
    Bound.isTokenRest c = true := by
  rcases h with digit | rfl | letter
  · rw [Bound.isTokenRest, Char.isAlphanum, digit, Bool.or_true]
    rfl
  · decide
  · have each : "eEdD".toList.all Bound.isTokenRest = true := by decide
    exact List.all_eq_true.mp each c letter

theorem IsNumber.isBlank_of_mem (h : IsNumber sign t) (mem : c ∈ t) : isBlank c = false := by
  rcases h.mem_cases mem with (digit | rfl | letter) | signed
  · exact isBlank_of_isDigit digit
  · decide
  · have letters : "eEdD".toList.all (fun c => !isBlank c) = true := by decide
    simpa using List.all_eq_true.mp letters c letter
  · have signs : ∀ c ∈ sign, isBlank c = false := h.forall_mem_sign (by decide) (by decide)
    exact signs c signed

/-- A number reads on as one token of a bound, unless there is a sign in its exponent. -/
theorem IsNumber.all_isTokenRest_iff (h : IsNumber sign t) :
    t.all Bound.isTokenRest = true ↔ ¬ HasSignedExponent t := by
  rw [List.all_eq_true]
  constructor
  · rintro token ⟨other, some, again⟩
    obtain ⟨c, more, rfl⟩ := List.exists_cons_of_ne_nil some
    have outside : ∀ d ∈ c :: more, Bound.isTokenRest d = false :=
      again.forall_mem_sign (by decide) (by decide)
    have refused := outside c List.mem_cons_self
    rw [token c (again.subset List.mem_cons_self)] at refused
    cases refused
  · intro unsigned c mem
    have none : sign = [] := Classical.byContradiction fun some => unsigned ⟨sign, some, h⟩
    rcases h.mem_cases mem with part | signed
    · exact isTokenRest_of_part part
    · rw [none] at signed
      cases signed

end Highlight

namespace Bound

/-- One sign is dropped, and what does not begin with a sign is left. -/
theorem dropSign_signed {sign t : Text} {c : Char}
    (signed : sign = [] ∨ sign = ['+'] ∨ sign = ['-']) (digit : c.isDigit = true ∨ c = '.') :
    Decimal.dropSign (sign ++ c :: t) = c :: t := by
  rcases signed with rfl | rfl | rfl
  · rw [List.nil_append]
    unfold Decimal.dropSign
    split
    · case _ same =>
        cases same
        exact absurd digit (by decide)
    · case _ same =>
        cases same
        exact absurd digit (by decide)
    · rfl
  · rfl
  · rfl

theorem dropSign_append {sign : Option Char} (signed : ∀ c ∈ sign, c = '+' ∨ c = '-') {t : Text}
    (digit : ∃ d rest, t = d :: rest ∧ d.isDigit = true) :
    Decimal.dropSign (sign.toList ++ t) = t := by
  obtain ⟨d, rest, rfl, digit⟩ := digit
  cases sign with
  | none => exact dropSign_signed (.inl rfl) (.inl digit)
  | some c =>
      rcases signed c rfl with rfl | rfl
      · rfl
      · rfl

/-- A text without blanks is refused only if it is a numeric token and not an integer. -/
theorem render_of_filled {t : Text} (some : t ≠ []) (filled : ∀ c ∈ t, isBlank c = false) :
    (expression t).render =
      if isNumeric t && !isInteger t then .error (.malformedBound t) else .ok t := by
  have shown : t.isEmpty = false := List.isEmpty_eq_false_iff.mpr some
  have single := Text.isSingleLine_of_filled filled
  simp only [render, Text.trim_of_filled filled, shown, single, Bool.not_true, Bool.false_eq_true,
    if_false]

section
variable {used number : Text} {sign : Option Char} (signed : ∀ c ∈ sign, c = '+' ∨ c = '-')
  (shape : IsNumber used number)
include signed shape

theorem isNumeric_append_iff :
    isNumeric (sign.toList ++ number) = true ↔ ¬ Highlight.HasSignedExponent number := by
  obtain ⟨d, rest, cut, digit⟩ := shape.exists_cons
  have first : isTokenRest d = true := Highlight.isTokenRest_of_part (.inl digit)
  rw [← shape.all_isTokenRest_iff, isNumeric, dropSign_append signed shape.exists_cons, cut,
    List.all_cons]
  simp [first, digit]

theorem isInteger_append_iff :
    isInteger (sign.toList ++ number) = true ↔ ∀ c ∈ number, c.isDigit = true := by
  obtain ⟨d, rest, cut, -⟩ := shape.exists_cons
  have some : number ≠ [] := by
    rw [cut]
    exact List.cons_ne_nil d rest
  rw [isInteger, dropSign_append signed shape.exists_cons, Decimal.isDigits_iff, and_iff_right some]

theorem filled_append : ∀ c ∈ sign.toList ++ number, isBlank c = false := by
  intro c mem
  rcases List.mem_append.mp mem with front | inside
  · rcases signed c (Option.mem_toList.mp front) with rfl | rfl
    · decide
    · decide
  · exact shape.isBlank_of_mem inside

end

theorem exists_isNumber_of_tokens {text number : Text} {sign : Option Char}
    (tokens : lexemes text = sign.toList.map (fun c => ⟨.operator, [c]⟩) ++ [⟨.numeric, number⟩]) :
    text = sign.toList ++ number ∧ ∃ used, IsNumber used number := by
  constructor
  · have covered : Highlight.textOf (lexemes text) = text := (Highlight.covers_lexemes text).text_eq
    rw [← covered, tokens]
    cases sign with
    | none => simp [Highlight.textOf]
    | some c => simp [Highlight.textOf]
  · have mem : ⟨.numeric, number⟩ ∈ lexemes text := by
      rw [tokens]
      exact List.mem_append_right _ (List.mem_singleton_self _)
    exact Highlight.exists_isNumber_of_mem mem

/-- What the highlighter shows as a single number, behind a sign or not, is accepted as a bound
exactly if it is an integer or its exponent has a sign of its own. -/
theorem render_number {text number : Text} {sign : Option Char}
    (signed : ∀ c ∈ sign, c = '+' ∨ c = '-')
    (tokens : lexemes text = sign.toList.map (fun c => ⟨.operator, [c]⟩) ++ [⟨.numeric, number⟩]) :
    text = sign.toList ++ number ∧
      (((∀ c ∈ number, c.isDigit = true) ∨ Highlight.HasSignedExponent number) ∧
          (expression text).render = .ok text ∨
        ¬ ((∀ c ∈ number, c.isDigit = true) ∨ Highlight.HasSignedExponent number) ∧
          (expression text).render = .error (.malformedBound text)) := by
  obtain ⟨rfl, used, shape⟩ := exists_isNumber_of_tokens tokens
  have numeric := isNumeric_append_iff signed shape
  have integer := isInteger_append_iff signed shape
  have some : sign.toList ++ number ≠ [] := by
    obtain ⟨d, rest, rfl, -⟩ := shape.exists_cons
    exact List.append_ne_nil_of_right_ne_nil _ (List.cons_ne_nil _ _)
  refine ⟨rfl, ?_⟩
  rw [render_of_filled some (filled_append signed shape)]
  by_cases accepted : (∀ c ∈ number, c.isDigit = true) ∨ Highlight.HasSignedExponent number
  · refine .inl ⟨accepted, if_neg ?_⟩
    rw [Bool.and_eq_true, numeric, Bool.not_eq_true', ← Bool.not_eq_true, integer]
    tauto
  · refine .inr ⟨accepted, if_pos ?_⟩
    rw [not_or] at accepted
    rw [Bool.and_eq_true, numeric, Bool.not_eq_true', ← Bool.not_eq_true, integer]
    exact accepted.symm

/-- A real number with a sign in its exponent and another in front of it is no
integer, and accepted. -/
theorem render_number_signed :
    lexemes "-2.5d+3".toList = [⟨.operator, ['-']⟩, ⟨.numeric, "2.5d+3".toList⟩] ∧
      Highlight.HasSignedExponent "2.5d+3".toList ∧
      (expression "-2.5d+3".toList).render = .ok "-2.5d+3".toList := by
  have tokens : lexemes "-2.5d+3".toList = [⟨.operator, ['-']⟩, ⟨.numeric, "2.5d+3".toList⟩] := by
    decide +kernel
  have shape : Highlight.HasSignedExponent "2.5d+3".toList :=
    ⟨['+'], List.cons_ne_nil _ _, ['2'], ['.', '5'], ['d', '+', '3'], rfl, List.cons_ne_nil _ _,
      List.forall_mem_singleton.mpr (by decide), .point (List.forall_mem_singleton.mpr (by decide)),
      .scaled (by decide) (.inr (.inl rfl)) (List.forall_mem_singleton.mpr (by decide))⟩
  have signed : ∀ c ∈ some '-', c = '+' ∨ c = '-' := by
    rintro c ⟨⟩
    exact .inr rfl
  rcases (render_number signed tokens).2 with ⟨-, accepted⟩ | ⟨none, -⟩
  · exact ⟨tokens, shape, accepted⟩
  · exact absurd (.inr shape) none

/-- A single number that is no integer need not be refused. -/
theorem not_render_number :
    lexemes "1e+5".toList = [⟨.numeric, "1e+5".toList⟩] ∧
      (¬ ∀ c ∈ "1e+5".toList, c.isDigit = true) ∧
      (expression "1e+5".toList).render = .ok "1e+5".toList := by
  refine ⟨by decide +kernel, fun digits => ?_, by decide +kernel⟩
  exact absurd (digits 'e' (by decide)) (by decide)

end Bound
end FortranWriter
