import FortranWriter.Proofs.Bound
/-! What a bound is rendered as, and which bounds are refused. A rendered bound is a normal form:
there is nothing to trim of it, and it is rendered as itself. -/
namespace FortranWriter

namespace Decimal

def toInt? (t : Text) : Option Int :=
  if isDigits (dropSign t) then
    some (if t.head? = some '-' then -(toNat (dropSign t) : Int) else toNat (dropSign t))
  else none

theorem exists_sign_append (t : Text) :
    ∃ sign, (sign = [] ∨ sign = ['+'] ∨ sign = ['-']) ∧ t = sign ++ dropSign t := by
  unfold dropSign
  split
  · exact ⟨['+'], .inr (.inl rfl), rfl⟩
  · exact ⟨['-'], .inr (.inr rfl), rfl⟩
  · exact ⟨[], .inl rfl, rfl⟩

/-- The decimal form of an integer reads back as that integer. -/
theorem toInt?_ofInt (n : Int) : toInt? (ofInt n) = some n := by
  cases n with
  | ofNat n =>
      have known := isDigits_ofNat n
      obtain ⟨c, rest, digits⟩ := List.exists_cons_of_ne_nil (ofNat_ne_nil n)
      have digit : c.isDigit = true := isDigit_of_mem_ofNat (digits ▸ List.mem_cons_self)
      have unsigned : dropSign (ofNat n) = ofNat n := by
        rw [digits]
        exact Bound.dropSign_signed (.inl rfl) (.inl digit)
      have positive : (ofNat n).head? ≠ some '-' := by
        rw [digits]
        rintro ⟨⟩
        cases digit
      rw [ofInt, toInt?, unsigned, if_pos known, if_neg positive, toNat_ofNat]
      rfl
  | negSucc n =>
      have negative : ('-' :: ofNat (n + 1)).head? = some '-' := rfl
      rw [ofInt, toInt?, dropSign, if_pos (isDigits_ofNat (n + 1)), if_pos negative, toNat_ofNat]
      rfl

theorem ofInt_eq_toString (n : Int) : ofInt n = (toString n).toList := by
  cases n with
  | ofNat n => exact String.toList_ofList.symm
  | negSucc n =>
      change _ = ("-" ++ (n + 1).repr).toList
      rw [String.toList_append, Nat.repr]
      exact congrArg ('-' :: ·) String.toList_ofList.symm

end Decimal

namespace Bound

inductive NumericToken : Text → Prop
  | mk {sign rest : Text} {c : Char} : sign = [] ∨ sign = ['+'] ∨ sign = ['-'] →
      c.isDigit = true ∨ c = '.' → (∀ d ∈ rest, d.isAlphanum = true ∨ d = '_' ∨ d = '.') →
      NumericToken (sign ++ c :: rest)

inductive WholeNumber : Text → Prop
  | mk {sign digits : Text} : sign = [] ∨ sign = ['+'] ∨ sign = ['-'] → digits ≠ [] →
      (∀ d ∈ digits, d.isDigit = true) → WholeNumber (sign ++ digits)

theorem isTokenRest_iff {c : Char} :
    isTokenRest c = true ↔ c.isAlphanum = true ∨ c = '_' ∨ c = '.' := by
  simp only [isTokenRest, Bool.or_eq_true, beq_iff_eq, or_assoc]

theorem isNumeric_iff {t : Text} : isNumeric t = true ↔ NumericToken t := by
  constructor
  · intro numeric
    obtain ⟨sign, signed, whole⟩ := Decimal.exists_sign_append t
    rw [isNumeric] at numeric
    split at numeric
    · cases numeric
    · case _ c rest found =>
        rw [found] at whole
        simp only [Bool.and_eq_true, Bool.or_eq_true, beq_iff_eq, List.all_eq_true,
          isTokenRest_iff] at numeric
        rw [whole]
        exact .mk signed numeric.1 numeric.2
  · rintro ⟨signed, first, others⟩
    rw [isNumeric, dropSign_signed signed first]
    simp only [Bool.and_eq_true, Bool.or_eq_true, beq_iff_eq, List.all_eq_true, isTokenRest_iff]
    exact ⟨first, others⟩

theorem isInteger_iff {t : Text} : isInteger t = true ↔ WholeNumber t := by
  rw [isInteger, Decimal.isDigits_iff]
  constructor
  · rintro ⟨some, digits⟩
    obtain ⟨sign, signed, whole⟩ := Decimal.exists_sign_append t
    rw [whole]
    exact .mk signed some digits
  · rintro ⟨signed, some, digits⟩
    obtain ⟨c, rest, rfl⟩ := List.exists_cons_of_ne_nil some
    rw [dropSign_signed signed (.inl (digits c List.mem_cons_self))]
    exact ⟨some, digits⟩

/-- A text that is taken as a bound once the blanks around it are gone. -/
structure Taken (t : Text) : Prop where
  some : t ≠ []
  single : '\n' ∉ t ∧ '\r' ∉ t
  whole : NumericToken t → WholeNumber t

theorem render_eq_ok_iff_taken {t s : Text} :
    (expression t).render = .ok s ↔ Taken t.trim ∧ s = t.trim := by
  rw [render_expression_eq_ok_iff, Text.isSingleLine_iff_not_mem, isNumeric_iff, isInteger_iff]
  constructor
  · rintro ⟨some, single, whole, same⟩
    exact ⟨⟨some, single, whole⟩, same⟩
  · rintro ⟨taken, same⟩
    exact ⟨taken.some, taken.single, taken.whole, same⟩

theorem WholeNumber.filled {t : Text} (whole : WholeNumber t) :
    t ≠ [] ∧ ∀ c ∈ t, isBlank c = false := by
  obtain ⟨signed, some, digits⟩ := whole
  refine ⟨List.append_ne_nil_of_right_ne_nil _ some, List.forall_mem_append.mpr ⟨?_, ?_⟩⟩
  · rcases signed with rfl | rfl | rfl
    · exact List.forall_mem_nil _
    · exact List.forall_mem_singleton.mpr (by decide)
    · exact List.forall_mem_singleton.mpr (by decide)
  · exact fun c mem => isBlank_of_isDigit (digits c mem)

theorem wholeNumber_ofInt (n : Int) : WholeNumber (Decimal.ofInt n) := by
  cases n with
  | ofNat n => exact .mk (.inl rfl) (Decimal.ofNat_ne_nil n) fun _ => Decimal.isDigit_of_mem_ofNat
  | negSucc n =>
      exact .mk (.inr (.inr rfl)) (Decimal.ofNat_ne_nil (n + 1)) fun _ =>
        Decimal.isDigit_of_mem_ofNat

theorem WholeNumber.taken {t : Text} (whole : WholeNumber t) : Taken t := by
  obtain ⟨some, filled⟩ := whole.filled
  have single : t.isSingleLine = true := Text.isSingleLine_of_filled filled
  exact ⟨some, Text.isSingleLine_iff_not_mem.mp single, fun _ => whole⟩

/-- What is rendered has been trimmed and taken, an integer included. -/
theorem normal_of_render {bound : Bound} {s : Text} (h : bound.render = .ok s) :
    s.Trimmed ∧ Taken s := by
  cases bound with
  | integer n =>
      cases h
      have whole := wholeNumber_ofInt n
      exact ⟨Text.trim_eq_self_iff.mp (Text.trim_of_filled whole.filled.2), whole.taken⟩
  | expression t =>
      obtain ⟨taken, rfl⟩ := render_eq_ok_iff_taken.mp h
      exact ⟨Text.trimmed_trim t, taken⟩

/-- A bound is rendered as a text that has nothing to trim and is rendered as itself. An integer is
rendered in decimal, and a text is taken exactly if something of one line is left when it is trimmed
which, if it is one numeric token, is whole. -/
theorem render_is_normal_form (bound : Bound) :
    (∀ s, bound.render = .ok s → s ≠ [] ∧ s.Trimmed ∧ '\n' ∉ s ∧ '\r' ∉ s ∧
      (expression s).render = .ok s) ∧
    (∀ n, bound = integer n → ∃ s, bound.render = .ok s ∧ s = (toString n).toList ∧
      Decimal.toInt? s = some n) ∧
    ∀ t, bound = expression t → ((∃ s, bound.render = .ok s) ↔ t.trim ≠ [] ∧
      ('\n' ∉ t.trim ∧ '\r' ∉ t.trim) ∧ ¬ (NumericToken t.trim ∧ ¬ WholeNumber t.trim)) := by
  refine ⟨fun s h => ?_, ?_, ?_⟩
  · obtain ⟨trimmed, taken⟩ := normal_of_render h
    have same : s.trim = s := Text.trim_eq_self_iff.mpr trimmed
    have again : (expression s).render = .ok s := by
      rw [render_eq_ok_iff_taken, same]
      exact ⟨taken, rfl⟩
    exact ⟨taken.some, trimmed, taken.single.1, taken.single.2, again⟩
  · rintro n rfl
    exact ⟨_, rfl, Decimal.ofInt_eq_toString n, Decimal.toInt?_ofInt n⟩
  · rintro t rfl
    simp only [render_eq_ok_iff_taken, exists_and_left, exists_eq, and_true, not_and, not_not]
    exact ⟨fun h => ⟨h.some, h.single, h.whole⟩, fun h => ⟨h.1, h.2.1, h.2.2⟩⟩

end Bound
end FortranWriter
