import FortranWriter.Text.Decimal
import Mathlib.Algebra.Group.Nat.Defs
import Mathlib.Data.List.Basic
/-! Digits by their values, the numbers that rows of digits denote, and the row that a number is
written as: of all that denote it the one without zeros in front. -/
namespace FortranWriter.Decimal

theorem toNat_of_isDigit {c : Char} (digit : c.isDigit = true) : 48 ≤ c.toNat ∧ c.toNat ≤ 57 := by
  simp only [Char.isDigit, ge_iff_le, UInt32.le_iff_toNat_le, Bool.and_eq_true,
    decide_eq_true_eq] at digit
  exact digit

theorem value_lt {c : Char} (digit : c.isDigit = true) : c.toNat - '0'.toNat < 10 := by
  have bounds := toNat_of_isDigit digit
  change c.toNat - 48 < 10
  omega

theorem value_pos {c : Char} (digit : c.isDigit = true) (nonzero : c ≠ '0') :
    0 < c.toNat - '0'.toNat := by
  have bounds := toNat_of_isDigit digit
  have other : c.toNat ≠ 48 := fun same => nonzero (Char.toNat_inj.mp same)
  change 0 < c.toNat - 48
  omega

theorem isDigits_iff {t : Text} : isDigits t = true ↔ t ≠ [] ∧ ∀ d ∈ t, d.isDigit = true := by
  simp only [isDigits, Bool.and_eq_true, Bool.not_eq_true', List.isEmpty_eq_false_iff,
    List.all_eq_true]

theorem isDigit_of_mem_ofNat {n : Nat} {c : Char} (h : c ∈ ofNat n) : c.isDigit = true :=
  Nat.isDigit_of_mem_toDigits (by decide) (by decide) h

theorem ofNat_ne_nil (n : Nat) : ofNat n ≠ [] :=
  Nat.toDigits_ne_nil

theorem isDigits_ofNat (n : Nat) : isDigits (ofNat n) = true :=
  isDigits_iff.mpr ⟨ofNat_ne_nil n, fun _ => isDigit_of_mem_ofNat⟩

theorem ofDigitChars_lt {digits : Text} (each : ∀ c ∈ digits, c.isDigit = true) (front : Nat) :
    Nat.ofDigitChars 10 digits front < (front + 1) * 10 ^ digits.length := by
  induction digits generalizing front with
  | nil =>
      rw [Nat.ofDigitChars_nil, List.length_nil, Nat.pow_zero, Nat.mul_one]
      exact Nat.lt_succ_self front
  | cons c digits ih =>
      rw [List.forall_mem_cons] at each
      have few := value_lt each.1
      rw [Nat.ofDigitChars_cons, List.length_cons, Nat.pow_succ']
      calc Nat.ofDigitChars 10 digits (10 * front + (c.toNat - '0'.toNat))
          < (10 * front + (c.toNat - '0'.toNat) + 1) * 10 ^ digits.length := ih each.2 _
        _ ≤ ((front + 1) * 10) * 10 ^ digits.length := Nat.mul_le_mul_right _ (by omega)
        _ = (front + 1) * (10 * 10 ^ digits.length) := Nat.mul_assoc _ _ _

theorem toNat_lt {digits : Text} (each : ∀ c ∈ digits, c.isDigit = true) :
    toNat digits < 10 ^ digits.length := by
  have bound := ofDigitChars_lt each 0
  rw [Nat.zero_add, Nat.one_mul] at bound
  exact bound

theorem le_ofDigitChars (digits : Text) (front : Nat) :
    front ≤ Nat.ofDigitChars 10 digits front := by
  induction digits generalizing front with
  | nil => exact Nat.le_refl _
  | cons c digits ih =>
      rw [Nat.ofDigitChars_cons]
      have further := ih (10 * front + (c.toNat - '0'.toNat))
      omega

theorem one_le_toNat_iff {digits : Text} (each : ∀ c ∈ digits, c.isDigit = true) :
    1 ≤ toNat digits ↔ ∃ c ∈ digits, c ≠ '0' := by
  induction digits with
  | nil => exact ⟨fun h => absurd h (by decide), fun ⟨_, h, _⟩ => absurd h List.not_mem_nil⟩
  | cons c digits ih =>
      rw [List.forall_mem_cons] at each
      rw [List.exists_mem_cons_iff, toNat, Nat.ofDigitChars_cons, Nat.mul_zero, Nat.zero_add]
      by_cases zero : c = '0'
      · subst zero
        rw [Nat.sub_self]
        refine (ih each.2).trans ⟨Or.inr, ?_⟩
        rintro (other | later)
        · exact absurd rfl other
        · exact later
      · exact ⟨fun _ => .inl zero,
          fun _ => Nat.le_trans (value_pos each.1 zero) (le_ofDigitChars digits _)⟩

theorem ofNat_value {c : Char} (digit : c.isDigit = true) : ofNat (c.toNat - '0'.toNat) = [c] := by
  have same : (c.toNat - '0'.toNat).digitChar = c := by
    rw [← Char.toNat_inj, Nat.toNat_digitChar_of_lt_ten (value_lt digit)]
    exact Nat.add_sub_cancel' (toNat_of_isDigit digit).1
  rw [ofNat, Nat.toDigits_of_lt_base (value_lt digit), same]

theorem ofNat_append_digit {n : Nat} {c : Char} (positive : 0 < n) (digit : c.isDigit = true) :
    ofNat (10 * n + (c.toNat - '0'.toNat)) = ofNat n ++ [c] := by
  rw [← ofNat_value digit]
  exact (Nat.toDigits_append_toDigits (by decide) positive (value_lt digit)).symm

/-- Digits that are read behind a number are written behind it again, zeros among them. -/
theorem ofNat_ofDigitChars {n : Nat} {digits : Text} (positive : 0 < n)
    (each : ∀ c ∈ digits, c.isDigit = true) :
    ofNat (Nat.ofDigitChars 10 digits n) = ofNat n ++ digits := by
  induction digits generalizing n with
  | nil => exact (List.append_nil _).symm
  | cons c digits ih =>
      obtain ⟨first, others⟩ := List.forall_mem_cons.mp each
      have further : 0 < 10 * n + (c.toNat - '0'.toNat) :=
        Nat.add_pos_left (Nat.mul_pos (by decide) positive) _
      rw [Nat.ofDigitChars_cons, ih further others, ofNat_append_digit positive first,
        List.append_assoc]
      rfl

/-- A number is written as any of its numerals without the zeros in front. -/
theorem ofNat_toNat {t : Text} (each : ∀ c ∈ t, c.isDigit = true) (nonzero : ∃ c ∈ t, c ≠ '0') :
    ofNat (toNat t) = t.dropWhile (· == '0') := by
  induction t with
  | nil =>
      obtain ⟨_, mem, _⟩ := nonzero
      cases mem
  | cons c t ih =>
      obtain ⟨first, others⟩ := List.forall_mem_cons.mp each
      by_cases zero : c = '0'
      -- a zero in front changes neither side
      · subst zero
        rw [List.exists_mem_cons_iff, or_iff_right (fun h => h rfl)] at nonzero
        exact ih others nonzero
      · have kept : (c :: t).dropWhile (· == '0') = c :: t :=
          List.dropWhile_cons_of_neg (by rwa [beq_iff_eq])
        rw [kept, toNat, Nat.ofDigitChars_cons, Nat.mul_zero, Nat.zero_add,
          ofNat_ofDigitChars (value_pos first zero) others, ofNat_value first]
        rfl

end FortranWriter.Decimal
