import FortranWriter.Proofs.Label
import FortranWriter.Proofs.Layout.Reading
import Mathlib.Data.Nat.Digits.Defs
/-! Which texts name a label: one to five digits, as long as they do not all read zero. A label
is written without zeros in front, and then read as the same label, also where it stands in
front of a statement. -/
namespace FortranWriter

namespace Decimal

def values (t : Text) : List Nat :=
  t.reverse.map fun c => c.toNat - '0'.toNat

theorem toNat_eq_ofDigits (t : Text) : toNat t = Nat.ofDigits 10 (values t) := by
  rw [toNat, values, Nat.ofDigitChars_eq_foldl, Nat.ofDigits_eq_foldr, List.foldr_map,
    List.foldr_reverse]
  simp only [Nat.cast_id, Nat.add_comm]

end Decimal

namespace Label

structure IsNumeral (t : Text) : Prop where
  digits : ∀ c ∈ t, c.isDigit = true
  one_le : 1 ≤ t.length
  le_five : t.length ≤ 5
  nonzero : ∃ c ∈ t, c ≠ '0'

theorem exists_parse_iff {t : Text} : (∃ label, parse t = .ok label) ↔ IsNumeral t := by
  simp only [parse_eq_ok_iff]
  constructor
  · rintro ⟨label, token, number⟩
    obtain ⟨digits, one_le, le_five⟩ := (Layout.isToken_iff t).mp token
    have positive : 1 ≤ Decimal.toNat t := by
      rw [← number]
      exact label.one_le
    exact ⟨digits, one_le, le_five, (Decimal.one_le_toNat_iff digits).mp positive⟩
  · rintro ⟨digits, one_le, le_five, nonzero⟩
    have positive := (Decimal.one_le_toNat_iff digits).mpr nonzero
    have small : Decimal.toNat t < 10 ^ 5 :=
      Nat.lt_of_lt_of_le (Decimal.toNat_lt digits) (Nat.pow_le_pow_right (by decide) le_five)
    have bounded : Decimal.toNat t ≤ maximumLabel := Nat.le_of_lt_succ small
    exact ⟨⟨Decimal.toNat t, positive, bounded⟩,
      (Layout.isToken_iff t).mpr ⟨digits, one_le, le_five⟩, rfl⟩

theorem isToken_text (label : Label) : isToken label.text = true := by
  rw [Layout.isToken_iff]
  refine ⟨fun c => Decimal.isDigit_of_mem_ofNat,
    List.length_pos_iff.mpr (Decimal.ofNat_ne_nil _), ?_⟩
  have small : label.number < 10 ^ 5 := Nat.lt_succ_of_le label.le_maximum
  exact (Nat.length_toDigits_le_iff (by decide) (by decide)).mpr small

theorem parse_text (label : Label) : parse label.text = .ok label :=
  parse_eq_ok_iff.mpr ⟨label.isToken_text, (Decimal.toNat_ofNat label.number).symm⟩

theorem text_eq_dropWhile_of_parse {t : Text} {label : Label} (h : parse t = .ok label) :
    label.text = t.dropWhile (· == '0') := by
  have numeral : IsNumeral t := exists_parse_iff.mp ⟨label, h⟩
  rw [text, (parse_eq_ok_iff.mp h).2, Decimal.ofNat_toNat numeral.digits numeral.nonzero]

/-- A label with a space behind it is read as the label of what follows. -/
theorem isLabelled_text (label : Label) {statement : Text} (some : statement ≠ [])
    (filled : statement.BeginsFilled) :
    Layout.IsLabelled (label.text ++ ' ' :: statement) [] label.text statement := by
  obtain ⟨digits, one_le, le_five⟩ := (Layout.isToken_iff _).mp label.isToken_text
  exact ⟨⟨[' '], rfl, List.cons_ne_nil _ _, rfl⟩, rfl, digits, one_le, le_five, some, filled⟩

/-- Exactly the rows of one to five digits that are not all zero are read as labels, each as the
number that it denotes in decimal. A label is written as any of its rows without the zeros in front,
which is read as that label again, also where it stands in front of a statement. -/
theorem parse_reads_numerals :
    (∀ t, (∃ label, parse t = .ok label) ↔ IsNumeral t) ∧
    (∀ t label, parse t = .ok label →
      label.number = Nat.ofDigits 10 (Decimal.values t) ∧ label.text = t.dropWhile (· == '0')) ∧
    ∀ label : Label, parse label.text = .ok label ∧
      ∀ c rest, isBlank c = false → '\n' ∉ c :: rest →
        Layout.read (label.text ++ ' ' :: c :: rest) = .labelled [] label.text (c :: rest) := by
  refine ⟨fun t => exists_parse_iff, fun t label h => ⟨?_, text_eq_dropWhile_of_parse h⟩, ?_⟩
  · rw [(parse_eq_ok_iff.mp h).2, Decimal.toNat_eq_ofDigits]
  · refine fun label => ⟨label.parse_text, fun c rest filled _ => ?_⟩
    exact (Layout.read_eq_labelled_iff _ _ _ _).mpr
      (label.isLabelled_text (List.cons_ne_nil c rest) (Text.beginsFilled_cons filled))

/-- Zeros in front are not written, but they count as digits. -/
example : (parse "00100".toList).map text = .ok "100".toList ∧
    parse "000100".toList = .error (.labelShape "000100".toList) :=
  ⟨rfl, rfl⟩

end Label
end FortranWriter
