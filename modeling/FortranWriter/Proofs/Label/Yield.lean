import FortranWriter.Proofs.Label
/-! How many labels a supply still has: as many as can be taken from it one after the other, which
for a supply that starts at a label is told by the last number of its sequence. -/
namespace FortranWriter.LabelSupply
open Success

/-- So many labels can be taken from a supply, and it is left at another. -/
def Yields (supply : LabelSupply) (count : Nat) (after : LabelSupply) : Prop :=
  ∃ numbers, numbers.length = count ∧ Draws supply numbers after

section
variable {supply after : LabelSupply}

theorem yields_zero_iff : Yields supply 0 after ↔ after = supply := by
  constructor
  · rintro ⟨numbers, none, drawn⟩
    rw [List.length_eq_zero_iff] at none
    subst none
    cases drawn
    rfl
  · rintro rfl
    exact ⟨[], rfl, .nil⟩

theorem yields_succ_iff {count : Nat} : Yields supply (count + 1) after ↔
    ∃ label middle, supply.take = .ok (label, middle) ∧ Yields middle count after := by
  constructor
  · rintro ⟨numbers, size, drawn⟩
    cases drawn with
    | nil => cases size
    | cons taken others => exact ⟨_, _, taken, _, Nat.succ.inj size, others⟩
  · rintro ⟨label, middle, taken, numbers, size, others⟩
    exact ⟨label.number :: numbers, congrArg Nat.succ size, .cons taken others⟩

theorem yields_one_iff : Yields supply 1 after ↔ ∃ label, supply.take = .ok (label, after) := by
  simp only [yields_succ_iff, yields_zero_iff]
  constructor
  · rintro ⟨label, _, taken, rfl⟩
    exact ⟨label, taken⟩
  · rintro ⟨label, taken⟩
    exact ⟨label, after, taken, rfl⟩

theorem yields_add_iff {first second : Nat} : Yields supply (first + second) after ↔
    ∃ middle, Yields supply first middle ∧ Yields middle second after := by
  induction first generalizing supply with
  | zero => simp only [Nat.zero_add, yields_zero_iff, exists_eq_left]
  | succ first ih =>
      rw [Nat.succ_add]
      simp only [yields_succ_iff, ih]
      constructor
      · rintro ⟨label, between, taken, middle, inside, rest⟩
        exact ⟨middle, ⟨label, between, taken, inside⟩, rest⟩
      · rintro ⟨middle, ⟨label, between, taken, inside⟩, rest⟩
        exact ⟨label, between, taken, middle, inside, rest⟩

end

theorem exists_take_later_iff {first step taken : Nat} (positive : 1 ≤ first) :
    (∃ label after, (later first step taken).take = .ok (label, after)) ↔
      first + taken * step ≤ maximumLabel := by
  constructor
  · rintro ⟨label, after, h⟩
    rw [← (later_take h).1]
    exact label.le_maximum
  · intro bounded
    have below : first + taken * step ≤ ceiling := Nat.le_trans bounded (by decide)
    refine ⟨⟨first + taken * step, by omega, bounded⟩, _, take_eq_ok_iff.mpr ⟨?_, rfl⟩⟩
    exact (Nat.min_eq_left below).symm

/-- Of the labels of a sequence, exactly those up to the greatest label can be taken. -/
theorem exists_yields_later_iff {first step taken count : Nat} (positive : 1 ≤ first) :
    (∃ after, Yields (later first step taken) count after) ↔
      count = 0 ∨ first + (taken + (count - 1)) * step ≤ maximumLabel := by
  induction count generalizing taken with
  | zero => exact ⟨fun _ => .inl rfl, fun _ => ⟨_, yields_zero_iff.mpr rfl⟩⟩
  | succ count ih =>
      have behind : (∃ after, Yields (later first step taken) (count + 1) after) ↔
          (∃ label after, (later first step taken).take = .ok (label, after)) ∧
            ∃ after, Yields (later first step (taken + 1)) count after := by
        simp only [yields_succ_iff]
        constructor
        · rintro ⟨after, label, middle, drawn, rest⟩
          rw [(later_take drawn).2] at rest
          exact ⟨⟨label, middle, drawn⟩, after, rest⟩
        · rintro ⟨⟨label, middle, drawn⟩, after, rest⟩
          rw [← (later_take drawn).2] at rest
          exact ⟨after, label, middle, drawn, rest⟩
      rw [behind, exists_take_later_iff positive, ih]
      cases count with
      | zero => simp
      | succ count =>
          -- the last number of the sequence is not below the first one
          have increasing : taken * step ≤ (taken + 1 + count) * step :=
            Nat.mul_le_mul_right _ (by omega)
          rw [Nat.succ_sub_one, Nat.succ_sub_one,
            show taken + (count + 1) = taken + 1 + count by omega]
          simp only [Nat.succ_ne_zero, false_or]
          omega

end FortranWriter.LabelSupply
