import FortranWriter.Proofs.Label.Order
import FortranWriter.Proofs.Label.Yield
/-! What a supply answers call by call: the labels of its sequence one after the other, and from the
first number past the greatest label on the same refusal each time. -/
namespace FortranWriter.LabelSupply
open Success

/-- The supply behind so many calls, the refused ones included. -/
def afterCalls (supply : LabelSupply) : Nat → LabelSupply
  | 0 => supply
  | calls + 1 => (takeLabel.run.run (supply.afterCalls calls)).2

section
variable {first step taken : Nat}

theorem call_of_fits (positive : 1 ≤ first) (fits : first + taken * step ≤ maximumLabel) :
    ∃ label : Label, label.number = first + taken * step ∧
      takeLabel.run.run (later first step taken) = (.ok label, later first step (taken + 1)) := by
  obtain ⟨label, after, found⟩ := (exists_take_later_iff positive).mpr fits
  obtain ⟨number, rfl⟩ := later_take found
  exact ⟨label, number, run_takeLabel_of_take found⟩

/-- The ceiling is past the greatest label itself, so a sequence that has come past that label is
not brought back to it. -/
theorem call_of_past (past : maximumLabel < first + taken * step) :
    takeLabel.run.run (later first step taken) =
      (.error .labelsExhausted, later first step taken) := by
  have spent : maximumLabel < (later first step taken).next := Nat.lt_min.mpr ⟨past, by decide⟩
  exact run_takeLabel_of_refused (take_of_spent spent)

/-- A call moves a supply on by one number, until it has come past the greatest label. -/
theorem afterCalls_later (positive : 1 ≤ first) (calls : Nat) :
    ∃ taken ≤ calls, (later first step 0).afterCalls calls = later first step taken ∧
      (taken = calls ∨ maximumLabel < first + taken * step) := by
  induction calls with
  | zero => exact ⟨0, Nat.le_refl 0, rfl, .inl rfl⟩
  | succ calls ih =>
      obtain ⟨taken, before, reached, place⟩ := ih
      by_cases fits : first + taken * step ≤ maximumLabel
      · obtain rfl : taken = calls := place.resolve_right (Nat.not_lt_of_le fits)
        obtain ⟨label, -, answered⟩ := call_of_fits positive fits
        refine ⟨taken + 1, Nat.le_refl _, ?_, .inl rfl⟩
        rw [afterCalls, reached, answered]
      · have past : maximumLabel < first + taken * step := Nat.lt_of_not_le fits
        refine ⟨taken, Nat.le_succ_of_le before, ?_, .inr past⟩
        rw [afterCalls, reached, call_of_past past]

theorem afterCalls_of_fits (positive : 1 ≤ first) {calls : Nat}
    (fits : first + calls * step ≤ maximumLabel) :
    (later first step 0).afterCalls calls = later first step calls := by
  obtain ⟨taken, before, reached, rfl | past⟩ := @afterCalls_later _ step positive calls
  · exact reached
  · have increasing : taken * step ≤ calls * step := Nat.mul_le_mul_right step before
    omega

theorem afterCalls_of_past (positive : 1 ≤ first) {calls : Nat}
    (past : maximumLabel < first + calls * step) :
    ∃ taken, (later first step 0).afterCalls calls = later first step taken ∧
      maximumLabel < first + taken * step := by
  obtain ⟨taken, -, reached, rfl | stopped⟩ := @afterCalls_later _ step positive calls
  · exact ⟨taken, reached, past⟩
  · exact ⟨taken, reached, stopped⟩

end

theorem call_single (label : Label) :
    takeLabel.run.run (single label) = (.ok label, single label) := by
  have below : label.number ≤ ceiling := Nat.le_trans label.le_maximum (by decide)
  have unmoved : (single label).advance = single label := by
    rw [advance, single, Nat.add_zero, Nat.min_eq_left below]
  apply run_takeLabel_of_take
  exact take_eq_ok_iff.mpr ⟨rfl, unmoved.symm⟩

theorem afterCalls_single (label : Label) (calls : Nat) :
    (single label).afterCalls calls = single label := by
  induction calls with
  | zero => rfl
  | succ calls ih => rw [afterCalls, ih, call_single]

/-- A supply that starts at a label answers each call with the number of its sequence that belongs
to the call if that is a label, and refuses every call from the first number past the labels on,
where it stays. The supply of one label answers every call with it. -/
theorem calls_follow_sequence {first step : Nat} (positive : 1 ≤ first)
    (bounded : first ≤ maximumLabel) (apart : 1 ≤ step) :
    (∃ supply, starting first step = .ok supply ∧ ∀ n,
      (first + n * step ≤ maximumLabel → ∃ label : Label, label.number = first + n * step ∧
        takeLabel.run.run (supply.afterCalls n) = (.ok label, supply.afterCalls (n + 1))) ∧
      (maximumLabel < first + n * step →
        takeLabel.run.run (supply.afterCalls n) =
          (.error .labelsExhausted, supply.afterCalls n))) ∧
    ∀ label n, takeLabel.run.run ((single label).afterCalls n) = (.ok label, single label) := by
  refine ⟨?_, fun label n => ?_⟩
  · have accepted : starting first step = .ok ⟨first, step⟩ :=
      starting_eq_ok_iff.mpr ⟨positive, bounded, Nat.ne_of_gt apart, rfl⟩
    refine ⟨⟨first, step⟩, accepted, ?_⟩
    rw [starting_eq_later accepted]
    refine fun n => ⟨fun fits => ?_, fun past => ?_⟩
    · obtain ⟨label, number, answered⟩ := call_of_fits positive fits
      refine ⟨label, number, ?_⟩
      rw [afterCalls, afterCalls_of_fits positive fits, answered]
    · obtain ⟨taken, reached, stopped⟩ := afterCalls_of_past positive past
      rw [reached, call_of_past stopped]
  · rw [afterCalls_single, call_single]

/-- The greatest step there is takes the second number past the labels, and
no call brings it back. -/
theorem calls_follow_sequence_greatest_step :
    ∃ supply, starting 99900 ceiling = .ok supply ∧
      (∃ label : Label, label.number = 99900 ∧
        takeLabel.run.run supply = (.ok label, supply.afterCalls 1)) ∧
      ∀ n, takeLabel.run.run (supply.afterCalls (n + 1)) =
        (.error .labelsExhausted, supply.afterCalls (n + 1)) := by
  obtain ⟨⟨supply, accepted, answers⟩, -⟩ :=
    @calls_follow_sequence 99900 ceiling (by decide) (by decide) (by decide)
  refine ⟨supply, accepted, (answers 0).1 (by decide), fun n => (answers (n + 1)).2 ?_⟩
  have once : ceiling ≤ (n + 1) * ceiling := Nat.le_mul_of_pos_left ceiling (Nat.succ_pos n)
  have past : maximumLabel < ceiling := by decide
  omega

end FortranWriter.LabelSupply
