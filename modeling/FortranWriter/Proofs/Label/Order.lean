import FortranWriter.Proofs.Label
/-! Labels that are taken from one supply increase, whatever happens between two of them, and a
supply that has run out stays so. -/
namespace FortranWriter.LabelSupply
variable {supply middle after : LabelSupply} {numbers others : List Nat}

theorem apart_of_accepted
    (accepted : supply = .standard ∨ ∃ first step, starting first step = .ok supply) :
    supply.step ≠ 0 := by
  rcases accepted with rfl | ⟨first, step, started⟩
  · decide
  · obtain ⟨-, -, apart, rfl⟩ := starting_eq_ok_iff.mp started
    exact apart

theorem take_of_spent (spent : maximumLabel < supply.next) :
    supply.take = .error .labelsExhausted :=
  if_pos spent

theorem spent_of_take (refused : supply.take = .error .labelsExhausted) :
    maximumLabel < supply.next := by
  by_contra fits
  rw [take, if_neg fits, Label.ofNat] at refused
  split at refused
  · cases refused
  · cases refused

theorem take_increases {label : Label} (apart : supply.step ≠ 0)
    (taken : supply.take = .ok (label, middle)) :
    label.number = supply.next ∧ supply.next < middle.next ∧ middle.step ≠ 0 := by
  obtain ⟨number, rfl⟩ := take_eq_ok_iff.mp taken
  have below : label.number < ceiling := Nat.lt_of_le_of_lt label.le_maximum (by decide)
  refine ⟨number, ?_, apart⟩
  change supply.next < min (supply.next + supply.step) ceiling
  omega

theorem Draws.step_eq (drawn : Draws supply numbers after) : after.step = supply.step := by
  induction drawn with
  | nil => rfl
  | cons taken _ ih =>
      obtain ⟨-, rfl⟩ := take_eq_ok_iff.mp taken
      exact ih

/-- Numbers that are drawn lie between the supply before and the one behind them. -/
theorem Draws.bounds (drawn : Draws supply numbers after) (apart : supply.step ≠ 0) :
    supply.next ≤ after.next ∧ ∀ n ∈ numbers, supply.next ≤ n ∧ n < after.next := by
  induction drawn with
  | nil => exact ⟨Nat.le_refl _, fun n h => absurd h List.not_mem_nil⟩
  | cons taken _ ih =>
      obtain ⟨number, further, still⟩ := take_increases apart taken
      obtain ⟨later, inside⟩ := ih still
      refine ⟨by omega, List.forall_mem_cons.mpr ⟨by omega, fun n h => ?_⟩⟩
      have bounds := inside n h
      omega

theorem Draws.pairwise (drawn : Draws supply numbers after) (apart : supply.step ≠ 0) :
    numbers.Pairwise (· < ·) := by
  induction drawn with
  | nil => exact List.Pairwise.nil
  | cons taken rest ih =>
      obtain ⟨number, further, still⟩ := take_increases apart taken
      refine List.Pairwise.cons (fun n h => ?_) (ih still)
      have bounds := (rest.bounds still).2 n h
      omega

/-- Which numbers were drawn can be told from the supply before and the one behind them. -/
theorem Draws.numbers_eq (drawn : Draws supply numbers after) (apart : supply.step ≠ 0)
    (again : Draws supply others after) : others = numbers := by
  induction drawn generalizing others with
  | nil =>
      cases again with
      | nil => rfl
      | cons taken rest =>
          -- the supply would have gone on and come back
          obtain ⟨-, further, still⟩ := take_increases apart taken
          exact absurd (rest.bounds still).1 (Nat.not_le_of_gt further)
  | cons taken rest ih =>
      obtain ⟨-, further, still⟩ := take_increases apart taken
      cases again with
      | nil => exact absurd (rest.bounds still).1 (Nat.not_le_of_gt further)
      | cons found more =>
          rw [taken] at found
          cases found
          rw [ih still more]

theorem Draws.of_spent (drawn : Draws supply numbers after) (spent : maximumLabel < supply.next) :
    numbers = [] ∧ after = supply := by
  cases drawn with
  | nil => exact ⟨rfl, rfl⟩
  | cons taken _ =>
      rw [take_of_spent spent] at taken
      cases taken

end FortranWriter.LabelSupply
