import FortranWriter.Label.Supply
import FortranWriter.Proofs.Success
import Mathlib.Data.List.Nodup
/-! Which numbers are labels, and what a supply of labels hands out: each label once, at the
distance that the supply keeps. -/
namespace FortranWriter
open Success

theorem Label.ofNat_eq_ok_iff {number : Nat} {label : Label} :
    Label.ofNat number = .ok label ↔ label.number = number := by
  rw [Label.ofNat]
  split
  · rw [ok_eq_ok_iff, Label.mk.injEq]
  · case _ outside =>
      refine ⟨fun h => (nomatch h), fun h => absurd ?_ outside⟩
      rw [← h]
      exact ⟨label.one_le, label.le_maximum⟩

theorem Label.parse_eq_ok_iff {t : Text} {label : Label} :
    Label.parse t = .ok label ↔ Label.isToken t = true ∧ label.number = Decimal.toNat t := by
  rw [Label.parse]
  split
  · case _ token => rw [ofNat_eq_ok_iff, and_iff_right token]
  · case _ other => exact ⟨fun h => (nomatch h), fun h => absurd h.1 other⟩

namespace LabelSupply

def advance (supply : LabelSupply) : LabelSupply :=
  { supply with next := min (supply.next + supply.step) ceiling }

theorem take_eq_ok_iff {supply after : LabelSupply} {label : Label} :
    supply.take = .ok (label, after) ↔ label.number = supply.next ∧ after = supply.advance := by
  simp only [take, check_eq_ok_iff, bind_eq_ok_iff, Label.ofNat_eq_ok_iff, pure_eq_ok_iff,
    Prod.mk.injEq]
  constructor
  · rintro ⟨-, _, number, rfl, rfl⟩
    exact ⟨number, rfl⟩
  · rintro ⟨number, rfl⟩
    refine ⟨?_, label, number, rfl, rfl⟩
    rw [← number]
    exact Nat.not_lt_of_ge label.le_maximum

/-- Numbers taken one after the other, between the supply before them and the one behind them. -/
inductive Draws : LabelSupply → List Nat → LabelSupply → Prop
  | nil {supply} : Draws supply [] supply
  | cons {supply label middle numbers after} : supply.take = .ok (label, middle) →
      Draws middle numbers after → Draws supply (label.number :: numbers) after

theorem Draws.append {supply middle after : LabelSupply} {front back : List Nat}
    (first : Draws supply front middle) (second : Draws middle back after) :
    Draws supply (front ++ back) after := by
  induction first with
  | nil => exact second
  | cons taken _ ih => exact .cons taken (ih second)

def later (first step taken : Nat) : LabelSupply :=
  ⟨min (first + taken * step) ceiling, step⟩

theorem later_advance (first step taken : Nat) :
    (later first step taken).advance = later first step (taken + 1) := by
  rw [advance, later, later, Nat.succ_mul, mk.injEq, and_iff_left rfl]
  change min (min (first + taken * step) ceiling + step) ceiling = _
  omega

theorem later_take {first step taken : Nat} {label : Label} {after : LabelSupply}
    (h : (later first step taken).take = .ok (label, after)) :
    label.number = first + taken * step ∧ after = later first step (taken + 1) := by
  obtain ⟨number, rfl⟩ := take_eq_ok_iff.mp h
  refine ⟨?_, later_advance first step taken⟩
  have below : label.number < ceiling := Nat.lt_of_le_of_lt label.le_maximum (by decide)
  change label.number = min (first + taken * step) ceiling at number
  omega

/-- The numbers taken are the next ones of the sequence, and the supply goes on behind them. -/
theorem Draws.eq_range' {first step taken : Nat} {numbers : List Nat} {after : LabelSupply}
    (h : Draws (later first step taken) numbers after) :
    numbers = (List.range' taken numbers.length).map (fun i => first + i * step) ∧
      after = later first step (taken + numbers.length) := by
  generalize start : later first step taken = supply at h
  induction h generalizing taken with
  | nil => exact ⟨rfl, start.symm⟩
  | cons found _ ih =>
      subst start
      obtain ⟨number, rfl⟩ := later_take found
      obtain ⟨others, rest⟩ := ih rfl
      rw [List.length_cons, List.range'_succ, List.map_cons, ← others, number]
      exact ⟨rfl, rest.trans (congrArg _ (by omega))⟩

theorem Draws.mem_range {supply after : LabelSupply} {numbers : List Nat}
    (h : Draws supply numbers after) : ∀ n ∈ numbers, 1 ≤ n ∧ n ≤ maximumLabel := by
  induction h with
  | nil => exact fun n h => absurd h List.not_mem_nil
  | cons _ _ ih => exact List.forall_mem_cons.mpr ⟨⟨Label.one_le _, Label.le_maximum _⟩, ih⟩

/-- A supply that is accepted starts at a label, and its labels lie apart. -/
theorem starting_eq_ok_iff {first step : Nat} {supply : LabelSupply} :
    starting first step = .ok supply ↔
      1 ≤ first ∧ first ≤ maximumLabel ∧ step ≠ 0 ∧ supply = ⟨first, step⟩ := by
  simp only [starting, bind_eq_ok_iff, Label.ofNat_eq_ok_iff, check_eq_ok_iff, ok_eq_ok_iff]
  constructor
  · rintro ⟨label, rfl, apart, same⟩
    exact ⟨label.one_le, label.le_maximum, apart, same⟩
  · rintro ⟨positive, bounded, apart, same⟩
    exact ⟨⟨first, positive, bounded⟩, rfl, apart, same⟩

theorem starting_eq_later {first step : Nat} {supply : LabelSupply}
    (accepted : starting first step = .ok supply) : supply = later first step 0 := by
  obtain ⟨_, bounded, _, rfl⟩ := starting_eq_ok_iff.mp accepted
  have below : first ≤ ceiling := Nat.le_trans bounded (by decide)
  rw [later, Nat.zero_mul, Nat.add_zero, Nat.min_eq_left below]

/-- An accepted supply hands out no label twice. -/
theorem nodup_of_starting {first step : Nat} {supply : LabelSupply}
    (accepted : starting first step = .ok supply) (count : Nat) :
    ((List.range count).map fun i => first + i * step).Nodup := by
  obtain ⟨_, _, apart, _⟩ := starting_eq_ok_iff.mp accepted
  refine List.Nodup.map (fun i j same => ?_) List.nodup_range
  exact Nat.eq_of_mul_eq_mul_right (Nat.pos_of_ne_zero apart) (Nat.add_left_cancel same)

end LabelSupply
end FortranWriter
