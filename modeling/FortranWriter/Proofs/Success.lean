import FortranWriter.Construct
/-! What it means that something that may be refused succeeds: of a
sequence, that each step does. -/
namespace FortranWriter.Success

section Except
variable {ε α β : Type}

theorem bind_eq_ok_iff {x : Except ε α} {f : α → Except ε β} {b : β} :
    (x >>= f) = .ok b ↔ ∃ a, x = .ok a ∧ f a = .ok b := by
  cases x with
  | error fault =>
      refine ⟨fun h => (nomatch h), ?_⟩
      rintro ⟨_, h, _⟩
      cases h
  | ok a =>
      refine ⟨fun h => ⟨a, rfl, h⟩, ?_⟩
      rintro ⟨_, h, rest⟩
      cases h
      exact rest

theorem map_eq_ok_iff {x : Except Refusal α} {f : α → β} {b : β} :
    (f <$> x) = .ok b ↔ ∃ a, x = .ok a ∧ b = f a := by
  cases x with
  | error refusal =>
      refine ⟨fun h => (nomatch h), ?_⟩
      rintro ⟨_, h, _⟩
      cases h
  | ok a =>
      refine ⟨fun h => ⟨a, rfl, by cases h; rfl⟩, ?_⟩
      rintro ⟨_, h, rfl⟩
      cases h
      rfl

theorem pure_eq_ok_iff {a b : α} : (pure a : Except Refusal α) = .ok b ↔ b = a :=
  ⟨fun h => by cases h; rfl, fun h => by rw [h]; rfl⟩

theorem ok_eq_ok_iff {a b : α} : (.ok a : Except Refusal α) = .ok b ↔ b = a :=
  pure_eq_ok_iff

theorem check_eq_ok_iff {c : Prop} [Decidable c] {refusal : Refusal} {x : Except Refusal α}
    {a : α} :
    (if c then .error refusal else x) = .ok a ↔ ¬ c ∧ x = .ok a := by
  split
  · case _ refused =>
      refine ⟨fun h => ?_, fun h => absurd refused h.1⟩
      cases h
  · case _ passed => exact (and_iff_right passed).symm

theorem exists_map_eq_ok_iff {x : Except Refusal α} {f : α → β} :
    (∃ b, (f <$> x) = .ok b) ↔ ∃ a, x = .ok a := by
  simp only [map_eq_ok_iff]
  exact ⟨fun ⟨_, a, h, _⟩ => ⟨a, h⟩, fun ⟨a, h⟩ => ⟨f a, a, h, rfl⟩⟩

/-- Two steps succeed exactly when both do, if the success of the second is told by a condition that
the result of the first has no part in. -/
theorem exists_bind_eq_ok_iff {x : Except Refusal α} {f : α → Except Refusal β} {p : Prop}
    (second : ∀ a, (∃ b, f a = .ok b) ↔ p) :
    (∃ b, (x >>= f) = .ok b) ↔ (∃ a, x = .ok a) ∧ p := by
  simp only [bind_eq_ok_iff]
  constructor
  · rintro ⟨b, a, h, rest⟩
    exact ⟨⟨a, h⟩, (second a).mp ⟨b, rest⟩⟩
  · rintro ⟨⟨a, h⟩, holds⟩
    obtain ⟨b, rest⟩ := (second a).mpr holds
    exact ⟨b, a, h, rest⟩

/-- Checking a list succeeds exactly when the check succeeds on each entry. -/
theorem forM_discard_eq_ok_iff {xs : List α} {f : α → Except Refusal β} {u : PUnit} :
    (xs.forM fun x => discard (f x)) = .ok u ↔ ∀ x ∈ xs, ∃ b, f x = .ok b := by
  induction xs with
  | nil => exact ⟨fun _ x h => absurd h List.not_mem_nil, fun _ => rfl⟩
  | cons x xs ih =>
      rw [List.forM, bind_eq_ok_iff, List.forall_mem_cons]
      constructor
      · rintro ⟨_, first, others⟩
        obtain ⟨b, checked, _⟩ := map_eq_ok_iff.mp first
        exact ⟨⟨b, checked⟩, ih.mp others⟩
      · rintro ⟨⟨b, checked⟩, others⟩
        exact ⟨⟨⟩, map_eq_ok_iff.mpr ⟨b, checked, rfl⟩, ih.mpr others⟩

theorem exists_mapM_iff {f : α → Except Refusal β} {xs : List α} :
    (∃ ys, xs.mapM f = .ok ys) ↔ ∀ x ∈ xs, ∃ y, f x = .ok y := by
  induction xs with
  | nil => exact ⟨fun _ _ h => absurd h List.not_mem_nil, fun _ => ⟨[], rfl⟩⟩
  | cons x xs ih =>
      rw [List.mapM_cons, List.forall_mem_cons, ← ih]
      constructor
      · rintro ⟨ys, h⟩
        obtain ⟨y, first, rest⟩ := bind_eq_ok_iff.mp h
        obtain ⟨others, known, -⟩ := bind_eq_ok_iff.mp rest
        exact ⟨⟨y, first⟩, others, known⟩
      · rintro ⟨⟨y, first⟩, others, known⟩
        exact ⟨y :: others, bind_eq_ok_iff.mpr ⟨y, first, bind_eq_ok_iff.mpr ⟨others, known, rfl⟩⟩⟩

theorem exists_of_mem_mapM {f : α → Except Refusal β} {xs : List α} {ys : List β} {y : β}
    (h : xs.mapM f = .ok ys) (mem : y ∈ ys) : ∃ x ∈ xs, f x = .ok y := by
  induction xs generalizing ys with
  | nil =>
      cases h
      cases mem
  | cons x xs ih =>
      rw [List.mapM_cons] at h
      obtain ⟨first, known, rest⟩ := bind_eq_ok_iff.mp h
      obtain ⟨others, knowns, made⟩ := bind_eq_ok_iff.mp rest
      cases made
      rcases List.mem_cons.mp mem with rfl | later
      · exact ⟨x, List.mem_cons_self, known⟩
      · obtain ⟨z, among, same⟩ := ih knowns later
        exact ⟨z, List.mem_cons_of_mem _ among, same⟩

theorem length_of_mapM {f : α → Except Refusal β} {xs : List α} {ys : List β}
    (h : xs.mapM f = .ok ys) : ys.length = xs.length := by
  induction xs generalizing ys with
  | nil =>
      cases h
      rfl
  | cons x xs ih =>
      rw [List.mapM_cons] at h
      obtain ⟨y, -, rest⟩ := bind_eq_ok_iff.mp h
      obtain ⟨others, known, made⟩ := bind_eq_ok_iff.mp rest
      cases made
      exact congrArg (· + 1) (ih known)

theorem exists_of_mapM_eq_error {f : α → Except Refusal β} {xs : List α}
    {refusal : Refusal} (h : xs.mapM f = .error refusal) : ∃ x ∈ xs, f x = .error refusal := by
  induction xs with
  | nil => cases h
  | cons x xs ih =>
      rw [List.mapM_cons] at h
      cases first : f x with
      | error cause =>
          rw [first] at h
          cases h
          exact ⟨x, List.mem_cons_self, first⟩
      | ok y =>
          rw [first] at h
          cases rest : xs.mapM f with
          | error cause =>
              rw [rest] at h
              cases h
              obtain ⟨z, among, same⟩ := ih rest
              exact ⟨z, List.mem_cons_of_mem _ among, same⟩
          | ok ys =>
              rw [rest] at h
              cases h

end Except

section Composing
variable {α β : Type} {supply after : LabelSupply}

theorem run_bind_of_ok {x : Composing α} {a : α} {middle : LabelSupply}
    (h : x.run.run supply = (.ok a, middle)) (f : α → Composing β) :
    (x >>= f).run.run supply = (f a).run.run middle := by
  change (ExceptT.bindCont f (x.run.run supply).1).run (x.run.run supply).2 = _
  rw [h]
  rfl

theorem run_bind_of_error {x : Composing α} {refusal : Refusal} {middle : LabelSupply}
    (h : x.run.run supply = (.error refusal, middle)) (f : α → Composing β) :
    (x >>= f).run.run supply = (.error refusal, middle) := by
  change (ExceptT.bindCont f (x.run.run supply).1).run (x.run.run supply).2 = _
  rw [h]
  rfl

theorem run_bind_eq_ok_iff {x : Composing α} {f : α → Composing β} {b : β} :
    (x >>= f).run.run supply = (.ok b, after) ↔
      ∃ a middle, x.run.run supply = (.ok a, middle) ∧ (f a).run.run middle = (.ok b, after) := by
  cases found : x.run.run supply with
  | mk result middle =>
      cases result with
      | error refusal =>
          rw [run_bind_of_error found]
          refine ⟨fun h => (nomatch h), ?_⟩
          rintro ⟨_, _, h, _⟩
          cases h
      | ok a =>
          rw [run_bind_of_ok found]
          refine ⟨fun h => ⟨a, middle, rfl, h⟩, ?_⟩
          rintro ⟨_, _, h, rest⟩
          cases h
          exact rest

/-- What needs no label leaves the supply as it is. -/
theorem run_lift_eq_ok_iff {x : Except Refusal α} {a : α} :
    (liftM x : Composing α).run.run supply = (.ok a, after) ↔ x = .ok a ∧ after = supply := by
  constructor
  · intro h
    cases h
    exact ⟨rfl, rfl⟩
  · rintro ⟨rfl, rfl⟩
    rfl

theorem run_pure_eq_ok_iff {a b : α} :
    (pure a : Composing α).run.run supply = (.ok b, after) ↔ b = a ∧ after = supply := by
  constructor
  · intro h
    cases h
    exact ⟨rfl, rfl⟩
  · rintro ⟨rfl, rfl⟩
    rfl

theorem run_takeLabel_eq_ok_iff {label : Label} :
    takeLabel.run.run supply = (.ok label, after) ↔ supply.take = .ok (label, after) := by
  change takeLabel supply = _ ↔ _
  rw [takeLabel]
  cases supply.take with
  | error refusal => exact ⟨fun h => (nomatch h), fun h => (nomatch h)⟩
  | ok taken =>
      constructor
      · intro h
        cases h
        rfl
      · intro h
        cases h
        rfl

theorem run_takeLabel_of_take {label : Label} (taken : supply.take = .ok (label, after)) :
    takeLabel.run.run supply = (.ok label, after) :=
  run_takeLabel_eq_ok_iff.mpr taken

theorem run_takeLabel_of_refused {refusal : Refusal} (none : supply.take = .error refusal) :
    takeLabel.run.run supply = (.error refusal, supply) := by
  change takeLabel supply = _
  rw [takeLabel, none]

end Composing

end FortranWriter.Success
