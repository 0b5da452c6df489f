import FortranWriter.Proofs.Assembly.Refusals
import FortranWriter.Proofs.Label.Order
/-! Which labels are taken on the way, whether or not something is refused afterwards. -/
namespace FortranWriter.Composing
open Success

/-- The labels that are taken, step by step, up to the first refusal. -/
inductive Takes : {α : Type} → Composing α → LabelSupply → List Nat → Prop
  | lift {α supply} {x : Except Refusal α} : Takes (liftM x) supply []
  | pure {α supply} (a : α) : Takes (Pure.pure a) supply []
  | taken {supply label after} : supply.take = .ok (label, after) →
      Takes takeLabel supply [label.number]
  | none {supply refusal} : supply.take = .error refusal → Takes takeLabel supply []
  | bind {α β supply a middle front back} {x : Composing α} {f : α → Composing β} :
      Takes x supply front → x.run.run supply = (.ok a, middle) → Takes (f a) middle back →
      Takes (x >>= f) supply (front ++ back)
  | refused {α β supply refusal middle front} {x : Composing α} {f : α → Composing β} :
      Takes x supply front → x.run.run supply = (.error refusal, middle) →
      Takes (x >>= f) supply front

variable {α : Type} {supply after : LabelSupply} {labels : List Nat}

/-- The labels taken are those by which the supply has moved on. -/
theorem Takes.draws {x : Composing α} (h : Takes x supply labels) :
    supply.Draws labels (x.run.run supply).2 := by
  induction h with
  | lift => exact .nil
  | pure => exact .nil
  | taken taken =>
      rw [run_takeLabel_of_take taken]
      exact .cons taken .nil
  | none none =>
      rw [run_takeLabel_of_refused none]
      exact .nil
  | bind _ ran _ first second =>
      rw [ran] at first
      rw [run_bind_of_ok ran]
      exact first.append second
  | refused _ failed first =>
      rw [failed] at first
      rw [run_bind_of_error failed]
      exact first

theorem Built.exists_takes {x : Composing α} (h : Built x) (supply : LabelSupply) :
    ∃ labels, Takes x supply labels := by
  induction h generalizing supply with
  | lift => exact ⟨[], .lift⟩
  | pure a => exact ⟨[], .pure a⟩
  | takeLabel =>
      cases found : supply.take with
      | error refusal => exact ⟨[], .none found⟩
      | ok taken => exact ⟨[taken.1.number], .taken found⟩
  | @bind _ _ x f _ _ first second =>
      obtain ⟨front, start⟩ := first supply
      cases found : x.run.run supply with
      | mk result middle =>
          cases result with
          | error refusal => exact ⟨front, .refused start found⟩
          | ok a =>
              obtain ⟨back, rest⟩ := second a middle
              exact ⟨front ++ back, .bind start found rest⟩

/-- There is one list of labels that are taken, and it can be told from the supply. -/
theorem Built.takes_iff {x : Composing α} (h : Built x) (apart : supply.step ≠ 0) :
    Takes x supply labels ↔ supply.Draws labels (x.run.run supply).2 := by
  constructor
  · exact Takes.draws
  · intro drawn
    obtain ⟨others, takes⟩ := h.exists_takes supply
    rw [takes.draws.numbers_eq apart drawn]
    exact takes

/-- What is refused for want of a label leaves a supply that has none. -/
theorem Built.spent {x : Composing α} (h : Built x)
    (exhausted : x.run.run supply = (.error .labelsExhausted, after)) :
    maximumLabel < after.next := by
  induction h generalizing supply with
  | lift limited =>
      cases exhausted
      exact (limited _ rfl).elim
  | pure => cases exhausted
  | takeLabel =>
      cases found : supply.take with
      | error refusal =>
          rw [run_takeLabel_of_refused found] at exhausted
          cases exhausted
          exact LabelSupply.spent_of_take found
      | ok taken =>
          rw [run_takeLabel_of_take found] at exhausted
          cases exhausted
  | @bind _ _ x f _ _ first second =>
      cases found : x.run.run supply with
      | mk result middle =>
          cases result with
          | error refusal =>
              rw [run_bind_of_error found] at exhausted
              cases exhausted
              exact first found
          | ok a =>
              rw [run_bind_of_ok found] at exhausted
              exact second a exhausted

end FortranWriter.Composing
