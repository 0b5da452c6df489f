import FortranWriter.Assembly
import FortranWriter.Proofs.Success
import FortranWriter.Proofs.Wording.Refusals
/-! What assembly can be refused for: an argument of a statement, or that no label is left. -/
namespace FortranWriter

/-- Refused, if at all, for what a statement is made of or because the supply has no label left. -/
def Composing.Confined {α : Type} (x : Composing α) : Prop :=
  ∀ supply refusal after, x.run.run supply = (.error refusal, after) →
    refusal.OfStatement ∨ refusal = .labelsExhausted

namespace Composing.Confined
variable {α β : Type}

theorem pure (a : α) : Confined (pure a : Composing α) :=
  fun _ _ _ h => (nomatch h)

theorem lift {x : Except Refusal α} (h : FortranWriter.Confined x) :
    Confined (liftM x : Composing α) := by
  intro supply refusal after failed
  cases failed
  exact .inl (h refusal rfl)

theorem bind {x : Composing α} {f : α → Composing β} (first : Confined x)
    (second : ∀ a, Confined (f a)) : Confined (x >>= f) := by
  intro supply refusal after failed
  cases found : x.run.run supply with
  | mk result middle =>
      cases result with
      | error cause =>
          rw [Success.run_bind_of_error found] at failed
          cases failed
          exact first supply _ _ found
      | ok a =>
          rw [Success.run_bind_of_ok found] at failed
          exact second a middle refusal after failed

theorem takeLabel : Confined takeLabel := by
  intro supply refusal after failed
  have limited : FortranWriter.Confined (Label.ofNat supply.next >>= fun label =>
      (Except.ok
        (label, { supply with next := min (supply.next + supply.step) LabelSupply.ceiling }) :
        Except Refusal (Label × LabelSupply))) :=
    (FortranWriter.Confined.ofNat supply.next).bind fun _ => .pure _
  change FortranWriter.takeLabel supply = _ at failed
  rw [FortranWriter.takeLabel, LabelSupply.take] at failed
  by_cases spent : supply.next > maximumLabel
  · rw [if_pos spent] at failed
    cases failed
    exact .inr rfl
  · rw [if_neg spent] at failed
    split at failed
    · cases failed
    · rename_i cause refused
      cases failed
      exact .inl (limited refusal refused)

end Composing.Confined

/-- What is put together from checks of arguments and labels of the supply. -/
inductive Composing.Built : {α : Type} → Composing α → Prop
  | lift {α} {x : Except Refusal α} : FortranWriter.Confined x → Built (liftM x)
  | pure {α} (a : α) : Built (Pure.pure a)
  | takeLabel : Built takeLabel
  | bind {α β} {x : Composing α} {f : α → Composing β} : Built x → (∀ a, Built (f a)) →
      Built (x >>= f)

theorem Composing.Built.confined {α : Type} {x : Composing α} (h : Built x) : Confined x := by
  induction h with
  | lift limited => exact .lift limited
  | pure a => exact .pure a
  | takeLabel => exact .takeLabel
  | bind _ _ first second => exact first.bind second

namespace Assembly
open Wording Composing

theorem built_line {made : Except Refusal Text} (h : Confined made) :
    Built (do return Fragment.line (← made)) :=
  (Built.lift h).bind fun _ => .pure _

theorem confined_optionalLabel (given : Option Text) : Confined (optionalLabel given) := by
  cases given with
  | none => exact .pure _
  | some given => exact (Confined.parse given).map _

theorem built_formatted (direction : Transfer) (unit : Text) (descriptors operands : List Text) :
    Built (Construct.formatted direction unit descriptors operands) := by
  rw [Construct.formatted]
  refine (Built.lift (Confined.required _ _)).bind fun _ => ?_
  refine (Built.lift (Confined.requiredList _ _)).bind fun _ => ?_
  refine (Built.lift (Confined.optionalList _ _)).bind fun _ => ?_
  refine Built.takeLabel.bind fun label => ?_
  refine (Built.lift (confined_transfer _ _ _ _)).bind fun _ => ?_
  exact (Built.lift (confined_format _ _)).bind fun _ => .pure _

mutual

theorem built_statement (s : Statement) : Built (statement s) := by
  cases s with
  | call => rw [statement]; exact built_line (confined_call _ _)
  | assign => rw [statement]; exact built_line (confined_assign _ _)
  | declare => rw [statement]; exact built_line (confined_declare _ _)
  | common => rw [statement]; exact built_line (confined_common _ _)
  | parameter => rw [statement]; exact built_line (confined_parameter _)
  | comment => rw [statement]; exact built_line (confined_comment _)
  | closeFile => rw [statement]; exact built_line (confined_closeFile _)
  | implicitNone | returnLine | stop | verbatim => rw [statement]; exact .pure _
  | continueAt | goto =>
      rw [statement]
      exact (Built.lift (Confined.parse _)).bind fun _ => .pure _
  | ifGoto =>
      rw [statement]
      refine (Built.lift (Confined.parse _)).bind fun _ => ?_
      exact built_line (confined_ifGoto _ _)
  | format =>
      rw [statement]
      refine (Built.lift (Confined.parse _)).bind fun _ => ?_
      exact built_line (confined_format _ _)
  | transfer direction unit label formats operands =>
      rw [statement]
      cases formats with
      | none =>
          refine (Built.lift (confined_optionalLabel label)).bind fun _ => ?_
          exact built_line (confined_transfer _ _ _ _)
      | some formats =>
          cases label with
          | none => exact built_formatted direction unit formats operands
          | some given =>
              exact .lift (.error (show (Refusal.labelConflict given).OfStatement from trivial))
  | ifThen condition body otherwise =>
      cases otherwise with
      | none =>
          rw [statement]
          refine (built_statements body).bind fun _ => .lift ?_
          exact (confined_ifThen condition).bind fun _ => .pure _
      | some otherwise =>
          rw [statement]
          refine (built_statements body).bind fun _ => ?_
          refine (built_statements otherwise).bind fun _ => .lift ?_
          exact (confined_ifThen condition).bind fun _ => .pure _
  | doLoop index start finish step body =>
      rw [statement]
      refine Built.takeLabel.bind fun label => ?_
      refine (built_statements body).bind fun _ => .lift ?_
      exact (confined_doHeader _ _ _ _ _).bind fun _ => .pure _
  | program name body =>
      rw [statement]
      refine (built_statements body).bind fun _ => .lift ?_
      exact (confined_program name).bind fun _ => .pure _
  | subroutine name parameters body =>
      rw [statement]
      refine (built_statements body).bind fun _ => .lift ?_
      exact (confined_subroutine name parameters).bind fun _ => .pure _
  | function category name parameters body =>
      rw [statement]
      refine (built_statements body).bind fun _ => .lift ?_
      exact (confined_function name category parameters).bind fun _ => .pure _
  | openFile unit file status body =>
      rw [statement]
      refine (built_statements body).bind fun _ => .lift ?_
      refine (confined_openFile unit file status).bind fun _ => ?_
      exact (confined_closeFile unit).bind fun _ => .pure _
termination_by sizeOf s

theorem built_statements (tree : List Statement) : Built (statements tree) := by
  cases tree with
  | nil => rw [statements]; exact .pure _
  | cons s rest =>
      rw [statements]
      refine (built_statement s).bind fun _ => ?_
      exact (built_statements rest).bind fun _ => .pure _
termination_by sizeOf tree

end

theorem confined_statements (tree : List Statement) : Composing.Confined (statements tree) :=
  (built_statements tree).confined

end Assembly
end FortranWriter
