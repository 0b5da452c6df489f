import FortranWriter.Proofs.Success
/-! What the wording of a statement can be refused for: its own arguments, and nothing else. -/
namespace FortranWriter

namespace Refusal

/-- The refusals of what a statement is made of. Those of a supply of labels and of an
encoding are not among them. -/
def OfStatement : Refusal → Prop
  | empty _ | multiLine _ | emptyList _ | emptyBound | multiLineBound | malformedBound _
  | labelShape _ | labelRange _ | labelConflict _ | namesUnderImplicitNone => True
  | labelStep | labelsExhausted | unrepresentable _ _ => False

end Refusal

/-- If it is refused at all, then for what a statement is made of. -/
def Confined {α : Type} (x : Except Refusal α) : Prop :=
  ∀ refusal, x = .error refusal → refusal.OfStatement

namespace Confined
variable {α β : Type}

theorem pure (a : α) : Confined (.ok a : Except Refusal α) :=
  fun _ h => (nomatch h)

theorem error {refusal : Refusal} (h : refusal.OfStatement) :
    Confined (.error refusal : Except Refusal α) := by
  intro other same
  cases same
  exact h

theorem bind {x : Except Refusal α} {f : α → Except Refusal β} (first : Confined x)
    (second : ∀ a, Confined (f a)) : Confined (x >>= f) := by
  intro refusal h
  cases found : x with
  | error cause =>
      rw [found] at h
      cases h
      exact first refusal found
  | ok a =>
      rw [found] at h
      exact second a refusal h

theorem map {x : Except Refusal α} (first : Confined x) (f : α → β) : Confined (f <$> x) := by
  intro refusal h
  cases found : x with
  | error cause =>
      rw [found] at h
      cases h
      exact first refusal found
  | ok a =>
      rw [found] at h
      cases h

theorem forM_discard {xs : List α} {f : α → Except Refusal β} (each : ∀ x, Confined (f x)) :
    Confined (xs.forM fun x => discard (f x)) := by
  induction xs with
  | nil => exact pure PUnit.unit
  | cons x xs ih => exact bind (map (each x) _) fun _ => ih

theorem singleLine (what value : Text) : Confined (Argument.singleLine what value) := by
  rw [Argument.singleLine]
  split
  · exact pure value
  · exact error trivial

theorem required (what value : Text) : Confined (Argument.required what value) := by
  rw [Argument.required]
  split
  · exact error trivial
  · exact singleLine what value

theorem optionalList (what : Text) (items : List Text) :
    Confined (Argument.optionalList what items) :=
  bind (forM_discard fun item => required what item) fun _ => pure _

theorem requiredList (what : Text) (items : List Text) :
    Confined (Argument.requiredList what items) := by
  rw [Argument.requiredList]
  split
  · exact error trivial
  · exact optionalList what items

theorem render (bound : Bound) : Confined bound.render := by
  cases bound with
  | integer n => exact pure _
  | expression given =>
      rw [Bound.render]
      split
      · exact error trivial
      · split
        · exact error trivial
        · split
          · exact error trivial
          · exact pure _

theorem ofNat (number : Nat) : Confined (Label.ofNat number) := by
  rw [Label.ofNat]
  split
  · exact pure _
  · exact error trivial

theorem parse (t : Text) : Confined (Label.parse t) := by
  rw [Label.parse]
  split
  · exact ofNat _
  · exact error trivial

end Confined

namespace Wording
open Confined

section
variable (name category condition unit : Text) (names : List Text) (label : Option Label)

theorem confined_call : Confined (call name names) :=
  (required _ _).bind fun _ => (optionalList _ _).bind fun _ => .pure _

theorem confined_assign (destination expression : Text) :
    Confined (assign destination expression) :=
  (required _ _).bind fun _ => (required _ _).bind fun _ => .pure _

theorem confined_declare : Confined (declare category names) := by
  refine (required _ _).bind fun category => (requiredList _ _).bind fun list => ?_
  split
  · exact error trivial
  · split
    · exact .pure _
    · exact .pure _

theorem confined_common : Confined (common name names) :=
  (required _ _).bind fun _ => (requiredList _ _).bind fun _ => .pure _

theorem confined_parameter : Confined (parameter names) :=
  (requiredList _ _).bind fun _ => .pure _

theorem confined_comment (content : Text) : Confined (comment content) :=
  (singleLine _ _).bind fun _ => .pure _

theorem confined_ifGoto (label : Label) : Confined (ifGoto condition label) :=
  (required _ _).bind fun _ => .pure _

theorem confined_ifThen : Confined (ifThen condition) :=
  (required _ _).bind fun _ => .pure _

theorem confined_stepClause (step : Option Bound) : Confined (stepClause step) := by
  cases step with
  | none => exact .pure _
  | some step => exact (Confined.render step).bind fun _ => .pure _

theorem confined_doHeader (index : Text) (start finish : Bound) (step : Option Bound) :
    Confined (doHeader label index start finish step) :=
  (required _ _).bind fun _ => (Confined.render start).bind fun _ =>
    (Confined.render finish).bind fun _ => (confined_stepClause step).bind fun _ => .pure _

theorem confined_program : Confined (program name) :=
  (required _ _).bind fun _ => .pure _

theorem confined_subroutine : Confined (subroutine name names) :=
  (required _ _).bind fun _ => (optionalList _ _).bind fun _ => .pure _

theorem confined_function : Confined (function category name names) :=
  (required _ _).bind fun _ => (required _ _).bind fun _ => (optionalList _ _).bind fun _ => .pure _

theorem confined_openFile (file : Text) (status : Option Text) :
    Confined (openFile unit file status) := by
  refine (required _ _).bind fun unit => (required _ _).bind fun file => ?_
  cases status with
  | none => exact .pure _
  | some status => exact (required _ _).bind fun _ => .pure _

theorem confined_closeFile : Confined (closeFile unit) :=
  (required _ _).bind fun _ => .pure _

theorem confined_transfer (direction : Transfer) : Confined (transfer direction unit label names) :=
  (required _ _).bind fun _ => (optionalList _ _).bind fun _ => .pure _

theorem confined_format (label : Label) : Confined (format label names) :=
  (requiredList _ _).bind fun _ => .pure _

end
end Wording
end FortranWriter
