import FortranWriter.Proofs.Assembly.Run
import FortranWriter.Proofs.Label.Token
import FortranWriter.Proofs.Wording
/-! What a statement has to satisfy by itself, whatever is in its bodies and whichever labels are
left, and that its own text can be worded exactly then. -/
namespace FortranWriter

namespace Bound

def Accepted (bound : Bound) : Prop :=
  ∃ t, bound.render = .ok t

instance (bound : Bound) : Decidable bound.Accepted :=
  decidable_of_iff (bound.render.isOk = true) <| by
    unfold Accepted
    cases bound.render with
    | error refusal => exact ⟨fun h => (nomatch h), fun ⟨_, h⟩ => (nomatch h)⟩
    | ok t => exact ⟨fun _ => ⟨t, rfl⟩, fun _ => rfl⟩

end Bound

namespace Statement

/-- The checks of a statement's own fields. Statements in its bodies are left to their own. -/
def Passes : Statement → Prop
  | call name arguments => name.OneLine ∧ ∀ a ∈ arguments, a.OneLine
  | assign destination expression => destination.OneLine ∧ expression.OneLine
  | declare category names =>
    category.OneLine ∧ (names ≠ [] ∧ ∀ n ∈ names, n.OneLine) ∧
      Text.lowerAscii category.trim ≠ "implicit none".toList
  | common name names => name.OneLine ∧ names ≠ [] ∧ ∀ n ∈ names, n.OneLine
  | parameter assignments => assignments ≠ [] ∧ ∀ a ∈ assignments, a.OneLine
  | comment text => text.isSingleLine = true
  | implicitNone | returnLine | stop | verbatim _ => True
  | continueAt label | goto label => Label.IsNumeral label
  | ifGoto condition label => condition.OneLine ∧ Label.IsNumeral label
  | ifThen condition _ _ => condition.OneLine
  | doLoop index start finish step _ =>
    index.OneLine ∧ start.Accepted ∧ finish.Accepted ∧ ∀ s, step = some s → s.Accepted
  | program name _ => name.OneLine
  | subroutine name parameters _ => name.OneLine ∧ ∀ p ∈ parameters, p.OneLine
  | function category name parameters _ =>
    category.OneLine ∧ name.OneLine ∧ ∀ p ∈ parameters, p.OneLine
  | openFile unit file status _ =>
    unit.OneLine ∧ file.OneLine ∧ ∀ s, status = some s → s.OneLine
  | closeFile unit => unit.OneLine
  | transfer _ unit label none operands =>
    unit.OneLine ∧ (∀ o ∈ operands, o.OneLine) ∧ ∀ l, label = some l → Label.IsNumeral l
  | transfer _ unit label (some formats) operands =>
    unit.OneLine ∧ (∀ o ∈ operands, o.OneLine) ∧ (formats ≠ [] ∧ ∀ f ∈ formats, f.OneLine) ∧
      label = none
  | format label descriptors =>
    Label.IsNumeral label ∧ descriptors ≠ [] ∧ ∀ d ∈ descriptors, d.OneLine

end Statement

namespace Assembly
open Success

theorem exists_optionalLabel_iff {given : Option Text} :
    (∃ label, optionalLabel given = .ok label) ↔ ∀ l, given = some l → Label.IsNumeral l := by
  cases given with
  | none => exact ⟨fun _ l h => (nomatch h), fun _ => ⟨none, rfl⟩⟩
  | some given =>
      simp only [optionalLabel, Option.some.injEq, forall_eq']
      exact exists_map_eq_ok_iff.trans Label.exists_parse_iff

theorem exists_stepClause_iff {step : Option Bound} :
    (∃ t, Wording.stepClause step = .ok t) ↔ ∀ s, step = some s → s.Accepted := by
  cases step with
  | none => exact ⟨fun _ s h => (nomatch h), fun _ => ⟨[], rfl⟩⟩
  | some step =>
      simp only [Option.some.injEq, forall_eq']
      exact exists_map_eq_ok_iff (x := step.render)

theorem exists_transfer_iff {direction : Wording.Transfer} {unit : Text} {label : Option Label}
    {operands : List Text} : (∃ t, Wording.transfer direction unit label operands = .ok t) ↔
      unit.OneLine ∧ ∀ o ∈ operands, o.OneLine := by
  simp only [Wording.transfer_eq_ok_iff, exists_and_left, exists_eq, and_true]

theorem exists_format_iff {label : Label} {descriptors : List Text} :
    (∃ t, Wording.format label descriptors = .ok t) ↔
      descriptors ≠ [] ∧ ∀ d ∈ descriptors, d.OneLine := by
  simp only [Wording.format_eq_ok_iff, exists_and_left, exists_eq, and_true]

/-- The text of a statement on one line can be made exactly if the statement passes its checks. -/
theorem exists_leaf_iff {s : Statement} {made : Except Refusal Text} (view : leaf? s = some made) :
    (∃ t, made = .ok t) ↔ s.Passes := by
  cases s with
  | call name arguments =>
      cases view
      simp only [Wording.call_eq_ok_iff, Statement.Passes, exists_and_left, exists_eq, and_true]
  | assign destination expression =>
      cases view
      simp only [Wording.assign_eq_ok_iff, Statement.Passes, exists_and_left, exists_eq, and_true]
  | declare category names =>
      cases view
      simp only [Wording.declare_eq_ok_iff, Statement.Passes, exists_and_left, exists_eq, and_true,
        and_assoc]
  | common name names =>
      cases view
      simp only [Wording.common_eq_ok_iff, Statement.Passes, exists_and_left, exists_eq, and_true]
  | parameter assignments =>
      cases view
      simp only [Wording.parameter_eq_ok_iff, Statement.Passes, exists_and_left, exists_eq,
        and_true]
  | comment text =>
      cases view
      simp only [Wording.comment_eq_ok_iff, Statement.Passes, exists_and_left, exists_eq, and_true]
  | closeFile unit =>
      cases view
      simp only [Wording.closeFile_eq_ok_iff, Statement.Passes, exists_and_left, exists_eq,
        and_true]
  | implicitNone | returnLine | stop =>
      cases view
      exact ⟨fun _ => trivial, fun _ => ⟨_, rfl⟩⟩
  | continueAt label | goto label =>
      cases view
      exact exists_map_eq_ok_iff.trans Label.exists_parse_iff
  | ifGoto condition label =>
      cases view
      have worded (label : Label) : (∃ t, Wording.ifGoto condition label = .ok t) ↔
          condition.OneLine := by
        simp only [Wording.ifGoto_eq_ok_iff, exists_and_left, exists_eq, and_true]
      rw [exists_bind_eq_ok_iff worded, Label.exists_parse_iff, and_comm]
      rfl
  | format label descriptors =>
      cases view
      rw [exists_bind_eq_ok_iff fun _ => exists_format_iff, Label.exists_parse_iff]
      rfl
  | transfer direction unit label formats operands =>
      cases formats with
      | some formats => cases view
      | none =>
          cases view
          rw [exists_bind_eq_ok_iff fun _ => exists_transfer_iff, exists_optionalLabel_iff,
            and_comm, and_assoc]
          rfl
  | verbatim | ifThen | doLoop | program | subroutine | function | openFile => cases view

theorem exists_ifThen_iff {condition : Text} :
    (∃ t, Wording.ifThen condition = .ok t) ↔ condition.OneLine := by
  simp only [Wording.ifThen_eq_ok_iff, exists_and_left, exists_eq, and_true]

theorem exists_enclosure_iff {s : Statement} {body : List Statement}
    {made : Except Refusal (Text × Text)} (view : enclosure? s = some (body, made)) :
    (∃ ends, made = .ok ends) ↔ s.Passes := by
  cases Enclosure.of_view view with
  | ifThen => exact exists_map_eq_ok_iff.trans exists_ifThen_iff
  | program =>
      rw [exists_map_eq_ok_iff]
      simp only [Wording.program_eq_ok_iff, Statement.Passes, exists_and_left, exists_eq, and_true]
  | subroutine =>
      rw [exists_map_eq_ok_iff]
      simp only [Wording.subroutine_eq_ok_iff, Statement.Passes, exists_and_left, exists_eq,
        and_true]
  | function =>
      rw [exists_map_eq_ok_iff]
      simp only [Wording.function_eq_ok_iff, Statement.Passes, exists_and_left, exists_eq, and_true]
  | openFile unit file status =>
      have closed (opener : Text) : (∃ ends, (opener, ·) <$> Wording.closeFile unit = .ok ends) ↔
          unit.OneLine := by
        rw [exists_map_eq_ok_iff]
        simp only [Wording.closeFile_eq_ok_iff, exists_and_left, exists_eq, and_true]
      rw [exists_bind_eq_ok_iff closed]
      simp only [Wording.openFile_eq_ok_iff, Statement.Passes, exists_and_left, exists_eq, and_true]
      exact ⟨And.left, fun h => ⟨h, h.1⟩⟩

theorem exists_doHeader_iff {label : Option Label} {index : Text} {start finish : Bound}
    {step : Option Bound} : (∃ t, Wording.doHeader label index start finish step = .ok t) ↔
      index.OneLine ∧ start.Accepted ∧ finish.Accepted ∧ ∀ s, step = some s → s.Accepted := by
  rw [← exists_stepClause_iff]
  simp only [Wording.doHeader_eq_ok_iff]
  constructor
  · rintro ⟨_, single, s, started, f, finished, c, stepped, _⟩
    exact ⟨single, ⟨s, started⟩, ⟨f, finished⟩, ⟨c, stepped⟩⟩
  · rintro ⟨single, ⟨s, started⟩, ⟨f, finished⟩, ⟨c, stepped⟩⟩
    exact ⟨_, single, s, started, f, finished, c, stepped, rfl⟩

end Assembly
end FortranWriter
