import FortranWriter.Proofs.Assembly.Checks
import FortranWriter.Proofs.Assembly.Labels
import FortranWriter.Proofs.Assembly.Takes
/-! Constructs with a label of their own take it from the supply or leave the supply alone:
everything that can be refused is checked before a label is asked for. -/
namespace FortranWriter.Assembly
open Composing Success

/-- The first and the last part of a fragment are the ends of a construct, and both have a label
where that of the construct has to stand. -/
def AtBothEnds (s : Statement) (label : Label) : Fragment → Prop
  | .line _ => False
  | .block parts => ∃ opener closer, parts.head? = some (.line opener) ∧
      parts.getLast? = some (.line closer) ∧
      mark? s opener closer = some ⟨s, label.number, label.number⟩

/-- What makes a construct with a label from the supply, all or nothing. Either it is refused
whatever the supply is like, or all it does is to take a label and make the construct of it. When it
is refused, for want of a label or else, the supply is as before; when it is not, the supply is one
label further, and that label is at both ends of the construct. -/
structure Atomic (s : Statement) (x : Composing Fragment) : Prop where
  decided : (∃ refusal, x = throw refusal) ∨ ∃ make : Label → Fragment, x = make <$> takeLabel
  refused : ∀ {supply refusal after}, x.run.run supply = (.error refusal, after) → after = supply
  made : ∀ {supply f after}, x.run.run supply = (.ok f, after) →
    ∃ label, supply.take = .ok (label, after) ∧ AtBothEnds s label f

theorem Atomic.of_throw (s : Statement) (refusal : Refusal) : Atomic s (throw refusal) := by
  refine ⟨.inl ⟨refusal, rfl⟩, fun failed => ?_, fun succeeded => ?_⟩
  · cases failed
    rfl
  · cases succeeded

theorem Atomic.of_map {s : Statement} {x : Composing Fragment} (make : Label → Fragment)
    (h : x = make <$> takeLabel) (ends : ∀ label, AtBothEnds s label (make label)) :
    Atomic s x := by
  have stages : x = takeLabel >>= fun label => pure (make label) := by
    rw [h, bind_pure_comp]
  refine ⟨.inr ⟨make, h⟩, ?_, ?_⟩
  · intro supply refusal after failed
    cases found : supply.take with
    | error cause =>
        rw [stages, run_bind_of_error (run_takeLabel_of_refused found)] at failed
        cases failed
        rfl
    | ok taken =>
        rw [stages, run_bind_of_ok (run_takeLabel_of_take found)] at failed
        cases failed
  · intro supply f after succeeded
    simp only [stages, run_bind_eq_ok_iff, run_takeLabel_eq_ok_iff, run_pure_eq_ok_iff] at succeeded
    obtain ⟨label, _, taken, rfl, rfl⟩ := succeeded
    exact ⟨label, taken, ends label⟩

/-- What is checked in front of it needs no label. -/
theorem Atomic.of_check {α : Type} {s : Statement} {check : Except Refusal α}
    {x : Composing Fragment} (passed : ∀ a, check = .ok a → Atomic s x) :
    Atomic s (do let _ ← check; x) := by
  cases checked : check with
  | error refusal => exact of_throw s refusal
  | ok a => exact passed a checked

/-- A loop header that passes without a label passes with any. -/
theorem exists_labelledLoop {index t : Text} {start finish : Bound} {step : Option Bound}
    (checked : Wording.doHeader none index start finish step = .ok t) (body : List Fragment)
    (label : Label) : ∃ f, Construct.labelledLoop label index start finish step body = .ok f ∧
      AtBothEnds (.doLoop index start finish step []) label f := by
  have passes := exists_doHeader_iff.mp ⟨t, checked⟩
  obtain ⟨opener, header⟩ : ∃ t, Wording.doHeader (some label) index start finish step = .ok t :=
    exists_doHeader_iff.mpr passes
  refine ⟨Construct.enclose opener body (Wording.continueAt label), ?_, opener, _, rfl, rfl, ?_⟩
  · rw [Construct.labelledLoop, header]
    rfl
  · rw [mark?, number_doHeader header, number_continueAt]
    rfl

theorem atomic_doLoop (index : Text) (start finish : Bound) (step : Option Bound)
    (body : List Fragment) : Atomic (.doLoop index start finish step [])
      (Construct.doLoop index start finish step body) := by
  refine .of_check fun _ checked => ?_
  choose make made ends using exists_labelledLoop checked body
  refine .of_map make ?_ ends
  rw [← bind_pure_comp]
  simp only [made]
  rfl

/-- The fields of a transfer that pass before there is a label pass with any. -/
theorem exists_formatted (direction : Wording.Transfer) {unit : Text}
    {descriptors operands : List Text} (single : unit.OneLine) (filled : descriptors ≠ [])
    (listed : ∀ d ∈ descriptors, d.OneLine) (each : ∀ o ∈ operands, o.OneLine) (label : Label) :
    ∃ opener closer,
      Wording.transfer direction unit (some label) operands = .ok opener ∧
        Wording.format label descriptors = .ok closer ∧
        AtBothEnds (.transfer direction unit none (some descriptors) operands) label
          (.block [.line opener, .line closer]) := by
  obtain ⟨opener, worded⟩ : ∃ t, Wording.transfer direction unit (some label) operands = .ok t :=
    exists_transfer_iff.mpr ⟨single, each⟩
  obtain ⟨closer, formatted⟩ : ∃ t, Wording.format label descriptors = .ok t :=
    exists_format_iff.mpr ⟨filled, listed⟩
  refine ⟨opener, closer, worded, formatted, opener, closer, rfl, rfl, ?_⟩
  rw [mark?, number_transfer worded, number_format formatted]
  rfl

theorem atomic_formatted (direction : Wording.Transfer) (unit : Text)
    (descriptors operands : List Text) :
    Atomic (.transfer direction unit none (some descriptors) operands)
      (Construct.formatted direction unit descriptors operands) := by
  refine .of_check fun _ unitPassed => .of_check fun _ listPassed => .of_check fun _ passed => ?_
  obtain ⟨-, single⟩ := Argument.required_eq_ok_iff.mp unitPassed
  obtain ⟨-, filled, listed⟩ := Argument.requiredList_eq_ok_iff.mp listPassed
  obtain ⟨-, each⟩ := Argument.optionalList_eq_ok_iff.mp passed
  choose opener closer worded formatted ends using
    exists_formatted direction single filled listed each
  refine .of_map (fun label => .block [.line (opener label), .line (closer label)]) ?_ ends
  rw [← bind_pure_comp]
  simp only [worded, formatted]
  rfl

/-- Loops and transfers with a list of formats are all or nothing, whatever they are made from: a
refusal leaves the supply alone, and nothing is refused once a label has been taken. -/
theorem composers_atomic :
    (∀ index start finish step body, Atomic (.doLoop index start finish step [])
      (Construct.doLoop index start finish step body)) ∧
    ∀ direction unit descriptors operands,
      Atomic (.transfer direction unit none (some descriptors) operands)
        (Construct.formatted direction unit descriptors operands) :=
  ⟨atomic_doLoop, atomic_formatted⟩

end FortranWriter.Assembly
