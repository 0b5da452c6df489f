import FortranWriter.Proofs.Assembly.Labels
import FortranWriter.Proofs.Assembly.Takes
/-! Everything that can be done with one supply of labels, in any order, some of it refused
half-way: no label is ever taken twice. -/
namespace FortranWriter.Assembly
open Composing Success

inductive Operation where
  | allocate
  | loop (index : Text) (start finish : Bound) (step : Option Bound) (body : List Fragment)
  | formatted (direction : Wording.Transfer) (unit : Text) (descriptors operands : List Text)
  | statement (s : Statement)
  | statements (tree : List Statement)

inductive Outcome where
  | label (label : Label)
  | fragment (f : Fragment)
  | fragments (fragments : List Fragment)

namespace Operation

def perform : Operation → Composing Outcome
  | allocate => return .label (← takeLabel)
  | loop index start finish step body =>
    return .fragment (← Construct.doLoop index start finish step body)
  | formatted direction unit descriptors operands =>
    return .fragment (← Construct.formatted direction unit descriptors operands)
  | statement s => return .fragment (← Assembly.statement s)
  | statements tree => return .fragments (← Assembly.statements tree)

end Operation

/-- The labels of marks whose constructs have the same one at both ends. -/
def paired? (found : List Mark) : Option (List Nat) :=
  if found.map Mark.closing = found.map Mark.opening then some (found.map Mark.opening) else none

/-- The labels that are read off what an operation gives. -/
def Operation.shown? : Operation → Outcome → Option (List Nat)
  | .allocate, .label label => some [label.number]
  | .loop index start finish step _, .fragment (.block [.line opener, .body _, .line closer]) =>
    mark? (.doLoop index start finish step []) opener closer >>= fun mark => paired? [mark]
  | .formatted direction unit descriptors operands, .fragment f =>
    marksOfAll [.transfer direction unit none (some descriptors) operands] [f] >>= paired?
  | .statement s, .fragment f => marksOfAll [s] [f] >>= paired?
  | .statements tree, .fragments fragments => marksOfAll tree fragments >>= paired?
  | _, _ => none

/-- An operation that was performed, the labels that were taken for it, and what it gave. -/
structure Event where
  operation : Operation
  labels : List Nat
  result : Except Refusal Outcome

/-- Operations that were performed one after the other. -/
inductive History : LabelSupply → List Event → LabelSupply → Prop
  | nil {supply} : History supply [] supply
  | cons {supply operation labels result middle events after} :
      operation.perform.run.run supply = (result, middle) → Takes operation.perform supply labels →
      History middle events after → History supply (⟨operation, labels, result⟩ :: events) after

theorem built_doLoop (index : Text) (start finish : Bound) (step : Option Bound)
    (body : List Fragment) : Built (Construct.doLoop index start finish step body) := by
  rw [Construct.doLoop]
  refine (Built.lift (Wording.confined_doHeader _ _ _ _ _)).bind fun _ => ?_
  refine Built.takeLabel.bind fun label => .lift ?_
  exact (Wording.confined_doHeader _ _ _ _ _).bind fun _ => .pure _

theorem built_perform (operation : Operation) : Built operation.perform := by
  cases operation with
  | allocate => exact Built.takeLabel.bind fun _ => .pure _
  | loop index start finish step body =>
      exact (built_doLoop index start finish step body).bind fun _ => .pure _
  | formatted direction unit descriptors operands =>
      exact (built_formatted direction unit descriptors operands).bind fun _ => .pure _
  | statement s => exact (built_statement s).bind fun _ => .pure _
  | statements tree => exact (built_statements tree).bind fun _ => .pure _

section Shown
variable {supply after : LabelSupply}

theorem paired?_of_reads {constructs : List Statement} {found : List Mark}
    (reads : Reads supply constructs found after) : paired? found = some (found.map Mark.opening) :=
  if_pos reads.paired

theorem shown_of_marked {tree : List Statement} {fragments : List Fragment}
    (marked : Marked supply tree fragments after) :
    ∃ numbers, (marksOfAll tree fragments >>= paired?) = some numbers ∧
      supply.Draws numbers after := by
  obtain ⟨found, read, reads⟩ := marked
  refine ⟨found.map Mark.opening, ?_, reads.drawn⟩
  rw [read]
  exact paired?_of_reads reads

/-- The labels on what an operation gives are those by which the supply has moved on. -/
theorem shown_of_perform {operation : Operation} {outcome : Outcome}
    (h : operation.perform.run.run supply = (.ok outcome, after)) :
    ∃ numbers, operation.shown? outcome = some numbers ∧ supply.Draws numbers after := by
  cases operation with
  | allocate =>
      simp only [Operation.perform, run_bind_eq_ok_iff, run_takeLabel_eq_ok_iff,
        run_pure_eq_ok_iff] at h
      obtain ⟨label, _, taken, rfl, rfl⟩ := h
      exact ⟨[label.number], rfl, .cons taken .nil⟩
  | loop index start finish step body =>
      simp only [Operation.perform, Construct.doLoop, Construct.labelledLoop, run_bind_eq_ok_iff,
        run_takeLabel_eq_ok_iff, run_lift_eq_ok_iff, run_pure_eq_ok_iff, bind_eq_ok_iff,
        pure_eq_ok_iff] at h
      obtain ⟨f, _, ⟨_, _, ⟨_, rfl⟩, label, _, taken, ⟨opener, header, rfl⟩, rfl⟩, rfl, rfl⟩ := h
      refine ⟨[label.number], ?_, .cons taken .nil⟩
      rw [Construct.enclose, Operation.shown?, mark?, number_doHeader header, number_continueAt]
      exact paired?_of_reads (Reads.nil.cons (.doLoop index start finish step []) taken)
  | formatted direction unit descriptors operands =>
      simp only [Operation.perform, run_bind_eq_ok_iff, run_pure_eq_ok_iff] at h
      obtain ⟨f, _, made, rfl, rfl⟩ := h
      have transferred : (Assembly.statement (.transfer direction unit none (some descriptors)
          operands)).run.run supply = (.ok f, after) := by
        rw [Assembly.statement]
        exact made
      exact shown_of_marked (Run.of_statement _ transferred .nil).marked
  | statement s =>
      simp only [Operation.perform, run_bind_eq_ok_iff, run_pure_eq_ok_iff] at h
      obtain ⟨f, _, made, rfl, rfl⟩ := h
      exact shown_of_marked (Run.of_statement s made .nil).marked
  | statements tree =>
      simp only [Operation.perform, run_bind_eq_ok_iff, run_pure_eq_ok_iff] at h
      obtain ⟨fragments, _, made, rfl, rfl⟩ := h
      exact shown_of_marked (Run.of_statements tree made).marked

end Shown

namespace History
variable {supply after : LabelSupply} {events : List Event}

/-- Any operations can be performed on a supply in any order, whatever is refused among them. -/
theorem exists_history (operations : List Operation) (supply : LabelSupply) :
    ∃ events after, events.map Event.operation = operations ∧ History supply events after := by
  induction operations generalizing supply with
  | nil => exact ⟨[], supply, rfl, .nil⟩
  | cons operation operations ih =>
      obtain ⟨labels, takes⟩ := (built_perform operation).exists_takes supply
      cases performed : operation.perform.run.run supply with
      | mk result middle =>
          obtain ⟨events, after, same, history⟩ := ih middle
          refine ⟨⟨operation, labels, result⟩ :: events, after, ?_, .cons performed takes history⟩
          rw [List.map_cons, same]

theorem draws_of_performed {operation : Operation} {labels : List Nat} {middle : LabelSupply}
    {result : Except Refusal Outcome} (takes : Takes operation.perform supply labels)
    (performed : operation.perform.run.run supply = (result, middle)) :
    supply.Draws labels middle := by
  have drawn := takes.draws
  rw [performed] at drawn
  exact drawn

theorem draws (h : History supply events after) :
    supply.Draws (events.flatMap Event.labels) after := by
  induction h with
  | nil => exact .nil
  | cons performed takes _ ih => exact (draws_of_performed takes performed).append ih

theorem shown (h : History supply events after) (apart : supply.step ≠ 0) :
    ∀ e ∈ events, ∀ outcome, e.result = .ok outcome →
      e.operation.shown? outcome = some e.labels := by
  induction h with
  | nil => exact fun e h => absurd h List.not_mem_nil
  | @cons supply operation labels result middle events after performed takes _ ih =>
      have drawn := draws_of_performed takes performed
      rw [List.forall_mem_cons]
      refine ⟨?_, ih (drawn.step_eq ▸ apart)⟩
      rintro outcome rfl
      obtain ⟨numbers, shown, moved⟩ := shown_of_perform performed
      -- the labels that were taken and those that are shown lead to the same supply
      rw [shown, drawn.numbers_eq apart moved]

/-- Nothing is taken from a supply that has run out, and asking for a label is refused. -/
theorem of_spent (h : History supply events after) (spent : maximumLabel < supply.next) :
    ∀ e ∈ events, e.labels = [] ∧
      (e.operation = .allocate → e.result = .error .labelsExhausted) := by
  induction h with
  | nil => exact fun e h => absurd h List.not_mem_nil
  | @cons supply operation labels result middle events after performed takes _ ih =>
      obtain ⟨none, rfl⟩ := (draws_of_performed takes performed).of_spent spent
      rw [List.forall_mem_cons]
      refine ⟨⟨none, ?_⟩, ih spent⟩
      rintro rfl
      have refused := run_takeLabel_of_refused (LabelSupply.take_of_spent spent)
      rw [Operation.perform, run_bind_of_error refused] at performed
      cases performed
      rfl

theorem exists_of_append {before later : List Event} (h : History supply (before ++ later) after) :
    ∃ middle, History supply before middle ∧ History middle later after := by
  induction before generalizing supply with
  | nil => exact ⟨supply, .nil, h⟩
  | cons e before ih =>
      cases h with
      | cons performed takes rest =>
          obtain ⟨middle, first, second⟩ := ih rest
          exact ⟨middle, .cons performed takes first, second⟩

theorem of_exhausted {before later : List Event} {e : Event}
    (h : History supply (before ++ e :: later) after)
    (exhausted : e.result = .error .labelsExhausted) :
    ∀ e ∈ later, e.labels = [] ∧
      (e.operation = .allocate → e.result = .error .labelsExhausted) := by
  obtain ⟨middle, -, rest⟩ := h.exists_of_append
  cases rest with
  | cons performed takes others =>
      obtain rfl := exhausted
      exact others.of_spent ((built_perform _).spent performed)

end History

/-- Whatever is done with one supply, and wherever it is refused, the labels that are taken
increase, so that no two operations share one; what succeeds shows its own. A supply that
has run out stays so. -/
theorem labels_never_repeat {supply : LabelSupply}
    (accepted : supply = .standard ∨ ∃ first step, LabelSupply.starting first step = .ok supply) :
    (∀ operations, ∃ events after,
        events.map Event.operation = operations ∧ History supply events after) ∧
      ∀ events after, History supply events after →
        (events.flatMap Event.labels).Pairwise (· < ·) ∧
        events.Pairwise (fun e f => e.labels.Disjoint f.labels) ∧
        (∀ e ∈ events, ∀ outcome, e.result = .ok outcome →
          e.operation.shown? outcome = some e.labels) ∧
        ∀ before e later, events = before ++ e :: later → e.result = .error .labelsExhausted →
          ∀ f ∈ later, f.labels = [] ∧
            (f.operation = .allocate → f.result = .error .labelsExhausted) := by
  have apart := LabelSupply.apart_of_accepted accepted
  refine ⟨fun operations => History.exists_history operations supply, ?_⟩
  intro events after history
  have increasing := history.draws.pairwise apart
  refine ⟨increasing, ?_, history.shown apart, ?_⟩
  · rw [List.pairwise_flatMap] at increasing
    refine increasing.2.imp ?_
    intro e f below n here there
    exact Nat.lt_irrefl n (below n here n there)
  · rintro before e later rfl exhausted
    exact history.of_exhausted exhausted

/-- A loop whose label is taken before the call in its body is refused. -/
def broken : List Statement :=
  [.doLoop "i".toList (.integer 1) (.integer 3) none [.call [] []]]

/-- The refused loop has used up its label, the last one is allocated, and then there is none. -/
theorem labels_never_repeat_broken :
    LabelSupply.starting 99998 1 = .ok ⟨99998, 1⟩ ∧
      ∃ last events after, History ⟨99998, 1⟩ events after ∧
        events = [⟨.statements broken, [99998], .error (.empty "subroutine name".toList)⟩,
          ⟨.allocate, [99999], .ok (.label last)⟩, ⟨.allocate, [], .error .labelsExhausted⟩] ∧
        last.number = 99999 ∧ (events.flatMap Event.labels).Pairwise (· < ·) := by
  have accepted : LabelSupply.starting 99998 1 = .ok ⟨99998, 1⟩ := rfl
  have taken : LabelSupply.take ⟨99998, 1⟩ = .ok (⟨99998, by decide, by decide⟩, ⟨99999, 1⟩) := rfl
  have last : LabelSupply.take ⟨99999, 1⟩ = .ok (⟨99999, by decide, by decide⟩, ⟨100000, 1⟩) := rfl
  have spent : Takes (Operation.statements broken).perform ⟨99998, 1⟩ [99998] :=
    ((built_perform _).takes_iff (by decide)).mpr (.cons taken .nil)
  have allocated : Takes Operation.allocate.perform ⟨99999, 1⟩ [99999] :=
    ((built_perform _).takes_iff (by decide)).mpr (.cons last .nil)
  have none : Takes Operation.allocate.perform ⟨100000, 1⟩ [] :=
    ((built_perform _).takes_iff (by decide)).mpr .nil
  have history := History.cons rfl spent (.cons rfl allocated (.cons rfl none .nil))
  obtain ⟨-, runs⟩ := labels_never_repeat (.inr ⟨99998, 1, accepted⟩)
  exact ⟨accepted, _, _, _, history, rfl, rfl, (runs _ _ history).1⟩

end FortranWriter.Assembly
