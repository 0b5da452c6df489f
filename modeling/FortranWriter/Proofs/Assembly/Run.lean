import FortranWriter.Assembly
import FortranWriter.Proofs.Wording
/-! The successful runs of assembly as a relation over whole trees: which fragments a tree becomes,
and what happens to the supply of labels, step by step in source order. -/
namespace FortranWriter.Assembly
open Success

/-- The text of a statement that takes a single line whatever supply it finds. -/
def leaf? : Statement → Option (Except Refusal Text)
  | .call name arguments => some (Wording.call name arguments)
  | .assign destination expression => some (Wording.assign destination expression)
  | .declare category names => some (Wording.declare category names)
  | .common name names => some (Wording.common name names)
  | .parameter assignments => some (Wording.parameter assignments)
  | .implicitNone => some (.ok Wording.implicitNone)
  | .comment text => some (Wording.comment text)
  | .continueAt label => some (Wording.continueAt <$> Label.parse label)
  | .goto label => some (Wording.goto <$> Label.parse label)
  | .ifGoto condition label => some (Label.parse label >>= Wording.ifGoto condition)
  | .returnLine => some (.ok Wording.returnLine)
  | .stop => some (.ok Wording.stop)
  | .closeFile unit => some (Wording.closeFile unit)
  | .transfer direction unit label none operands =>
    some (optionalLabel label >>= fun label => Wording.transfer direction unit label operands)
  | .format label descriptors =>
    some (Label.parse label >>= fun label => Wording.format label descriptors)
  | _ => none

/-- The body of a construct without a label and with a single body, and its opener and closer. -/
def enclosure? : Statement → Option (List Statement × Except Refusal (Text × Text))
  | .ifThen condition body none =>
    some (body, (·, Wording.endIf) <$> Wording.ifThen condition)
  | .program name body => some (body, (·, Wording.finish) <$> Wording.program name)
  | .subroutine name parameters body =>
    some (body, (·, Wording.finish) <$> Wording.subroutine name parameters)
  | .function category name parameters body =>
    some (body, (·, Wording.finish) <$> Wording.function category name parameters)
  | .openFile unit file status body =>
    some (body, Wording.openFile unit file status >>= fun opener =>
      (opener, ·) <$> Wording.closeFile unit)
  | _ => none

/-- The constructs that `enclosure?` tells of: each with its body, and with its
ends or their refusal. -/
inductive Enclosure : Statement → List Statement → Except Refusal (Text × Text) → Prop
  | ifThen (condition body) :
      Enclosure (.ifThen condition body none) body ((·, Wording.endIf) <$> Wording.ifThen condition)
  | program (name body) :
      Enclosure (.program name body) body ((·, Wording.finish) <$> Wording.program name)
  | subroutine (name parameters body) :
      Enclosure (.subroutine name parameters body) body
        ((·, Wording.finish) <$> Wording.subroutine name parameters)
  | function (category name parameters body) :
      Enclosure (.function category name parameters body) body
        ((·, Wording.finish) <$> Wording.function category name parameters)
  | openFile (unit file status body) :
      Enclosure (.openFile unit file status body) body
        (Wording.openFile unit file status >>= fun opener =>
          (opener, ·) <$> Wording.closeFile unit)

/-- The supply before a tree, the tree, its fragments, and the supply behind it. -/
inductive Run : LabelSupply → List Statement → List Fragment → LabelSupply → Prop
  | nil {supply} : Run supply [] [] supply
  | leaf {s text supply rest fragments after} : leaf? s = some (.ok text) →
      Run supply rest fragments after → Run supply (s :: rest) (.line text :: fragments) after
  | verbatim {text supply rest fragments after} : Run supply rest fragments after →
      Run supply (.verbatim text :: rest) (Fragment.ofText text :: fragments) after
  | enclosed {s body opener closer supply inner middle rest fragments after} :
      enclosure? s = some (body, .ok (opener, closer)) → Run supply body inner middle →
      Run middle rest fragments after →
      Run supply (s :: rest) (Construct.enclose opener inner closer :: fragments) after
  | divided {condition opener body otherwise supply inner between other middle rest fragments
      after} :
      Wording.ifThen condition = .ok opener → Run supply body inner between →
      Run between otherwise other middle → Run middle rest fragments after →
      Run supply (.ifThen condition body (some otherwise) :: rest)
        (.block [.line opener, .body inner, .line Wording.otherwise, .body other,
          .line Wording.endIf] :: fragments) after
  | loop {label index start finish step opener body supply inside inner middle rest fragments
      after} :
      supply.take = .ok (label, inside) →
      Wording.doHeader (some label) index start finish step = .ok opener →
      Run inside body inner middle → Run middle rest fragments after →
      Run supply (.doLoop index start finish step body :: rest)
        (Construct.enclose opener inner (Wording.continueAt label) :: fragments) after
  | formatted {label direction unit formats operands statement format supply middle rest fragments
      after} :
      supply.take = .ok (label, middle) →
      Wording.transfer direction unit (some label) operands = .ok statement →
      Wording.format label formats = .ok format → Run middle rest fragments after →
      Run supply (.transfer direction unit none (some formats) operands :: rest)
        (.block [.line statement, .line format] :: fragments) after

theorem run_line (made : Except Refusal Text) (supply : LabelSupply) :
    (do return Fragment.line (← made) : Composing Fragment).run.run supply =
      (Fragment.line <$> made, supply) := by
  cases made <;> rfl

/-- A statement that takes one line needs no label and fails only if its text does. -/
theorem run_statement_of_leaf? {s : Statement} {made : Except Refusal Text}
    (h : leaf? s = some made) (supply : LabelSupply) :
    (statement s).run.run supply = (Fragment.line <$> made, supply) := by
  cases s with
  | call | assign | declare | common | parameter | comment | closeFile =>
      cases h
      rw [statement]
      exact run_line _ supply
  | implicitNone | returnLine | stop =>
      cases h
      rw [statement]
      rfl
  | continueAt label | goto label =>
      cases h
      rw [statement]
      cases Label.parse label <;> rfl
  | ifGoto condition label =>
      cases h
      rw [statement]
      cases Label.parse label with
      | error refusal => rfl
      | ok label => exact run_line (Wording.ifGoto condition label) supply
  | format label descriptors =>
      cases h
      rw [statement]
      cases Label.parse label with
      | error refusal => rfl
      | ok label => exact run_line (Wording.format label descriptors) supply
  | transfer direction unit label formats operands =>
      cases formats with
      | some formats => cases h
      | none =>
          cases h
          rw [statement, transfer]
          cases optionalLabel label with
          | error refusal => rfl
          | ok label => exact run_line (Wording.transfer direction unit label operands) supply
  | verbatim | ifThen | doLoop | program | subroutine | function | openFile => cases h

theorem Enclosure.of_view {s : Statement} {body : List Statement}
    {made : Except Refusal (Text × Text)} (view : enclosure? s = some (body, made)) :
    Enclosure s body made := by
  cases s with
  | ifThen condition body otherwise =>
      cases otherwise with
      | some otherwise => cases view
      | none =>
          cases view
          exact .ifThen condition body
  | program name body =>
      cases view
      exact .program name body
  | subroutine name parameters body =>
      cases view
      exact .subroutine name parameters body
  | function category name parameters body =>
      cases view
      exact .function category name parameters body
  | openFile unit file status body =>
      cases view
      exact .openFile unit file status body
  | call | assign | declare | common | parameter | implicitNone | comment | continueAt | goto
  | ifGoto | returnLine | stop | verbatim | doLoop | closeFile | transfer | format => cases view

/-- The body of a construct is assembled first; then its ends are made, or refused. -/
theorem statement_of_enclosure? {s : Statement} {body : List Statement}
    {made : Except Refusal (Text × Text)} (view : enclosure? s = some (body, made)) :
    statement s = (do
      let inner ← statements body
      let ends ← made
      return Construct.enclose ends.1 inner ends.2) := by
  cases Enclosure.of_view view with
  | ifThen condition =>
      rw [statement]
      congr 1
      funext inner supply
      rw [Construct.ifThen]
      cases Wording.ifThen condition <;> rfl
  | program name =>
      rw [statement]
      congr 1
      funext inner supply
      rw [Construct.program]
      cases Wording.program name <;> rfl
  | subroutine name parameters =>
      rw [statement]
      congr 1
      funext inner supply
      rw [Construct.subroutine]
      cases Wording.subroutine name parameters <;> rfl
  | function category name parameters =>
      rw [statement]
      congr 1
      funext inner supply
      rw [Construct.function]
      cases Wording.function category name parameters <;> rfl
  | openFile unit file status =>
      rw [statement]
      congr 1
      funext inner supply
      rw [Construct.openFile]
      cases Wording.openFile unit file status with
      | error refusal => rfl
      | ok opener => cases Wording.closeFile unit <;> rfl

section Steps
variable {s : Statement} {rest body : List Statement} {f : Fragment} {fragments : List Fragment}
  {supply middle after : LabelSupply}

theorem Run.of_leaf? {made : Except Refusal Text} (view : leaf? s = some made)
    (h : (statement s).run.run supply = (.ok f, middle))
    (others : Run middle rest fragments after) :
    Run supply (s :: rest) (f :: fragments) after := by
  rw [run_statement_of_leaf? view, Prod.mk.injEq, map_eq_ok_iff] at h
  obtain ⟨⟨text, rfl, rfl⟩, rfl⟩ := h
  exact .leaf view others

theorem Run.of_enclosure? {made : Except Refusal (Text × Text)}
    (view : enclosure? s = some (body, made))
    (inside : ∀ {inner between}, (statements body).run.run supply = (.ok inner, between) →
      Run supply body inner between)
    (h : (statement s).run.run supply = (.ok f, middle))
    (others : Run middle rest fragments after) :
    Run supply (s :: rest) (f :: fragments) after := by
  simp only [statement_of_enclosure? view, run_bind_eq_ok_iff, run_lift_eq_ok_iff,
    run_pure_eq_ok_iff] at h
  obtain ⟨inner, between, assembled, ⟨opener, closer⟩, _, ⟨rfl, rfl⟩, rfl, rfl⟩ := h
  exact .enclosed view (inside assembled) others

end Steps

mutual

theorem Run.of_statement (s : Statement) {rest : List Statement} {f : Fragment}
    {fragments : List Fragment} {supply middle after : LabelSupply}
    (h : (statement s).run.run supply = (.ok f, middle))
    (others : Run middle rest fragments after) :
    Run supply (s :: rest) (f :: fragments) after := by
  cases s with
  | call | assign | declare | common | parameter | implicitNone | comment | continueAt | goto
  | ifGoto | returnLine | stop | closeFile | format => exact .of_leaf? rfl h others
  | verbatim text =>
      rw [statement, run_pure_eq_ok_iff] at h
      obtain ⟨rfl, rfl⟩ := h
      exact .verbatim others
  | ifThen condition body otherwise =>
      cases otherwise with
      | none => exact .of_enclosure? rfl (fun h => Run.of_statements body h) h others
      | some otherwise =>
          simp only [statement, Construct.ifThenElse, run_bind_eq_ok_iff, run_lift_eq_ok_iff,
            bind_eq_ok_iff, pure_eq_ok_iff] at h
          obtain ⟨inner, between, first, other, _, second, ⟨opener, header, rfl⟩, rfl⟩ := h
          exact .divided header (Run.of_statements body first) (Run.of_statements otherwise second)
            others
  | doLoop index start finish step body =>
      simp only [statement, Construct.labelledLoop, run_bind_eq_ok_iff, run_takeLabel_eq_ok_iff,
        run_lift_eq_ok_iff, bind_eq_ok_iff, pure_eq_ok_iff] at h
      obtain ⟨label, inside, taken, inner, _, assembled, ⟨opener, header, rfl⟩, rfl⟩ := h
      exact .loop taken header (Run.of_statements body assembled) others
  | program name body => exact .of_enclosure? rfl (fun h => Run.of_statements body h) h others
  | subroutine name parameters body =>
      exact .of_enclosure? rfl (fun h => Run.of_statements body h) h others
  | function category name parameters body =>
      exact .of_enclosure? rfl (fun h => Run.of_statements body h) h others
  | openFile unit file status body =>
      exact .of_enclosure? rfl (fun h => Run.of_statements body h) h others
  | transfer direction unit label formats operands =>
      cases formats with
      | none => exact .of_leaf? rfl h others
      | some formats =>
          cases label with
          | some given => cases h
          | none =>
              simp only [statement, transfer, Construct.formatted, run_bind_eq_ok_iff,
                run_takeLabel_eq_ok_iff, run_lift_eq_ok_iff, run_pure_eq_ok_iff] at h
              obtain ⟨_, _, ⟨_, rfl⟩, _, _, ⟨_, rfl⟩, _, _, ⟨_, rfl⟩, label, _, taken, text, _,
                ⟨worded, rfl⟩, format, _, ⟨formatted, rfl⟩, rfl, rfl⟩ := h
              exact .formatted taken worded formatted others
termination_by sizeOf s

/-- Every successful assembly of a tree is a run of the relation. -/
theorem Run.of_statements (tree : List Statement) {fragments : List Fragment}
    {supply after : LabelSupply}
    (h : (statements tree).run.run supply = (.ok fragments, after)) :
    Run supply tree fragments after := by
  cases tree with
  | nil =>
      rw [statements, run_pure_eq_ok_iff] at h
      obtain ⟨rfl, rfl⟩ := h
      exact .nil
  | cons s rest =>
      simp only [statements, run_bind_eq_ok_iff, run_pure_eq_ok_iff] at h
      obtain ⟨f, middle, first, others, _, assembled, rfl, rfl⟩ := h
      exact Run.of_statement s first (Run.of_statements rest assembled)
termination_by sizeOf tree

end

theorem run_statements_cons {s : Statement} {rest : List Statement} {f : Fragment}
    {fragments : List Fragment} {supply middle after : LabelSupply}
    (first : (statement s).run.run supply = (.ok f, middle))
    (others : (statements rest).run.run middle = (.ok fragments, after)) :
    (statements (s :: rest)).run.run supply = (.ok (f :: fragments), after) := by
  simp only [statements, run_bind_eq_ok_iff, run_pure_eq_ok_iff]
  exact ⟨f, middle, first, fragments, after, others, rfl, rfl⟩

theorem Run.assembled {supply after : LabelSupply} {tree : List Statement}
    {fragments : List Fragment} (h : Run supply tree fragments after) :
    (statements tree).run.run supply = (.ok fragments, after) := by
  induction h with
  | nil => rw [statements]; rfl
  | leaf view _ ih => exact run_statements_cons (run_statement_of_leaf? view _) ih
  | verbatim _ ih =>
      refine run_statements_cons ?_ ih
      rw [statement]
      rfl
  | enclosed view _ _ inside ih =>
      refine run_statements_cons ?_ ih
      simp only [statement_of_enclosure? view, run_bind_eq_ok_iff, run_lift_eq_ok_iff,
        run_pure_eq_ok_iff]
      exact ⟨_, _, inside, _, _, ⟨rfl, rfl⟩, rfl, rfl⟩
  | divided worded _ _ _ inside opposite ih =>
      refine run_statements_cons ?_ ih
      simp only [statement, Construct.ifThenElse, run_bind_eq_ok_iff, run_lift_eq_ok_iff,
        bind_eq_ok_iff, pure_eq_ok_iff]
      exact ⟨_, _, inside, _, _, opposite, ⟨_, worded, rfl⟩, rfl⟩
  | loop taken header _ _ inside ih =>
      refine run_statements_cons ?_ ih
      simp only [statement, Construct.labelledLoop, run_bind_eq_ok_iff, run_takeLabel_eq_ok_iff,
        run_lift_eq_ok_iff, bind_eq_ok_iff, pure_eq_ok_iff]
      exact ⟨_, _, taken, _, _, inside, ⟨_, header, rfl⟩, rfl⟩
  | formatted taken worded formatted _ ih =>
      refine run_statements_cons ?_ ih
      -- the checks in front of the label are those that the two lines make again
      obtain ⟨single, operands, _⟩ := Wording.transfer_eq_ok_iff.mp worded
      obtain ⟨listed, descriptors, _⟩ := Wording.format_eq_ok_iff.mp formatted
      simp only [statement, transfer, Construct.formatted, run_bind_eq_ok_iff,
        run_takeLabel_eq_ok_iff, run_lift_eq_ok_iff, run_pure_eq_ok_iff,
        Argument.required_eq_ok_iff, Argument.requiredList_eq_ok_iff,
        Argument.optionalList_eq_ok_iff]
      exact ⟨_, _, ⟨⟨rfl, single⟩, rfl⟩, _, _, ⟨⟨rfl, listed, descriptors⟩, rfl⟩, _, _,
        ⟨⟨rfl, operands⟩, rfl⟩, _, _, taken, _, _, ⟨worded, rfl⟩, _, _, ⟨formatted, rfl⟩, rfl, rfl⟩

theorem run_iff {supply after : LabelSupply} {tree : List Statement} {fragments : List Fragment} :
    Run supply tree fragments after ↔ (statements tree).run.run supply = (.ok fragments, after) :=
  ⟨Run.assembled, Run.of_statements tree⟩

end FortranWriter.Assembly
