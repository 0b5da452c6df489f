import FortranWriter.Proofs.Assembly.Acceptance
import FortranWriter.Proofs.Assembly.OnePass
import FortranWriter.Proofs.Fragment.Nesting
/-! Where the characters of assembled lines come from: the texts of the statements, and the
printable part of ASCII. -/
namespace FortranWriter

def Statement.texts : Statement → List Text
  | .call name arguments => name :: arguments
  | .assign destination expression => [destination, expression]
  | .declare category names => category :: names
  | .common name names => name :: names
  | .parameter assignments => assignments
  | .comment text | .verbatim text => [text]
  | .continueAt label | .goto label => [label]
  | .ifGoto condition label => [condition, label]
  | .implicitNone | .returnLine | .stop => []
  | .ifThen condition _ _ => [condition]
  | .doLoop index start finish step _ =>
    index :: start.texts ++ finish.texts ++ step.toList.flatMap Bound.texts
  | .program name _ => [name]
  | .subroutine name parameters _ => name :: parameters
  | .function category name parameters _ => category :: name :: parameters
  | .openFile unit file status _ => unit :: file :: status.toList
  | .closeFile unit => [unit]
  | .transfer _ unit label formats operands =>
    unit :: label.toList ++ formats.getD [] ++ operands
  | .format label descriptors => label :: descriptors

def IsPrintable (c : Char) : Prop :=
  0x20 ≤ c.toNat ∧ c.toNat ≤ 0x7e

instance : DecidablePred IsPrintable :=
  fun _ => inferInstanceAs (Decidable (_ ∧ _))

namespace OnePass
open Assembly (Everywhere bodies everywhere_cons_iff everywhere_append_iff leaf?)

/-- What a computation that takes labels returns. -/
def Yields {α : Type} (q : α → Prop) (x : StateM LabelSupply α) : Prop :=
  ∀ supply, q (x.run supply).1

section Yielding
variable {α β : Type} {q : α → Prop} {r : β → Prop}

theorem yields_pure {a : α} (h : q a) : Yields q (pure a) :=
  fun _ => h

theorem yields_bind {x : StateM LabelSupply α} {f : α → StateM LabelSupply β} (first : Yields q x)
    (rest : ∀ a, q a → Yields r (f a)) : Yields r (x >>= f) :=
  fun supply => rest _ (first supply) _

end Yielding

section Characters
variable {p : Char → Prop}

def Lettering (p : Char → Prop) (printed : List Printed) : Prop :=
  ∀ l ∈ printed, ∀ c ∈ l.line.text, p c

theorem lettering_append {front back : List Printed} (first : Lettering p front)
    (second : Lettering p back) : Lettering p (front ++ back) :=
  List.forall_mem_append.mpr ⟨first, second⟩

theorem lettering_plain {depth : Nat} {t : Text} (h : ∀ c ∈ t, p c) : Lettering p [plain depth t] :=
  List.forall_mem_singleton.mpr h

theorem yields_plain {depth : Nat} {t : Text} (h : ∀ c ∈ t, p c) :
    Yields (Lettering p) (pure [plain depth t]) :=
  yields_pure (lettering_plain h)

variable (printable : ∀ c, IsPrintable c → p c)
include printable

theorem of_literal {t : Text} (h : t.all (decide <| IsPrintable ·) = true) : ∀ c ∈ t, p c :=
  fun c mem => printable c (of_decide_eq_true (List.all_eq_true.mp h c mem))

theorem of_number (n : Nat) : ∀ c ∈ Decimal.ofNat n, p c := by
  intro c mem
  obtain ⟨low, high⟩ := Decimal.toNat_of_isDigit (Decimal.isDigit_of_mem_ofNat mem)
  exact printable c ⟨Nat.le_trans (by decide) low, Nat.le_trans high (by decide)⟩

theorem of_integer (n : Int) : ∀ c ∈ Decimal.ofInt n, p c := by
  cases n with
  | ofNat n => exact of_number printable n
  | negSucc n =>
      exact List.forall_mem_cons.mpr ⟨printable '-' (by decide), of_number printable (n + 1)⟩

omit printable in
theorem of_joinWith {separator : Text} (between : ∀ c ∈ separator, p c) :
    ∀ {ts : List Text}, (∀ t ∈ ts, ∀ c ∈ t, p c) → ∀ c ∈ Text.joinWith separator ts, p c
  | [], _ => fun _ mem => absurd mem List.not_mem_nil
  | [t], each => each t List.mem_cons_self
  | t :: u :: rest, each => by
      obtain ⟨first, others⟩ := List.forall_mem_cons.mp each
      simp only [Text.joinWith, List.forall_mem_append]
      exact ⟨⟨first, between⟩, of_joinWith between others⟩

theorem of_join {ts : List Text} (each : ∀ t ∈ ts, ∀ c ∈ t, p c) : ∀ c ∈ Argument.join ts, p c :=
  of_joinWith (of_literal printable (by decide)) each

theorem of_quote {t : Text} (each : ∀ c ∈ t, p c) : ∀ c ∈ Literal.quote t, p c := by
  intro c mem
  rcases Literal.mem_quote_cases mem with rfl | inside
  · exact printable _ (by decide)
  · exact each c inside

theorem of_declaration {category : Text} {names : List Text} (first : ∀ c ∈ category, p c)
    (each : ∀ t ∈ names, ∀ c ∈ t, p c) : ∀ c ∈ Wording.declaration category names, p c := by
  rw [Wording.declaration]
  split
  · simp only [List.forall_mem_append]
    refine ⟨⟨⟨first, of_literal printable (by decide)⟩, of_joinWith ?_ ?_⟩,
      of_literal printable (by decide)⟩
    · exact of_literal printable (by decide)
    · exact List.forall_mem_map.mpr fun t mem c inside => each t mem c (Text.mem_of_mem_trim inside)
  · simp only [List.forall_mem_append]
    exact ⟨⟨first, of_literal printable (by decide)⟩, of_join printable each⟩

theorem of_operandText {operands : List Text} (each : ∀ t ∈ operands, ∀ c ∈ t, p c) :
    ∀ c ∈ Wording.operandText operands, p c := by
  rw [Wording.operandText]
  split
  · exact fun _ mem => absurd mem List.not_mem_nil
  · exact List.forall_mem_cons.mpr ⟨printable _ (by decide), of_join printable each⟩

theorem of_shown {bound : Bound} (each : ∀ t ∈ bound.texts, ∀ c ∈ t, p c) :
    ∀ c ∈ bound.shown, p c := by
  cases bound with
  | integer n => exact of_integer printable n
  | expression t =>
      exact fun c mem => each t (List.mem_singleton_self t) c (Text.mem_of_mem_trim mem)

theorem of_stepText {step : Option Bound}
    (each : ∀ t ∈ step.toList.flatMap Bound.texts, ∀ c ∈ t, p c) :
    ∀ c ∈ Wording.stepText step, p c := by
  cases step with
  | none => exact fun _ mem => absurd mem List.not_mem_nil
  | some step =>
      rw [Option.toList_some, List.flatMap_singleton] at each
      rw [Wording.stepText]
      simp only [List.forall_mem_append]
      exact ⟨of_literal printable (by decide), of_shown printable each⟩

omit printable in
theorem lettering_around {depth : Nat} {frame : Frame} {tail : Text} {inner : List Printed}
    (opener : ∀ c ∈ frame.heading ++ tail, p c) (inside : Lettering p inner)
    (closer : ∀ c ∈ frame.closer, p c) : Lettering p (around depth frame tail inner) := by
  rw [around]
  exact lettering_append (List.forall_mem_cons.mpr ⟨opener, inside⟩)
    (List.forall_mem_singleton.mpr closer)

/-- Every text of a statement has only such characters. -/
def Spelled (p : Char → Prop) (s : Statement) : Prop :=
  ∀ t ∈ s.texts, ∀ c ∈ t, p c

theorem yields_nextLabel : Yields (fun t => ∀ c ∈ t, p c) nextLabel :=
  fun supply => of_number printable supply.next

theorem of_transfer (direction : Wording.Transfer) {unit middle : Text} {operands : List Text}
    (first : ∀ c ∈ unit, p c) (between : ∀ c ∈ middle, p c) (each : ∀ t ∈ operands, ∀ c ∈ t, p c) :
    ∀ c ∈ direction.keyword ++ "(".toList ++ unit ++ middle ++ ")".toList ++
      Wording.operandText operands, p c := by
  simp only [List.forall_mem_append]
  refine ⟨⟨⟨⟨⟨?_, of_literal printable (by decide)⟩, first⟩, between⟩,
    of_literal printable (by decide)⟩, of_operandText printable each⟩
  cases direction
  all_goals exact of_literal printable (by decide)

theorem of_condition {condition : Text} (first : ∀ c ∈ condition, p c) :
    ∀ c ∈ Frame.conditional.heading ++ (condition ++ ") then".toList), p c := by
  simp only [List.forall_mem_append]
  exact ⟨of_literal printable (by decide), first, of_literal printable (by decide)⟩

theorem of_header {label index : Text} {start finish : Bound} {step : Option Bound}
    (digits : ∀ c ∈ label, p c) (first : ∀ c ∈ index, p c)
    (starts : ∀ t ∈ start.texts, ∀ c ∈ t, p c) (finishes : ∀ t ∈ finish.texts, ∀ c ∈ t, p c)
    (steps : ∀ t ∈ step.toList.flatMap Bound.texts, ∀ c ∈ t, p c) :
    ∀ c ∈ "do ".toList ++ label ++ " ".toList ++ (index ++ " = ".toList ++ start.shown ++
      ", ".toList ++ finish.shown ++ Wording.stepText step), p c := by
  simp only [List.forall_mem_append]
  exact ⟨⟨⟨of_literal printable (by decide), digits⟩, of_literal printable (by decide)⟩,
    ⟨⟨⟨⟨first, of_literal printable (by decide)⟩, of_shown printable starts⟩,
      of_literal printable (by decide)⟩, of_shown printable finishes⟩, of_stepText printable steps⟩

theorem of_opening {unit file status : Text} (first : ∀ c ∈ unit, p c) (quoted : ∀ c ∈ file, p c)
    (known : ∀ c ∈ status, p c) :
    ∀ c ∈ "open(unit=".toList ++ unit ++ ", file=".toList ++ (Literal.quote file ++
      ", status=".toList ++ Literal.quote status ++ ")".toList), p c := by
  simp only [List.forall_mem_append]
  exact ⟨⟨⟨of_literal printable (by decide), first⟩, of_literal printable (by decide)⟩,
    ⟨⟨of_quote printable quoted, of_literal printable (by decide)⟩, of_quote printable known⟩,
    of_literal printable (by decide)⟩

theorem of_closing {unit : Text} (first : ∀ c ∈ unit, p c) :
    ∀ c ∈ "close(unit=".toList ++ unit ++ ")".toList, p c := by
  simp only [List.forall_mem_append]
  exact ⟨⟨of_literal printable (by decide), first⟩, of_literal printable (by decide)⟩

theorem of_format {label : Text} {descriptors : List Text} (first : ∀ c ∈ label, p c)
    (each : ∀ t ∈ descriptors, ∀ c ∈ t, p c) :
    ∀ c ∈ label ++ " format(".toList ++ Argument.join descriptors ++ ")".toList, p c := by
  simp only [List.forall_mem_append]
  exact ⟨⟨⟨first, of_literal printable (by decide)⟩, of_join printable each⟩,
    of_literal printable (by decide)⟩

theorem of_parameters {front name : Text} {ts : List Text} (opens : ∀ c ∈ front, p c)
    (first : ∀ c ∈ name, p c) (each : ∀ t ∈ ts, ∀ c ∈ t, p c) :
    ∀ c ∈ front ++ (name ++ "(".toList ++ Argument.join ts ++ ")".toList), p c := by
  simp only [List.forall_mem_append]
  exact ⟨opens, ⟨⟨first, of_literal printable (by decide)⟩, of_join printable each⟩,
    of_literal printable (by decide)⟩

/-- A statement of one line is printed in the characters of its texts and printable ones. -/
theorem yields_leaf {depth : Nat} {s : Statement} (single : (leaf? s).isSome = true)
    (own : Spelled p s) : Yields (Lettering p) (print depth s) := by
  cases s with
  | call name arguments =>
      obtain ⟨first, others⟩ := List.forall_mem_cons.mp own
      rw [print]
      refine yields_plain ?_
      simp only [List.forall_mem_append]
      exact ⟨⟨⟨⟨of_literal printable (by decide), first⟩, of_literal printable (by decide)⟩,
        of_join printable others⟩, of_literal printable (by decide)⟩
  | assign destination expression =>
      obtain ⟨first, others⟩ := List.forall_mem_cons.mp own
      rw [print]
      refine yields_plain ?_
      simp only [List.forall_mem_append]
      exact ⟨⟨first, of_literal printable (by decide)⟩, List.forall_mem_singleton.mp others⟩
  | declare category names =>
      obtain ⟨first, others⟩ := List.forall_mem_cons.mp own
      rw [print]
      exact yields_plain (of_declaration printable first others)
  | common name names =>
      obtain ⟨first, others⟩ := List.forall_mem_cons.mp own
      rw [print]
      refine yields_plain ?_
      simp only [List.forall_mem_append]
      exact ⟨⟨⟨of_literal printable (by decide), first⟩, of_literal printable (by decide)⟩,
        of_join printable others⟩
  | parameter assignments =>
      rw [print]
      refine yields_plain ?_
      simp only [List.forall_mem_append]
      exact ⟨⟨of_literal printable (by decide), of_join printable own⟩,
        of_literal printable (by decide)⟩
  | implicitNone | returnLine | stop =>
      rw [print]
      exact yields_plain (of_literal printable (by decide))
  | comment text =>
      rw [print]
      refine yields_plain ?_
      split
      · exact of_literal printable (by decide)
      · simp only [List.forall_mem_append]
        exact ⟨of_literal printable (by decide), List.forall_mem_singleton.mp own⟩
  | continueAt label =>
      rw [print]
      refine yields_plain ?_
      simp only [List.forall_mem_append]
      exact ⟨of_number printable _, of_literal printable (by decide)⟩
  | goto label =>
      rw [print]
      refine yields_plain ?_
      simp only [List.forall_mem_append]
      exact ⟨of_literal printable (by decide), of_number printable _⟩
  | ifGoto condition label =>
      obtain ⟨first, -⟩ := List.forall_mem_cons.mp own
      rw [print]
      refine yields_plain ?_
      simp only [List.forall_mem_append]
      exact ⟨⟨⟨of_literal printable (by decide), first⟩, of_literal printable (by decide)⟩,
        of_number printable _⟩
  | closeFile unit =>
      rw [print]
      exact yields_plain (of_closing printable (List.forall_mem_singleton.mp own))
  | format label descriptors =>
      obtain ⟨-, others⟩ := List.forall_mem_cons.mp own
      rw [print]
      exact yields_plain (of_format printable (of_number printable _) others)
  | transfer direction unit label formats operands =>
      cases formats with
      | some formats => cases single
      | none =>
          simp only [Spelled, Statement.texts, List.cons_append, List.forall_mem_cons,
            List.forall_mem_append] at own
          rw [print]
          refine yields_plain (of_transfer printable _ own.1 ?_ own.2.2)
          cases label with
          | none => exact List.forall_mem_nil _
          | some label =>
              simp only [Option.elim_some, List.forall_mem_append]
              exact ⟨of_literal printable (by decide), of_number printable _⟩
  | verbatim | ifThen | doLoop | program | subroutine | function | openFile => cases single

end Characters

mutual

theorem yields_print {p : Char → Prop} (printable : ∀ c, IsPrintable c → p c) (depth : Nat) :
    ∀ s : Statement, Spelled p s → Everywhere (Spelled p) (bodies s) →
      Yields (Lettering p) (print depth s)
  | .call _ _, own, _ | .assign _ _, own, _ | .declare _ _, own, _ | .common _ _, own, _
  | .parameter _, own, _ | .implicitNone, own, _ | .comment _, own, _ | .continueAt _, own, _
  | .goto _, own, _ | .ifGoto _ _, own, _ | .returnLine, own, _ | .stop, own, _
  | .closeFile _, own, _ | .transfer _ _ _ none _, own, _ | .format _ _, own, _ =>
    yields_leaf printable rfl own
  | .transfer direction unit label (some formats) operands, own, _ => by
      simp only [Spelled, Statement.texts, List.cons_append, List.forall_mem_cons,
        List.forall_mem_append] at own
      obtain ⟨first, ⟨-, formats⟩, operands⟩ := own
      rw [print]
      refine yields_bind (yields_nextLabel printable) fun label digits => yields_pure ?_
      refine List.forall_mem_cons.mpr ⟨?_, lettering_plain (of_format printable digits formats)⟩
      have between : ∀ c ∈ ", ".toList ++ label, p c :=
        List.forall_mem_append.mpr ⟨of_literal printable (by decide), digits⟩
      have whole := of_transfer printable direction first between operands
      rwa [← List.append_assoc] at whole
  | .verbatim text, own, _ => by
      rw [print]
      refine yields_pure (List.forall_mem_map.mpr fun line mem => ?_)
      have among := List.mem_of_mem_filter mem
      exact fun c inside =>
        own text (List.mem_singleton_self text) c (Text.mem_of_mem_lines among inside)
  | .ifThen condition body none, own, inside => by
      have first := List.forall_mem_singleton.mp own
      rw [print]
      refine yields_bind
        (yields_printAll printable depth.succ body (everywhere_append_iff.mp inside).1)
        fun inner within => yields_pure (lettering_around ?_ within ?_)
      · exact of_condition printable first
      · exact of_literal printable (by decide)
  | .ifThen condition body (some otherwise), own, inside => by
      have first := List.forall_mem_singleton.mp own
      obtain ⟨here, there⟩ := everywhere_append_iff.mp inside
      rw [print]
      refine yields_bind (yields_printAll printable depth.succ body here) fun inner within => ?_
      refine yields_bind (yields_printAll printable depth.succ otherwise there)
        fun other opposed => ?_
      have divides : ∀ c ∈ "else".toList, p c := of_literal printable (by decide)
      refine yields_pure (lettering_around (of_condition printable first) ?_ ?_)
      · exact lettering_append within (List.forall_mem_cons.mpr ⟨divides, opposed⟩)
      · exact of_literal printable (by decide)
  | .doLoop index start finish step body, own, inside => by
      simp only [Spelled, Statement.texts, List.cons_append, List.forall_mem_cons,
        List.forall_mem_append] at own
      obtain ⟨first, ⟨starts, finishes⟩, steps⟩ := own
      rw [print]
      refine yields_bind (yields_nextLabel printable) fun label digits => ?_
      refine yields_bind (yields_printAll printable depth.succ body inside) fun inner within => ?_
      refine yields_pure (lettering_around ?_ within ?_)
      · exact of_header printable digits first starts finishes steps
      · exact List.forall_mem_append.mpr ⟨digits, of_literal printable (by decide)⟩
  | .program name body, own, inside => by
      rw [print]
      refine yields_bind (yields_printAll printable depth.succ body inside) fun inner within => ?_
      refine yields_pure (lettering_around ?_ within (of_literal printable (by decide)))
      simp only [List.forall_mem_append]
      exact ⟨of_literal printable (by decide), List.forall_mem_singleton.mp own⟩
  | .subroutine name parameters body, own, inside => by
      obtain ⟨first, others⟩ := List.forall_mem_cons.mp own
      rw [print]
      refine yields_bind (yields_printAll printable depth.succ body inside) fun inner within => ?_
      refine yields_pure (lettering_around ?_ within (of_literal printable (by decide)))
      exact of_parameters printable (of_literal printable (by decide)) first others
  | .function category name parameters body, own, inside => by
      simp only [Spelled, Statement.texts, List.forall_mem_cons] at own
      obtain ⟨kind, first, others⟩ := own
      have ends : ∀ c ∈ "end".toList, p c := of_literal printable (by decide)
      have opens : ∀ c ∈ category ++ " function ".toList, p c :=
        List.forall_mem_append.mpr ⟨kind, of_literal printable (by decide)⟩
      rw [print]
      refine yields_bind (yields_printAll printable depth.succ body inside) fun inner within => ?_
      exact yields_pure (lettering_around (of_parameters printable opens first others) within ends)
  | .openFile unit file status body, own, inside => by
      simp only [Spelled, Statement.texts, List.forall_mem_cons] at own
      obtain ⟨first, quoted, given⟩ := own
      have known : ∀ c ∈ status.getD Wording.defaultStatus, p c := by
        cases status with
        | none => exact of_literal printable (by decide)
        | some status => exact List.forall_mem_singleton.mp given
      rw [print]
      refine yields_bind (yields_printAll printable depth.succ body inside) fun inner within => ?_
      refine yields_pure (lettering_around ?_ within ?_)
      · exact of_opening printable first quoted known
      · exact of_closing printable first

theorem yields_printAll {p : Char → Prop} (printable : ∀ c, IsPrintable c → p c) (depth : Nat) :
    ∀ tree : List Statement, Everywhere (Spelled p) tree →
      Yields (Lettering p) (printAll depth tree)
  | [], _ => by
      rw [printAll]
      exact yields_pure nofun
  | s :: rest, h => by
      obtain ⟨own, inside, others⟩ := everywhere_cons_iff.mp h
      rw [printAll]
      refine yields_bind (yields_print printable depth s own inside) fun first fronts => ?_
      refine yields_bind (yields_printAll printable depth rest others) fun back behind => ?_
      exact yields_pure (lettering_append fronts behind)

end

/-- The characters of assembled lines are those of the texts in the tree, and printable ones. -/
theorem lettering_of_assembled {p : Char → Prop} (printable : ∀ c, IsPrintable c → p c)
    {tree : List Statement} {supply after : LabelSupply} {fragments : List Fragment}
    (spelled : Everywhere (Spelled p) tree)
    (assembled : (Assembly.statements tree).run.run supply = (.ok fragments, after)) :
    ∀ l ∈ fragments.flatMap Fragment.lines, ∀ c ∈ l.text, p c := by
  obtain ⟨printed, ran, agrees⟩ := prints_of_run (Assembly.Run.of_statements tree assembled) 0
  have lettering := yields_printAll printable 0 tree spelled supply
  rw [ran] at lettering
  rw [lines_eq_flatMap, agrees.lines_eq]
  exact List.forall_mem_map.mpr lettering

end OnePass
end FortranWriter
