import FortranWriter.Proofs.Wording.Endings
import FortranWriter.Proofs.Wording.Lines
/-! The commas and the parentheses of worded statements. Whatever is left out of a statement, no
separator is left behind with nothing to separate. -/
namespace FortranWriter.Wording
open Argument

section Texts
open Ending
variable {name category condition unit t : Text} {names : List Text}

theorem leads_labelled (label : Option Label) :
    Leads spaced (labelClause [] [' '] label) spaced ∧
      Leads filled (labelClause ", ".toList [] label) filled := by
  cases label with
  | none => exact ⟨rfl, rfl⟩
  | some label =>
      have digits := isWord_ofNat label.number
      have front : Leads filled ", ".toList pending := rfl
      refine ⟨(digits.leads (by decide)).append rfl, ?_⟩
      rw [labelClause, List.append_nil]
      exact front.append (digits.leads (by decide))

theorem leads_stepClause {step : Option Bound}
    (neat : ∀ u ∈ step.toList.flatMap Bound.texts, Neat u) (stepped : stepClause step = .ok t) :
    Leads filled t filled := by
  cases step with
  | none =>
      cases stepped
      rfl
  | some step =>
      simp only [stepClause, Success.bind_eq_ok_iff, Success.pure_eq_ok_iff] at stepped
      obtain ⟨u, rendered, rfl⟩ := stepped
      have own : ∀ u ∈ step.texts, Neat u := fun u mem => neat u (by simpa using mem)
      have front : Leads filled ", ".toList pending := rfl
      exact front.append ((isWord_of_render own rendered).leads (by decide))

theorem leads_operandText (words : ∀ n ∈ names, IsWord n) :
    Leads filled (operandText names) filled := by
  rw [operandText]
  split
  · rfl
  · case _ shown =>
      have some : names ≠ [] := by
        rintro rfl
        exact shown rfl
      have blank : Leads filled [' '] spaced := rfl
      exact blank.append (leads_joinWith rfl some words (by decide))

theorem leads_continueAt (label : Label) : Leads spaced (continueAt label) filled :=
  ((isWord_ofNat label.number).leads (by decide)).append rfl

theorem leads_goto (label : Label) : Leads spaced (goto label) filled := by
  have lead : Leads spaced "goto ".toList spaced := rfl
  exact lead.append ((isWord_ofNat label.number).leads (by decide))

theorem leads_of_call (neat : ∀ u ∈ name :: names, Neat u) (h : call name names = .ok t) :
    Leads spaced t (if names = [] then vacant else filled) := by
  obtain ⟨shown, each, rfl⟩ := call_eq_ok_iff.mp h
  have words := isWord_of_neat neat (List.forall_mem_cons.mpr ⟨shown, each⟩)
  obtain ⟨name, names⟩ := List.forall_mem_cons.mp words
  have lead : Leads spaced "call ".toList spaced := rfl
  exact leads_listed (lead.append (name.leads (by decide))) names

theorem leads_of_assign {destination expression : Text}
    (neat : ∀ u ∈ [destination, expression], Neat u) (h : assign destination expression = .ok t) :
    Leads spaced t filled := by
  obtain ⟨left, right, rfl⟩ := assign_eq_ok_iff.mp h
  obtain ⟨first, others⟩ := List.forall_mem_cons.mp neat
  have destination := first.isWord left.ne_nil
  have expression := (List.forall_mem_singleton.mp others).isWord right.ne_nil
  exact ((destination.leads (by decide)).append rfl).append (expression.leads (by decide))

theorem leads_of_declare (neat : ∀ u ∈ category :: names, Neat u)
    (h : declare category names = .ok t) :
    Leads spaced t filled := by
  obtain ⟨shown, some, each, -, rfl⟩ := declare_eq_ok_iff.mp h
  have words := isWord_of_neat neat (List.forall_mem_cons.mpr ⟨shown, each⟩)
  obtain ⟨category, listed⟩ := List.forall_mem_cons.mp words
  rw [declaration]
  split
  · -- there is nothing to trim of neat names
    have trimmed : names.map Text.trim = names := by
      have each : ∀ n ∈ names, n.trim = n := fun n mem =>
        Text.trim_eq_self_iff.mpr (neat n (List.mem_cons_of_mem _ mem)).trimmed
      rw [List.map_congr_left each, List.map_id']
    rw [trimmed]
    have opened : Leads filled "(".toList Ending.opened := rfl
    have list : Leads Ending.opened (Text.joinWith [','] names) filled :=
      leads_joinWith rfl some listed (by decide)
    exact (((category.leads (by decide)).append opened).append list).append rfl
  · have list : Leads spaced (join names) filled := leads_joinWith rfl some listed (by decide)
    exact ((category.leads (by decide)).append rfl).append list

theorem leads_of_common (neat : ∀ u ∈ name :: names, Neat u) (h : common name names = .ok t) :
    Leads spaced t filled := by
  obtain ⟨shown, some, each, rfl⟩ := common_eq_ok_iff.mp h
  have words := isWord_of_neat neat (List.forall_mem_cons.mpr ⟨shown, each⟩)
  obtain ⟨name, listed⟩ := List.forall_mem_cons.mp words
  have lead : Leads spaced "common /".toList filled := rfl
  have list : Leads spaced (join names) filled := leads_joinWith rfl some listed (by decide)
  exact ((lead.append (name.leads (by decide))).append rfl).append list

theorem leads_of_parameter (neat : ∀ u ∈ names, Neat u) (h : parameter names = .ok t) :
    Leads spaced t filled := by
  obtain ⟨some, each, rfl⟩ := parameter_eq_ok_iff.mp h
  have lead : Leads spaced "parameter (".toList Ending.opened := rfl
  have list : Leads Ending.opened (join names) filled :=
    leads_joinWith rfl some (isWord_of_neat neat each) (by decide)
  exact (lead.append list).append rfl

/-- An empty comment ends in its mark. -/
theorem leads_of_comment {content : Text} (neat : Neat content) (h : comment content = .ok t) :
    Leads spaced t filled := by
  obtain ⟨-, rfl⟩ := comment_eq_ok_iff.mp h
  split
  · rfl
  · case _ shown =>
      rw [List.isEmpty_iff] at shown
      have lead : Leads spaced "! ".toList spaced := rfl
      exact lead.append ((neat.isWord shown).leads (by decide))

theorem leads_of_ifGoto {label : Label} (neat : Neat condition)
    (h : ifGoto condition label = .ok t) :
    Leads spaced t filled := by
  obtain ⟨shown, rfl⟩ := ifGoto_eq_ok_iff.mp h
  have lead : Leads spaced "if (".toList Ending.opened := rfl
  have condition : Leads Ending.opened condition filled :=
    (neat.isWord shown.ne_nil).leads (by decide)
  exact ((lead.append condition).append rfl).append ((isWord_ofNat label.number).leads (by decide))

theorem leads_of_ifThen (neat : Neat condition) (h : ifThen condition = .ok t) :
    Leads spaced t filled := by
  obtain ⟨shown, rfl⟩ := ifThen_eq_ok_iff.mp h
  have lead : Leads spaced "if (".toList Ending.opened := rfl
  exact (lead.append ((neat.isWord shown.ne_nil).leads (by decide))).append rfl

theorem leads_of_doHeader {label : Option Label} {index : Text} {start finish : Bound}
    {step : Option Bound} (neat : Neat index) (starts : ∀ u ∈ start.texts, Neat u)
    (ends : ∀ u ∈ finish.texts, Neat u) (steps : ∀ u ∈ step.toList.flatMap Bound.texts, Neat u)
    (h : doHeader label index start finish step = .ok t) : Leads spaced t filled := by
  obtain ⟨shown, s, started, f, finished, c, stepped, rfl⟩ := doHeader_eq_ok_iff.mp h
  have lead : Leads spaced "do ".toList spaced := rfl
  have index : Leads spaced index filled := (neat.isWord shown.ne_nil).leads (by decide)
  have first : Leads spaced s filled := (isWord_of_render starts started).leads (by decide)
  have last : Leads pending f filled := (isWord_of_render ends finished).leads (by decide)
  refine (((Leads.append ?_ first).append rfl).append last).append (leads_stepClause steps stepped)
  exact ((lead.append (leads_labelled label).1).append index).append rfl

theorem leads_of_program (neat : Neat name) (h : program name = .ok t) : Leads spaced t filled := by
  obtain ⟨shown, rfl⟩ := program_eq_ok_iff.mp h
  have lead : Leads spaced "program ".toList spaced := rfl
  exact lead.append ((neat.isWord shown.ne_nil).leads (by decide))

theorem leads_of_subroutine (neat : ∀ u ∈ name :: names, Neat u)
    (h : subroutine name names = .ok t) :
    Leads spaced t (if names = [] then vacant else filled) := by
  obtain ⟨shown, each, rfl⟩ := subroutine_eq_ok_iff.mp h
  have words := isWord_of_neat neat (List.forall_mem_cons.mpr ⟨shown, each⟩)
  obtain ⟨name, names⟩ := List.forall_mem_cons.mp words
  have lead : Leads spaced "subroutine ".toList spaced := rfl
  exact leads_listed (lead.append (name.leads (by decide))) names

theorem leads_of_function (neat : ∀ u ∈ category :: name :: names, Neat u)
    (h : function category name names = .ok t) :
    Leads spaced t (if names = [] then vacant else filled) := by
  obtain ⟨kind, shown, each, rfl⟩ := function_eq_ok_iff.mp h
  have texts := List.forall_mem_cons.mpr ⟨kind, List.forall_mem_cons.mpr ⟨shown, each⟩⟩
  obtain ⟨category, others⟩ := List.forall_mem_cons.mp (isWord_of_neat neat texts)
  obtain ⟨name, names⟩ := List.forall_mem_cons.mp others
  have lead : Leads filled " function ".toList spaced := rfl
  exact leads_listed
    (((category.leads (by decide)).append lead).append (name.leads (by decide))) names

theorem unseparated_defaultStatus : Unseparated defaultStatus :=
  unseparated_iff.mpr ⟨by decide, by decide, by decide⟩

theorem leads_of_openFile {file : Text} {status : Option Text}
    (neat : ∀ u ∈ unit :: file :: status.toList, Neat u) (h : openFile unit file status = .ok t) :
    Leads spaced t filled := by
  obtain ⟨shown, -, -, rfl⟩ := openFile_eq_ok_iff.mp h
  simp only [List.forall_mem_cons, Option.mem_toList] at neat
  obtain ⟨first, second, given⟩ := neat
  have known : Unseparated (status.getD defaultStatus) := by
    cases status with
    | none => exact unseparated_defaultStatus
    | some status => exact (given status rfl).free
  have lead : Leads spaced "open(unit=".toList filled := rfl
  have unit : Leads filled unit filled := (first.isWord shown.ne_nil).leads (by decide)
  have file : Leads filled (Literal.quote file) filled :=
    (isWord_quote second.free).leads (by decide)
  have status : Leads filled (Literal.quote (status.getD defaultStatus)) filled :=
    (isWord_quote known).leads (by decide)
  exact (((((lead.append unit).append rfl).append file).append rfl).append status).append rfl

theorem leads_of_closeFile (neat : Neat unit) (h : closeFile unit = .ok t) :
    Leads spaced t filled := by
  obtain ⟨shown, rfl⟩ := closeFile_eq_ok_iff.mp h
  have lead : Leads spaced "close(unit=".toList filled := rfl
  exact (lead.append ((neat.isWord shown.ne_nil).leads (by decide))).append rfl

theorem leads_of_transfer {direction : Transfer} {label : Option Label}
    (neat : ∀ u ∈ unit :: names, Neat u) (h : transfer direction unit label names = .ok t) :
    Leads spaced t filled := by
  obtain ⟨shown, each, rfl⟩ := transfer_eq_ok_iff.mp h
  have words := isWord_of_neat neat (List.forall_mem_cons.mpr ⟨shown, each⟩)
  obtain ⟨unit, operands⟩ := List.forall_mem_cons.mp words
  have lead : Leads spaced (direction.keyword ++ "(".toList) Ending.opened := by
    cases direction <;> rfl
  have closed : Leads filled ")".toList filled := rfl
  refine (Leads.append ?_ closed).append (leads_operandText operands)
  exact (lead.append (unit.leads (by decide))).append (leads_labelled label).2

theorem leads_of_format {label : Label} (neat : ∀ u ∈ names, Neat u)
    (h : format label names = .ok t) :
    Leads spaced t filled := by
  obtain ⟨some, each, rfl⟩ := format_eq_ok_iff.mp h
  have lead : Leads filled " format(".toList Ending.opened := rfl
  have list : Leads Ending.opened (join names) filled :=
    leads_joinWith rfl some (isWord_of_neat neat each) (by decide)
  exact ((((isWord_ofNat label.number).leads (by decide)).append lead).append list).append rfl

end Texts

namespace Sentence

def texts : Sentence → List Text
  | call name arguments => name :: arguments
  | assign destination expression => [destination, expression]
  | declare category names => category :: names
  | common name names => name :: names
  | parameter assignments => assignments
  | comment content => [content]
  | ifGoto condition _ => [condition]
  | ifThen condition => [condition]
  | doHeader _ index first last step =>
    index :: (first.texts ++ last.texts ++ step.toList.flatMap Bound.texts)
  | program name => [name]
  | subroutine name parameters => name :: parameters
  | function category name parameters => category :: name :: parameters
  | openFile unit file status => unit :: file :: status.toList
  | closeFile unit => [unit]
  | transfer _ unit _ operands => unit :: operands
  | format _ descriptors => descriptors
  | implicitNone | continueAt _ | goto _ | otherwise | endIf | endDo | returnLine | stop | finish =>
      []

/-- A call, a subroutine or a function with an empty list, and its words up to the name. -/
inductive Unlisted : Sentence → Text → Prop
  | call {name} : Unlisted (call name []) ("call ".toList ++ name)
  | subroutine {name} : Unlisted (subroutine name []) ("subroutine ".toList ++ name)
  | function {category name} :
      Unlisted (function category name []) (category ++ " function ".toList ++ name)

/-- How the words of a sentence end: in something to be seen, or in the
parentheses of an empty list. -/
inductive Ends (sentence : Sentence) (t : Text) : Prop
  | filled : Ending.Leads .spaced t .filled → Ends sentence t
  | vacant {front} : sentence.Unlisted front → t = front ++ "()".toList →
      Ending.Leads .spaced t .vacant → Ends sentence t

theorem Ends.of_listed {sentence : Sentence} {front t : Text} {names : List Text}
    (worded : t = front ++ "(".toList ++ join names ++ ")".toList)
    (unlisted : names = [] → sentence.Unlisted front)
    (leads : Ending.Leads .spaced t (if names = [] then .vacant else .filled)) :
    Ends sentence t := by
  split at leads
  · case _ empty =>
      refine .vacant (unlisted empty) ?_ leads
      rw [worded, empty, List.append_assoc, List.append_assoc]
      rfl
  · exact .filled leads

theorem ends_of_text {sentence : Sentence} {t : Text} (neat : ∀ u ∈ sentence.texts, Neat u)
    (h : sentence.text = .ok t) : Ends sentence t := by
  cases sentence with
  | call name names =>
      refine .of_listed (call_eq_ok_iff.mp h).2.2 ?_ (leads_of_call neat h)
      rintro rfl
      exact .call
  | subroutine name names =>
      refine .of_listed (subroutine_eq_ok_iff.mp h).2.2 ?_ (leads_of_subroutine neat h)
      rintro rfl
      exact .subroutine
  | function category name names =>
      refine .of_listed (function_eq_ok_iff.mp h).2.2.2 ?_ (leads_of_function neat h)
      rintro rfl
      exact .function
  | assign => exact .filled (leads_of_assign neat h)
  | declare => exact .filled (leads_of_declare neat h)
  | common => exact .filled (leads_of_common neat h)
  | parameter => exact .filled (leads_of_parameter neat h)
  | comment => exact .filled (leads_of_comment (List.forall_mem_singleton.mp neat) h)
  | ifGoto => exact .filled (leads_of_ifGoto (List.forall_mem_singleton.mp neat) h)
  | ifThen => exact .filled (leads_of_ifThen (List.forall_mem_singleton.mp neat) h)
  | doHeader =>
      obtain ⟨index, bounds⟩ := List.forall_mem_cons.mp neat
      obtain ⟨ends, steps⟩ := List.forall_mem_append.mp bounds
      obtain ⟨starts, finishes⟩ := List.forall_mem_append.mp ends
      exact .filled (leads_of_doHeader index starts finishes steps h)
  | program => exact .filled (leads_of_program (List.forall_mem_singleton.mp neat) h)
  | openFile => exact .filled (leads_of_openFile neat h)
  | closeFile => exact .filled (leads_of_closeFile (List.forall_mem_singleton.mp neat) h)
  | transfer => exact .filled (leads_of_transfer neat h)
  | format => exact .filled (leads_of_format neat h)
  | continueAt label =>
      cases h
      exact .filled (leads_continueAt label)
  | goto label =>
      cases h
      exact .filled (leads_goto label)
  | implicitNone | otherwise | endIf | endDo | returnLine | stop | finish =>
      cases h
      exact .filled rfl

end Sentence

/-- Whichever parts of a statement are left out, and however long its lists are, no comma and no
parenthesis is left with nothing to separate. Parentheses are empty only behind the name of a call,
a subroutine or a function with an empty list, and nothing but them follows the name. -/
theorem no_dangling_separator {sentence : Sentence} {t : Text} (neat : ∀ u ∈ sentence.texts, Neat u)
    (h : sentence.text = .ok t) :
    (∀ pattern ∈ [", )", "(, ", ",)", "(,"], ¬ pattern.toList <:+: t) ∧
      (∀ front back, t = front ++ "()".toList ++ back → sentence.Unlisted front ∧ back = []) ∧
      ∀ c, t.getLast? = some c → isBlank c = false ∧ c ≠ ',' := by
  have ends := Sentence.ends_of_text neat h
  obtain ⟨last, leads, closed⟩ :
      ∃ last, Ending.Leads .spaced t last ∧ (last = .filled ∨ last = .vacant) := by
    cases ends with
    | filled leads => exact ⟨_, leads, .inl rfl⟩
    | vacant _ _ leads => exact ⟨_, leads, .inr rfl⟩
  refine ⟨fun pattern mem => leads.not_infix (Ending.not_leads_of_mem mem), ?_, leads.ended closed⟩
  rintro front back rfl
  obtain ⟨rfl, -⟩ := leads.empty_parentheses
  cases ends with
  | filled leads => cases leads.empty_parentheses.2
  | vacant unlisted same _ =>
      rw [List.append_nil, List.append_cancel_right_eq] at same
      rw [same]
      exact ⟨unlisted, rfl⟩

/-- The list behind the name of a function may be empty, and a transfer may be without a
label or without operands. -/
theorem no_dangling_separator_function :
    (Sentence.function "real*8".toList "seed".toList []).text =
      .ok "real*8 function seed()".toList ∧
      (∀ front back, "real*8 function seed()".toList = front ++ "()".toList ++ back →
        (Sentence.function "real*8".toList "seed".toList []).Unlisted front ∧ back = []) ∧
      (Sentence.transfer .write "6".toList none ["i".toList, "x".toList]).text =
        .ok "write(6) i, x".toList ∧
      ∀ pattern ∈ [", )", "(, ", ",)", "(,"], ¬ pattern.toList <:+: "write(6) i, x".toList := by
  have seed : ∀ u ∈ ["real*8".toList, "seed".toList], Neat u := by
    simp only [List.forall_mem_cons]
    exact ⟨by decide +kernel, by decide +kernel, nofun⟩
  have written : ∀ u ∈ ["6".toList, "i".toList, "x".toList], Neat u := by
    simp only [List.forall_mem_cons]
    exact ⟨by decide +kernel, by decide +kernel, by decide +kernel, nofun⟩
  have function : (Sentence.function "real*8".toList "seed".toList []).text =
      .ok "real*8 function seed()".toList := rfl
  have transfer : (Sentence.transfer .write "6".toList none ["i".toList, "x".toList]).text =
      .ok "write(6) i, x".toList := rfl
  exact ⟨function, (@no_dangling_separator (.function _ _ []) _ seed function).2.1, transfer,
    (@no_dangling_separator (.transfer .write _ none _) _ written transfer).1⟩

end FortranWriter.Wording
