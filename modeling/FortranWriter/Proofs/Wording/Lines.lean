import FortranWriter.Proofs.Wording
/-! Every worded statement takes exactly one line, whatever its arguments are: none of it is lost or
broken when lines are flattened. -/
namespace FortranWriter.Wording
open Argument

theorem oneLine_continueAt (label : Label) : (continueAt label).OneLine :=
  (Decimal.oneLine_ofNat _).append rfl

theorem oneLine_goto (label : Label) : (goto label).OneLine := by
  have lead : Text.OneLine "goto ".toList := ⟨rfl, rfl⟩
  exact lead.append (Decimal.oneLine_ofNat _).single

theorem isSingleLine_labelClause {lead trail : Text} (label : Option Label)
    (front : lead.isSingleLine = true) (back : trail.isSingleLine = true) :
    (labelClause lead trail label).isSingleLine = true := by
  cases label with
  | none => rfl
  | some label =>
      have digits := (Decimal.oneLine_ofNat label.number).single
      exact Text.isSingleLine_append (Text.isSingleLine_append front digits) back

theorem isSingleLine_operandText {operands : List Text} (each : ∀ o ∈ operands, o.OneLine) :
    (operandText operands).isSingleLine = true := by
  rw [operandText]
  split
  · rfl
  · exact isSingleLine_join each

section Texts
variable {name category condition unit t : Text} {names : List Text}

theorem oneLine_of_call (h : call name names = .ok t) : t.OneLine := by
  obtain ⟨name, names, rfl⟩ := call_eq_ok_iff.mp h
  have lead : Text.OneLine "call ".toList := ⟨rfl, rfl⟩
  exact (((lead.append name.single).append rfl).append (isSingleLine_join names)).append rfl

theorem oneLine_of_assign {destination expression : Text}
    (h : assign destination expression = .ok t) : t.OneLine := by
  obtain ⟨destination, expression, rfl⟩ := assign_eq_ok_iff.mp h
  exact (destination.append rfl).append expression.single

theorem oneLine_of_declare (h : declare category names = .ok t) : t.OneLine := by
  obtain ⟨category, _, names, _, rfl⟩ := declare_eq_ok_iff.mp h
  rw [declaration]
  split
  · refine ((category.append rfl).append (Text.isSingleLine_joinWith rfl ?_)).append rfl
    exact List.forall_mem_map.mpr fun name here => Text.isSingleLine_trim (names name here).single
  · exact (category.append rfl).append (isSingleLine_join names)

theorem oneLine_of_common (h : common name names = .ok t) : t.OneLine := by
  obtain ⟨name, _, names, rfl⟩ := common_eq_ok_iff.mp h
  have lead : Text.OneLine "common /".toList := ⟨rfl, rfl⟩
  exact ((lead.append name.single).append rfl).append (isSingleLine_join names)

theorem oneLine_of_parameter (h : parameter names = .ok t) : t.OneLine := by
  obtain ⟨_, names, rfl⟩ := parameter_eq_ok_iff.mp h
  have lead : Text.OneLine "parameter (".toList := ⟨rfl, rfl⟩
  exact (lead.append (isSingleLine_join names)).append rfl

/-- An empty comment still shows its mark. -/
theorem oneLine_of_comment {content : Text} (h : comment content = .ok t) : t.OneLine := by
  obtain ⟨content, rfl⟩ := comment_eq_ok_iff.mp h
  have lead : Text.OneLine "! ".toList := ⟨rfl, rfl⟩
  split
  · exact ⟨rfl, rfl⟩
  · exact lead.append content

theorem oneLine_of_ifGoto {label : Label} (h : ifGoto condition label = .ok t) : t.OneLine := by
  obtain ⟨condition, rfl⟩ := ifGoto_eq_ok_iff.mp h
  have lead : Text.OneLine "if (".toList := ⟨rfl, rfl⟩
  exact ((lead.append condition.single).append rfl).append (Decimal.oneLine_ofNat _).single

theorem oneLine_of_ifThen (h : ifThen condition = .ok t) : t.OneLine := by
  obtain ⟨condition, rfl⟩ := ifThen_eq_ok_iff.mp h
  have lead : Text.OneLine "if (".toList := ⟨rfl, rfl⟩
  exact (lead.append condition.single).append rfl

theorem oneLine_of_doHeader {label : Option Label} {index : Text} {start finish : Bound}
    {step : Option Bound} (h : doHeader label index start finish step = .ok t) : t.OneLine := by
  obtain ⟨index, s, started, f, finished, c, stepped, rfl⟩ := doHeader_eq_ok_iff.mp h
  have lead : Text.OneLine "do ".toList := ⟨rfl, rfl⟩
  have first := (Bound.eq_shown_of_render started).2.single
  have last := (Bound.eq_shown_of_render finished).2.single
  have further := (eq_stepText_of_stepClause stepped).2
  refine ((((Text.OneLine.append ?_ rfl).append first).append rfl).append last).append further
  exact (lead.append (isSingleLine_labelClause label rfl rfl)).append index.single

theorem oneLine_of_program (h : program name = .ok t) : t.OneLine := by
  obtain ⟨name, rfl⟩ := program_eq_ok_iff.mp h
  have lead : Text.OneLine "program ".toList := ⟨rfl, rfl⟩
  exact lead.append name.single

theorem oneLine_of_subroutine (h : subroutine name names = .ok t) : t.OneLine := by
  obtain ⟨name, names, rfl⟩ := subroutine_eq_ok_iff.mp h
  have lead : Text.OneLine "subroutine ".toList := ⟨rfl, rfl⟩
  exact (((lead.append name.single).append rfl).append (isSingleLine_join names)).append rfl

theorem oneLine_of_function (h : function category name names = .ok t) : t.OneLine := by
  obtain ⟨category, name, names, rfl⟩ := function_eq_ok_iff.mp h
  refine ((Text.OneLine.append ?_ rfl).append (isSingleLine_join names)).append rfl
  exact (category.append rfl).append name.single

theorem oneLine_of_openFile {file : Text} {status : Option Text}
    (h : openFile unit file status = .ok t) : t.OneLine := by
  obtain ⟨unit, file, given, rfl⟩ := openFile_eq_ok_iff.mp h
  have known : (status.getD defaultStatus).isSingleLine = true := by
    cases status with
    | none => rfl
    | some status => exact (given status rfl).single
  have lead : Text.OneLine "open(unit=".toList := ⟨rfl, rfl⟩
  refine ((Text.OneLine.append ?_ rfl).append (Text.isSingleLine_quote known)).append rfl
  exact ((lead.append unit.single).append rfl).append (Text.isSingleLine_quote file.single)

theorem oneLine_of_closeFile (h : closeFile unit = .ok t) : t.OneLine := by
  obtain ⟨unit, rfl⟩ := closeFile_eq_ok_iff.mp h
  have lead : Text.OneLine "close(unit=".toList := ⟨rfl, rfl⟩
  exact (lead.append unit.single).append rfl

theorem oneLine_of_transfer {direction : Transfer} {label : Option Label}
    (h : transfer direction unit label names = .ok t) : t.OneLine := by
  obtain ⟨unit, names, rfl⟩ := transfer_eq_ok_iff.mp h
  have lead : Text.OneLine direction.keyword := by cases direction <;> exact ⟨rfl, rfl⟩
  refine (Text.OneLine.append ?_ rfl).append (isSingleLine_operandText names)
  exact ((lead.append rfl).append unit.single).append (isSingleLine_labelClause label rfl rfl)

theorem oneLine_of_format {label : Label} (h : format label names = .ok t) : t.OneLine := by
  obtain ⟨_, names, rfl⟩ := format_eq_ok_iff.mp h
  exact (((Decimal.oneLine_ofNat _).append rfl).append (isSingleLine_join names)).append rfl

end Texts

/-- What the wording of a single statement is made from. -/
inductive Sentence where
  | call (name : Text) (arguments : List Text)
  | assign (destination expression : Text)
  | declare (category : Text) (names : List Text)
  | common (name : Text) (names : List Text)
  | parameter (assignments : List Text)
  | implicitNone
  | comment (content : Text)
  | continueAt (label : Label)
  | goto (label : Label)
  | ifGoto (condition : Text) (label : Label)
  | ifThen (condition : Text)
  | otherwise
  | endIf
  | doHeader (label : Option Label) (index : Text) (first last : Bound) (step : Option Bound)
  | endDo
  | returnLine
  | stop
  | finish
  | program (name : Text)
  | subroutine (name : Text) (parameters : List Text)
  | function (category name : Text) (parameters : List Text)
  | openFile (unit file : Text) (status : Option Text)
  | closeFile (unit : Text)
  | transfer (direction : Transfer) (unit : Text) (label : Option Label) (operands : List Text)
  | format (label : Label) (descriptors : List Text)

namespace Sentence

def text : Sentence → Except Refusal Text
  | call name arguments => Wording.call name arguments
  | assign destination expression => Wording.assign destination expression
  | declare category names => Wording.declare category names
  | common name names => Wording.common name names
  | parameter assignments => Wording.parameter assignments
  | implicitNone => .ok Wording.implicitNone
  | comment content => Wording.comment content
  | continueAt label => .ok (Wording.continueAt label)
  | goto label => .ok (Wording.goto label)
  | ifGoto condition label => Wording.ifGoto condition label
  | ifThen condition => Wording.ifThen condition
  | otherwise => .ok Wording.otherwise
  | endIf => .ok Wording.endIf
  | doHeader label index first last step => Wording.doHeader label index first last step
  | endDo => .ok Wording.endDo
  | returnLine => .ok Wording.returnLine
  | stop => .ok Wording.stop
  | finish => .ok Wording.finish
  | program name => Wording.program name
  | subroutine name parameters => Wording.subroutine name parameters
  | function category name parameters => Wording.function category name parameters
  | openFile unit file status => Wording.openFile unit file status
  | closeFile unit => Wording.closeFile unit
  | transfer direction unit label operands => Wording.transfer direction unit label operands
  | format label descriptors => Wording.format label descriptors

theorem oneLine {sentence : Sentence} {t : Text} (h : sentence.text = .ok t) : t.OneLine := by
  cases sentence with
  | call => exact oneLine_of_call h
  | assign => exact oneLine_of_assign h
  | declare => exact oneLine_of_declare h
  | common => exact oneLine_of_common h
  | parameter => exact oneLine_of_parameter h
  | comment => exact oneLine_of_comment h
  | ifGoto => exact oneLine_of_ifGoto h
  | ifThen => exact oneLine_of_ifThen h
  | doHeader => exact oneLine_of_doHeader h
  | program => exact oneLine_of_program h
  | subroutine => exact oneLine_of_subroutine h
  | function => exact oneLine_of_function h
  | openFile => exact oneLine_of_openFile h
  | closeFile => exact oneLine_of_closeFile h
  | transfer => exact oneLine_of_transfer h
  | format => exact oneLine_of_format h
  | continueAt label =>
      cases h
      exact oneLine_continueAt label
  | goto label =>
      cases h
      exact oneLine_goto label
  | implicitNone | otherwise | endIf | endDo | returnLine | stop | finish =>
      cases h
      exact ⟨rfl, rfl⟩

end Sentence

/-- Whatever a statement is worded from, no line ends in it and something is to be seen, so that as
a fragment it is a single line, and it is that line when it is flattened. -/
theorem lines_of_sentence {sentence : Sentence} {t : Text} (h : sentence.text = .ok t) :
    '\n' ∉ t ∧ '\r' ∉ t ∧ t.isAllBlank = false ∧ Fragment.ofText t = .line t ∧
      (Fragment.ofText t).lines = [⟨0, t⟩] := by
  have oneLine := Sentence.oneLine h
  have unbroken := oneLine.newline_not_mem
  have kept : Fragment.ofText t = .line t := by
    rw [Fragment.ofText, if_neg (mt List.contains_iff_mem.mp unbroken)]
  refine ⟨unbroken, ?_, oneLine.shown, kept, ?_⟩
  · exact fun lone => (Text.isSingleLine_iff.mp oneLine.single _ lone).2 rfl
  · rw [kept]
    exact Line.ofText_of_oneLine oneLine

/-- The line ends around a bound are trimmed and do not get into the header. -/
theorem lines_of_sentence_header :
    (Sentence.doHeader none "i".toList (.expression "\r\n n - 1 \n".toList)
        (.integer (-9)) none).text =
        .ok "do i = n - 1, -9".toList ∧
      (Fragment.ofText "do i = n - 1, -9".toList).lines = [⟨0, "do i = n - 1, -9".toList⟩] := by
  have worded :
      (Sentence.doHeader none "i".toList (.expression "\r\n n - 1 \n".toList)
        (.integer (-9)) none).text = .ok "do i = n - 1, -9".toList := rfl
  obtain ⟨-, -, -, -, flat⟩ := lines_of_sentence worded
  exact ⟨worded, flat⟩

end FortranWriter.Wording
