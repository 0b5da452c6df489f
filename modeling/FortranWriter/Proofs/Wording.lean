import FortranWriter.Proofs.Success
import FortranWriter.Proofs.Text.OneLine
import FortranWriter.Wording
/-! When the wording of a statement succeeds, and with which text: every check of its arguments on
one side, the words themselves on the other. -/
namespace FortranWriter
open Success

namespace Argument

theorem singleLine_eq_ok_iff {what value t : Text} :
    singleLine what value = .ok t ↔ t = value ∧ value.isSingleLine = true := by
  rw [singleLine]
  split
  · case _ single => rw [ok_eq_ok_iff, and_iff_left single]
  · case _ broken => exact ⟨fun h => (nomatch h), fun h => absurd h.2 broken⟩

theorem required_eq_ok_iff {what value t : Text} :
    required what value = .ok t ↔ t = value ∧ value.OneLine := by
  rw [required, check_eq_ok_iff, singleLine_eq_ok_iff, Bool.not_eq_true]
  constructor
  · rintro ⟨shown, same, single⟩
    exact ⟨same, shown, single⟩
  · rintro ⟨same, shown, single⟩
    exact ⟨shown, same, single⟩

theorem optionalList_eq_ok_iff {what t : Text} {items : List Text} :
    optionalList what items = .ok t ↔ t = join items ∧ ∀ item ∈ items, item.OneLine := by
  simp only [optionalList, bind_eq_ok_iff, pure_eq_ok_iff, forM_discard_eq_ok_iff,
    required_eq_ok_iff, exists_eq_left]
  exact ⟨fun ⟨_, checked, text⟩ => ⟨text, checked⟩, fun ⟨text, checked⟩ => ⟨⟨⟩, checked, text⟩⟩

theorem requiredList_eq_ok_iff {what t : Text} {items : List Text} :
    requiredList what items = .ok t ↔
      t = join items ∧ items ≠ [] ∧ ∀ item ∈ items, item.OneLine := by
  rw [requiredList, check_eq_ok_iff, optionalList_eq_ok_iff, List.isEmpty_iff]
  exact and_left_comm

theorem isSingleLine_join {items : List Text} (each : ∀ item ∈ items, item.OneLine) :
    (join items).isSingleLine = true :=
  Text.isSingleLine_joinWith rfl fun item h => (each item h).single

end Argument

namespace Bound

def texts : Bound → List Text
  | integer _ => []
  | expression t => [t]

/-- The text of a bound, nothing being checked. -/
def shown : Bound → Text
  | integer n => Decimal.ofInt n
  | expression t => t.trim

theorem oneLine_ofInt (n : Int) : (Decimal.ofInt n).OneLine := by
  cases n with
  | ofNat n => exact Decimal.oneLine_ofNat n
  | negSucc n =>
      exact Text.OneLine.append (t := ['-']) ⟨rfl, rfl⟩ (Decimal.oneLine_ofNat (n + 1)).single

theorem render_expression_eq_ok_iff {t s : Text} :
    (expression t).render = .ok s ↔ t.trim ≠ [] ∧ t.trim.isSingleLine = true ∧
      (isNumeric t.trim = true → isInteger t.trim = true) ∧ s = t.trim := by
  simp only [render, check_eq_ok_iff, ok_eq_ok_iff, List.isEmpty_iff, Bool.not_eq_true',
    Bool.not_eq_false, Bool.and_eq_true, not_and, ne_eq]

theorem eq_shown_of_render {bound : Bound} {t : Text} (h : bound.render = .ok t) :
    t = bound.shown ∧ t.OneLine := by
  cases bound with
  | integer n =>
      cases h
      exact ⟨rfl, oneLine_ofInt n⟩
  | expression given =>
      obtain ⟨some, single, -, rfl⟩ := render_expression_eq_ok_iff.mp h
      exact ⟨rfl, Text.isAllBlank_trim some, single⟩

end Bound

namespace Wording
open Argument

theorem call_eq_ok_iff {name t : Text} {arguments : List Text} :
    call name arguments = .ok t ↔ name.OneLine ∧ (∀ a ∈ arguments, a.OneLine) ∧
      t = "call ".toList ++ name ++ "(".toList ++ join arguments ++ ")".toList := by
  simp only [call, bind_eq_ok_iff, pure_eq_ok_iff, required_eq_ok_iff, optionalList_eq_ok_iff,
    and_assoc, exists_eq_left]

theorem assign_eq_ok_iff {destination expression t : Text} :
    assign destination expression = .ok t ↔ destination.OneLine ∧ expression.OneLine ∧
      t = destination ++ " = ".toList ++ expression := by
  simp only [assign, bind_eq_ok_iff, pure_eq_ok_iff, required_eq_ok_iff, and_assoc, exists_eq_left]

/-- The text of a declaration, a typing rule in its compact form. -/
def declaration (category : Text) (names : List Text) : Text :=
  if "implicit ".toList.isPrefixOf category then
    category ++ "(".toList ++ Text.joinWith [','] (names.map Text.trim) ++ ")".toList
  else category ++ " ".toList ++ join names

theorem declare_eq_ok_iff {category t : Text} {names : List Text} :
    declare category names = .ok t ↔ category.OneLine ∧ names ≠ [] ∧ (∀ n ∈ names, n.OneLine) ∧
      Text.lowerAscii (Text.trim category) ≠ "implicit none".toList ∧
      t = declaration category names := by
  simp only [declare, bind_eq_ok_iff, required_eq_ok_iff, requiredList_eq_ok_iff, and_assoc,
    exists_eq_left]
  refine and_congr_right fun _ => and_congr_right fun _ => and_congr_right fun _ => ?_
  split
  · case _ none => exact ⟨fun h => (nomatch h), fun h => absurd none h.1⟩
  · case _ other =>
      rw [declaration, ne_eq, and_iff_right other]
      split
      · exact pure_eq_ok_iff
      · exact pure_eq_ok_iff

theorem common_eq_ok_iff {name t : Text} {names : List Text} :
    common name names = .ok t ↔ name.OneLine ∧ names ≠ [] ∧ (∀ n ∈ names, n.OneLine) ∧
      t = "common /".toList ++ name ++ "/ ".toList ++ join names := by
  simp only [common, bind_eq_ok_iff, pure_eq_ok_iff, required_eq_ok_iff, requiredList_eq_ok_iff,
    and_assoc, exists_eq_left]

theorem parameter_eq_ok_iff {assignments : List Text} {t : Text} :
    parameter assignments = .ok t ↔ assignments ≠ [] ∧ (∀ a ∈ assignments, a.OneLine) ∧
      t = "parameter (".toList ++ join assignments ++ ")".toList := by
  simp only [parameter, bind_eq_ok_iff, pure_eq_ok_iff, requiredList_eq_ok_iff, and_assoc,
    exists_eq_left]

theorem comment_eq_ok_iff {content t : Text} :
    comment content = .ok t ↔ content.isSingleLine = true ∧
      t = if content.isEmpty then "!".toList else "! ".toList ++ content := by
  simp only [comment, bind_eq_ok_iff, pure_eq_ok_iff, singleLine_eq_ok_iff, and_assoc,
    exists_eq_left]

theorem ifGoto_eq_ok_iff {condition t : Text} {label : Label} :
    ifGoto condition label = .ok t ↔ condition.OneLine ∧
      t = "if (".toList ++ condition ++ ") goto ".toList ++ label.text := by
  simp only [ifGoto, bind_eq_ok_iff, pure_eq_ok_iff, required_eq_ok_iff, and_assoc, exists_eq_left]

theorem ifThen_eq_ok_iff {condition t : Text} :
    ifThen condition = .ok t ↔ condition.OneLine ∧
      t = "if (".toList ++ condition ++ ") then".toList := by
  simp only [ifThen, bind_eq_ok_iff, pure_eq_ok_iff, required_eq_ok_iff, and_assoc, exists_eq_left]

def stepText : Option Bound → Text
  | none => []
  | some step => ", ".toList ++ step.shown

theorem eq_stepText_of_stepClause {step : Option Bound} {t : Text} (h : stepClause step = .ok t) :
    t = stepText step ∧ t.isSingleLine = true := by
  cases step with
  | none =>
      cases h
      exact ⟨rfl, rfl⟩
  | some step =>
      simp only [stepClause, bind_eq_ok_iff, pure_eq_ok_iff] at h
      obtain ⟨u, rendered, rfl⟩ := h
      obtain ⟨rfl, oneLine⟩ := Bound.eq_shown_of_render rendered
      exact ⟨rfl, Text.isSingleLine_append rfl oneLine.single⟩

theorem doHeader_eq_ok_iff {label : Option Label} {index t : Text} {start finish : Bound}
    {step : Option Bound} :
    doHeader label index start finish step = .ok t ↔ index.OneLine ∧
      ∃ s, start.render = .ok s ∧ ∃ f, finish.render = .ok f ∧ ∃ c, stepClause step = .ok c ∧
        t = "do ".toList ++ labelClause [] [' '] label ++ index ++ " = ".toList ++ s ++
          ", ".toList ++ f ++ c := by
  simp only [doHeader, bind_eq_ok_iff, pure_eq_ok_iff, required_eq_ok_iff, and_assoc,
    exists_eq_left]

theorem program_eq_ok_iff {name t : Text} :
    program name = .ok t ↔ name.OneLine ∧ t = "program ".toList ++ name := by
  simp only [program, bind_eq_ok_iff, pure_eq_ok_iff, required_eq_ok_iff, and_assoc,
    exists_eq_left]

theorem subroutine_eq_ok_iff {name t : Text} {parameters : List Text} :
    subroutine name parameters = .ok t ↔ name.OneLine ∧ (∀ p ∈ parameters, p.OneLine) ∧
      t = "subroutine ".toList ++ name ++ "(".toList ++ join parameters ++ ")".toList := by
  simp only [subroutine, bind_eq_ok_iff, pure_eq_ok_iff, required_eq_ok_iff,
    optionalList_eq_ok_iff, and_assoc, exists_eq_left]

theorem function_eq_ok_iff {category name t : Text} {parameters : List Text} :
    function category name parameters = .ok t ↔
      category.OneLine ∧ name.OneLine ∧ (∀ p ∈ parameters, p.OneLine) ∧
      t = category ++ " function ".toList ++ name ++ "(".toList ++ join parameters ++
        ")".toList := by
  simp only [function, bind_eq_ok_iff, pure_eq_ok_iff, required_eq_ok_iff, optionalList_eq_ok_iff,
    and_assoc, exists_eq_left]

theorem openFile_eq_ok_iff {unit file t : Text} {status : Option Text} :
    openFile unit file status = .ok t ↔
      unit.OneLine ∧ file.OneLine ∧ (∀ s, status = some s → s.OneLine) ∧
      t = "open(unit=".toList ++ unit ++ ", file=".toList ++ Literal.quote file ++
        ", status=".toList ++ Literal.quote (status.getD defaultStatus) ++ ")".toList := by
  cases status with
  | none =>
      have given : ∀ s, (none : Option Text) = some s → s.OneLine := fun s h => (nomatch h)
      simp only [openFile, bind_eq_ok_iff, pure_eq_ok_iff, required_eq_ok_iff, and_assoc,
        exists_eq_left, Option.getD_none, and_iff_right given]
  | some status =>
      simp only [openFile, bind_eq_ok_iff, pure_eq_ok_iff, required_eq_ok_iff, and_assoc,
        exists_eq_left, Option.some.injEq, forall_eq', Option.getD_some]

theorem closeFile_eq_ok_iff {unit t : Text} :
    closeFile unit = .ok t ↔ unit.OneLine ∧ t = "close(unit=".toList ++ unit ++ ")".toList := by
  simp only [closeFile, bind_eq_ok_iff, pure_eq_ok_iff, required_eq_ok_iff, and_assoc,
    exists_eq_left]

def operandText (operands : List Text) : Text :=
  if (join operands).isEmpty then [] else ' ' :: join operands

theorem transfer_eq_ok_iff {direction : Transfer} {unit t : Text} {label : Option Label}
    {operands : List Text} :
    transfer direction unit label operands = .ok t ↔
      unit.OneLine ∧ (∀ o ∈ operands, o.OneLine) ∧
      t = direction.keyword ++ "(".toList ++ unit ++ labelClause ", ".toList [] label ++
        ")".toList ++ operandText operands := by
  simp only [transfer, bind_eq_ok_iff, pure_eq_ok_iff, required_eq_ok_iff, optionalList_eq_ok_iff,
    and_assoc, exists_eq_left, operandText]

theorem format_eq_ok_iff {label : Label} {descriptors : List Text} {t : Text} :
    format label descriptors = .ok t ↔ descriptors ≠ [] ∧ (∀ d ∈ descriptors, d.OneLine) ∧
      t = label.text ++ " format(".toList ++ join descriptors ++ ")".toList := by
  simp only [format, bind_eq_ok_iff, pure_eq_ok_iff, requiredList_eq_ok_iff, and_assoc,
    exists_eq_left]

end Wording
end FortranWriter
