import FortranWriter.Proofs.Assembly.Acceptance
import FortranWriter.Proofs.Assembly.OnePass
/-! What the layout finds in front of assembled lines. Labels become part of a statement's text when
it is assembled, and are looked for again when the text is laid out; what is found are the comments
and the labels of the tree and nothing else. -/
namespace FortranWriter

namespace Text

def BeginsLettered (t : Text) : Prop :=
  t.head?.any Char.isAlpha = true

theorem BeginsLettered.append {t : Text} (h : t.BeginsLettered) (u : Text) :
    BeginsLettered (t ++ u) := by
  cases t with
  | nil => cases h
  | cons c t => exact h

theorem BeginsLettered.exists_cons {t : Text} (h : t.BeginsLettered) :
    ∃ c u, t = c :: u ∧ c.isAlpha = true := by
  cases t with
  | nil => cases h
  | cons c u => exact ⟨c, u, rfl, h⟩

end Text

theorem toNat_of_isAlpha {c : Char} (letter : c.isAlpha = true) :
    65 ≤ c.toNat ∧ c.toNat ≤ 90 ∨ 97 ≤ c.toNat ∧ c.toNat ≤ 122 := by
  unfold Char.isAlpha Char.isUpper Char.isLower at letter
  simp only [ge_iff_le, UInt32.le_iff_toNat_le, Bool.or_eq_true, Bool.and_eq_true,
    decide_eq_true_eq] at letter
  exact letter

theorem isBlank_of_isAlpha {c : Char} (letter : c.isAlpha = true) : isBlank c = false := by
  have bounds := toNat_of_isAlpha letter
  simp only [isBlank, Bool.or_eq_false_iff, Bool.and_eq_false_iff, decide_eq_false_iff_not,
    beq_eq_false_iff_ne, ne_eq]
  omega

theorem isDigit_of_isAlpha {c : Char} (letter : c.isAlpha = true) : c.isDigit = false := by
  have bounds := toNat_of_isAlpha letter
  refine Bool.eq_false_iff.mpr fun digit => ?_
  have small := Decimal.toNat_of_isDigit digit
  omega

/-- No text is passed through, and what is opaque at the front of a statement
begins with a letter. -/
def Statement.BeginsLettered : Statement → Prop
  | .verbatim _ => False
  | .assign destination _ => destination.BeginsLettered
  | .declare category _ => category.BeginsLettered
  | .function category _ _ _ => category.BeginsLettered
  | _ => True

namespace OnePass
open Assembly Layout Success
open Argument (join)

structure LabelledLine where
  digits : Text
  depth : Nat
  statement : Text
deriving DecidableEq, Repr

/-- What stands in front of a line: the `c` of a comment, a label, or nothing. -/
inductive Field where
  | comment (text : Text)
  | label (line : LabelledLine)
  | blank
deriving DecidableEq, Repr

def formatList (descriptors : List Text) : Text :=
  "format(".toList ++ join descriptors ++ ")".toList

mutual

/-- What stands in front of the lines of a statement, labels coming from the supply in the order in
which constructs are met. -/
def fields (depth : Nat) : Statement → StateM LabelSupply (List Field)
  | .comment text => return [.comment text]
  | .continueAt label => return [.label ⟨numeral label, depth, "continue".toList⟩]
  | .format label descriptors => return [.label ⟨numeral label, depth, formatList descriptors⟩]
  | .transfer _ _ _ (some descriptors) _ => do
    let label ← nextLabel
    return [.blank, .label ⟨label, depth, formatList descriptors⟩]
  | .doLoop _ _ _ _ body => do
    let label ← nextLabel
    let inner ← fieldsAll (depth + 1) body
    return .blank :: inner ++ [.label ⟨label, depth, "continue".toList⟩]
  | .ifThen _ body none | .program _ body | .subroutine _ _ body | .function _ _ _ body
  | .openFile _ _ _ body => do
    let inner ← fieldsAll (depth + 1) body
    return .blank :: inner ++ [.blank]
  | .ifThen _ body (some otherwise) => do
    let inner ← fieldsAll (depth + 1) body
    let other ← fieldsAll (depth + 1) otherwise
    return .blank :: inner ++ .blank :: other ++ [.blank]
  | .call _ _ | .assign _ _ | .declare _ _ | .common _ _ | .parameter _ | .implicitNone | .goto _
  | .ifGoto _ _ | .returnLine | .stop | .verbatim _ | .closeFile _ | .transfer _ _ _ none _ =>
    return [.blank]

def fieldsAll (depth : Nat) : List Statement → StateM LabelSupply (List Field)
  | [] => return []
  | s :: rest => do
    let first ← fields depth s
    let others ← fieldsAll depth rest
    return first ++ others

end

inductive Reads : Field → Line → Prop
  | comment {text depth t} : IsComment t text.trimStart → Reads (.comment text) ⟨depth, t⟩
  | label {digits depth statement t} : IsLabelled t [] digits statement →
      Reads (.label ⟨digits, depth, statement⟩) ⟨depth, t⟩
  | blank {depth t} : (∀ content, ¬ IsComment t content) →
      (∀ lead label statement, ¬ IsLabelled t lead label statement) → Reads .blank ⟨depth, t⟩

theorem reads_of_lettered (depth : Nat) {t : Text} (lettered : t.BeginsLettered) :
    Reads .blank ⟨depth, t⟩ := by
  obtain ⟨c, u, rfl, letter⟩ := lettered.exists_cons
  have whole : Text.trimStart (c :: u) = c :: u :=
    List.dropWhile_cons_of_neg (Bool.eq_false_iff.mp (isBlank_of_isAlpha letter))
  constructor
  · intro content comment
    obtain ⟨rest, mark, -⟩ := comment.trimStart_eq
    rw [whole] at mark
    cases mark
    cases letter
  · rw [← labelled?_eq_none_iff, labelled?, whole,
      List.takeWhile_cons_of_neg (Bool.eq_false_iff.mp (isDigit_of_isAlpha letter))]
    rfl

theorem reads_of_label (label : Label) (depth : Nat) {statement : Text}
    (lettered : statement.BeginsLettered) :
    Reads (.label ⟨label.text, depth, statement⟩) ⟨depth, label.text ++ ' ' :: statement⟩ := by
  obtain ⟨c, u, rfl, letter⟩ := lettered.exists_cons
  have filled : Text.BeginsFilled (c :: u) := Text.beginsFilled_cons (isBlank_of_isAlpha letter)
  exact .label (label.isLabelled_text (List.cons_ne_nil c u) filled)

theorem reads_continueAt (label : Label) (depth : Nat) :
    Reads (.label ⟨label.text, depth, "continue".toList⟩) ⟨depth, Wording.continueAt label⟩ :=
  reads_of_label label depth rfl

theorem reads_format {label : Label} {descriptors : List Text} {t : Text}
    (h : Wording.format label descriptors = .ok t) (depth : Nat) :
    Reads (.label ⟨label.text, depth, formatList descriptors⟩) ⟨depth, t⟩ := by
  obtain ⟨_, _, rfl⟩ := Wording.format_eq_ok_iff.mp h
  have space : " format(".toList = ' ' :: "format(".toList := rfl
  have parts : label.text ++ " format(".toList ++ join descriptors ++ ")".toList =
      label.text ++ ' ' :: formatList descriptors := by
    unfold formatList
    simp only [space, List.append_assoc, List.cons_append]
  rw [parts]
  exact reads_of_label label depth rfl

theorem reads_comment {text t : Text} (h : Wording.comment text = .ok t) (depth : Nat) :
    Reads (.comment text) ⟨depth, t⟩ := by
  obtain ⟨-, rfl⟩ := Wording.comment_eq_ok_iff.mp h
  apply Reads.comment
  cases text with
  | nil => exact isComment_of_trimStart rfl
  | cons c text =>
      have shape : IsComment ("! ".toList ++ c :: text) (Text.trimStart (' ' :: c :: text)) :=
        isComment_of_trimStart rfl
      exact shape

theorem lettered_of_transfer {direction : Wording.Transfer} {unit t : Text} {label : Option Label}
    {operands : List Text} (h : Wording.transfer direction unit label operands = .ok t) :
    t.BeginsLettered := by
  obtain ⟨_, _, rfl⟩ := Wording.transfer_eq_ok_iff.mp h
  cases direction <;> rfl

theorem reads_of_leaf? {s : Statement} {t : Text} (view : leaf? s = some (.ok t))
    (lettered : s.BeginsLettered) (depth : Nat) :
    ∃ field, fields depth s = pure [field] ∧ Reads field ⟨depth, t⟩ := by
  cases s with
  | call =>
      obtain ⟨_, _, rfl⟩ := Wording.call_eq_ok_iff.mp (Option.some.inj view)
      exact ⟨.blank, by rw [fields], reads_of_lettered depth rfl⟩
  | assign =>
      obtain ⟨_, _, rfl⟩ := Wording.assign_eq_ok_iff.mp (Option.some.inj view)
      exact ⟨.blank, by rw [fields], reads_of_lettered depth ((lettered.append _).append _)⟩
  | declare =>
      obtain ⟨_, _, _, _, rfl⟩ := Wording.declare_eq_ok_iff.mp (Option.some.inj view)
      refine ⟨.blank, by rw [fields], reads_of_lettered depth ?_⟩
      rw [Wording.declaration]
      split
      · exact ((lettered.append _).append _).append _
      · exact (lettered.append _).append _
  | common =>
      obtain ⟨_, _, _, rfl⟩ := Wording.common_eq_ok_iff.mp (Option.some.inj view)
      exact ⟨.blank, by rw [fields], reads_of_lettered depth rfl⟩
  | parameter =>
      obtain ⟨_, _, rfl⟩ := Wording.parameter_eq_ok_iff.mp (Option.some.inj view)
      exact ⟨.blank, by rw [fields], reads_of_lettered depth rfl⟩
  | comment text =>
      exact ⟨.comment text, by rw [fields], reads_comment (Option.some.inj view) depth⟩
  | closeFile =>
      obtain ⟨_, rfl⟩ := Wording.closeFile_eq_ok_iff.mp (Option.some.inj view)
      exact ⟨.blank, by rw [fields], reads_of_lettered depth rfl⟩
  | implicitNone | returnLine | stop =>
      cases view
      exact ⟨.blank, by rw [fields], reads_of_lettered depth rfl⟩
  | continueAt =>
      obtain ⟨label, parsed, rfl⟩ := map_eq_ok_iff.mp (Option.some.inj view)
      exact ⟨_, by rw [fields, ← text_of_parse parsed], reads_continueAt label depth⟩
  | goto =>
      obtain ⟨label, parsed, rfl⟩ := map_eq_ok_iff.mp (Option.some.inj view)
      exact ⟨.blank, by rw [fields], reads_of_lettered depth rfl⟩
  | ifGoto =>
      obtain ⟨_, parsed, worded⟩ := bind_eq_ok_iff.mp (Option.some.inj view)
      obtain ⟨_, rfl⟩ := Wording.ifGoto_eq_ok_iff.mp worded
      exact ⟨.blank, by rw [fields], reads_of_lettered depth rfl⟩
  | format =>
      obtain ⟨_, parsed, worded⟩ := bind_eq_ok_iff.mp (Option.some.inj view)
      exact ⟨_, by rw [fields, ← text_of_parse parsed], reads_format worded depth⟩
  | transfer direction unit label formats operands =>
      cases formats with
      | none =>
          obtain ⟨_, _, worded⟩ := bind_eq_ok_iff.mp (Option.some.inj view)
          exact ⟨.blank, by rw [fields], reads_of_lettered depth (lettered_of_transfer worded)⟩
      | some formats => cases view
  | verbatim | ifThen | doLoop | program | subroutine | function | openFile => cases view

theorem fields_of_enclosure? {s : Statement} {body : List Statement}
    {made : Except Refusal (Text × Text)} (view : enclosure? s = some (body, made)) (depth : Nat) :
    fields depth s = (fun inner => .blank :: inner ++ [.blank]) <$> fieldsAll (depth + 1) body := by
  cases Enclosure.of_view view <;> (rw [fields]; rfl)

theorem lettered_of_ifThen {condition opener : Text} (h : Wording.ifThen condition = .ok opener) :
    opener.BeginsLettered := by
  rw [(ends_of_ifThen h).opener_eq]
  rfl

/-- Both ends of a construct without a label begin with a letter. -/
theorem lettered_of_enclosure? {s : Statement} {body : List Statement} {opener closer : Text}
    (view : enclosure? s = some (body, .ok (opener, closer))) (lettered : s.BeginsLettered) :
    opener.BeginsLettered ∧ closer.BeginsLettered := by
  generalize ends : Except.ok (opener, closer) = made at view
  cases Enclosure.of_view view with
  | ifThen =>
      obtain ⟨_, worded, ⟨⟩⟩ := map_eq_ok_iff.mp ends.symm
      exact ⟨lettered_of_ifThen worded, rfl⟩
  | program =>
      obtain ⟨_, worded, ⟨⟩⟩ := map_eq_ok_iff.mp ends.symm
      rw [(ends_of_program worded).opener_eq]
      exact ⟨rfl, rfl⟩
  | subroutine =>
      obtain ⟨_, worded, ⟨⟩⟩ := map_eq_ok_iff.mp ends.symm
      rw [(ends_of_subroutine worded).opener_eq]
      exact ⟨rfl, rfl⟩
  | function =>
      obtain ⟨_, worded, ⟨⟩⟩ := map_eq_ok_iff.mp ends.symm
      rw [(ends_of_function worded).opener_eq]
      exact ⟨(Text.BeginsLettered.append lettered _).append _, rfl⟩
  | openFile =>
      obtain ⟨_, worded, behind⟩ := bind_eq_ok_iff.mp ends.symm
      obtain ⟨_, closed, ⟨⟩⟩ := map_eq_ok_iff.mp behind
      rw [(ends_of_openFile worded closed).opener_eq, (ends_of_openFile worded closed).closer_eq]
      exact ⟨rfl, rfl⟩

theorem lettered_of_doHeader {label : Label} {index opener : Text} {start finish : Bound}
    {step : Option Bound} (h : Wording.doHeader (some label) index start finish step = .ok opener) :
    opener.BeginsLettered := by
  rw [(ends_of_doHeader h).opener_eq]
  rfl

/-- No text is passed through anywhere in a tree, and every statement begins with a letter. -/
def Lettered (tree : List Statement) : Prop :=
  Everywhere Statement.BeginsLettered tree

/-- The fields of a tree are those that are read in its fragments, line by line. -/
def ReadsAll (depth : Nat) (supply : LabelSupply) (tree : List Statement)
    (fragments : List Fragment) (after : LabelSupply) : Prop :=
  ∃ found, (fieldsAll depth tree).run supply = (found, after) ∧
    List.Forall₂ Reads found (Fragment.linesOfAll depth fragments)

theorem ReadsAll.cons {depth : Nat} {supply middle after : LabelSupply} {s : Statement}
    {rest : List Statement} {f : Fragment} {fragments : List Fragment} (first : List Field)
    (ran : (fields depth s).run supply = (first, middle))
    (reads : List.Forall₂ Reads first (f.linesAt depth))
    (behind : ReadsAll depth middle rest fragments after) :
    ReadsAll depth supply (s :: rest) (f :: fragments) after := by
  obtain ⟨others, passed, there⟩ := behind
  refine ⟨first ++ others, ?_, ?_⟩
  · rw [fieldsAll, run_bind_of_run ran, run_bind_of_run passed]
    rfl
  · rw [Fragment.linesOfAll]
    exact List.rel_append reads there

/-- Reading a line between lines that are read as blank. -/
theorem forall₂_around {depth : Nat} {opener closer : Text} {inner : List Field} {lines : List Line}
    {last : Field} (first : opener.BeginsLettered) (inside : List.Forall₂ Reads inner lines)
    (closes : Reads last ⟨depth, closer⟩) : List.Forall₂ Reads (.blank :: inner ++ [last])
      (⟨depth, opener⟩ :: lines ++ [⟨depth, closer⟩]) :=
  .cons (reads_of_lettered depth first) (List.rel_append inside (.cons closes .nil))

theorem readsAll_of_run {supply after : LabelSupply} {tree : List Statement}
    {fragments : List Fragment} (h : Run supply tree fragments after) (lettered : Lettered tree)
    (depth : Nat) : ReadsAll depth supply tree fragments after := by
  -- along the run, in which each construct takes its label where its fields do
  induction h generalizing depth with
  | nil => exact ⟨[], rfl, .nil⟩
  | leaf view _ ih =>
      obtain ⟨here, -, others⟩ := everywhere_cons_iff.mp lettered
      obtain ⟨field, made, reads⟩ := reads_of_leaf? view here depth
      refine .cons [field] (by rw [made]; rfl) ?_ (ih others depth)
      rw [Fragment.linesAt, Line.ofText_of_oneLine (oneLine_of_leaf? view)]
      exact .cons reads .nil
  | verbatim _ ih => exact (everywhere_cons_iff.mp lettered).1.elim
  | enclosed view _ _ inside ih =>
      obtain ⟨here, deeper, others⟩ := everywhere_cons_iff.mp lettered
      rw [bodies_of_enclosure? view] at deeper
      obtain ⟨found, ran, reads⟩ := inside deeper (depth + 1)
      obtain ⟨_, _, ends, -⟩ := print_of_enclosure? view
      obtain ⟨opens, closes⟩ := lettered_of_enclosure? view here
      have whole := forall₂_around opens reads (reads_of_lettered depth closes)
      rw [← linesAt_enclose ends.opener_oneLine ends.closer_oneLine] at whole
      refine .cons _ ?_ whole (ih others depth)
      rw [fields_of_enclosure? view, run_map_of_run ran]
  | divided worded _ _ _ inside opposite ih =>
      obtain ⟨-, deeper, others⟩ := everywhere_cons_iff.mp lettered
      obtain ⟨first, second⟩ := everywhere_append_iff.mp deeper
      obtain ⟨found, ran, reads⟩ := inside first (depth + 1)
      obtain ⟨opposed, passed, opposes⟩ := opposite second (depth + 1)
      have divides : Reads .blank ⟨depth, Wording.otherwise⟩ := reads_of_lettered depth rfl
      have closes : Reads .blank ⟨depth, Wording.endIf⟩ := reads_of_lettered depth rfl
      have both := List.rel_append reads (.cons divides opposes)
      refine .cons (.blank :: (found ++ .blank :: opposed) ++ [.blank]) ?_ ?_ (ih others depth)
      · rw [fields, run_bind_of_run ran, run_bind_of_run passed]
        rfl
      · rw [linesAt_divided (Wording.oneLine_of_ifThen worded) ⟨rfl, rfl⟩ depth oneLine_otherwise]
        exact forall₂_around (lettered_of_ifThen worded) both closes
  | @loop label _ _ _ _ _ _ _ _ _ _ _ _ _ taken header _ _ inside ih =>
      obtain ⟨-, deeper, others⟩ := everywhere_cons_iff.mp lettered
      obtain ⟨found, ran, reads⟩ := inside deeper (depth + 1)
      have ends := ends_of_doHeader header
      have whole :=
        forall₂_around (lettered_of_doHeader header) reads (reads_continueAt label depth)
      rw [← linesAt_enclose ends.opener_oneLine ends.closer_oneLine] at whole
      refine .cons _ ?_ whole (ih others depth)
      rw [fields, run_bind_of_run (run_nextLabel taken), run_bind_of_run ran]
      rfl
  | formatted taken worded formatted _ ih =>
      obtain ⟨-, -, others⟩ := everywhere_cons_iff.mp lettered
      have first := reads_of_lettered depth (lettered_of_transfer worded)
      have whole := List.Forall₂.cons first (.cons (reads_format formatted depth) .nil)
      rw [← linesAt_pair (Wording.oneLine_of_transfer worded)
        (Wording.oneLine_of_format formatted)] at whole
      refine .cons _ ?_ whole (ih others depth)
      rw [fields, run_bind_of_run (run_nextLabel taken)]
      rfl

end OnePass
end FortranWriter
