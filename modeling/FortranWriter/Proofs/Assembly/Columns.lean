import FortranWriter.Proofs.Assembly.Fields
import FortranWriter.Proofs.Layout.Widths
/-! The first columns of assembled source in fixed form: a `c` for each comment of the tree,
the labels of its labelled lines at the right of columns 1 to 5, and blanks in front of
every other statement. -/
namespace FortranWriter.OnePass
open Assembly Layout

/-- The first physical line of a labelled statement: the label at the right of columns 1 to 5, and
the beginning of the statement behind column 6 and the indentation. -/
structure Carries (l : LabelledLine) (row : Text) : Prop where
  token : Label.isToken l.digits = true
  columns : ∃ begun,
    row = Text.alignRight 5 l.digits ++ ' ' :: (Text.spaces (2 * l.depth) ++ begun) ∧
    begun ≠ [] ∧ begun <+: l.statement

/-- The physical lines of a line. All but the first have the mark of continuation in column 6. -/
inductive Shows : Field → List Text → Prop
  | comment {text} : Shows (.comment text) [commentRow text.trimStart]
  | label {l row} {more : List Text} : Carries l row →
      Shows (.label l) (row :: more.map (continuationField ++ ·))
  | blank {begun} {more : List Text} :
      Shows .blank ((Text.spaces 6 ++ begun) :: more.map (continuationField ++ ·))

def isCommentRow (row : Text) : Bool :=
  row.head? == some 'c'

/-- A physical line of a statement with something in columns 1 to 5. -/
def hasLabel (row : Text) : Bool :=
  !isCommentRow row && !Text.isAllBlank (row.take 5)

def Field.comment? : Field → Option Text
  | .comment text => some text
  | _ => none

def Field.label? : Field → Option LabelledLine
  | .label l => some l
  | _ => none

theorem shows_fixedLine (limit : Nat) {field : Field} {line : Line} (reads : Reads field line) :
    Shows field (fixedLine limit line) := by
  cases reads with
  | comment comment =>
      rw [fixedLine_of_comment limit comment]
      exact .comment
  | @label digits depth statement t shape =>
      obtain ⟨begun, more, rows, front, some⟩ :=
        exists_fixedStatement_eq_cons limit (labelField digits) (Text.spaces (2 * depth)) statement
      rw [fixedLine_of_labelled limit shape]
      rw [List.length_nil, Nat.add_zero, rows]
      refine .label ⟨(isToken_iff _).mpr ⟨shape.digits, shape.one_le, shape.le_five⟩, begun, ?_,
        some shape.nonempty, front⟩
      simp only [labelField, List.append_assoc, List.cons_append, List.nil_append]
  | @blank depth t statement unlabelled =>
      obtain ⟨begun, more, rows, -, -⟩ := exists_fixedStatement_eq_cons limit (labelField [])
        (Text.spaces (2 * depth)) t
      rw [fixedLine_of_plain limit statement unlabelled, rows, List.append_assoc]
      exact .blank

theorem filter_continuations (p : Text → Bool) (none : ∀ t, p (continuationField ++ t) = false)
    (more : List Text) : (more.map (continuationField ++ ·)).filter p = [] := by
  rw [List.filter_eq_nil_iff, List.forall_mem_map]
  intro t _
  rw [none]
  exact Bool.false_ne_true

section
variable {l : LabelledLine} {row : Text} (h : Carries l row)
include h

theorem Carries.isCommentRow_eq : isCommentRow row = false := by
  obtain ⟨begun, rfl, -, -⟩ := h.columns
  have digits := ((isToken_iff _).mp h.token).1
  have other := FixedForm.head?_labelField digits (Text.spaces (2 * l.depth) ++ begun)
  rw [labelField, List.append_assoc] at other
  exact beq_eq_false_iff_ne.mpr other

theorem Carries.hasLabel_eq : hasLabel row = true := by
  obtain ⟨begun, rfl, -, -⟩ := h.columns
  obtain ⟨digits, one_le, few⟩ := (isToken_iff _).mp h.token
  obtain ⟨d, others, shape⟩ := List.exists_cons_of_length_pos one_le
  have first : d ∈ l.digits := shape ▸ List.mem_cons_self
  have filled : Text.isAllBlank (Text.alignRight 5 l.digits) = false := by
    refine Bool.eq_false_iff.mpr fun blank => ?_
    have space := Text.isAllBlank_iff.mp blank d (List.mem_append_right _ first)
    rw [isBlank_of_isDigit (digits d first)] at space
    cases space
  unfold hasLabel
  rw [h.isCommentRow_eq, List.take_left' (FixedForm.length_alignRight few), filled]
  rfl

end

/-- The first column of a comment. -/
theorem isCommentRow_commentRow (content : Text) : isCommentRow (commentRow content) = true := by
  unfold commentRow
  split <;> rfl

theorem Shows.filter_isCommentRow {field : Field} {rows : List Text} (h : Shows field rows) :
    rows.filter isCommentRow =
      (field.comment?.map fun text => commentRow text.trimStart).toList := by
  cases h with
  | comment => rw [List.filter_cons_of_pos (isCommentRow_commentRow _)]; rfl
  | label carries =>
      rw [List.filter_cons_of_neg (Bool.eq_false_iff.mp carries.isCommentRow_eq),
        filter_continuations _ fun _ => rfl]
      rfl
  | blank =>
      rw [List.filter_cons_of_neg Bool.false_ne_true, filter_continuations _ fun _ => rfl]
      rfl

theorem Shows.filter_hasLabel {field : Field} {rows : List Text} (h : Shows field rows) :
    List.Forall₂ Carries field.label?.toList (rows.filter hasLabel) := by
  cases h with
  | @comment text =>
      have none : hasLabel (commentRow text.trimStart) = false := by
        unfold hasLabel
        rw [isCommentRow_commentRow]
        rfl
      rw [List.filter_cons_of_neg (Bool.eq_false_iff.mp none)]
      exact .nil
  | label carries =>
      rw [List.filter_cons_of_pos carries.hasLabel_eq, filter_continuations _ fun _ => rfl]
      exact .cons carries .nil
  | blank =>
      rw [List.filter_cons_of_neg Bool.false_ne_true, filter_continuations _ fun _ => rfl]
      exact .nil

section
variable {found : List Field} {groups : List (List Text)} (h : List.Forall₂ Shows found groups)
include h

theorem filter_isCommentRow_flatten : groups.flatten.filter isCommentRow =
    (found.filterMap Field.comment?).map fun text => commentRow text.trimStart := by
  induction h with
  | nil => rfl
  | @cons field rows found groups first _ ih =>
      rw [List.flatten_cons, List.filter_append, first.filter_isCommentRow, ih]
      cases field <;> rfl

theorem filter_hasLabel_flatten :
    List.Forall₂ Carries (found.filterMap Field.label?) (groups.flatten.filter hasLabel) := by
  induction h with
  | nil => exact .nil
  | @cons field rows found groups first _ ih =>
      rw [List.flatten_cons, List.filter_append]
      have both := List.rel_append first.filter_hasLabel ih
      cases field <;> exact both

end

/-- Going through the physical lines of an assembled tree in fixed form, those with a `c` in column
1 are those of the comments, one each, and those with something else in columns 1 to 5 those of the
labelled lines of the tree, in order. Any other line begins behind six blank columns. -/
theorem columns_layout {tree : List Statement} {supply after : LabelSupply}
    {fragments : List Fragment} (lettered : Lettered tree)
    (assembled : (statements tree).run.run supply = (.ok fragments, after)) {emission : Emission}
    (fixed : emission.form = .fixed) :
    ∃ found groups, (fieldsAll 0 tree).run supply = (found, after) ∧
      layout fragments emission = groups.flatten ∧ List.Forall₂ Shows found groups ∧
      (layout fragments emission).filter isCommentRow =
        (found.filterMap Field.comment?).map (fun text => commentRow text.trimStart) ∧
      List.Forall₂ Carries (found.filterMap Field.label?)
        ((layout fragments emission).filter hasLabel) := by
  obtain ⟨found, ran, reads⟩ := readsAll_of_run (Run.of_statements tree assembled) lettered 0
  have rows : layout fragments emission =
      ((Fragment.linesOfAll 0 fragments).map (fixedLine emission.limit)).flatten := by
    rw [layout, lines_eq_flatMap, fixed, List.flatMap_def]
    rfl
  have shows : List.Forall₂ Shows found
      ((Fragment.linesOfAll 0 fragments).map (fixedLine emission.limit)) := by
    rw [List.forall₂_map_right_iff]
    exact reads.imp fun _ _ => shows_fixedLine emission.limit
  refine ⟨found, _, ran, rows, shows, ?_, ?_⟩
  · rw [rows]
    exact filter_isCommentRow_flatten shows
  · rw [rows]
    exact filter_hasLabel_flatten shows

/-- A comment, a statement that begins with the letter of comments, and labels at three depths. -/
def annotated : List Statement :=
  [.program "p".toList
    [.comment "  sums".toList,
      .doLoop "i".toList (.integer 1) (.integer 3) none
        [.assign "c".toList "c + total(i)".toList,
          .transfer .write "6".toList none (some ["I3".toList]) ["i".toList, "c".toList]],
      .continueAt "007".toList]]

theorem lettered_annotated : Lettered annotated := by
  simp only [annotated, Lettered, everywhere_cons_iff, everywhere_nil, Assembly.bodies,
    Statement.BeginsLettered, true_and, and_true]
  rfl

theorem columns_layout_annotated :
    ∃ fragments, (statements annotated).run.run ⟨100, 100⟩ = (.ok fragments, ⟨300, 100⟩) ∧
      layout fragments { form := .fixed, maxLineLength := some 26 } =
        ["      program p".toList,
          "c     sums".toList,
          "        do 100 i = 1, 3".toList,
          "          c = c + total(i)".toList,
          "          write(6, 200)".toList,
          "     & i, c".toList,
          "  200     format(I3)".toList,
          "  100   continue".toList,
          "    7   continue".toList,
          "      end".toList] ∧
      List.Forall₂ Carries
        [⟨"200".toList, 2, "format(I3)".toList⟩, ⟨"100".toList, 1, "continue".toList⟩,
          ⟨"7".toList, 1, "continue".toList⟩]
        ["  200     format(I3)".toList, "  100   continue".toList, "    7   continue".toList] := by
  have assembled : ∃ fragments,
      (statements annotated).run.run ⟨100, 100⟩ = (.ok fragments, ⟨300, 100⟩) ∧
        layout fragments { form := .fixed, maxLineLength := some 26 } = _ := ⟨_, rfl, rfl⟩
  obtain ⟨fragments, assembled, rows⟩ := assembled
  have fixed : ({ form := .fixed, maxLineLength := some 26 } : Emission).form = .fixed := rfl
  obtain ⟨found, groups, ran, -, -, -, labels⟩ := columns_layout lettered_annotated assembled fixed
  obtain rfl : ((fieldsAll 0 annotated).run ⟨100, 100⟩).1 = found := congrArg Prod.fst ran
  rw [rows] at labels
  refine ⟨fragments, assembled, rows.trans (by decide +kernel), ?_⟩
  convert labels using 1
  · decide +kernel
  · decide +kernel

end FortranWriter.OnePass
