import FortranWriter.Proofs.Layout.Nesting
import FortranWriter.Proofs.Layout.Widths
/-! Fragments that became text before they were put into others, in fixed form: where the
indentation is part of the text, a comment loses it, a label gives it up to its statement, and a
statement that is not continued has it in the same columns. -/
namespace FortranWriter

theorem Text.leading_spaces_append (n : Nat) (t : Text) :
    leading (spaces n ++ t) = spaces n ++ leading t :=
  List.takeWhile_append_of_pos (isAllBlank_iff.mp (isAllBlank_spaces n))

namespace Layout

theorem labelled?_spaces_append (n : Nat) (t : Text) :
    labelled? (Text.spaces n ++ t) =
      (labelled? t).map fun (lead, label, statement) =>
        (Text.spaces n ++ lead, label, statement) := by
  rw [labelled?, labelled?, Text.trimStart_spaces_append, Text.leading_spaces_append]
  split <;> rfl

theorem IsLabelled.indented {t lead label statement : Text} (h : IsLabelled t lead label statement)
    (n : Nat) : IsLabelled (Text.spaces n ++ t) (Text.spaces n ++ lead) label statement := by
  apply isLabelled_of_labelled?
  rw [labelled?_spaces_append, h.labelled?_eq]
  rfl

theorem unlabelled_indented {t : Text}
    (unlabelled : ∀ lead label statement, ¬ IsLabelled t lead label statement) (n : Nat) :
    ∀ lead label statement, ¬ IsLabelled (Text.spaces n ++ t) lead label statement := by
  rw [← labelled?_eq_none_iff] at unlabelled ⊢
  rw [labelled?_spaces_append, unlabelled]
  rfl

/-- A statement without a label fits on its physical line so many constructs deep. -/
def FitsUnlabelled (limit outer : Nat) (line : Line) : Prop :=
  (∀ content, ¬ IsComment line.text content) →
    (∀ lead label statement, ¬ IsLabelled line.text lead label statement) →
      6 + 2 * (outer + line.depth) + line.text.length ≤ limit

instance (limit outer : Nat) (line : Line) : Decidable (FitsUnlabelled limit outer line) :=
  inferInstanceAs (Decidable (_ → _ → _))

theorem fixedStatement_of_fits {limit : Nat} {field indent statement : Text}
    (fits : (field ++ indent).length + statement.length ≤ limit) :
    fixedStatement limit field indent statement = [field ++ indent ++ statement] := by
  rw [fixedStatement, if_pos fits]

theorem fixedStatement_indented {limit : Nat} {field outer inner statement : Text}
    (fits : (field ++ (outer ++ inner)).length + statement.length ≤ limit) :
    fixedStatement limit field outer (inner ++ statement) =
      fixedStatement limit field (outer ++ inner) statement := by
  rw [fixedStatement_of_fits, fixedStatement_of_fits fits]
  · simp only [List.append_assoc]
  · simp only [List.length_append] at fits ⊢
    omega

/-- It makes no difference in fixed form which part of the indentation is in the text. The blanks
count as content only in a statement without a label, which is why that has to fit. -/
theorem fixedLine_render {limit outer : Nat} {line : Line}
    (fits : FitsUnlabelled limit outer line) :
    fixedLine limit ⟨outer, line.render⟩ = fixedLine limit (line.deepen outer) := by
  have text : (Line.mk outer line.render).text = Text.spaces (2 * line.depth) ++ line.text :=
    render_eq line
  have inside : Text.spaces (2 * (line.deepen outer).depth) =
      Text.spaces (2 * outer) ++ Text.spaces (2 * line.depth) := by
    rw [← Line.indentation_eq, spaces_deepen]
  cases found : read line.text with
  | comment content =>
      have comment := (read_eq_comment_iff _ _).mp found
      have shifted : IsComment (Line.mk outer line.render).text content := by
        rw [text]
        exact isComment_spaces_append_iff.mpr comment
      have deeper : IsComment (line.deepen outer).text content := comment
      rw [fixedLine_of_comment limit shifted, fixedLine_of_comment limit deeper]
  | labelled lead label t =>
      have shape := (read_eq_labelled_iff _ _ _ _).mp found
      have shifted := shape.indented (2 * line.depth)
      have deeper : IsLabelled (line.deepen outer).text lead label t := shape
      rw [← text] at shifted
      rw [fixedLine_of_labelled limit shifted, fixedLine_of_labelled limit deeper,
        List.length_append, Text.length_spaces, ← Nat.add_assoc, ← Nat.mul_add]
      rfl
  | plain t =>
      obtain ⟨-, noComment, noLabel⟩ := (read_eq_plain_iff _ _).mp found
      have short := fits noComment noLabel
      have statement : ∀ content, ¬ IsComment (Line.mk outer line.render).text content := by
        intro content comment
        rw [text, isComment_spaces_append_iff] at comment
        exact noComment content comment
      have unlabelled := unlabelled_indented noLabel (2 * line.depth)
      rw [← text] at unlabelled
      have deeper : fixedLine limit (line.deepen outer) = fixedStatement limit (labelField [])
          (Text.spaces (2 * (line.deepen outer).depth)) line.text :=
        fixedLine_of_plain limit noComment noLabel
      have six : (labelField []).length = 6 := rfl
      rw [fixedLine_of_plain limit statement unlabelled, deeper, text, inside]
      apply fixedStatement_indented
      simp only [List.length_append, Text.length_spaces, six]
      omega

/-- The first physical line of a labelled one has the label at the right of its columns, and behind
the indentation and the blanks that were in front of it the beginning of the statement. -/
theorem exists_fixedLine_of_labelled (limit : Nat) {line : Line} {lead label t : Text}
    (shape : IsLabelled line.text lead label t) : ∃ begun more,
      fixedLine limit line = (Text.alignRight 5 label ++
        ' ' :: (Text.spaces (2 * line.depth + lead.length) ++ begun)) :: more ∧
      begun ≠ [] ∧ begun <+: t := by
  obtain ⟨begun, more, rows, inFront, some⟩ :=
    exists_fixedStatement_eq_cons limit (labelField label)
      (Text.spaces (2 * line.depth + lead.length)) t
  refine ⟨begun, more.map (continuationField ++ ·), ?_, some shape.nonempty, inFront⟩
  rw [fixedLine_of_labelled limit shape, rows, labelField]
  simp only [List.append_assoc, List.cons_append, List.nil_append]

/-- In fixed form a fragment that became text before it was put into a body is laid out like the
fragment itself, if its statements without labels need not be continued. Either way labels are at
the right of columns 1 to 5, and their statements start behind the indentation of both. -/
theorem layout_fill_text_of_fits (context : Fragment.Context) {f : Fragment} (emission : Emission)
    (fixed : emission.form = .fixed) (clean : ∀ t ∈ f.texts, '\r' ∉ t)
    (fits : ∀ line ∈ f.lines, FitsUnlabelled emission.limit context.depth line) :
    layout (context.fill (.ofText f.text)) emission = layout (context.fill f) emission ∧
      ∀ line ∈ f.lines, ∀ lead label statement, IsLabelled line.text lead label statement →
        ∃ above begun below, layout (context.fill f) emission = above ++
            (Text.alignRight 5 label ++ ' ' :: (Text.spaces
              (2 * (context.depth + line.depth) + lead.length) ++ begun)) :: below ∧
          (Text.alignRight 5 label).length = 5 ∧ begun ≠ [] ∧ begun <+: statement := by
  obtain ⟨front, back, found⟩ := layout_fill context emission
  constructor
  · rw [found, found, List.append_cancel_right_eq, List.append_cancel_left_eq,
      Fragment.lines_ofText_text clean, fixed, List.map_map, List.flatMap_map, List.flatMap_map]
    apply List.flatMap_congr
    intro line mem
    exact fixedLine_render (fits line mem)
  · intro line mem lead label statement shape
    have deeper : IsLabelled (line.deepen context.depth).text lead label statement := shape
    obtain ⟨begun, more, rows, some, inFront⟩ := exists_fixedLine_of_labelled emission.limit deeper
    obtain ⟨above, below, lines⟩ := List.append_of_mem mem
    refine ⟨front ++ (above.map (Line.deepen context.depth)).flatMap (fixedLine emission.limit),
      begun,
      more ++ (below.map (Line.deepen context.depth)).flatMap (fixedLine emission.limit) ++ back,
      ?_,
      FixedForm.length_alignRight shape.le_five, some, inFront⟩
    have here : Layout.line .fixed emission.limit = fixedLine emission.limit := rfl
    rw [found, fixed, lines, List.map_append, List.map_cons, List.flatMap_append, List.flatMap_cons,
      here, rows]
    simp only [List.append_assoc, List.cons_append]
    rfl

/-- A loop whose header just fits, and in it a comment and a labelled call that are longer. -/
theorem layout_fill_text_of_fits_loop :
    let loop := Construct.enclose "do 100 i = 1, 3".toList
      [.line "! the sum of what came before".toList, .line " 10 call evaluate(alpha, beta)".toList]
      "100 continue".toList
    let context := Fragment.Context.inside [] [] [.line "program p".toList] [.line "end".toList]
      (.between [] [])
    layout (context.fill (.ofText loop.text)) { form := .fixed, maxLineLength := some 23 } =
        layout (context.fill loop) { form := .fixed, maxLineLength := some 23 } ∧
      layout (context.fill loop) { form := .fixed, maxLineLength := some 23 } =
        ["      program p".toList, "        do 100 i = 1, 3".toList,
          "c     the sum of what came before".toList, "   10      call".toList,
          "     & evaluate(alpha,".toList, "     & beta)".toList, "  100   continue".toList,
          "      end".toList] := by
  intro loop context
  have clean : ∀ t ∈ loop.texts, '\r' ∉ t := by decide
  obtain ⟨same, -⟩ :=
    layout_fill_text_of_fits context { form := .fixed, maxLineLength := some 23 } rfl clean
      (by decide +kernel)
  exact ⟨same, by decide +kernel⟩

end Layout
end FortranWriter
