import FortranWriter.Construct
import FortranWriter.Proofs.Fragment.Nesting
import FortranWriter.Proofs.Layout.FreeForm
/-! Fragments that became text before they were put into others: which of their lines look in free
form as they would have looked otherwise. A comment loses the indentation that is part of its text,
and a statement that is continued has all its physical lines indented by its depth alone. -/
namespace FortranWriter
namespace Layout
open FreeForm

/-- A physical line that goes on with a statement behind an indentation. -/
def Resumes (indent row : Text) : Prop :=
  ∃ rest, row = indent ++ '&' :: rest

theorem resumes_of_mem_freePieces (indent : Text) {pieces : List Piece} {row : Text}
    (h : row ∈ freePieces indent ['&'] pieces) : Resumes indent row := by
  induction pieces with
  | nil => cases h
  | cons piece pieces ih =>
      cases pieces with
      | nil =>
          rw [List.mem_singleton.mp h, List.append_assoc]
          exact ⟨piece.text, rfl⟩
      | cons next pieces =>
          rcases List.mem_cons.mp h with rfl | later
          · simp only [List.append_assoc]
            exact ⟨_, rfl⟩
          · exact ih later

theorem freeStatement_of_short {limit : Nat} {indent statement : Text}
    (short : indent.length + statement.length ≤ limit ∨ statement.length ≤ minimumWidth) :
    freeStatement limit indent statement = [indent ++ statement] := by
  rw [freeStatement]
  split
  · rfl
  · case _ long =>
      have narrow : statement.length ≤ minimumWidth := short.resolve_left long
      have fits : statement.length ≤ capacity limit (indent.length + 2) :=
        Nat.le_trans narrow (minimumWidth_le_capacity _ _)
      rw [split_of_fits fits, freePieces, List.append_nil]

theorem freeStatement_of_long (limit : Nat) (indent statement : Text)
    (long : limit < indent.length + statement.length) (wide : minimumWidth < statement.length) :
    ∃ first more, freeStatement limit indent statement = (indent ++ first) :: more ∧ more ≠ [] ∧
      ∀ row ∈ more, Resumes indent row := by
  have narrow : capacity limit (indent.length + 2) < statement.length := by
    rw [capacity]
    omega
  obtain ⟨piece, pieces, parts, several⟩ :=
    exists_split_cons narrow (capacity limit (indent.length + 3))
  rw [freeStatement, if_neg (Nat.not_le_of_gt long), parts, freePieces_cons _ _ _ several,
    List.append_nil, List.append_assoc]
  refine ⟨_, _, rfl, ?_, fun row => resumes_of_mem_freePieces indent⟩
  obtain ⟨next, others, rfl⟩ := List.exists_cons_of_ne_nil several
  cases others with
  | nil => exact List.cons_ne_nil _ _
  | cons => exact List.cons_ne_nil _ _

theorem freeLine_of_comment {limit : Nat} {line : Line} {content : Text}
    (comment : IsComment line.text content) :
    freeLine limit line = [Text.spaces line.indentation ++ line.text.trimStart] := by
  rw [freeLine, (read_eq_comment_iff _ _).mpr comment]

theorem freeLine_shape (limit : Nat) (line : Line) : ∃ first more,
    freeLine limit line = (Text.spaces line.indentation ++ first) :: more ∧
      ∀ row ∈ more, Resumes (Text.spaces line.indentation) row := by
  by_cases comment : ∃ content, IsComment line.text content
  · obtain ⟨content, comment⟩ := comment
    exact ⟨_, [], freeLine_of_comment comment, fun row h => absurd h List.not_mem_nil⟩
  · rw [freeLine_of_not_comment limit fun content h => comment ⟨content, h⟩]
    by_cases short : (Text.spaces line.indentation).length + line.text.length ≤ limit ∨
        line.text.length ≤ minimumWidth
    · exact ⟨_, [], freeStatement_of_short short, fun row h => absurd h List.not_mem_nil⟩
    · rw [not_or, Nat.not_le, Nat.not_le] at short
      obtain ⟨first, more, rows, -, resume⟩ := freeStatement_of_long _ _ _ short.1 short.2
      exact ⟨first, more, rows, resume⟩

theorem isComment_spaces_append_iff {n : Nat} {t content : Text} :
    IsComment (Text.spaces n ++ t) content ↔ IsComment t content := by
  constructor
  · intro comment
    obtain ⟨rest, mark, rfl⟩ := comment.trimStart_eq
    exact isComment_of_trimStart ((Text.trimStart_spaces_append n t).symm.trans mark)
  · intro comment
    obtain ⟨rest, mark, rfl⟩ := comment.trimStart_eq
    exact isComment_of_trimStart ((Text.trimStart_spaces_append n t).trans mark)

/-- The physical lines of a fragment's line, the fragment standing so many constructs deep. -/
def blockRows (limit outer : Nat) (line : Line) : List Text :=
  freeLine limit (line.deepen outer)

/-- The same where the fragment became text before, so that the line's own indentation is in it. -/
def textRows (limit outer : Nat) (line : Line) : List Text :=
  freeLine limit ⟨outer, line.render⟩

/-- The lines that look the same either way: those at the outermost depth of their fragment, and the
statements that are not continued. -/
def Unshifted (limit outer : Nat) (line : Line) : Prop :=
  line.depth = 0 ∨ (∀ content, ¬ IsComment line.text content) ∧
    (2 * (outer + line.depth) + line.text.length ≤ limit ∨
      2 * line.depth + line.text.length ≤ minimumWidth)

instance (limit outer : Nat) (line : Line) : Decidable (Unshifted limit outer line) :=
  inferInstanceAs (Decidable (_ ∨ _ ∧ _))

section
variable {limit outer : Nat} {line : Line}

theorem render_eq (line : Line) : line.render = Text.spaces (2 * line.depth) ++ line.text := by
  rw [Line.render, line.indentation_eq]

theorem spaces_deepen (outer : Nat) (line : Line) : Text.spaces (line.deepen outer).indentation =
    Text.spaces (2 * outer) ++ Text.spaces (2 * line.depth) := by
  rw [Line.indentation_eq, Text.spaces, Text.spaces, Text.spaces, List.replicate_append_replicate]
  exact congrArg (List.replicate · ' ') (Nat.mul_add 2 outer line.depth)

theorem blockRows_of_statement (statement : ∀ content, ¬ IsComment line.text content) :
    blockRows limit outer line = freeStatement limit
      (Text.spaces (2 * outer) ++ Text.spaces (2 * line.depth)) line.text := by
  have same : ∀ content, ¬ IsComment (line.deepen outer).text content := statement
  rw [blockRows, freeLine_of_not_comment limit same, spaces_deepen]
  rfl

theorem textRows_of_statement (statement : ∀ content, ¬ IsComment line.text content) :
    textRows limit outer line = freeStatement limit (Text.spaces (2 * outer))
      (Text.spaces (2 * line.depth) ++ line.text) := by
  have still : ∀ content, ¬ IsComment (Line.mk outer line.render).text content := by
    intro content comment
    rw [render_eq, isComment_spaces_append_iff] at comment
    exact statement content comment
  rw [textRows, freeLine_of_not_comment limit still, Line.indentation_eq, render_eq]

theorem textRows_eq_of_unshifted (h : Unshifted limit outer line) :
    textRows limit outer line = blockRows limit outer line := by
  rcases h with outermost | ⟨statement, short⟩
  · have flat : line.render = line.text := by
      rw [render_eq, outermost]
      rfl
    have same : line.deepen outer = ⟨outer, line.text⟩ := by
      rw [Line.deepen, outermost, Nat.add_zero]
    rw [textRows, blockRows, flat, same]
  · rw [textRows_of_statement statement, blockRows_of_statement statement]
    have size := Text.length_spaces
    rw [freeStatement_of_short, freeStatement_of_short, List.append_assoc]
    · simp only [List.length_append, size]
      omega
    · simp only [List.length_append, size]
      omega

theorem depth_eq_zero_of_resumes {first : Text}
    (h : Resumes (Text.spaces (2 * outer)) (Text.spaces (line.deepen outer).indentation ++ first)) :
    line.depth = 0 := by
  obtain ⟨rest, same⟩ := h
  rw [spaces_deepen, List.append_assoc, List.append_cancel_left_eq] at same
  cases deep : line.depth with
  | zero => rfl
  | succ n =>
      rw [deep] at same
      cases same

/-- If some physical lines are left over in front that resume at the outer
depth, then to the end. -/
theorem blockRows_ne_append_textRows (lines : List Line) {left : List Text} (some : left ≠ [])
    (resume : ∀ row ∈ left, Resumes (Text.spaces (2 * outer)) row) :
    lines.flatMap (blockRows limit outer) ≠ left ++ lines.flatMap (textRows limit outer) := by
  induction lines generalizing left with
  | nil => exact fun same => some (List.append_eq_nil_iff.mp same.symm).1
  | cons line lines ih =>
      intro same
      rw [List.flatMap_cons, List.flatMap_cons] at same
      -- the next line begins like the first one left over, so it is at the outer depth
      obtain ⟨first, more, rows, rest⟩ := freeLine_shape limit (line.deepen outer)
      obtain ⟨row, others, rfl⟩ := List.exists_cons_of_ne_nil some
      have head : Text.spaces (line.deepen outer).indentation ++ first = row := by
        rw [blockRows, rows] at same
        exact (List.cons.inj same).1
      have outermost : line.depth = 0 :=
        depth_eq_zero_of_resumes (head ▸ resume row List.mem_cons_self)
      rw [textRows_eq_of_unshifted (.inl outermost), ← List.append_assoc] at same
      have here : ∀ row ∈ blockRows limit outer line, Resumes (Text.spaces (2 * outer)) row := by
        intro other mem
        rw [blockRows, rows] at mem
        rcases List.mem_cons.mp mem with rfl | later
        · exact head ▸ resume row List.mem_cons_self
        · have indented := rest other later
          rw [spaces_deepen, outermost] at indented
          simpa only [Nat.mul_zero, Text.spaces, List.replicate_zero, List.append_nil]
            using indented
      -- so it takes as many physical lines either way, and as many as before are left over
      rcases List.append_eq_append_iff.mp same with ⟨behind, shifted, later⟩ | ⟨behind, shifted, -⟩
      · refine ih ?_ ?_ later
        · rintro rfl
          have sizes := congrArg List.length shifted
          simp only [List.length_append, List.length_cons, List.length_nil] at sizes
          omega
        · intro other mem
          have either : other ∈ (row :: others) ++ blockRows limit outer line := by
            rw [shifted]
            exact List.mem_append_right _ mem
          rcases List.mem_append.mp either with mem | mem
          · exact resume other mem
          · exact here other mem
      · have sizes := congrArg List.length shifted
        simp only [List.length_append, List.length_cons] at sizes
        omega

theorem unshifted_of_append_eq {lines : List Line}
    (same : textRows limit outer line ++ lines.flatMap (textRows limit outer) =
      blockRows limit outer line ++ lines.flatMap (blockRows limit outer)) :
    Unshifted limit outer line := by
  by_cases comment : ∃ content, IsComment line.text content
  · obtain ⟨content, comment⟩ := comment
    have deeper : IsComment (line.deepen outer).text content := comment
    have shifted : IsComment (Line.mk outer line.render).text content := by
      rw [render_eq, isComment_spaces_append_iff]
      exact comment
    rw [textRows, blockRows, freeLine_of_comment shifted, freeLine_of_comment deeper, render_eq,
      Text.trimStart_spaces_append] at same
    have rows := congrArg List.length (List.cons.inj same).1
    rw [List.length_append, List.length_append, Text.length_spaces, Text.length_spaces,
      Line.indentation_eq, Line.indentation_eq] at rows
    have widths : 2 * outer + line.text.trimStart.length =
        2 * (outer + line.depth) + line.text.trimStart.length := rows
    exact .inl (by omega)
  · have statement : ∀ content, ¬ IsComment line.text content :=
      fun content h => comment ⟨content, h⟩
    by_cases short : 2 * (outer + line.depth) + line.text.length ≤ limit ∨
        2 * line.depth + line.text.length ≤ minimumWidth
    · exact .inr ⟨statement, short⟩
    · rw [not_or, Nat.not_le, Nat.not_le] at short
      obtain ⟨long, wide⟩ := short
      rw [textRows_of_statement statement, blockRows_of_statement statement] at same
      obtain ⟨front, more, rows, several, resume⟩ := freeStatement_of_long limit
        (Text.spaces (2 * outer)) (Text.spaces (2 * line.depth) ++ line.text)
        (by simp only [List.length_append, Text.length_spaces]; omega)
        (by simp only [List.length_append, Text.length_spaces]; omega)
      rw [rows] at same
      by_cases narrow : line.text.length ≤ minimumWidth
      · -- the block has one physical line and the text several
        rw [freeStatement_of_short (.inr narrow)] at same
        exact absurd (List.cons.inj same).2.symm (blockRows_ne_append_textRows lines several resume)
      · -- both have a second line, at different indentations
        obtain ⟨first, rest, others, more_ne, indented⟩ := freeStatement_of_long limit
          (Text.spaces (2 * outer) ++ Text.spaces (2 * line.depth)) line.text
          (by simp only [List.length_append, Text.length_spaces]; omega) (Nat.lt_of_not_le narrow)
        obtain ⟨row, more, rfl⟩ := List.exists_cons_of_ne_nil several
        obtain ⟨next, rest, rfl⟩ := List.exists_cons_of_ne_nil more_ne
        rw [others] at same
        have second : row = next := (List.cons.inj (List.cons.inj same).2).1
        obtain ⟨behind, text⟩ := indented next List.mem_cons_self
        have resumed := resume row List.mem_cons_self
        rw [second, text, ← spaces_deepen] at resumed
        exact .inl (depth_eq_zero_of_resumes resumed)

end

theorem flatMap_textRows_eq_iff (limit outer : Nat) (lines : List Line) :
    lines.flatMap (textRows limit outer) = lines.flatMap (blockRows limit outer) ↔
      ∀ line ∈ lines, Unshifted limit outer line := by
  induction lines with
  | nil => exact ⟨fun _ line h => absurd h List.not_mem_nil, fun _ => rfl⟩
  | cons line lines ih =>
      rw [List.forall_mem_cons, ← ih, List.flatMap_cons, List.flatMap_cons]
      constructor
      · intro same
        have kept : Unshifted limit outer line := unshifted_of_append_eq same
        rw [textRows_eq_of_unshifted kept, List.append_cancel_left_eq] at same
        exact ⟨kept, same⟩
      · rintro ⟨kept, others⟩
        rw [textRows_eq_of_unshifted kept, others]

theorem layout_fill (context : Fragment.Context) (emission : Emission) :
    ∃ front back, ∀ f : Fragment, layout (context.fill f) emission =
      front ++ (f.lines.map (Line.deepen context.depth)).flatMap
        (Layout.line emission.form emission.limit) ++ back := by
  obtain ⟨front, back, found⟩ := context.linesOfAll_fill 0
  refine ⟨front.flatMap (Layout.line emission.form emission.limit),
    back.flatMap (Layout.line emission.form emission.limit), fun f => ?_⟩
  have lines : (context.fill f).flatMap Fragment.lines = Fragment.linesOfAll 0 (context.fill f) :=
    (Fragment.linesOfAll_eq_flatMap 0 _).symm
  rw [layout, lines, found, Nat.zero_add, Fragment.linesAt_eq_map, List.flatMap_append,
    List.flatMap_append]

/-- In free form a fragment that became text before it was put into a body is laid out
like the fragment itself exactly if none of its indented lines is a comment or a
statement that is continued. -/
theorem layout_fill_text_iff (context : Fragment.Context) {f : Fragment} (emission : Emission)
    (free : emission.form = .free) (clean : ∀ t ∈ f.texts, '\r' ∉ t) :
    layout (context.fill (.ofText f.text)) emission = layout (context.fill f) emission ↔
      ∀ line ∈ f.lines, Unshifted emission.limit context.depth line := by
  obtain ⟨front, back, found⟩ := layout_fill context emission
  rw [found, found, List.append_cancel_right_eq, List.append_cancel_left_eq,
    Fragment.lines_ofText_text clean, ← flatMap_textRows_eq_iff, free, List.map_map,
    List.flatMap_map, List.flatMap_map]
  rfl

/-- Loops in each other that became text, in a program: with a statement in the inner one that just
fits, and with the limit one column lower. -/
theorem layout_fill_text_iff_loops :
    let outer := Construct.enclose "do 200 i = 1, 3".toList
      [Construct.enclose "do 100 j = 1, 3".toList [.line "s = s + a(i,j)".toList]
        "100 continue".toList] "200 continue".toList
    let context := Fragment.Context.inside [] [] [.line "program demo".toList] [.line "end".toList]
      (.between [] [])
    layout (context.fill (.ofText outer.text)) { maxLineLength := some 20 } =
        layout (context.fill outer) { maxLineLength := some 20 } ∧
      layout (context.fill (.ofText outer.text)) { maxLineLength := some 19 } ≠
        layout (context.fill outer) { maxLineLength := some 19 } := by
  intro outer context
  have clean : ∀ t ∈ outer.texts, '\r' ∉ t := by decide
  constructor
  · exact (layout_fill_text_iff context { maxLineLength := some 20 } rfl clean).mpr
      (by decide +kernel)
  · intro same
    exact absurd ((layout_fill_text_iff context { maxLineLength := some 19 } rfl clean).mp same)
      (by decide +kernel)

/-- A comment in a condition that became text moves to the depth of the condition. -/
theorem layout_fill_text_ne : ¬ ∀ (context : Fragment.Context) (f : Fragment) (emission : Emission),
    emission.form = .free → (∀ t ∈ f.texts, '\r' ∉ t) →
      layout (context.fill (.ofText f.text)) emission = layout (context.fill f) emission := by
  intro all
  have same := all (.inside [] [] [.line "program p".toList] [.line "end".toList] (.between [] []))
    (Construct.enclose "if (x) then".toList [.line "! note".toList] "end if".toList) {} rfl
    (by decide)
  exact absurd same (by decide +kernel)

end Layout
end FortranWriter
