import FortranWriter.Proofs.Layout.Breaks
import FortranWriter.Proofs.Layout.FixedForm
import FortranWriter.Proofs.Layout.FreeForm
/-! How wide the physical lines of a statement are. They keep to the limit as far as the columns in
front of the statement leave room for it, marks of continuation included. -/
namespace FortranWriter.Layout
open FixedForm (length_alignRight)
open FreeForm (freeLine_of_not_comment)

/-- A statement begins on its first physical line, and all others go on with it. -/
theorem exists_fixedStatement_eq_cons (limit : Nat) (field indent t : Text) :
    ∃ begun, ∃ more : List Text, fixedStatement limit field indent t =
        (field ++ indent ++ begun) :: more.map (continuationField ++ ·) ∧
      begun <+: t ∧ (t ≠ [] → begun ≠ []) := by
  obtain ⟨first, rest, parts, rows⟩ := exists_fixedStatement_eq limit field indent t
  have splits := splits_piecesWithin limit (field ++ indent).length (field ++ indent).length 6 t
  have whole :=
    piecesWithin_flatMap_text limit (field ++ indent).length (field ++ indent).length 6 t
  rw [parts] at splits whole
  refine ⟨first.text, rest.map Piece.text, ?_, ⟨_, whole⟩, ?_⟩
  · rw [rows, List.map_map]
    rfl
  · intro some empty
    have head := splits.head?_eq
    rw [empty] at head
    exact some (List.head?_eq_none_iff.mp head.symm)

def commentRow (content : Text) : Text :=
  if content.isEmpty then "c".toList else "c     ".toList ++ content

/-- The columns in front of a statement in fixed form: those of the label and the mark, those of the
indentation, and one for each blank in front of the label. -/
def statementOffset (line : Line) : Nat :=
  6 + 2 * line.depth +
    match labelled? line.text with
    | some (lead, _, _) => lead.length
    | none => 0

theorem length_labelField {label : Text} (few : label.length ≤ 5) :
    (labelField label).length = 6 := by
  rw [labelField, List.length_append, length_alignRight few]
  rfl

section
variable (limit : Nat) {line : Line}

theorem fixedLine_of_comment {content : Text} (comment : IsComment line.text content) :
    fixedLine limit line = [commentRow content] := by
  rw [fixedLine, (read_eq_comment_iff _ _).mpr comment]
  cases content <;> rfl

theorem fixedLine_of_labelled {lead label t : Text} (shape : IsLabelled line.text lead label t) :
    fixedLine limit line =
      fixedStatement limit (labelField label) (Text.spaces (2 * line.depth + lead.length)) t := by
  rw [fixedLine, (read_eq_labelled_iff _ _ _ _).mpr shape, line.indentation_eq]

theorem fixedLine_of_plain (statement : ∀ content, ¬ IsComment line.text content)
    (unlabelled : ∀ lead label t, ¬ IsLabelled line.text lead label t) : fixedLine limit line =
      fixedStatement limit (labelField []) (Text.spaces (2 * line.depth)) line.text := by
  rw [fixedLine, (read_eq_plain_iff _ _).mpr ⟨rfl, statement, unlabelled⟩, line.indentation_eq]

/-- A line that is no comment is laid out in fixed form as a statement that starts at its offset. -/
theorem exists_fixedLine_eq (statement : ∀ content, ¬ IsComment line.text content) :
    ∃ field indent t, fixedLine limit line = fixedStatement limit field (Text.spaces indent) t ∧
      field.length = 6 ∧ (field ++ Text.spaces indent).length = statementOffset line := by
  rw [statementOffset]
  cases found : read line.text with
  | comment content => exact absurd ((read_eq_comment_iff _ _).mp found) (statement content)
  | labelled lead label t =>
      have shape := (read_eq_labelled_iff _ _ _ _).mp found
      have size := length_labelField shape.le_five
      refine ⟨_, _, _, fixedLine_of_labelled limit shape, size, ?_⟩
      rw [shape.labelled?_eq, List.length_append, size, Text.length_spaces, Nat.add_assoc]
  | plain t =>
      obtain ⟨-, -, unlabelled⟩ := (read_eq_plain_iff _ _).mp found
      have size : (labelField []).length = 6 := rfl
      refine ⟨_, _, _, fixedLine_of_plain limit statement unlabelled, size, ?_⟩
      rw [labelled?_eq_none_iff.mpr unlabelled, List.length_append, size, Text.length_spaces]
      rfl

end

theorem fits_piecesWithin (limit lead rest : Nat) (statement : Text) :
    Fits (capacity limit rest) [] (capacity limit lead)
      (piecesWithin limit lead lead rest statement) := by
  rw [piecesWithin]
  split
  · case _ short =>
      apply Fits.last
      exact Nat.le_trans (Nat.le_sub_of_add_le' short) (Nat.le_max_left _ _)
  · exact fits_split (capacity_pos _ _) (capacity_pos _ _) statement

theorem exists_fixedStatement_widths (limit : Nat) (field indent statement : Text) :
    ∃ first rest, fixedStatement limit field indent statement = first :: rest ∧
      first.length ≤ max limit ((field ++ indent).length + 8) ∧
      ∀ row ∈ rest, row.length ≤ max limit 14 := by
  obtain ⟨first, rest, parts, rows⟩ := exists_fixedStatement_eq limit field indent statement
  have fits := fits_piecesWithin limit (field ++ indent).length 6 statement
  rw [parts] at fits
  refine ⟨_, _, rows, ?_, ?_⟩
  · have narrow := fits.length_le
    rw [capacity, minimumWidth] at narrow
    rw [List.length_append]
    omega
  · intro row mem
    obtain ⟨piece, behind, rfl⟩ := List.mem_map.mp mem
    have narrow := fits.length_le_of_mem piece behind
    have marks : continuationField.length = 6 := rfl
    rw [capacity, minimumWidth] at narrow
    rw [List.length_append, marks]
    omega

/-- A break at a space leaves a column that the two of its mark make up for. -/
theorem length_le_of_mem_freePieces (indent mark : Text) {before : Text}
    {rest capacity width : Nat} {pieces : List Piece} (fits : Fits rest before capacity pieces)
    (first : mark.length + capacity ≤ width) (others : 1 + rest ≤ width) :
    ∀ row ∈ freePieces indent mark pieces, row.length ≤ indent.length + width + 1 := by
  induction fits generalizing mark with
  | @last before capacity piece narrow =>
      intro row mem
      rw [List.mem_singleton.mp mem, List.length_append, List.length_append]
      omega
  | @atBlank before capacity piece pieces narrow later ih =>
      intro row mem
      have several : pieces ≠ [] := later.ne_nil
      rw [freePieces_cons _ _ _ several, if_neg Bool.false_ne_true] at mem
      rcases List.mem_cons.mp mem with rfl | mem
      · simp only [List.length_append, List.length_cons, List.length_nil]
        omega
      · exact ih ['&'] others row mem
  | @within before capacity piece pieces full _ later ih =>
      intro row mem
      rw [freePieces_cons _ _ _ later.ne_nil, if_pos rfl] at mem
      rcases List.mem_cons.mp mem with rfl | mem
      · simp only [List.length_append, List.length_cons, List.length_nil]
        omega
      · exact ih ['&'] others row mem

theorem length_le_of_mem_freeStatement (limit : Nat) (indent statement : Text) :
    ∀ row ∈ freeStatement limit indent statement, row.length ≤ max limit (indent.length + 11) := by
  rw [freeStatement]
  split
  · case _ short =>
      intro row mem
      rw [List.mem_singleton.mp mem, List.length_append]
      omega
  · intro row mem
    have fits := fits_split (capacity_pos limit (indent.length + 2))
      (capacity_pos limit (indent.length + 3)) statement
    have narrow : row.length ≤ indent.length + max (capacity limit (indent.length + 2))
        (1 + capacity limit (indent.length + 3)) + 1 := by
      apply length_le_of_mem_freePieces indent [] fits _ _ row mem
      · rw [List.length_nil, Nat.zero_add]
        exact Nat.le_max_left _ _
      · exact Nat.le_max_right _ _
    rw [capacity, capacity, minimumWidth] at narrow
    omega

/-- Physical lines of a statement that are within the limit, or else no wider than what stands in
front of it and the least that is left for it behind: eight columns, and in free form three for
marks. -/
def KeepsTo (limit : Nat) (line : Line) (rows : List Text) : SourceForm → Prop
  | .fixed => ∃ first rest, rows = first :: rest ∧
      first.length ≤ max limit (statementOffset line + 8) ∧
      (∀ row ∈ rest, row.length ≤ max limit 14) ∧
      (statementOffset line + 8 ≤ limit → ∀ row ∈ rows, row.length ≤ limit)
  | .free => ∀ row ∈ rows, row.length ≤ max limit (2 * line.depth + 11) ∧
      (2 * line.depth + 11 ≤ limit → row.length ≤ limit)

theorem keepsTo_fixedLine (limit : Nat) {line : Line}
    (statement : ∀ content, ¬ IsComment line.text content) :
    KeepsTo limit line (fixedLine limit line) .fixed := by
  obtain ⟨field, indent, t, rows, size, offset⟩ := exists_fixedLine_eq limit statement
  obtain ⟨first, rest, cut, narrow, others⟩ :=
    exists_fixedStatement_widths limit field (Text.spaces indent) t
  have six : 6 ≤ statementOffset line := by
    rw [← offset, List.length_append, size]
    exact Nat.le_add_right 6 _
  rw [offset] at narrow
  -- the offset takes up the six columns of a continuation line at least
  refine ⟨first, rest, rows.trans cut, narrow, others, fun room => ?_⟩
  rw [rows, cut, List.forall_mem_cons]
  constructor
  · omega
  · intro row mem
    have short := others row mem
    omega

theorem keepsTo_freeLine (limit : Nat) {line : Line}
    (statement : ∀ content, ¬ IsComment line.text content) :
    KeepsTo limit line (freeLine limit line) .free := by
  intro row mem
  rw [freeLine_of_not_comment limit statement] at mem
  have narrow := length_le_of_mem_freeStatement limit _ _ row mem
  rw [Text.length_spaces, line.indentation_eq] at narrow
  exact ⟨narrow, fun room => by omega⟩

/-- However statements are nested, labelled and continued, their physical
lines keep to the limit. -/
theorem keepsTo_layout (fragments : List Fragment) (emission : Emission) :
    layout fragments emission = (fragments.flatMap Fragment.lines).flatMap
        (Layout.line emission.form emission.limit) ∧
      ∀ line ∈ fragments.flatMap Fragment.lines, (∀ content, ¬ IsComment line.text content) →
        KeepsTo emission.limit line (Layout.line emission.form emission.limit line)
          emission.form := by
  refine ⟨rfl, ?_⟩
  intro line _ statement
  cases emission.form with
  | fixed => exact keepsTo_fixedLine emission.limit statement
  | free => exact keepsTo_freeLine emission.limit statement

/-- With a limit that leaves eight columns behind the blank and the label, the call is broken at a
blank and within its arguments. In free form three columns more go to the marks. -/
theorem keepsTo_layout_call :
    Layout.line .fixed 17 ⟨1, " 10 call evaluate(a, b)".toList⟩ =
        ["   10    call".toList, "     & evaluate(a".toList, "     &, b)".toList] ∧
      (∀ row ∈ Layout.line .fixed 17 ⟨1, " 10 call evaluate(a, b)".toList⟩, row.length ≤ 17) ∧
      Layout.line .free 13 ⟨1, " 10 call evaluate(a, b)".toList⟩ =
        ["   10 call &".toList, "  & evaluat&".toList, "  &e(a, b)".toList] ∧
      ∀ row ∈ Layout.line .free 13 ⟨1, " 10 call evaluate(a, b)".toList⟩, row.length ≤ 13 := by
  have fixed : KeepsTo 17 _ _ .fixed := (keepsTo_layout
    [.block [.line "program p".toList, .body [.line " 10 call evaluate(a, b)".toList]]]
    { form := .fixed, maxLineLength := some 17 }).2 ⟨1, " 10 call evaluate(a, b)".toList⟩
    (by decide +kernel) (by decide)
  have free : KeepsTo 13 _ _ .free := (keepsTo_layout
    [.block [.line "program p".toList, .body [.line " 10 call evaluate(a, b)".toList]]]
    { form := .free, maxLineLength := some 13 }).2 ⟨1, " 10 call evaluate(a, b)".toList⟩
    (by decide +kernel) (by decide)
  obtain ⟨first, rest, rows, -, -, within⟩ := fixed
  refine ⟨by decide +kernel, within (by decide), by decide +kernel, ?_⟩
  intro row mem
  exact (free row mem).2 (by decide)

end FortranWriter.Layout
