import FortranWriter.Proofs.Highlight.Segments
import FortranWriter.Proofs.Layout.Rows
/-! Layout and highlighting agree on what a line is. The columns that the writer fills and the marks
that it puts are the ones by which the reader tells comments, labels and continuation lines. -/
namespace FortranWriter.Highlight
open Layout (exists_isComment_iff IsComment IsLabelled IsEndMark Resumes commentRow labelField
    continuationField)

/-- The segment that covers a column, columns being counted from zero. -/
def segmentAt? : (column : Nat) → List Segment → Option Segment
  | _, [] => none
  | column, s :: rest =>
    if column < s.text.length then some s else segmentAt? (column - s.text.length) rest

/-- The segments of a physical line tell which it is of those that a line was laid out in, the first
being at position zero. -/
structure Recognised (form : SourceForm) (line : Line) (position : Nat) (segments : List Segment) :
    Prop where
  comment : ∀ content, IsComment line.text content → ∃ before t after,
    segments = before ++ ⟨.comment, t⟩ :: after ∧ (∀ s ∈ before, s.tag = .indent) ∧
      ∀ s ∈ after, s.tag = .newline
  statement : (∀ content, ¬ IsComment line.text content) → ∀ s ∈ segments, s.tag ≠ .comment
  sixth : form = .fixed →
    ((segmentAt? 5 segments).map Segment.tag = some .continuation ↔ position ≠ 0)
  label : form = .fixed → ∀ label, ⟨.label, label⟩ ∈ segments ↔
    position = 0 ∧ ∃ lead statement, IsLabelled line.text lead label statement
  resumed : form = .free → position ≠ 0 →
    (segments.dropWhile (·.tag = .indent)).head? = some ⟨.continuation, ['&']⟩

theorem segmentAt?_append {front : List Segment} {column : Nat}
    (size : (textOf front).length = column) {s : Segment} (filled : s.text ≠ [])
    (rest : List Segment) :
    segmentAt? column (front ++ s :: rest) = some s := by
  induction front generalizing column with
  | nil =>
      obtain rfl := size
      exact if_pos (List.length_pos_iff.mpr filled)
  | cons first front ih =>
      have both : first.text.length + (textOf front).length = column :=
        List.length_append.symm.trans size
      rw [List.cons_append, segmentAt?, if_neg (by omega)]
      exact ih (by omega)

theorem mem_segment?_iff {tag : Tag} {t : Text} {s : Segment} :
    s ∈ segment? tag t ↔ s = ⟨tag, t⟩ ∧ t ≠ [] := by
  cases t with
  | nil => exact ⟨fun h => absurd h List.not_mem_nil, fun h => absurd rfl h.2⟩
  | cons c t => exact List.mem_singleton.trans (and_iff_left (List.cons_ne_nil c t)).symm

theorem tag_of_mem_indented {segments : Text → List Segment} (allowed : Tag → Prop)
    (indent : allowed .indent) {t : Text} (inside : ∀ s ∈ segments t.trimStart, allowed s.tag) :
    ∀ s ∈ indented segments t, allowed s.tag := by
  intro s h
  rcases List.mem_append.mp h with blank | filled
  · rw [(mem_segment?_iff.mp blank).1]
    exact indent
  · exact inside s filled

def Tag.Neither (tag : Tag) : Prop :=
  tag ≠ .label ∧ tag ≠ .comment

theorem Tag.OfStatement.neither {tag : Tag} (h : tag.OfStatement) : tag.Neither := by
  constructor
  · rintro rfl
    exact h
  · rintro rfl
    exact h

theorem neither_of_mem_lexemes {t : Text} {s : Segment} (h : s ∈ lexemes t) : s.tag.Neither :=
  (ofStatement_of_mem_lexemes h).neither

theorem neither_indent : Tag.Neither .indent :=
  ⟨by decide, by decide⟩

theorem neither_continuation : Tag.Neither .continuation :=
  ⟨by decide, by decide⟩

/-- A text that no line ends in is highlighted as one line. -/
theorem highlight_of_unbroken {row : Text} (some : row ≠ []) (single : '\n' ∉ row)
    (form : SourceForm) :
    highlight row form = line form row ++ [⟨.newline, ['\n']⟩] := by
  rw [highlight, Text.lines_eq_singleton some single]
  exact List.append_nil _

theorem head_of_isFixedComment {c : Char} {t : Text} (h : isFixedComment (c :: t) = true) :
    c = 'c' ∨ c = 'C' ∨ c = '*' := by
  unfold isFixedComment at h
  split at h
  · case _ same => exact .inl (List.head_eq_of_cons_eq same)
  · case _ same => exact .inl (List.head_eq_of_cons_eq same)
  · case _ same => exact .inr (.inl (List.head_eq_of_cons_eq same))
  · case _ same => exact .inr (.inr (List.head_eq_of_cons_eq same))
  · cases h

section Fixed
variable {label : Text} (digits : ∀ c ∈ label, c.isDigit = true) (few : label.length ≤ 5)
include digits few

theorem isFixedComment_alignRight (mark : Char) (rest : Text) :
    isFixedComment (Text.alignRight 5 label ++ mark :: rest) = false := by
  have size := FixedForm.length_alignRight few
  obtain ⟨c, field, front⟩ :=
    List.exists_cons_of_length_pos (Nat.lt_of_lt_of_eq (by decide) size.symm)
  have inside : c ∈ labelField label := List.mem_append_left _ (front ▸ List.mem_cons_self)
  refine Bool.eq_false_iff.mpr fun comment => ?_
  have first := head_of_isFixedComment (front ▸ comment)
  rcases FixedForm.mem_labelField digits inside with rfl | digit
  · exact absurd first (by decide)
  · rcases first with rfl | rfl | rfl
    · exact absurd digit (by decide)
    · exact absurd digit (by decide)
    · exact absurd digit (by decide)

variable {mark : Char} (known : mark = ' ' ∨ mark = '&')
include known

/-- Five columns for the label, the sixth for the mark, and the rest of a physical line. -/
theorem columns?_alignRight (rest : Text) : columns? (Text.alignRight 5 label ++ mark :: rest) =
    some (Text.alignRight 5 label, mark, rest) := by
  have size := FixedForm.length_alignRight few
  have field : (Text.alignRight 5 label).all (fun c => c == ' ' || c.isDigit) = true := by
    rw [Text.alignRight, List.all_append, Bool.and_eq_true, List.all_eq_true, List.all_eq_true]
    constructor
    · intro c space
      rw [List.eq_of_mem_replicate space]
      rfl
    · intro c mem
      rw [digits c mem, Bool.or_true]
  have sixth : (mark == ' ' || mark == '&') = true := by
    rcases known with rfl | rfl <;> rfl
  rw [columns?, List.drop_left' size, List.take_left' size]
  exact if_pos (Bool.and_eq_true_iff.mpr ⟨field, sixth⟩)

theorem fixedLine_alignRight (rest : Text) :
    fixedLine (Text.alignRight 5 label ++ mark :: rest) =
      segment? .indent (Text.spaces (5 - label.length)) ++ segment? .label label ++
        ⟨if mark = '&' then .continuation else .indent, [mark]⟩ :: indented lexemes rest := by
  have filled : label.BeginsFilled := fun c head =>
    isBlank_of_isDigit (digits c (List.mem_of_mem_head? head))
  have blank := Text.isAllBlank_spaces (5 - label.length)
  have content : Text.trimStart (Text.alignRight 5 label) = label :=
    Text.trimStart_append blank filled
  have front : Text.leading (Text.alignRight 5 label) = Text.spaces (5 - label.length) :=
    Text.leading_append blank filled
  rw [fixedLine, isFixedComment_alignRight digits few, columns?_alignRight digits few known]
  simp only [indented, content, front]
  rfl

theorem neither_of_mem_fixedLine {rest : Text} {s : Segment}
    (h : s ∈ fixedLine (Text.alignRight 5 label ++ mark :: rest)) :
    s = ⟨.label, label⟩ ∧ label ≠ [] ∨ s.tag.Neither := by
  rw [fixedLine_alignRight digits few known, List.mem_append, List.mem_append, List.mem_cons] at h
  rcases h with (blank | digit) | rfl | inside
  · rw [(mem_segment?_iff.mp blank).1]
    exact .inr neither_indent
  · exact .inl (mem_segment?_iff.mp digit)
  · right
    split
    · exact neither_continuation
    · exact neither_indent
  · exact .inr (tag_of_mem_indented Tag.Neither neither_indent
      (fun s => neither_of_mem_lexemes) s inside)

theorem mem_fixedLine_label (rest : Text) (some : label ≠ []) :
    ⟨.label, label⟩ ∈ fixedLine (Text.alignRight 5 label ++ mark :: rest) := by
  rw [fixedLine_alignRight digits few known]
  exact List.mem_append_left _ (List.mem_append_right _ (mem_segment?_iff.mpr ⟨rfl, some⟩))

theorem segmentAt?_alignRight (rest : Text) (behind : List Segment) :
    segmentAt? 5 (fixedLine (Text.alignRight 5 label ++ mark :: rest) ++ behind) =
      some ⟨if mark = '&' then .continuation else .indent, [mark]⟩ := by
  have field : textOf (segment? .indent (Text.spaces (5 - label.length)) ++ segment? .label label) =
      Text.alignRight 5 label := ((covers_segment? _ _).append (covers_segment? _ _)).text_eq
  have five := FixedForm.length_alignRight few
  rw [← field] at five
  rw [fixedLine_alignRight digits few known, List.append_assoc, List.cons_append]
  exact segmentAt?_append five (List.cons_ne_nil mark []) _

end Fixed

/-- The columns of a physical line of a statement in fixed form. -/
structure Columns (line : Line) (position : Nat) (label : Text) (mark : Char) : Prop where
  digits : ∀ c ∈ label, c.isDigit = true
  few : label.length ≤ 5
  mark : mark = ' ' ∧ position = 0 ∨ mark = '&' ∧ position ≠ 0
  label : ∀ other, other = label ∧ label ≠ [] ↔
    position = 0 ∧ ∃ lead statement, IsLabelled line.text lead other statement

theorem columns_of_continuation {line : Line} {position : Nat} (later : position ≠ 0) :
    Columns line position [] '&' := by
  constructor
  · exact fun c h => absurd h List.not_mem_nil
  · exact Nat.zero_le 5
  · exact .inr ⟨rfl, later⟩
  · exact fun other => ⟨fun h => absurd rfl h.2, fun h => absurd h.1 later⟩

theorem columns_of_labelled {line : Line} {lead label t : Text}
    (shape : IsLabelled line.text lead label t) : Columns line 0 label ' ' := by
  refine ⟨shape.digits, shape.le_five, .inl ⟨rfl, rfl⟩, fun other => ?_⟩
  constructor
  · rintro ⟨rfl, -⟩
    exact ⟨rfl, lead, t, shape⟩
  · rintro ⟨-, lead', t', again⟩
    -- a text is labelled in one way only
    have same := shape.labelled?_eq.symm.trans again.labelled?_eq
    cases same
    exact ⟨rfl, List.length_pos_iff.mp shape.one_le⟩

theorem columns_of_plain {line : Line}
    (unlabelled : ∀ lead label t, ¬ IsLabelled line.text lead label t) : Columns line 0 [] ' ' := by
  refine ⟨fun c h => absurd h List.not_mem_nil, Nat.zero_le 5, .inl ⟨rfl, rfl⟩, fun other => ?_⟩
  constructor
  · exact fun h => absurd rfl h.2
  · rintro ⟨-, lead, t, shape⟩
    exact absurd shape (unlabelled lead other t)

/-- Each line of a statement has the five columns of its label, and in the sixth what the
reader looks for there. -/
theorem exists_columns (limit : Nat) {line : Line}
    (statement : ∀ content, ¬ IsComment line.text content) {position : Nat} {row : Text}
    (h : (Layout.fixedLine limit line)[position]? = some row) :
    ∃ label mark rest, Columns line position label mark ∧
      row = Text.alignRight 5 label ++ mark :: rest := by
  have first : ∃ label indent t, Columns line 0 label ' ' ∧
      Layout.fixedLine limit line = Layout.fixedStatement limit (labelField label) indent t := by
    cases found : Layout.read line.text with
    | comment content =>
        exact absurd ((Layout.read_eq_comment_iff _ _).mp found) (statement content)
    | labelled lead label t =>
        have shape := (Layout.read_eq_labelled_iff _ _ _ _).mp found
        exact ⟨label, _, t, columns_of_labelled shape, Layout.fixedLine_of_labelled limit shape⟩
    | plain t =>
        obtain ⟨-, -, unlabelled⟩ := (Layout.read_eq_plain_iff _ _).mp found
        exact ⟨[], _, line.text, columns_of_plain unlabelled,
          Layout.fixedLine_of_plain limit statement unlabelled⟩
  obtain ⟨label, indent, t, columns, rows⟩ := first
  obtain ⟨piece, more, -, cut⟩ := Layout.exists_fixedStatement_eq limit (labelField label) indent t
  rw [rows, cut] at h
  cases position with
  | zero =>
      cases h
      refine ⟨label, ' ', indent ++ piece.text, columns, ?_⟩
      simp only [labelField, List.append_assoc, List.cons_append, List.nil_append]
  | succ n =>
      rw [List.getElem?_cons_succ, List.getElem?_map, Option.map_eq_some_iff] at h
      obtain ⟨later, -, rfl⟩ := h
      exact ⟨[], '&', later.text, columns_of_continuation (Nat.succ_ne_zero n), rfl⟩

theorem mem_of_segmentAt? {segments : List Segment} {column : Nat} {s : Segment}
    (h : segmentAt? column segments = some s) : s ∈ segments := by
  induction segments generalizing column with
  | nil => cases h
  | cons first rest ih =>
      rw [segmentAt?] at h
      split at h
      · cases h
        exact List.mem_cons_self
      · exact List.mem_cons_of_mem _ (ih h)

theorem recognised_comment (form : SourceForm) {l : Line} {content : Text}
    (comment : IsComment l.text content) (indent t : Text) : Recognised form l 0
      (segment? .indent indent ++ [⟨.comment, t⟩] ++ [⟨.newline, ['\n']⟩]) := by
  have before : ∀ s ∈ segment? .indent indent, s.tag = .indent := by
    intro s mem
    rw [(mem_segment?_iff.mp mem).1]
  have tags : ∀ s ∈ segment? .indent indent ++ [⟨.comment, t⟩] ++ [⟨.newline, ['\n']⟩],
      s.tag = .indent ∨ s.tag = .comment ∨ s.tag = .newline := by
    intro s mem
    rcases List.mem_append.mp mem with inside | last
    · rcases List.mem_append.mp inside with blank | text
      · exact .inl (before s blank)
      · rw [List.mem_singleton.mp text]
        exact .inr (.inl rfl)
    · rw [List.mem_singleton.mp last]
      exact .inr (.inr rfl)
  constructor
  · intro _ _
    refine ⟨_, t, [⟨.newline, ['\n']⟩], List.append_assoc _ _ _, before, ?_⟩
    intro s last
    rw [List.mem_singleton.mp last]
  · exact fun statement => absurd comment (statement content)
  · refine fun _ => ⟨fun found => ?_, fun later => absurd rfl later⟩
    obtain ⟨s, covers, tag⟩ := Option.map_eq_some_iff.mp found
    have known := tags s (mem_of_segmentAt? covers)
    rw [tag] at known
    exact absurd known (by decide)
  · refine fun _ label => ⟨fun mem => ?_, ?_⟩
    · exact absurd (tags _ mem) (by simp)
    · rintro ⟨-, lead, statement, shape⟩
      exact absurd comment shape.not_isComment
  · exact fun _ later => absurd rfl later

theorem isFixedComment_commentRow (content : Text) :
    isFixedComment (commentRow content) = true := by
  unfold commentRow
  split <;> rfl

theorem commentRow_ne_nil (content : Text) : commentRow content ≠ [] := by
  unfold commentRow
  split <;> exact List.cons_ne_nil _ _

theorem eq_of_getElem?_singleton {position : Nat} {row only : Text}
    (h : [only][position]? = some row) : position = 0 ∧ only = row := by
  cases position with
  | zero => exact ⟨rfl, Option.some.inj h⟩
  | succ n => cases h

theorem recognised_columns {l : Line} (statement : ∀ content, ¬ IsComment l.text content)
    {position : Nat} {label : Text} {mark : Char} (columns : Columns l position label mark)
    {rest : Text} (unbroken : '\n' ∉ Text.alignRight 5 label ++ mark :: rest) :
    Recognised .fixed l position (highlight (Text.alignRight 5 label ++ mark :: rest) .fixed) := by
  have known : mark = ' ' ∨ mark = '&' := columns.mark.imp And.left And.left
  have written : Text.alignRight 5 label ++ mark :: rest ≠ [] :=
    List.append_ne_nil_of_right_ne_nil _ (List.cons_ne_nil _ _)
  have tags : ∀ s ∈ fixedLine (Text.alignRight 5 label ++ mark :: rest),
      s = ⟨.label, label⟩ ∧ label ≠ [] ∨ s.tag.Neither :=
    fun s => neither_of_mem_fixedLine columns.digits columns.few known
  have sixth := segmentAt?_alignRight columns.digits columns.few known rest [⟨.newline, ['\n']⟩]
  rw [highlight_of_unbroken written unbroken, line]
  constructor
  · exact fun content comment => absurd comment (statement content)
  · intro _
    refine List.forall_mem_append.mpr ⟨fun s inside => ?_,
      List.forall_mem_singleton.mpr Tag.noConfusion⟩
    rcases tags s inside with ⟨rfl, -⟩ | other
    · exact Tag.noConfusion
    · exact other.2
  · intro _
    rw [sixth]
    rcases columns.mark with ⟨rfl, first⟩ | ⟨rfl, later⟩
    · exact ⟨fun same => absurd same (by decide), fun later => absurd first later⟩
    · exact iff_of_true rfl later
  · intro _ other
    rw [← columns.label]
    constructor
    · intro mem
      rcases List.mem_append.mp mem with inside | last
      · rcases tags _ inside with ⟨same, some⟩ | other
        · cases same
          exact ⟨rfl, some⟩
        · exact absurd rfl other.1
      · cases List.mem_singleton.mp last
    · rintro ⟨rfl, some⟩
      exact List.mem_append_left _ (mem_fixedLine_label columns.digits columns.few known rest some)
  · exact fun h => SourceForm.noConfusion h

theorem recognised_fixed {limit : Nat} {l : Line} (single : '\n' ∉ l.text) {position : Nat}
    {row : Text} (h : (Layout.fixedLine limit l)[position]? = some row) :
    Recognised .fixed l position (highlight row .fixed) := by
  have unbroken : '\n' ∉ row :=
    Layout.newline_not_mem_of_mem_line .fixed (List.mem_of_getElem? h) single
  by_cases comment : ∃ content, IsComment l.text content
  · obtain ⟨content, comment⟩ := comment
    have rows := Layout.fixedLine_of_comment limit comment
    obtain ⟨rfl, rfl⟩ := eq_of_getElem?_singleton (rows ▸ h)
    have whole : fixedLine (commentRow content) = [⟨.comment, commentRow content⟩] := by
      rw [fixedLine, isFixedComment_commentRow]
      rfl
    rw [highlight_of_unbroken (commentRow_ne_nil content) unbroken, line, whole]
    exact recognised_comment .fixed comment [] (commentRow content)
  · rw [not_exists] at comment
    obtain ⟨label, mark, rest, columns, rfl⟩ := exists_columns limit comment h
    exact recognised_columns comment columns unbroken

theorem not_comment_of_mem_freeContent {t : Text} (other : t.head? ≠ some '!') {s : Segment}
    (h : s ∈ freeContent t) : s.tag ≠ .comment := by
  unfold freeContent at h
  split at h
  · exact absurd rfl other
  · rcases List.mem_cons.mp h with rfl | inside
    · exact neither_continuation.2
    · exact (neither_of_mem_lexemes inside).2
  · split at h
    · rcases List.mem_cons.mp h with rfl | h
      · exact Tag.noConfusion
      · rcases List.mem_cons.mp h with rfl | inside
        · exact Tag.noConfusion
        · exact (neither_of_mem_lexemes inside).2
    · exact (neither_of_mem_lexemes h).2

/-- Neither a piece of a text nor the mark behind it makes a comment of what is none. -/
theorem head?_trimStart_row {t begun marks : Text} (statement : t.trimStart.head? ≠ some '!')
    (front : begun <+: t) (known : IsEndMark marks) :
    (begun ++ marks).trimStart.head? ≠ some '!' := by
  obtain ⟨rest, rfl⟩ := front
  rw [Text.trimStart, List.dropWhile_append] at statement ⊢
  split
  -- where the piece is all blanks, the mark shows, and it is none of a comment
  · rcases known with rfl | rfl | rfl <;> decide
  · case _ filled =>
      rw [if_neg filled] at statement
      obtain ⟨c, more, shape⟩ := List.exists_cons_of_ne_nil (mt List.isEmpty_iff.mpr filled)
      rw [shape, List.cons_append, List.head?_cons] at statement ⊢
      exact statement

theorem indented_freeContent_spaces {n : Nat} {t : Text} (filled : t.BeginsFilled) :
    indented freeContent (Text.spaces n ++ t) =
      segment? .indent (Text.spaces n) ++ freeContent t := by
  have blank := Text.isAllBlank_spaces n
  rw [indented, Text.leading_append blank filled, Text.trimStart_append blank filled]

theorem head?_dropWhile_segment? (t : Text) {s : Segment} (other : s.tag ≠ .indent)
    (rest : List Segment) :
    ((segment? .indent t ++ s :: rest).dropWhile (·.tag = .indent)).head? = some s := by
  have blank : ∀ s ∈ segment? .indent t, decide (s.tag = .indent) = true := by
    intro s mem
    rw [(mem_segment?_iff.mp mem).1]
    rfl
  rw [List.dropWhile_append_of_pos blank, List.dropWhile_cons_of_neg (by simpa using other)]
  rfl

theorem recognised_free_first {n : Nat} {l : Line}
    (statement : ∀ content, ¬ IsComment l.text content) {begun marks : Text} (filled : begun ≠ [])
    (front : begun <+: l.text) (known : IsEndMark marks)
    (unbroken : '\n' ∉ Text.spaces n ++ (begun ++ marks)) :
    Recognised .free l 0 (highlight (Text.spaces n ++ (begun ++ marks)) .free) := by
  have written : Text.spaces n ++ (begun ++ marks) ≠ [] :=
    List.append_ne_nil_of_right_ne_nil _ (List.append_ne_nil_of_left_ne_nil filled _)
  have first : (Text.spaces n ++ (begun ++ marks)).trimStart.head? ≠ some '!' := by
    rw [Text.trimStart_spaces_append]
    exact head?_trimStart_row (mt exists_isComment_iff.mpr (not_exists.mpr statement)) front known
  rw [highlight_of_unbroken written unbroken, line]
  constructor
  · exact fun content comment => absurd comment (statement content)
  · intro _
    refine List.forall_mem_append.mpr ⟨?_, List.forall_mem_singleton.mpr Tag.noConfusion⟩
    apply tag_of_mem_indented (· ≠ .comment) Tag.noConfusion
    exact fun s => not_comment_of_mem_freeContent first
  · exact fun h => SourceForm.noConfusion h
  · exact fun h => SourceForm.noConfusion h
  · exact fun _ later => absurd rfl later

theorem recognised_free_resumed {n position : Nat} {l : Line}
    (statement : ∀ content, ¬ IsComment l.text content) {row : Text}
    (resumes : Resumes (Text.spaces n) row) (unbroken : '\n' ∉ row) :
    Recognised .free l position (highlight row .free) := by
  obtain ⟨rest, rfl⟩ := resumes
  have written : Text.spaces n ++ '&' :: rest ≠ [] :=
    List.append_ne_nil_of_right_ne_nil _ (List.cons_ne_nil _ _)
  have parts : line .free (Text.spaces n ++ '&' :: rest) =
      segment? .indent (Text.spaces n) ++ ⟨.continuation, ['&']⟩ :: lexemes rest :=
    indented_freeContent_spaces (Text.beginsFilled_cons (by decide))
  rw [highlight_of_unbroken written unbroken, parts]
  constructor
  · exact fun content comment => absurd comment (statement content)
  · intro _
    refine List.forall_mem_append.mpr ⟨?_, List.forall_mem_singleton.mpr Tag.noConfusion⟩
    refine List.forall_mem_append.mpr ⟨fun s blank => ?_, ?_⟩
    · rw [(mem_segment?_iff.mp blank).1]
      exact Tag.noConfusion
    · exact List.forall_mem_cons.mpr
        ⟨Tag.noConfusion, fun s inside => (neither_of_mem_lexemes inside).2⟩
  · exact fun h => SourceForm.noConfusion h
  · exact fun h => SourceForm.noConfusion h
  · intro _ _
    rw [List.append_assoc, List.cons_append]
    exact head?_dropWhile_segment? _ Tag.noConfusion _

theorem recognised_free {limit : Nat} {l : Line} (filled : l.text ≠ []) (single : '\n' ∉ l.text)
    {position : Nat} {row : Text} (h : (Layout.freeLine limit l)[position]? = some row) :
    Recognised .free l position (highlight row .free) := by
  have unbroken : '\n' ∉ row :=
    Layout.newline_not_mem_of_mem_line .free (List.mem_of_getElem? h) single
  by_cases comment : ∃ content, IsComment l.text content
  · obtain ⟨content, comment⟩ := comment
    obtain ⟨behind, mark, -⟩ := comment.trimStart_eq
    have rows : Layout.freeLine limit l = _ := Layout.freeLine_of_comment comment
    obtain ⟨rfl, rfl⟩ := eq_of_getElem?_singleton (rows ▸ h)
    rw [mark] at unbroken ⊢
    rw [highlight_of_unbroken (List.append_ne_nil_of_right_ne_nil _ (List.cons_ne_nil _ _))
      unbroken, line, indented_freeContent_spaces (Text.beginsFilled_cons (by decide))]
    exact recognised_comment .free comment _ _
  · rw [not_exists] at comment
    obtain ⟨begun, marks, more, rows, some, front, known, resume⟩ :=
      Layout.exists_freeStatement_eq_cons limit (Text.spaces l.indentation) filled
    rw [FreeForm.freeLine_of_not_comment limit comment, rows] at h
    cases position with
    | zero =>
        cases h
        exact recognised_free_first comment some front known unbroken
    | succ n => exact recognised_free_resumed comment (resume row (List.mem_of_getElem? h)) unbroken

/-- Layout and highlighting agree: in both forms exactly comments are shown as such, in
fixed form labels and continuation lines are told by their columns, and in free form
continuation lines by their mark. -/
theorem recognised_layout (fragments : List Fragment) (emission : Emission) :
    layout fragments emission = (fragments.flatMap Fragment.lines).flatMap
        (Layout.line emission.form emission.limit) ∧
      ∀ l ∈ fragments.flatMap Fragment.lines, ∀ position row,
        (Layout.line emission.form emission.limit l)[position]? = some row →
          Recognised emission.form l position (highlight row emission.form) := by
  refine ⟨rfl, ?_⟩
  intro l mem position row h
  obtain ⟨f, -, inside⟩ := List.mem_flatMap.mp mem
  obtain ⟨t, -, shows⟩ := f.exists_shows inside
  cases form : emission.form with
  | fixed =>
      rw [form] at h
      exact recognised_fixed shows.newline_not_mem h
  | free =>
      rw [form] at h
      exact recognised_free shows.ne_nil shows.newline_not_mem h

end FortranWriter.Highlight
