import FortranWriter.Proofs.Layout.Pieces
import FortranWriter.Proofs.Layout.Reading
import Mathlib.Data.List.Forall2
/-! Fixed form read back: from the columns of the physical lines alone a reader recovers the
comments and the statements with their labels, one for each line that was laid out. -/
namespace FortranWriter.FixedForm
open Layout

/-- What is read from fixed form: a comment, or a statement with its label. -/
inductive Entry where
  | comment (content : Text)
  | statement (label text : Text)
deriving DecidableEq, Repr

/-- Reads a physical line behind the entries read so far. A continuation line needs a statement in
front of it. -/
def readLine (entries : List Entry) (row : Text) : Option (List Entry) :=
  if row.head? = some 'c' then some (entries ++ [.comment (row.drop 6)])
  else if Text.isAllBlank (row.take 5) = true ∧ row[5]? = some '&' then
    match entries.getLast? with
    | some (.statement label text) =>
      some (entries.dropLast ++ [.statement label (text ++ row.drop 6)])
    | _ => none
  else some (entries ++ [.statement ((row.take 5).filter fun c => !isBlank c) (row.drop 6)])

def decode (lines : List Text) : Option (List Entry) :=
  lines.foldlM readLine []

/-- What a line at a depth stands for: a comment, a labelled statement behind as many spaces as its
depth and the blanks before the label ask for, or else a statement without a label. -/
inductive Stands (depth : Nat) (t : Text) : Entry → Prop
  | comment {content} : IsComment t content → Stands depth t (.comment content)
  | labelled {lead label statement} : IsLabelled t lead label statement →
      Stands depth t (.statement label (Text.spaces (2 * depth + lead.length) ++ statement))
  | plain : (∀ content, ¬ IsComment t content) →
      (∀ lead label statement, ¬ IsLabelled t lead label statement) →
      Stands depth t (.statement [] (Text.spaces (2 * depth) ++ t))

/-- The entry of a line, by the reading that the layout takes of it. -/
def entryOf (line : Line) : Entry :=
  match read line.text with
  | .comment content => .comment content
  | .labelled lead label statement =>
    .statement label (Text.spaces (line.indentation + lead.length) ++ statement)
  | .plain statement => .statement [] (Text.spaces line.indentation ++ statement)

theorem stands_iff (line : Line) (entry : Entry) :
    Stands line.depth line.text entry ↔ entryOf line = entry := by
  constructor
  · intro h
    cases h with
    | comment shape => rw [entryOf, (read_eq_comment_iff _ _).mpr shape]
    | labelled shape => rw [entryOf, (read_eq_labelled_iff _ _ _ _).mpr shape, line.indentation_eq]
    | plain noComment noLabel =>
        rw [entryOf, (read_eq_plain_iff _ _).mpr ⟨rfl, noComment, noLabel⟩, line.indentation_eq]
  · rintro rfl
    rw [entryOf, line.indentation_eq]
    cases found : read line.text with
    | comment content => exact .comment ((read_eq_comment_iff _ _).mp found)
    | labelled lead label statement => exact .labelled ((read_eq_labelled_iff _ _ _ _).mp found)
    | plain statement =>
        obtain ⟨rfl, noComment, noLabel⟩ := (read_eq_plain_iff _ _).mp found
        exact .plain noComment noLabel

theorem mem_labelField {label : Text} (digits : ∀ c ∈ label, c.isDigit = true) {c : Char}
    (h : c ∈ labelField label) : c = ' ' ∨ c.isDigit = true := by
  rw [labelField, Text.alignRight, List.mem_append, List.mem_append] at h
  rcases h with (space | digit) | last
  · exact .inl (List.eq_of_mem_replicate space)
  · exact .inr (digits c digit)
  · exact .inl (List.mem_singleton.mp last)

theorem length_alignRight {label : Text} (few : label.length ≤ 5) :
    (Text.alignRight 5 label).length = 5 := by
  rw [Text.alignRight, List.length_append, Text.spaces, List.length_replicate]
  omega

theorem filter_alignRight (width : Nat) {label : Text} (digits : ∀ c ∈ label, c.isDigit = true) :
    (Text.alignRight width label).filter (fun c => !isBlank c) = label := by
  have spaces : (Text.spaces (width - label.length)).filter (fun c => !isBlank c) = [] := by
    rw [List.filter_eq_nil_iff]
    intro c space
    rw [List.eq_of_mem_replicate space]
    decide
  have filled : label.filter (fun c => !isBlank c) = label := by
    rw [List.filter_eq_self]
    intro c digit
    rw [isBlank_of_isDigit (digits c digit)]
    rfl
  rw [Text.alignRight, List.filter_append, spaces, filled, List.nil_append]

theorem head?_labelField {label : Text} (digits : ∀ c ∈ label, c.isDigit = true) (text : Text) :
    (labelField label ++ text).head? ≠ some 'c' := by
  intro head
  have front : labelField label ≠ [] := List.append_ne_nil_of_right_ne_nil _ (List.cons_ne_nil _ _)
  rw [List.head?_append_of_ne_nil _ front] at head
  rcases mem_labelField digits (List.mem_of_mem_head? head) with space | digit
  · exact absurd space (by decide)
  · exact absurd digit (by decide)

/-- A line that begins with a label field begins a statement. -/
theorem readLine_labelField (entries : List Entry) {label : Text}
    (digits : ∀ c ∈ label, c.isDigit = true) (few : label.length ≤ 5) (text : Text) :
    readLine entries (labelField label ++ text) = some (entries ++ [.statement label text]) := by
  have size := length_alignRight few
  have noComment := head?_labelField digits text
  have sixth : (labelField label ++ text)[5]? = some ' ' := by
    rw [labelField, List.append_assoc, List.getElem?_append_right (Nat.le_of_eq size), size]
    rfl
  have firstFive : (labelField label ++ text).take 5 = Text.alignRight 5 label := by
    rw [labelField, List.append_assoc]
    exact List.take_left' size
  have behind : (labelField label ++ text).drop 6 = text := by
    refine List.drop_left' ?_
    rw [labelField, List.length_append, size]
    rfl
  rw [readLine, if_neg noComment, sixth, if_neg (fun h => absurd h.2 (by decide)), firstFive,
    behind, filter_alignRight 5 digits]

/-- A continuation line adds to the statement in front of it. -/
theorem readLine_continuationField (entries : List Entry) (label text more : Text) :
    readLine (entries ++ [.statement label text]) (continuationField ++ more) =
      some (entries ++ [.statement label (text ++ more)]) := by
  have noComment : (continuationField ++ more).head? ≠ some 'c' := by
    intro head
    exact absurd (Option.some.inj head) (by decide)
  have marked : Text.isAllBlank ((continuationField ++ more).take 5) = true ∧
      (continuationField ++ more)[5]? = some '&' := ⟨rfl, rfl⟩
  rw [readLine, if_neg noComment, if_pos marked, List.getLast?_concat, List.dropLast_concat]
  rfl

theorem foldlM_continuations (entries : List Entry) (label text : Text) (pieces : List Piece) :
    (pieces.map fun piece => continuationField ++ piece.text).foldlM readLine
        (entries ++ [.statement label text]) =
      some (entries ++ [.statement label (text ++ pieces.flatMap Piece.text)]) := by
  induction pieces generalizing text with
  | nil => rw [List.flatMap_nil, List.append_nil]; rfl
  | cons piece pieces ih =>
      rw [List.map_cons, List.foldlM_cons, readLine_continuationField, Option.bind_eq_bind,
        Option.bind_some, ih, List.flatMap_cons, List.append_assoc]

/-- However often a statement is continued, it is read as a whole. -/
theorem foldlM_fixedStatement (limit : Nat) (entries : List Entry) {label : Text}
    (digits : ∀ c ∈ label, c.isDigit = true) (few : label.length ≤ 5) (indent statement : Text) :
    (fixedStatement limit (labelField label) indent statement).foldlM readLine entries =
      some (entries ++ [.statement label (indent ++ statement)]) := by
  obtain ⟨first, rest, parts, rows⟩ :=
    exists_fixedStatement_eq limit (labelField label) indent statement
  have whole := piecesWithin_flatMap_text limit (labelField label ++ indent).length
    (labelField label ++ indent).length 6 statement
  rw [parts, List.flatMap_cons] at whole
  rw [rows, List.foldlM_cons, List.append_assoc, readLine_labelField entries digits few,
    Option.bind_eq_bind, Option.bind_some, foldlM_continuations, List.append_assoc, whole]

theorem foldlM_fixedLine (limit : Nat) (entries : List Entry) (line : Line) :
    (fixedLine limit line).foldlM readLine entries = some (entries ++ [entryOf line]) := by
  rw [fixedLine, entryOf]
  cases found : read line.text with
  | comment content => cases content <;> rfl
  | labelled lead label statement =>
      have shape := (read_eq_labelled_iff _ _ _ _).mp found
      exact foldlM_fixedStatement limit entries shape.digits shape.le_five _ statement
  | plain statement =>
      exact foldlM_fixedStatement limit entries (fun c h => absurd h List.not_mem_nil)
        (Nat.zero_le 5) _ statement

theorem foldlM_fixedLines (limit : Nat) (entries : List Entry) (lines : List Line) :
    (lines.flatMap (fixedLine limit)).foldlM readLine entries =
      some (entries ++ lines.map entryOf) := by
  induction lines generalizing entries with
  | nil => exact congrArg some (List.append_nil entries).symm
  | cons line lines ih =>
      rw [List.flatMap_cons, List.foldlM_append, foldlM_fixedLine, Option.bind_eq_bind,
        Option.bind_some, ih, List.append_assoc]
      rfl

theorem forall₂_stands_iff (lines : List Line) (entries : List Entry) :
    List.Forall₂ (fun line entry => Stands line.depth line.text entry) lines entries ↔
      entries = lines.map entryOf := by
  simp only [stands_iff]
  rw [← List.forall₂_map_left_iff (R := Eq), List.forall₂_eq_eq_eq]
  exact eq_comm

/-- The physical lines of fixed form are read as exactly one entry for each line of the fragments,
in order, and that entry is the one that the line stands for. -/
theorem decode_layout (fragments : List Fragment) (emission : Emission)
    (fixed : emission.form = .fixed) :
    ∃ entries, decode (layout fragments emission) = some entries ∧
      ∀ others, List.Forall₂ (fun line entry => Stands line.depth line.text entry)
        (fragments.flatMap Fragment.lines) others ↔ others = entries := by
  refine ⟨(fragments.flatMap Fragment.lines).map entryOf, ?_, forall₂_stands_iff _⟩
  rw [layout, fixed]
  exact foldlM_fixedLines emission.limit [] _

/-- A limit of no columns at all: the labelled call is cut at every eighth column and still read as
one statement. -/
theorem decode_layout_narrow :
    ∃ entries, decode (layout
        [.block [.line "program p".toList, .body [.line "!  note".toList,
          .line " 10 call evaluate('a  b', c)".toList]]]
        { form := .fixed, maxLineLength := some 0 }) = some entries ∧
      entries = [.statement [] "program p".toList, .comment "note".toList,
        .statement "10".toList "   call evaluate('a  b', c)".toList] := by
  obtain ⟨entries, decoded, -⟩ := decode_layout
    [.block [.line "program p".toList, .body [.line "!  note".toList,
      .line " 10 call evaluate('a  b', c)".toList]]]
    { form := .fixed, maxLineLength := some 0 } rfl
  exact ⟨entries, decoded, Option.some.inj (decoded.symm.trans (by decide +kernel))⟩

end FortranWriter.FixedForm
