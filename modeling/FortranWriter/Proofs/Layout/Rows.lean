import FortranWriter.Proofs.Layout.Nesting
import FortranWriter.Proofs.Layout.Widths
/-! What physical lines consist of: characters of the line that was laid out, spaces, and the marks
of the form. No line ends within one of them, and none is empty. -/
namespace FortranWriter.Layout
open FreeForm (freeLine_of_not_comment)

/-- What stands at the end of a physical line in free form, behind its piece of the statement. -/
def IsEndMark (marks : Text) : Prop :=
  marks = [] ∨ marks = ['&'] ∨ marks = [' ', '&']

theorem exists_freePieces_eq (indent mark : Text) (piece : Piece) (rest : List Piece) :
    ∃ marks, IsEndMark marks ∧ freePieces indent mark (piece :: rest) =
      (indent ++ mark ++ piece.text ++ marks) :: freePieces indent ['&'] rest := by
  cases rest with
  | nil => exact ⟨[], .inl rfl, by rw [List.append_nil]; rfl⟩
  | cons next rest =>
      refine ⟨if piece.cut then ['&'] else [' ', '&'], ?_, rfl⟩
      split
      · exact .inr (.inl rfl)
      · exact .inr (.inr rfl)

/-- Something of a statement stands on its first physical line, and all others resume it. -/
theorem exists_freeStatement_eq_cons (limit : Nat) (indent : Text) {t : Text} (some : t ≠ []) :
    ∃ begun marks more, freeStatement limit indent t = (indent ++ (begun ++ marks)) :: more ∧
      begun ≠ [] ∧ begun <+: t ∧ IsEndMark marks ∧ ∀ row ∈ more, Resumes indent row := by
  have splits := splits_piecesWithin limit indent.length (indent.length + 2) (indent.length + 3) t
  have whole :=
    piecesWithin_flatMap_text limit indent.length (indent.length + 2) (indent.length + 3) t
  obtain ⟨first, rest, parts⟩ := List.exists_cons_of_ne_nil splits.ne_nil
  obtain ⟨marks, known, rows⟩ := exists_freePieces_eq indent [] first rest
  rw [parts] at splits whole
  refine ⟨first.text, marks, freePieces indent ['&'] rest, ?_, ?_, ⟨_, whole⟩, known, ?_⟩
  · rw [freeStatement_eq, parts, rows, List.append_nil, List.append_assoc]
  · intro empty
    have head := splits.head?_eq
    rw [empty] at head
    exact some (List.head?_eq_none_iff.mp head.symm)
  · intro row mem
    exact resumes_of_mem_freePieces indent mem

/-- The characters that a form adds to those of a line. -/
def IsAdded (c : Char) : Prop :=
  c = ' ' ∨ c = '&' ∨ c = 'c'

theorem isAdded_of_mem_spaces {n : Nat} {c : Char} (h : c ∈ Text.spaces n) : IsAdded c :=
  .inl (List.eq_of_mem_replicate h)

theorem isAdded_of_mem_continuationField {c : Char} (h : c ∈ continuationField) : IsAdded c := by
  have six : continuationField = Text.spaces 5 ++ ['&'] := rfl
  rw [six, List.mem_append] at h
  rcases h with space | mark
  · exact isAdded_of_mem_spaces space
  · exact .inr (.inl (List.mem_singleton.mp mark))

theorem IsEndMark.isAdded {marks : Text} (h : IsEndMark marks) {c : Char} (mem : c ∈ marks) :
    IsAdded c := by
  rcases h with rfl | rfl | rfl
  · cases mem
  · exact .inr (.inl (List.mem_singleton.mp mem))
  · rcases List.mem_cons.mp mem with space | mark
    · exact .inl space
    · exact .inr (.inl (List.mem_singleton.mp mark))

theorem mem_labelField_cases {label : Text} {c : Char} (h : c ∈ labelField label) :
    c ∈ label ∨ IsAdded c := by
  rw [labelField, Text.alignRight, List.mem_append, List.mem_append] at h
  rcases h with (space | digit) | last
  · exact .inr (isAdded_of_mem_spaces space)
  · exact .inl digit
  · exact .inr (.inl (List.mem_singleton.mp last))

theorem mem_commentRow_cases {content : Text} {c : Char} (h : c ∈ commentRow content) :
    c ∈ content ∨ IsAdded c := by
  unfold commentRow at h
  split at h
  · exact .inr (.inr (.inr (List.mem_singleton.mp h)))
  · have front : "c     ".toList = 'c' :: Text.spaces 5 := rfl
    rw [front, List.cons_append, List.mem_cons, List.mem_append] at h
    rcases h with first | space | inside
    · exact .inr (.inr (.inr first))
    · exact .inr (isAdded_of_mem_spaces space)
    · exact .inl inside

theorem mem_of_mem_piecesWithin {limit lead first rest : Nat} {t : Text} {piece : Piece} {c : Char}
    (h : piece ∈ piecesWithin limit lead first rest t) (mem : c ∈ piece.text) : c ∈ t := by
  rw [← piecesWithin_flatMap_text limit lead first rest t]
  exact List.mem_flatMap.mpr ⟨piece, h, mem⟩

theorem mem_fixedStatement_cases {limit n : Nat} {label t row : Text} {c : Char}
    (h : row ∈ fixedStatement limit (labelField label) (Text.spaces n) t) (mem : c ∈ row) :
    (c ∈ label ∨ c ∈ t) ∨ IsAdded c := by
  obtain ⟨first, rest, parts, rows⟩ :=
    exists_fixedStatement_eq limit (labelField label) (Text.spaces n) t
  have inside : ∀ piece ∈ first :: rest, c ∈ piece.text → c ∈ t := by
    rw [← parts]
    exact fun piece found => mem_of_mem_piecesWithin found
  rw [rows] at h
  rcases List.mem_cons.mp h with rfl | later
  · rw [List.mem_append, List.mem_append] at mem
    rcases mem with (field | space) | text
    · exact (mem_labelField_cases field).imp_left .inl
    · exact .inr (isAdded_of_mem_spaces space)
    · exact .inl (.inr (inside first List.mem_cons_self text))
  · obtain ⟨piece, found, rfl⟩ := List.mem_map.mp later
    rcases List.mem_append.mp mem with mark | text
    · exact .inr (isAdded_of_mem_continuationField mark)
    · exact .inl (.inr (inside piece (List.mem_cons_of_mem _ found) text))

theorem mem_freePieces_cases {n : Nat} {mark row : Text} {pieces : List Piece} {c : Char}
    (added : ∀ c ∈ mark, IsAdded c) (h : row ∈ freePieces (Text.spaces n) mark pieces)
    (mem : c ∈ row) : (∃ piece ∈ pieces, c ∈ piece.text) ∨ IsAdded c := by
  induction pieces generalizing mark with
  | nil => cases h
  | cons piece rest ih =>
      obtain ⟨marks, known, rows⟩ := exists_freePieces_eq (Text.spaces n) mark piece rest
      rw [rows] at h
      rcases List.mem_cons.mp h with rfl | later
      · rw [List.mem_append, List.mem_append, List.mem_append] at mem
        rcases mem with ((space | front) | text) | behind
        · exact .inr (isAdded_of_mem_spaces space)
        · exact .inr (added c front)
        · exact .inl ⟨piece, List.mem_cons_self, text⟩
        · exact .inr (known.isAdded behind)
      · have next : ∀ c ∈ ['&'], IsAdded c := fun c h => .inr (.inl (List.mem_singleton.mp h))
        rcases ih next later with ⟨other, found, text⟩ | extra
        · exact .inl ⟨other, List.mem_cons_of_mem _ found, text⟩
        · exact .inr extra

theorem IsComment.mem {t content : Text} (h : IsComment t content) {c : Char} (mem : c ∈ content) :
    c ∈ t := by
  obtain ⟨⟨lead, gap, rfl, -, -⟩, -⟩ := h
  exact List.mem_append_right _ (List.mem_cons_of_mem _ (List.mem_append_right _ mem))

theorem IsLabelled.mem {t lead label statement : Text} (h : IsLabelled t lead label statement)
    {c : Char} (mem : c ∈ label ∨ c ∈ statement) : c ∈ t := by
  obtain ⟨gap, rfl, -, -⟩ := h.parts
  refine List.mem_append_right _ ?_
  rcases mem with digit | text
  · exact List.mem_append_left _ digit
  · exact List.mem_append_right _ (List.mem_append_right _ text)

section
variable {limit : Nat} {l : Line} {row : Text} {c : Char}

theorem mem_fixedLine_cases (h : row ∈ fixedLine limit l) (mem : c ∈ row) :
    c ∈ l.text ∨ IsAdded c := by
  cases found : read l.text with
  | comment content =>
      have comment := (read_eq_comment_iff _ _).mp found
      rw [fixedLine_of_comment limit comment] at h
      rw [List.mem_singleton.mp h] at mem
      exact (mem_commentRow_cases mem).imp_left comment.mem
  | labelled lead label t =>
      have shape := (read_eq_labelled_iff _ _ _ _).mp found
      rw [fixedLine_of_labelled limit shape] at h
      exact (mem_fixedStatement_cases h mem).imp_left shape.mem
  | plain t =>
      obtain ⟨-, statement, unlabelled⟩ := (read_eq_plain_iff _ _).mp found
      rw [fixedLine_of_plain limit statement unlabelled] at h
      exact (mem_fixedStatement_cases h mem).imp_left fun inside =>
        inside.resolve_left List.not_mem_nil

theorem mem_freeLine_cases (h : row ∈ freeLine limit l) (mem : c ∈ row) :
    c ∈ l.text ∨ IsAdded c := by
  by_cases comment : ∃ content, IsComment l.text content
  · obtain ⟨content, comment⟩ := comment
    rw [freeLine_of_comment comment] at h
    rw [List.mem_singleton.mp h] at mem
    rcases List.mem_append.mp mem with space | inside
    · exact .inr (isAdded_of_mem_spaces space)
    · exact .inl ((List.dropWhile_sublist isBlank).subset inside)
  · rw [not_exists] at comment
    rw [freeLine_of_not_comment limit comment, freeStatement_eq] at h
    rcases mem_freePieces_cases (fun _ h => absurd h List.not_mem_nil) h mem with
      ⟨piece, found, text⟩ | added
    · exact .inl (mem_of_mem_piecesWithin found text)
    · exact .inr added

theorem mem_line_cases {form : SourceForm} (h : row ∈ line form limit l) (mem : c ∈ row) :
    c ∈ l.text ∨ IsAdded c := by
  cases form with
  | fixed => exact mem_fixedLine_cases h mem
  | free => exact mem_freeLine_cases h mem

/-- A line that takes one line of a text takes whole physical lines. -/
theorem newline_not_mem_of_mem_line (form : SourceForm) (h : row ∈ line form limit l)
    (single : '\n' ∉ l.text) : '\n' ∉ row := by
  intro mem
  rcases mem_line_cases h mem with inside | space | mark | comment
  · exact single inside
  · cases space
  · cases mark
  · cases comment

end

end FortranWriter.Layout
