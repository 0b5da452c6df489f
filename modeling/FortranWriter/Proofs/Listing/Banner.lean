import FortranWriter.Proofs.Layout.Rows
import FortranWriter.Proofs.Listing
import FortranWriter.Proofs.Text.Lines
import FortranWriter.Proofs.Wording.Lines
/-! A banner is comments in front of the source text and nothing else, whatever the name in it is
like: it takes no part in the code behind it, and no part of it can become code. -/
namespace FortranWriter
open Success

/-- The character in column 1 by which a comment is told. -/
def SourceForm.commentMark : SourceForm → Char
  | .fixed => 'c'
  | .free => '!'

/-- A physical line that is a comment from its first column on. -/
structure CommentRow (form : SourceForm) (row : Text) : Prop where
  mark : row.head? = some form.commentMark
  single : row.isSingleLine = true

section
variable {form : SourceForm} {source content t : Text} {limit : Nat}

/-- A worded comment that is not inside anything is laid out as one line with the mark in front. -/
theorem exists_commentRow (h : Wording.comment content = .ok t) :
    ∃ row, Layout.line form limit ⟨0, t⟩ = [row] ∧ CommentRow form row := by
  have oneLine := Wording.oneLine_of_comment h
  obtain ⟨rest, rfl⟩ : ∃ rest, t = '!' :: rest := by
    obtain ⟨-, rfl⟩ := Wording.comment_eq_ok_iff.mp h
    split
    · exact ⟨[], rfl⟩
    · exact ⟨' ' :: content, rfl⟩
  have marked : Text.trimStart ('!' :: rest) = '!' :: rest := by simp [Text.trimStart, isBlank]
  have comment := Layout.isComment_of_trimStart marked
  have single : ∀ row ∈ Layout.line form limit ⟨0, '!' :: rest⟩, row.isSingleLine = true := by
    intro row mem
    refine Text.isSingleLine_iff.mpr fun c inside => ?_
    rcases Layout.mem_line_cases mem inside with own | rfl | rfl | rfl
    · exact Text.isSingleLine_iff.mp oneLine.single c own
    all_goals decide
  cases form with
  | fixed =>
      have rows : Layout.line .fixed limit ⟨0, '!' :: rest⟩ =
          [Layout.commentRow (Text.trimStart rest)] :=
        Layout.fixedLine_of_comment limit comment
      refine ⟨_, rows, ?_, single _ (rows ▸ List.mem_singleton_self _)⟩
      unfold Layout.commentRow
      split <;> rfl
  | free =>
      have rows : Layout.line .free limit ⟨0, '!' :: rest⟩ = ['!' :: rest] := by
        rw [Layout.line, Layout.freeLine_of_comment comment, marked]
        rfl
      exact ⟨_, rows, rfl, single _ (rows ▸ List.mem_singleton_self _)⟩

theorem exists_commentRows {comments : List Text}
    (each : ∀ t ∈ comments, ∃ content, Wording.comment content = .ok t) :
    ∃ rows, (comments.map (Line.mk 0)).flatMap (Layout.line form limit) = rows ∧
      rows.length = comments.length ∧ ∀ row ∈ rows, CommentRow form row := by
  induction comments with
  | nil => exact ⟨[], rfl, rfl, nofun⟩
  | cons t comments ih =>
      obtain ⟨⟨content, worded⟩, others⟩ := List.forall_mem_cons.mp each
      obtain ⟨rows, there, size, marks⟩ := ih others
      obtain ⟨row, here, mark⟩ :
          ∃ row, Layout.line form limit ⟨0, t⟩ = [row] ∧ CommentRow form row :=
        exists_commentRow worded
      refine ⟨row :: rows, ?_, congrArg (· + 1) size, List.forall_mem_cons.mpr ⟨mark, marks⟩⟩
      rw [List.map_cons, List.flatMap_cons, here, there, List.singleton_append]

theorem comment_eq_error {refusal : Refusal} (h : Wording.comment content = .error refusal) :
    refusal = .multiLine "comment".toList := by
  rw [Wording.comment, Argument.singleLine] at h
  split at h
  · cases h
  · cases h
    rfl

/-- Words stand around the name in a banner, and one more line behind it. No line ends in them. -/
theorem exists_bannerText_eq (form : SourceForm) : ∃ lead trail : Text,
    (∀ source, bannerText source form = lead ++ (source ++ '\n' :: trail)) ∧
      lead.isSingleLine = true ∧ trail.isSingleLine = true ∧ trail ≠ [] := by
  refine ⟨"generated by macrofor ".toList ++ version ++ " from ".toList,
    "source form: ".toList ++ form.name, fun source => ?_, by decide, ?_, ?_⟩
  · have second : "\nsource form: ".toList = '\n' :: "source form: ".toList := rfl
    have regroup : ∀ a b : Text,
        a ++ source ++ '\n' :: b ++ form.name = a ++ (source ++ '\n' :: (b ++ form.name)) := by
      intro a b
      simp
    unfold bannerText
    generalize "generated by macrofor ".toList ++ version ++ " from ".toList = lead
    exact (congrArg (lead ++ source ++ · ++ form.name) second).trans (regroup lead _)
  · cases form <;> decide
  · cases form <;> decide

theorem hasLoneReturn_bannerText_iff :
    (bannerText source form).HasLoneReturn ↔ Text.HasLoneReturn (source ++ ['\n']) := by
  obtain ⟨lead, trail, whole, front, behind, -⟩ := exists_bannerText_eq form
  obtain ⟨-, bare⟩ := Text.isSingleLine_iff_not_mem.mp front
  obtain ⟨-, bareBehind⟩ := Text.isSingleLine_iff_not_mem.mp behind
  rw [whole, Text.hasLoneReturn_append_iff bare, Text.hasLoneReturn_append_feed_iff bareBehind]

theorem length_lines_bannerText :
    (bannerText source form).lines.length = source.count '\n' + 2 := by
  obtain ⟨lead, trail, whole, front, behind, filled⟩ := exists_bannerText_eq form
  obtain ⟨unbroken, -⟩ := Text.isSingleLine_iff_not_mem.mp front
  obtain ⟨unbrokenBehind, -⟩ := Text.isSingleLine_iff_not_mem.mp behind
  have regroup : lead ++ (source ++ '\n' :: trail) = (lead ++ source ++ ['\n']) ++ trail := by simp
  rw [whole, regroup, Text.length_lines_append filled unbrokenBehind, List.count_append,
    List.count_append, List.count_eq_zero_of_not_mem unbroken, Nat.zero_add]
  rfl

theorem banner_eq_error (h : Text.HasLoneReturn (source ++ ['\n'])) :
    banner source form = .error (.multiLine "comment".toList) := by
  cases made : banner source form with
  | ok f =>
      have bare := exists_banner_iff.mp ⟨f, made⟩
      obtain ⟨line, mem, inside⟩ :=
        Text.exists_return_mem_lines_iff.mpr (hasLoneReturn_bannerText_iff.mpr h)
      exact absurd inside (bare line mem)
  | error refusal =>
      rw [banner] at made
      cases worded : (bannerText source form).lines.mapM Wording.comment with
      | ok comments =>
          rw [worded] at made
          cases made
      | error cause =>
          obtain ⟨line, -, refused⟩ := exists_of_mapM_eq_error worded
          rw [worded, comment_eq_error refused] at made
          exact made.symm

/-- The lines of a banner are laid out by themselves, each as one comment. -/
theorem exists_banner (h : ¬ Text.HasLoneReturn (source ++ ['\n'])) (limit : Nat) :
    ∃ f rows, banner source form = .ok f ∧ f.lines.flatMap (Layout.line form limit) = rows ∧
      rows.length = source.count '\n' + 2 ∧ ∀ row ∈ rows, CommentRow form row := by
  obtain ⟨f, made⟩ : ∃ f, banner source form = .ok f := by
    refine exists_banner_iff.mpr fun line mem inside => h ?_
    exact hasLoneReturn_bannerText_iff.mp (Text.exists_return_mem_lines_iff.mp ⟨line, mem, inside⟩)
  obtain ⟨comments, worded, joined⟩ := bind_eq_ok_iff.mp made
  cases joined
  have each : ∀ t ∈ comments, ∃ content, Wording.comment content = .ok t := by
    intro t mem
    obtain ⟨line, -, same⟩ := exists_of_mem_mapM worded mem
    exact ⟨line, same⟩
  have oneLine : ∀ t ∈ comments, t.OneLine := by
    intro t mem
    obtain ⟨content, same⟩ := each t mem
    exact Wording.oneLine_of_comment same
  have lines :
      (Fragment.ofText (Text.joinWith ['\n'] comments)).lines = comments.map (Line.mk 0) := by
    rw [Fragment.lines, Fragment.linesAt_ofText, Line.ofText, Text.lines_joinWith oneLine]
    refine congrArg (List.map (Line.mk 0)) (List.filter_eq_self.mpr fun t mem => ?_)
    rw [(oneLine t mem).shown]
    rfl
  obtain ⟨rows, laid, size, marks⟩ :
      ∃ rows, (comments.map (Line.mk 0)).flatMap (Layout.line form limit) = rows ∧
        rows.length = comments.length ∧ ∀ row ∈ rows, CommentRow form row :=
    exists_commentRows each
  refine ⟨_, rows, made, ?_, ?_, marks⟩
  · rw [lines, laid]
  · rw [size, length_of_mapM worded, length_lines_bannerText]

end

/-- With a banner the source text is what it is without one, behind a comment for each line
of the name and another for the source form. There is no text at all if a carriage return
would stand in a comment. -/
theorem render_banner (fragments : List Fragment) (emission : Emission) (source : Text) :
    ∃ code, render fragments { emission with banner := none } = .ok code ∧
      ((Text.HasLoneReturn (source ++ ['\n']) ∧
          render fragments { emission with banner := some source } =
            .error (.multiLine "comment".toList)) ∨
        (¬ Text.HasLoneReturn (source ++ ['\n']) ∧ ∃ comments : List Text,
          comments.length = source.count '\n' + 2 ∧
          (∀ row ∈ comments, CommentRow emission.form row) ∧
          render fragments { emission with banner := some source } =
            .ok (terminate emission.lineEnding.text comments ++ code))) := by
  refine ⟨_, rfl, ?_⟩
  by_cases lone : Text.HasLoneReturn (source ++ ['\n'])
  · refine .inl ⟨lone, ?_⟩
    have front : frontMatter { emission with banner := some source } =
        .error (.multiLine "comment".toList) :=
      congrArg (· >>= fun f => pure [f]) (banner_eq_error lone)
    rw [render, front]
    rfl
  · obtain ⟨f, rows, made, laid, size, marks⟩ := exists_banner lone emission.limit
    refine .inr ⟨lone, rows, size, marks, ?_⟩
    have front : frontMatter { emission with banner := some source } = .ok [f] :=
      congrArg (· >>= fun f => pure [f]) made
    refine bind_eq_ok_iff.mpr ⟨[f], front, congrArg Except.ok ?_⟩
    rw [layout, List.flatMap_append, List.flatMap_append, List.flatMap_singleton, terminate,
      List.flatMap_append]
    exact congrArg (· ++ _) (congrArg _ laid)

/-- A name that tries to add a line of code adds a comment. -/
example : render [.line "x = 1".toList] { banner := some "a\ncall exit".toList } =
    .ok ("! generated by macrofor 0.1.0 from a\n".toList ++
      "! call exit\n! source form: free\nx = 1\n".toList) := by
  decide +kernel

end FortranWriter
