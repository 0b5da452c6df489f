import FortranWriter.Proofs.Layout.Rows
import FortranWriter.Proofs.Listing
import FortranWriter.Proofs.Text.Parts
/-! What ends the lines of source text. No physical line holds a line feed, whatever the fragments
do, so the endings are found again where they were put. -/
namespace FortranWriter

def Text.withReturns (t : Text) : Text :=
  t.flatMap fun c => if c = '\n' then ['\r', '\n'] else [c]

theorem Text.withReturns_append (t u : Text) :
    (t ++ u).withReturns = t.withReturns ++ u.withReturns :=
  List.flatMap_append

theorem Text.withReturns_of_unbroken {t : Text} (unbroken : '\n' ∉ t) : t.withReturns = t := by
  induction t with
  | nil => rfl
  | cons c t ih =>
      rw [List.mem_cons, not_or] at unbroken
      rw [withReturns, List.flatMap_cons, if_neg (Ne.symm unbroken.1)]
      exact congrArg (c :: ·) (ih unbroken.2)

theorem LineEnding.text_ne_nil (ending : LineEnding) : ending.text ≠ [] := by
  cases ending <;> exact List.cons_ne_nil _ _

theorem LineEnding.count_text (ending : LineEnding) : ending.text.count '\n' = 1 := by
  cases ending <;> rfl

/-- A carriage return at the end of a line does not begin the ending that follows it. -/
theorem LineEnding.clear_of_unbroken (ending : LineEnding) {row : Text} (unbroken : '\n' ∉ row) :
    Text.Clear ending.text row := by
  have feed : '\n' ∈ ending.text := by
    rw [← List.count_pos_iff, ending.count_text]
    exact Nat.one_pos
  have absent : ¬ ending.text <:+: row := fun found => unbroken (found.subset feed)
  cases ending with
  | native | lf => exact (Text.clear_cons_iff List.not_mem_nil).mpr absent
  | crlf => exact (Text.clear_cons_iff (by decide)).mpr absent

section
variable {ending : Text} {rows : List Text}

theorem terminate_eq_joinWith (some : rows ≠ []) :
    terminate ending rows = Text.joinWith ending rows ++ ending := by
  induction rows with
  | nil => exact absurd rfl some
  | cons row rows ih =>
      rw [terminate, List.flatMap_cons]
      cases rows with
      | nil => exact List.append_nil _
      | cons next rows =>
          rw [Text.joinWith, List.append_assoc _ _ ending, ← ih (List.cons_ne_nil next rows)]
          rfl

theorem count_terminate (single : ending.count '\n' = 1) (unbroken : ∀ row ∈ rows, '\n' ∉ row) :
    (terminate ending rows).count '\n' = rows.length := by
  induction rows with
  | nil => rfl
  | cons row rows ih =>
      obtain ⟨first, others⟩ := List.forall_mem_cons.mp unbroken
      have behind : (rows.flatMap (· ++ ending)).count '\n' = rows.length := ih others
      rw [terminate, List.flatMap_cons, List.count_append, List.count_append,
        List.count_eq_zero_of_not_mem first, single, behind, List.length_cons]
      omega

theorem withReturns_terminate (unbroken : ∀ row ∈ rows, '\n' ∉ row) :
    (terminate ['\n'] rows).withReturns = terminate ['\r', '\n'] rows := by
  induction rows with
  | nil => rfl
  | cons row rows ih =>
      obtain ⟨first, others⟩ := List.forall_mem_cons.mp unbroken
      rw [terminate, List.flatMap_cons, Text.withReturns_append, Text.withReturns_append,
        Text.withReturns_of_unbroken first]
      exact congrArg _ (ih others)

end

theorem newline_not_mem_of_mem_layout {fragments : List Fragment} {emission : Emission} {row : Text}
    (h : row ∈ layout fragments emission) : '\n' ∉ row := by
  obtain ⟨l, among, laid⟩ := List.mem_flatMap.mp h
  obtain ⟨f, -, inside⟩ := List.mem_flatMap.mp among
  obtain ⟨t, -, shows⟩ := f.exists_shows inside
  exact Layout.newline_not_mem_of_mem_line emission.form laid shows.newline_not_mem

/-- Source text is its physical lines, an ending behind each. As they hold no line feed, there are
as many of them as line feeds, they are what is between the endings, and what the endings are
makes no other difference. -/
theorem render_ends_each_line (fragments : List Fragment) (emission : Emission) :
    (∀ row ∈ layout fragments emission, '\n' ∉ row) ∧
    (∃ text, render fragments { emission with banner := none } = .ok text ∧
      text = (layout fragments emission).flatMap (· ++ emission.lineEnding.text) ∧
      text.count '\n' = (layout fragments emission).length ∧
      ((text = [] ∧ layout fragments emission = []) ∨
        ∃ body, text = body ++ emission.lineEnding.text ∧
          Text.parts emission.lineEnding.text body = layout fragments emission)) ∧
    render fragments { emission with lineEnding := .crlf } =
      Text.withReturns <$> render fragments { emission with lineEnding := .lf } := by
  have unbroken : ∀ row ∈ layout fragments emission, '\n' ∉ row :=
    fun _ => newline_not_mem_of_mem_layout
  refine ⟨unbroken, ⟨_, rfl, rfl, count_terminate emission.lineEnding.count_text unbroken, ?_⟩, ?_⟩
  · by_cases none : layout fragments emission = []
    · refine .inl ⟨?_, none⟩
      change terminate _ (layout fragments emission) = []
      rw [none]
      rfl
    · refine .inr ⟨_, terminate_eq_joinWith none, ?_⟩
      exact Text.parts_joinWith emission.lineEnding.text_ne_nil none fun row mem =>
        emission.lineEnding.clear_of_unbroken (unbroken row mem)
  · change (frontMatter emission >>= _) = _ <$> (frontMatter emission >>= _)
    cases frontMatter emission with
    | error refusal => rfl
    | ok front =>
        refine congrArg Except.ok (withReturns_terminate fun row => ?_).symm
        exact newline_not_mem_of_mem_layout

/-- A stray carriage return stays in its line. -/
example : render [.line "a\r\nb\r".toList] { lineEnding := .crlf } = .ok "a\r\nb\r\r\n".toList ∧
    Text.parts ['\r', '\n'] "a\r\nb\r".toList = ["a".toList, "b\r".toList] := by
  decide +kernel

end FortranWriter
