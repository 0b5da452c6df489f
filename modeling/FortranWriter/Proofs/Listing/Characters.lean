import FortranWriter.Proofs.Assembly.Characters
import FortranWriter.Proofs.Layout.Rows
import FortranWriter.Proofs.Listing
/-! Where the characters of source text come from: its lines, the banner, and what ends a line. -/
namespace FortranWriter
open Success

section
variable {p : Char → Prop} (printable : ∀ c, IsPrintable c → p c)

theorem of_lines_ofText {t : Text} (h : ∀ c ∈ t, p c) :
    ∀ l ∈ (Fragment.ofText t).lines, ∀ c ∈ l.text, p c := by
  rw [Fragment.lines, Fragment.linesAt_ofText]
  refine List.forall_mem_map.mpr fun line mem c inside => h c ?_
  exact Text.mem_of_mem_lines (List.mem_of_mem_filter mem) inside

include printable

theorem of_comment {content t : Text} (h : Wording.comment content = .ok t)
    (each : ∀ c ∈ content, p c) :
    ∀ c ∈ t, p c := by
  obtain ⟨-, rfl⟩ := Wording.comment_eq_ok_iff.mp h
  split
  · exact OnePass.of_literal printable (by decide)
  · exact List.forall_mem_append.mpr ⟨OnePass.of_literal printable (by decide), each⟩

theorem of_name (form : SourceForm) : ∀ c ∈ form.name, p c := by
  cases form
  all_goals exact OnePass.of_literal printable (by decide)

variable (feed : p '\n')
include feed

theorem of_bannerText {source : Text} (each : ∀ c ∈ source, p c) (form : SourceForm) :
    ∀ c ∈ bannerText source form, p c := by
  have second : "\nsource form: ".toList = '\n' :: "source form: ".toList := rfl
  have between : ∀ c ∈ "\nsource form: ".toList, p c := by
    rw [second, List.forall_mem_cons]
    exact ⟨feed, OnePass.of_literal printable (by decide)⟩
  change ∀ c ∈ "generated by macrofor ".toList ++ version ++ " from ".toList ++ source ++
    "\nsource form: ".toList ++ form.name, p c
  simp only [List.forall_mem_append]
  exact ⟨⟨⟨⟨⟨OnePass.of_literal printable (by decide), OnePass.of_literal printable (by decide)⟩,
    OnePass.of_literal printable (by decide)⟩, each⟩, between⟩, of_name printable form⟩

theorem of_banner {source : Text} {form : SourceForm} {f : Fragment}
    (h : banner source form = .ok f) (each : ∀ c ∈ source, p c) :
    ∀ l ∈ f.lines, ∀ c ∈ l.text, p c := by
  obtain ⟨comments, worded, made⟩ := bind_eq_ok_iff.mp h
  cases made
  have newline : ∀ c ∈ ['\n'], p c := List.forall_mem_singleton.mpr feed
  refine of_lines_ofText (OnePass.of_joinWith newline fun t mem => ?_)
  obtain ⟨line, among, same⟩ := exists_of_mem_mapM worded mem
  refine of_comment printable same fun c inside => ?_
  exact of_bannerText printable feed each form c (Text.mem_of_mem_lines among inside)

/-- The characters of a source file are those of its lines and of the name in the banner, printable
ones, and those that end lines. -/
theorem of_render {fragments : List Fragment} {emission : Emission} {text : Text}
    (carriage : p '\r') (h : render fragments emission = .ok text)
    (lines : ∀ l ∈ fragments.flatMap Fragment.lines, ∀ c ∈ l.text, p c)
    (source : ∀ t, emission.banner = some t → ∀ c ∈ t, p c) : ∀ c ∈ text, p c := by
  obtain ⟨front, known, made⟩ := bind_eq_ok_iff.mp h
  cases made
  have fronts : ∀ l ∈ front.flatMap Fragment.lines, ∀ c ∈ l.text, p c := by
    rw [frontMatter] at known
    split at known
    · cases known
      exact fun l mem => absurd mem List.not_mem_nil
    · case _ t asked =>
        obtain ⟨f, banner, made⟩ := bind_eq_ok_iff.mp known
        cases made
        rw [List.flatMap_singleton]
        exact of_banner printable feed banner (source t asked)
  have all : ∀ l ∈ (front ++ fragments).flatMap Fragment.lines, ∀ c ∈ l.text, p c := by
    rw [List.flatMap_append]
    exact List.forall_mem_append.mpr ⟨fronts, lines⟩
  have ending : ∀ c ∈ emission.lineEnding.text, p c := by
    cases emission.lineEnding with
    | native | lf => exact List.forall_mem_singleton.mpr feed
    | crlf => exact List.forall_mem_cons.mpr ⟨carriage, List.forall_mem_singleton.mpr feed⟩
  intro c mem
  obtain ⟨row, among, inside⟩ := List.mem_flatMap.mp mem
  obtain ⟨l, there, laid⟩ := List.mem_flatMap.mp among
  rcases List.mem_append.mp inside with shown | ended
  · rcases Layout.mem_line_cases laid shown with own | rfl | rfl | rfl
    · exact all l there c own
    all_goals exact printable _ (by decide)
  · exact ending c ended

end

end FortranWriter
