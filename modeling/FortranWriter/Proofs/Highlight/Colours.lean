import FortranWriter.Proofs.Highlight.Rows
import FortranWriter.Proofs.Terminal
/-! Highlighting for a terminal adds escape sequences to a text, and nothing else. -/
namespace FortranWriter.Highlight
open Terminal

/-- Segments that end a line are line feeds. -/
def Segment.EndsPlain (s : Segment) : Prop :=
  s.tag = .newline → s.text = ['\n']

theorem not_newline_of_mem_lexemes {t : Text} {s : Segment} (h : s ∈ lexemes t) :
    s.tag ≠ .newline := by
  intro same
  have part := ofStatement_of_mem_lexemes h
  rw [same] at part
  exact part

theorem not_newline_of_mem_fixedLine {t : Text} {s : Segment} (h : s ∈ fixedLine t) :
    s.tag ≠ .newline := by
  unfold fixedLine at h
  split at h
  · rw [List.mem_singleton.mp h]
    exact Tag.noConfusion
  · split at h
    · rcases List.mem_append.mp h with front | behind
      · refine tag_of_mem_indented (· ≠ .newline) Tag.noConfusion (fun s h => ?_) s front
        rw [(mem_segment?_iff.mp h).1]
        exact Tag.noConfusion
      · rcases List.mem_cons.mp behind with rfl | behind
        · dsimp only
          split_ifs <;> exact Tag.noConfusion
        · exact tag_of_mem_indented (· ≠ .newline) Tag.noConfusion
            (fun _ => not_newline_of_mem_lexemes) s behind
    · exact not_newline_of_mem_lexemes h

theorem not_newline_of_mem_freeContent {t : Text} {s : Segment} (h : s ∈ freeContent t) :
    s.tag ≠ .newline := by
  unfold freeContent at h
  split at h
  · rw [List.mem_singleton.mp h]
    exact Tag.noConfusion
  · rcases List.mem_cons.mp h with rfl | behind
    · exact Tag.noConfusion
    · exact not_newline_of_mem_lexemes behind
  · split at h
    · rcases List.mem_cons.mp h with rfl | behind
      · exact Tag.noConfusion
      · rcases List.mem_cons.mp behind with rfl | behind
        · exact Tag.noConfusion
        · exact not_newline_of_mem_lexemes behind
    · exact not_newline_of_mem_lexemes h

theorem not_newline_of_mem_line {form : SourceForm} {t : Text} {s : Segment} (h : s ∈ line form t) :
    s.tag ≠ .newline := by
  cases form with
  | fixed => exact not_newline_of_mem_fixedLine h
  | free =>
      exact tag_of_mem_indented (· ≠ .newline) Tag.noConfusion
        (fun _ => not_newline_of_mem_freeContent) s h

theorem endsPlain_of_mem_highlight {text : Text} {form : SourceForm} {s : Segment}
    (h : s ∈ highlight text form) : s.EndsPlain := by
  obtain ⟨row, -, inside⟩ := List.mem_flatMap.mp h
  rcases List.mem_append.mp inside with own | ending
  · exact fun same => absurd same (not_newline_of_mem_line own)
  · rw [List.mem_singleton.mp ending]
    exact fun _ => rfl

theorem all_isParameter_ofNat (n : Nat) : (Decimal.ofNat n).all isParameter = true :=
  List.all_eq_true.mpr fun _ mem =>
    Bool.or_eq_true_iff.mpr (.inl (Decimal.isDigit_of_mem_ofNat mem))

theorem all_isParameter_parameters (colour : Colour) :
    colour.parameters.all isParameter = true := by
  have separator : ";".toList.all isParameter = true := by decide
  have lead : "38;2;".toList.all isParameter = true := by decide
  change ("38;2;".toList ++ Decimal.ofNat colour.red ++ ";".toList ++ Decimal.ofNat colour.green ++
    ";".toList ++ Decimal.ofNat colour.blue).all isParameter = true
  simp only [List.all_append, all_isParameter_ofNat, separator, lead, Bool.and_self]

def Face.weight (face : Face) : Text :=
  if face.italic then ['3'] else ['1']

def Tag.opening (tag : Tag) : Text :=
  (face? tag).elim [] fun face => sequence face.weight ++ sequence face.colour.parameters

def Tag.closing (tag : Tag) : Text :=
  (face? tag).elim [] fun _ => sequence "39".toList ++ sequence "0".toList

theorem all_isParameter_weight (face : Face) : face.weight.all isParameter = true := by
  unfold Face.weight
  cases face.italic <;> decide

theorem all_isParameter_ends :
    "39".toList.all isParameter = true ∧ "0".toList.all isParameter = true := by
  decide

theorem onTerminal_eq {s : Segment} (plain : s.EndsPlain) :
    onTerminal s = s.tag.opening ++ s.text ++ s.tag.closing := by
  rw [onTerminal, Tag.opening, Tag.closing]
  cases face? s.tag with
  | none =>
      rw [Option.elim_none, Option.elim_none, List.nil_append, List.append_nil]
      dsimp only
      split
      · case _ newline => exact (plain newline).symm
      · rfl
  | some face =>
      obtain ⟨colour, italics⟩ := face
      have whole : ∀ on off : Text,
          on ++ (sequence colour.parameters ++ s.text ++ sequence "39".toList) ++ off =
            on ++ sequence colour.parameters ++ s.text ++ (sequence "39".toList ++ off) := by
        intro on off
        simp only [List.append_assoc]
      cases italics with
      | false => exact whole (sequence ['1']) (sequence "0".toList)
      | true => exact whole (sequence ['3']) (sequence "0".toList)

theorem shows_opening (tag : Tag) : Shows tag.opening [] := by
  unfold Tag.opening
  cases face? tag with
  | none => exact fun _ => rfl
  | some face =>
      exact (shows_sequence (all_isParameter_weight face)).append
        (shows_sequence (all_isParameter_parameters face.colour))

theorem shows_closing (tag : Tag) : Shows tag.closing [] := by
  unfold Tag.closing
  cases face? tag with
  | none => exact fun _ => rfl
  | some _ =>
      exact (shows_sequence all_isParameter_ends.1).append (shows_sequence all_isParameter_ends.2)

theorem shows_onTerminal {s : Segment} (plain : s.EndsPlain) (bare : escape ∉ s.text) :
    Shows (onTerminal s) s.text := by
  have whole := ((shows_opening s.tag).append (shows_of_bare bare)).append (shows_closing s.tag)
  rwa [List.nil_append, List.append_nil, ← onTerminal_eq plain] at whole

theorem shows_flatMap_onTerminal {segments : List Segment} (plain : ∀ s ∈ segments, s.EndsPlain)
    (bare : escape ∉ textOf segments) : Shows (segments.flatMap onTerminal) (textOf segments) := by
  induction segments with
  | nil => exact fun _ => rfl
  | cons s segments ih =>
      obtain ⟨first, others⟩ := List.forall_mem_cons.mp plain
      rw [textOf, List.flatMap_cons, List.mem_append, not_or] at bare
      exact (shows_onTerminal first bare.1).append (ih others bare.2)

/-- What is shown on a terminal ends in a line feed already, if it is anything. -/
theorem display_onTerminal (text : Text) (form : SourceForm) :
    display onTerminal text form = (highlight text form).flatMap onTerminal := by
  have ends : (highlight text form).flatMap onTerminal = [] ∨
      ((highlight text form).flatMap onTerminal).getLast? = some '\n' := by
    unfold highlight
    rcases List.eq_nil_or_concat text.lines with none | ⟨front, row, found⟩
    · left
      rw [none]
      rfl
    · right
      rw [found, List.concat_eq_append, List.flatMap_append, List.flatMap_singleton,
        List.flatMap_append, List.flatMap_append, List.flatMap_singleton]
      simp only [← List.append_assoc]
      exact List.getLast?_concat
  unfold display
  dsimp only
  rcases ends with none | last
  · rw [none]
    rfl
  · rw [last, beq_self_eq_true, Bool.or_true, if_pos rfl]

theorem mem_of_mem_normalised {text : Text} {c : Char} (h : c ∈ text.normalised) :
    c ∈ text ∨ c = '\n' := by
  obtain ⟨row, among, inside⟩ := List.mem_flatMap.mp h
  rcases List.mem_append.mp inside with own | ending
  · exact .inl (Text.mem_of_mem_lines among own)
  · exact .inr (List.mem_singleton.mp ending)

/-- A highlighted text without its sequences is the text with every line ending in a line feed. -/
theorem unstyled_display {text : Text} (bare : escape ∉ text) (form : SourceForm) :
    unstyled (display onTerminal text form) = text.normalised := by
  have covered : textOf (highlight text form) = text.normalised :=
    (covers_highlight text form).text_eq
  have normal : escape ∉ textOf (highlight text form) := by
    rw [covered]
    intro mem
    rcases mem_of_mem_normalised mem with own | newline
    · exact bare own
    · exact absurd newline (by decide)
  rw [display_onTerminal, ← covered]
  exact (shows_flatMap_onTerminal (fun _ => endsPlain_of_mem_highlight) normal).unstyled

end FortranWriter.Highlight
