import FortranWriter.Proofs.Highlight.Colours
import FortranWriter.Proofs.Terminal.Modes
/-! The markup of a segment ends with the segment: in front of each segment, and so of each
line feed, nothing is on. -/
namespace FortranWriter.Highlight
open Terminal

def Face.mode (face : Face) : Mode :=
  { colour := some face.colour.parameters, bold := !face.italic, italic := face.italic }

def Tag.mode (tag : Tag) : Mode :=
  (face? tag).elim .plain Face.mode

theorem exists_parameters_eq (colour : Colour) :
    ∃ rest, colour.parameters = '3' :: '8' :: rest := by
  have lead : "38;2;".toList = '3' :: '8' :: ";2;".toList := by decide
  have whole : colour.parameters = "38;2;".toList ++ Decimal.ofNat colour.red ++ ";".toList ++
      Decimal.ofNat colour.green ++ ";".toList ++ Decimal.ofNat colour.blue := rfl
  refine ⟨";2;".toList ++ Decimal.ofNat colour.red ++ ";".toList ++ Decimal.ofNat colour.green ++
    ";".toList ++ Decimal.ofNat colour.blue, whole.trans ?_⟩
  exact congrArg (· ++ Decimal.ofNat colour.red ++ ";".toList ++ Decimal.ofNat colour.green ++
    ";".toList ++ Decimal.ofNat colour.blue) lead

theorem after_parameters (mode : Mode) (colour : Colour) :
    mode.after colour.parameters = { mode with colour := some colour.parameters } := by
  obtain ⟨rest, shape⟩ := exists_parameters_eq colour
  rw [shape]
  simp [Mode.after]

theorem after_weight (face : Face) :
    { Mode.plain.after face.weight with colour := some face.colour.parameters } = face.mode := by
  unfold Face.weight Face.mode
  cases face.italic <;> rfl

theorem leads_opening (tag : Tag) : Leads tag.opening .plain tag.mode := by
  unfold Tag.opening Tag.mode
  cases face? tag with
  | none => exact leads_nil .plain
  | some face =>
      have opened := (leads_sequence (all_isParameter_weight face) .plain).append
        (leads_sequence (all_isParameter_parameters face.colour) _)
      rw [after_parameters, after_weight] at opened
      exact opened

theorem leads_closing (tag : Tag) : Leads tag.closing tag.mode .plain := by
  unfold Tag.closing Tag.mode
  cases face? tag with
  | none => exact leads_nil .plain
  | some face =>
      exact (leads_sequence all_isParameter_ends.1 face.mode).append
        (leads_sequence all_isParameter_ends.2 _)

/-- A segment without escape sequences, which has a line feed only if it is one. -/
structure Segment.Ordinary (s : Segment) : Prop where
  plain : s.EndsPlain
  bare : escape ∉ s.text
  ending : '\n' ∈ s.text → s.tag = .newline

theorem Segment.Ordinary.leads {s : Segment} (h : s.Ordinary) :
    Leads (onTerminal s) .plain .plain := by
  rw [onTerminal_eq h.plain]
  exact ((leads_opening s.tag).append (leads_of_bare h.bare _)).append (leads_closing s.tag)

theorem leads_flatMap_onTerminal {segments : List Segment} (ordinary : ∀ s ∈ segments, s.Ordinary) :
    Leads (segments.flatMap onTerminal) .plain .plain := by
  induction segments with
  | nil => exact leads_nil .plain
  | cons s segments ih =>
      obtain ⟨first, others⟩ := List.forall_mem_cons.mp ordinary
      exact first.leads.append (ih others)

theorem newline_not_mem_sequence {parameters : Text} (h : parameters.all isParameter = true) :
    '\n' ∉ sequence parameters := by
  intro mem
  rcases List.mem_cons.mp mem with same | mem
  · exact absurd same (by decide)
  · rcases List.mem_append.mp mem with inside | last
    · rcases List.mem_cons.mp inside with same | mem
      · exact absurd same (by decide)
      · exact absurd (List.all_eq_true.mp h _ mem) (by decide)
    · exact absurd last (by decide)

theorem newline_not_mem_opening (tag : Tag) : '\n' ∉ tag.opening := by
  unfold Tag.opening
  cases face? tag with
  | none => exact List.not_mem_nil
  | some face =>
      exact List.not_mem_append (newline_not_mem_sequence (all_isParameter_weight face))
        (newline_not_mem_sequence (all_isParameter_parameters face.colour))

theorem newline_not_mem_closing (tag : Tag) : '\n' ∉ tag.closing := by
  unfold Tag.closing
  cases face? tag with
  | none => exact List.not_mem_nil
  | some _ =>
      exact List.not_mem_append (newline_not_mem_sequence all_isParameter_ends.1)
        (newline_not_mem_sequence all_isParameter_ends.2)

/-- The only line feed of a segment is the whole of it. -/
theorem Segment.Ordinary.eq_nil_of_newline {s : Segment} (h : s.Ordinary) {front inside : Text}
    (shown : onTerminal s = front ++ '\n' :: inside) : front = [] := by
  have mem : '\n' ∈ onTerminal s := shown ▸ List.mem_append_right _ List.mem_cons_self
  rw [onTerminal_eq h.plain] at mem
  have newline : s.tag = .newline := by
    rcases List.mem_append.mp mem with inside | last
    · rcases List.mem_append.mp inside with first | own
      · exact absurd first (newline_not_mem_opening s.tag)
      · exact h.ending own
    · exact absurd last (newline_not_mem_closing s.tag)
  rw [onTerminal_eq h.plain, h.plain newline, newline] at shown
  cases front with
  | nil => rfl
  | cons c front => cases front <;> cases List.tail_eq_of_cons_eq shown

theorem leads_of_newline {segments : List Segment} (ordinary : ∀ s ∈ segments, s.Ordinary)
    {before after : Text} (h : segments.flatMap onTerminal = before ++ '\n' :: after) :
    Leads before .plain .plain := by
  induction segments generalizing before with
  | nil => exact absurd h.symm (List.append_ne_nil_of_right_ne_nil _ (List.cons_ne_nil _ _))
  | cons s segments ih =>
      obtain ⟨first, others⟩ := List.forall_mem_cons.mp ordinary
      rw [List.flatMap_cons] at h
      -- the line feed is the whole of this segment, or it is in a later one
      rcases cases_of_append_eq h with ⟨inside, here⟩ | ⟨behind, rfl, later⟩
      · rw [first.eq_nil_of_newline here]
        exact leads_nil .plain
      · exact first.leads.append (ih others later)

theorem ordinary_of_mem_highlight {text : Text} (bare : escape ∉ text) {form : SourceForm}
    {s : Segment} (h : s ∈ highlight text form) : s.Ordinary := by
  have plain := endsPlain_of_mem_highlight h
  obtain ⟨row, among, inside⟩ := List.mem_flatMap.mp h
  rcases List.mem_append.mp inside with own | ending
  · have part : s.text ⊆ row := by
      rw [← (covers_line form row).text_eq]
      exact fun c mem => List.mem_flatMap.mpr ⟨s, own, mem⟩
    refine ⟨plain, fun mem => bare (Text.mem_of_mem_lines among (part mem)), fun newline => ?_⟩
    exact absurd (part newline) (Text.newline_not_mem_of_mem_lines among)
  · obtain rfl := List.mem_singleton.mp ending
    exact ⟨plain, by decide, fun _ => rfl⟩

/-- What is shown on a terminal, its sequences taken out, is what is shown plainly. A segment has
its markup around it and is shown in its own mode; nothing is on in front of it, behind it, at a
line feed or at the end. -/
theorem display_onTerminal_closes {text : Text} (bare : escape ∉ text) (form : SourceForm) :
    unstyled (display onTerminal text form) = display plainly text form ∧
    display onTerminal text form = (highlight text form).flatMap onTerminal ∧
    (∀ front s behind, highlight text form = front ++ s :: behind →
      modeAfter (front.flatMap onTerminal) = .plain ∧
      onTerminal s = s.tag.opening ++ s.text ++ s.tag.closing ∧
      (∀ t more, s.text = t ++ more →
        modeAfter (front.flatMap onTerminal ++ s.tag.opening ++ t) = s.tag.mode) ∧
      modeAfter ((front ++ [s]).flatMap onTerminal) = .plain) ∧
    (∀ before after, display onTerminal text form = before ++ '\n' :: after →
      modeAfter before = .plain) ∧
    modeAfter (display onTerminal text form) = .plain := by
  have ordinary : ∀ s ∈ highlight text form, s.Ordinary := fun _ => ordinary_of_mem_highlight bare
  have shown := display_onTerminal text form
  refine ⟨?_, shown, ?_, ?_, ?_⟩
  · rw [unstyled_display bare, display_plainly]
  · intro front s behind cut
    rw [cut] at ordinary
    obtain ⟨before, rest⟩ := List.forall_mem_append.mp ordinary
    obtain ⟨own, -⟩ := List.forall_mem_cons.mp rest
    have closed := leads_flatMap_onTerminal before
    refine ⟨closed.modeAfter, onTerminal_eq own.plain, ?_, ?_⟩
    · intro t more parts
      have part : escape ∉ t := fun mem => own.bare (parts ▸ List.mem_append_left _ mem)
      exact ((closed.append (leads_opening s.tag)).append (leads_of_bare part _)).modeAfter
    · rw [List.flatMap_append, List.flatMap_singleton]
      exact (closed.append own.leads).modeAfter
  · intro before after h
    exact (leads_of_newline ordinary (shown.symm.trans h)).modeAfter
  · rw [shown]
    exact (leads_flatMap_onTerminal ordinary).modeAfter

/-- A statement with a label, and a comment in italics. -/
theorem display_onTerminal_closes_labelled :
    escape ∉ "10 stop\n! end".toList ∧
      unstyled (display onTerminal "10 stop\n! end".toList .free) = "10 stop\n! end\n".toList ∧
      modeAfter ("\x1b[1m\x1b[38;2;96;152;154m10\x1b[39m\x1b[0m \x1b[1m\x1b[38;2;52;101;164mst".toList) =
        Tag.keyword.mode ∧
      modeAfter (display onTerminal "10 stop\n! end".toList .free) = .plain := by
  have bare : escape ∉ "10 stop\n! end".toList := by decide
  obtain ⟨plainly, -, segments, -, last⟩ := display_onTerminal_closes bare .free
  refine ⟨bare, ?_, ?_, last⟩
  · rw [plainly]
    decide +kernel
  · obtain ⟨-, -, inside, -⟩ := segments [⟨.label, "10".toList⟩, ⟨.neutral, " ".toList⟩]
      ⟨.keyword, "stop".toList⟩
      [⟨.newline, ['\n']⟩, ⟨.comment, "! end".toList⟩, ⟨.newline, ['\n']⟩] (by decide +kernel)
    have shown :
        "\x1b[1m\x1b[38;2;96;152;154m10\x1b[39m\x1b[0m \x1b[1m\x1b[38;2;52;101;164mst".toList =
        [⟨.label, "10".toList⟩, ⟨.neutral, " ".toList⟩].flatMap onTerminal ++ Tag.keyword.opening ++
          "st".toList := by decide +kernel
    exact (congrArg modeAfter shown).trans (inside "st".toList "op".toList (by decide))

end FortranWriter.Highlight
