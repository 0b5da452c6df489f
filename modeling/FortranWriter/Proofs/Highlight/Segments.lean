import FortranWriter.Highlight.Markup
import FortranWriter.Proofs.Text.Blanks
import FortranWriter.Proofs.Text.Terminated
import Mathlib.Data.List.TakeDrop
/-! Highlighting loses nothing: the segments of a text, none of them empty, are its lines cut up
without a gap or an overlap. -/
namespace FortranWriter.Highlight

/-- Segments that a text can be cut into. -/
structure Covers (segments : List Segment) (t : Text) : Prop where
  filled : ∀ s ∈ segments, s.text ≠ []
  text_eq : textOf segments = t

theorem covers_nil : Covers [] [] :=
  ⟨fun _ h => absurd h List.not_mem_nil, rfl⟩

theorem covers_singleton (tag : Tag) {t : Text} (filled : t ≠ []) : Covers [⟨tag, t⟩] t := by
  constructor
  · intro s h
    rw [List.mem_singleton.mp h]
    exact filled
  · exact List.append_nil t

theorem covers_segment? (tag : Tag) (t : Text) : Covers (segment? tag t) t := by
  cases t with
  | nil => exact covers_nil
  | cons c t => exact covers_singleton tag (List.cons_ne_nil c t)

theorem Covers.append {front back : List Segment} {t u : Text} (first : Covers front t)
    (second : Covers back u) : Covers (front ++ back) (t ++ u) := by
  constructor
  · intro s h
    rcases List.mem_append.mp h with h | h
    · exact first.filled s h
    · exact second.filled s h
  · rw [textOf, List.flatMap_append]
    exact congrArg₂ _ first.text_eq second.text_eq

theorem Covers.cons (tag : Tag) {head rest : Text} {segments : List Segment} (filled : head ≠ [])
    (h : Covers segments rest) : Covers (⟨tag, head⟩ :: segments) (head ++ rest) :=
  (covers_singleton tag filled).append h

/-- Where a character of two texts is, the one behind the other. -/
theorem cases_of_append_eq {t rest front more : Text} {c : Char}
    (h : t ++ rest = front ++ c :: more) :
    (∃ inside, t = front ++ c :: inside) ∨
      ∃ behind, front = t ++ behind ∧ rest = behind ++ c :: more := by
  rcases List.append_eq_append_iff.mp h with ⟨behind, here, cut⟩ | ⟨inside, here, cut⟩
  · exact .inr ⟨behind, here, cut⟩
  · cases inside with
    | nil => exact .inr ⟨[], by rw [here, List.append_nil, List.append_nil], cut.symm⟩
    | cons d inside =>
        obtain ⟨rfl, -⟩ := List.cons_eq_cons.mp cut
        exact .inl ⟨inside, here⟩

def Parts (t : Text) (cut : Text × Text) : Prop :=
  cut.1 ++ cut.2 = t

theorem parts_span (p : Char → Bool) (t : Text) : Parts t (t.span p) := by
  rw [Parts, List.span_eq_takeWhile_dropWhile]
  exact List.takeWhile_append_dropWhile

theorem Parts.behind {t : Text} {cut : Text × Text} (front : Text) (h : Parts t cut) :
    Parts (front ++ t) (Cut.behind front cut) := by
  unfold Parts at h ⊢
  rw [Cut.behind, List.append_assoc, h]

theorem parts_literalRest (t : Text) : Parts t (literalRest t) := by
  fun_induction literalRest t with
  | case1 => rfl
  | case2 rest ih => exact ih.behind ['\'', '\'']
  | case3 rest _ => rfl
  | case4 c rest _ _ ih => exact ih.behind [c]

theorem parts_of_dotted? {t : Text} {cut : Text × Text} (h : dotted? t = some cut) :
    Parts t cut := by
  unfold dotted? at h
  split at h
  · case _ c letters rest found =>
      cases h
      have whole := parts_span Char.isAlpha t
      rw [found] at whole
      exact (List.append_assoc _ _ _).trans whole
  · cases h

theorem parts_fraction (t : Text) : Parts t (fraction t) := by
  unfold fraction
  split
  · exact (parts_span _ _).behind ['.']
  · rfl

/-- What an exponent is read as: nothing, or a letter, a sign or none, and digits. -/
inductive Scaled (t : Text) : Text × Text → Prop
  | none : Scaled t ([], t)
  | some {letter : Char} {sign more : Text} : letter ∈ "eEdD".toList →
      sign = [] ∨ sign = ['+'] ∨ sign = ['-'] → t = letter :: (sign ++ more) →
      Scaled t (Cut.behind (letter :: sign) (more.span Char.isDigit))

theorem scaled_exponent (t : Text) : Scaled t (exponent t) := by
  unfold exponent
  split
  · case _ letter rest =>
      split
      · case _ scale =>
          have known : letter ∈ "eEdD".toList := List.contains_iff_mem.mp scale
          dsimp only
          split
          · exact .none
          · split
            · exact .some known (.inr (.inl rfl)) rfl
            · exact .some known (.inr (.inr rfl)) rfl
            · exact .some known (.inl rfl) rfl
      · exact .none
  · exact .none

theorem parts_exponent (t : Text) : Parts t (exponent t) := by
  have scaled := scaled_exponent t
  generalize exponent t = cut at scaled ⊢
  cases scaled with
  | none => rfl
  | some _ _ text =>
      rw [text]
      exact (parts_span Char.isDigit _).behind _

theorem parts_number (t : Text) : Parts t (number t) := by
  have whole : _ = t := parts_span Char.isDigit t
  have fractional : _ = _ := parts_fraction (t.span Char.isDigit).2
  have scaled : _ = _ := parts_exponent (fraction (t.span Char.isDigit).2).2
  rw [Parts, number]
  simp only [List.append_assoc]
  rw [scaled, fractional, whole]

def Tag.OfStatement : Tag → Prop
  | .indent | .newline | .label | .comment => False
  | _ => True

/-- A cut through a text behind its first character or later, the front
being part of a statement. -/
structure Cut.Holds (t : Text) (cut : Cut) : Prop where
  parts : Parts t (cut.head, cut.rest)
  filled : cut.head ≠ []
  tag : cut.tag.OfStatement

theorem holds_behind (tag : Tag) (allowed : tag.OfStatement) (c : Char) {rest : Text}
    {cut : Text × Text} (h : Parts rest cut) : Cut.Holds (c :: rest) ⟨tag, c :: cut.1, cut.2⟩ :=
  ⟨h.behind [c], List.cons_ne_nil _ _, allowed⟩

theorem holds_alone (tag : Tag) (allowed : tag.OfStatement) (c : Char) (rest : Text) :
    Cut.Holds (c :: rest) ⟨tag, [c], rest⟩ :=
  ⟨rfl, List.cons_ne_nil c [], allowed⟩

theorem ofStatement_wordTag (word : Text) : (wordTag word).OfStatement := by
  unfold wordTag
  simp only
  split_ifs <;> trivial

theorem number_ne_nil {c : Char} (digit : c.isDigit = true) (rest : Text) :
    (number (c :: rest)).1 ≠ [] := by
  rw [number]
  simp only [List.span_eq_takeWhile_dropWhile, List.takeWhile_cons_of_pos digit, List.cons_append]
  exact List.cons_ne_nil _ _

theorem lexeme_holds (c : Char) (rest : Text) : Cut.Holds (c :: rest) (lexeme c rest) := by
  unfold lexeme
  simp only
  split_ifs with quote point operator digit letter mark structure' blank
  · exact holds_behind .string trivial c (parts_literalRest rest)
  · split
    · case _ cut found => exact holds_behind .operator trivial c (parts_of_dotted? found)
    · exact holds_alone .neutral trivial c rest
  · exact holds_behind .operator trivial c (parts_span isOperator rest)
  · exact ⟨parts_number _, number_ne_nil digit rest, trivial⟩
  · exact holds_behind _ (ofStatement_wordTag _) c (parts_span isWordRest rest)
  · exact holds_alone .continuation trivial c rest
  · exact holds_alone .structural trivial c rest
  · exact holds_behind .neutral trivial c (parts_span isBlank rest)
  · exact holds_alone .neutral trivial c rest

/-- Every lexeme takes a character, so that the fuel lasts. -/
theorem length_rest_lexeme_le (c : Char) (rest : Text) :
    (lexeme c rest).rest.length ≤ rest.length := by
  obtain ⟨parts, filled, -⟩ := lexeme_holds c rest
  have size : ((lexeme c rest).head ++ (lexeme c rest).rest).length = (c :: rest).length :=
    congrArg List.length parts
  have some := List.length_pos_iff.mpr filled
  rw [List.length_append, List.length_cons] at size
  omega

/-- The lexemes of a text are parts of a statement, and nothing of the text is left between them. -/
theorem lexemesFrom_holds {fuel : Nat} {t : Text} (enough : t.length ≤ fuel) :
    Covers (lexemesFrom fuel t) t ∧ ∀ s ∈ lexemesFrom fuel t, s.tag.OfStatement := by
  induction fuel generalizing t with
  | zero =>
      obtain rfl := List.length_eq_zero_iff.mp (Nat.le_zero.mp enough)
      exact ⟨covers_nil, fun _ h => absurd h List.not_mem_nil⟩
  | succ fuel ih =>
      cases t with
      | nil => exact ⟨covers_nil, fun _ h => absurd h List.not_mem_nil⟩
      | cons c rest =>
          obtain ⟨parts, filled, tag⟩ := lexeme_holds c rest
          have shorter :=
            Nat.le_trans (length_rest_lexeme_le c rest) (Nat.le_of_succ_le_succ enough)
          obtain ⟨covers, tags⟩ := ih shorter
          have whole := covers.cons (lexeme c rest).tag filled
          rw [parts] at whole
          exact ⟨whole, List.forall_mem_cons.mpr ⟨tag, tags⟩⟩

theorem covers_lexemes (t : Text) : Covers (lexemes t) t :=
  (lexemesFrom_holds (Nat.le_refl _)).1

theorem ofStatement_of_mem_lexemes {s : Segment} {t : Text} (h : s ∈ lexemes t) :
    s.tag.OfStatement :=
  (lexemesFrom_holds (Nat.le_refl _)).2 s h

theorem covers_indented {segments : Text → List Segment} {t : Text}
    (h : Covers (segments t.trimStart) t.trimStart) : Covers (indented segments t) t := by
  have whole := (covers_segment? .indent t.leading).append h
  rw [t.leading_append_trimStart] at whole
  exact whole

theorem columns?_eq_some {line field rest : Text} {mark : Char}
    (h : columns? line = some (field, mark, rest)) : line = field ++ mark :: rest := by
  unfold columns? at h
  split at h
  · case _ found =>
      split at h
      · cases h
        rw [← found, List.take_append_drop]
      · cases h
  · cases h

theorem covers_fixedLine (line : Text) : Covers (fixedLine line) line := by
  unfold fixedLine
  split
  · case _ comment =>
      apply covers_singleton
      rintro rfl
      cases comment
  · split
    · case _ field mark rest found =>
        rw [columns?_eq_some found]
        refine (covers_indented (covers_segment? .label _)).append ?_
        exact (covers_indented (covers_lexemes _)).cons _ (List.cons_ne_nil mark [])
    · exact covers_lexemes line

theorem leadingLabel?_eq_some {t label gap rest : Text}
    (h : leadingLabel? t = some (label, gap, rest)) :
    t = label ++ (gap ++ rest) ∧ label ≠ [] ∧ gap ≠ [] := by
  unfold leadingLabel? at h
  simp only at h
  split at h
  · case _ found =>
      cases h
      simp only [Bool.and_eq_true, Bool.not_eq_true', List.isEmpty_eq_false_iff] at found
      refine ⟨?_, found.1.1, found.2⟩
      rw [List.takeWhile_append_dropWhile, List.takeWhile_append_dropWhile]
  · cases h

theorem covers_freeContent (t : Text) : Covers (freeContent t) t := by
  unfold freeContent
  split
  · exact covers_singleton .comment (List.cons_ne_nil _ _)
  · exact (covers_lexemes _).cons .continuation (List.cons_ne_nil '&' [])
  · split
    · case _ label gap rest found =>
        obtain ⟨whole, some, apart⟩ := leadingLabel?_eq_some found
        rw [whole]
        exact ((covers_lexemes rest).cons .neutral apart).cons .label some
    · exact covers_lexemes t

theorem covers_line (form : SourceForm) (t : Text) : Covers (line form t) t := by
  cases form with
  | fixed => exact covers_fixedLine t
  | free => exact covers_indented (covers_freeContent _)

theorem covers_flatMap {segments : Text → List Segment} {whole : Text → Text}
    (each : ∀ t, Covers (segments t) (whole t)) (texts : List Text) :
    Covers (texts.flatMap segments) (texts.flatMap whole) := by
  induction texts with
  | nil => exact covers_nil
  | cons t texts ih =>
      rw [List.flatMap_cons, List.flatMap_cons]
      exact (each t).append ih

theorem covers_highlight (text : Text) (form : SourceForm) :
    Covers (highlight text form) text.normalised := by
  apply covers_flatMap
  intro t
  exact (covers_line form t).append (covers_singleton .newline (List.cons_ne_nil _ _))

theorem display_plainly (text : Text) (form : SourceForm) :
    display plainly text form = text.normalised := by
  have output : (highlight text form).flatMap plainly = text.normalised :=
    (covers_highlight text form).text_eq
  unfold display
  simp only [output]
  rcases text.getLast?_normalised with none | last
  · rw [none]
    rfl
  · rw [last, beq_self_eq_true, Bool.or_true, if_pos rfl]

/-- The segments of a text make up its lines, each with a line feed, and so does the text shown
without markup; which is the text itself exactly if all its lines end so. -/
theorem highlight_loses_nothing (text : Text) (form : SourceForm) :
    (∀ s ∈ highlight text form, s.text ≠ []) ∧
      textOf (highlight text form) = text.lines.flatMap (· ++ ['\n']) ∧
      display plainly text form = text.lines.flatMap (· ++ ['\n']) ∧
      (display plainly text form = text ↔ text.Terminated) := by
  have covers := covers_highlight text form
  have shown := display_plainly text form
  refine ⟨covers.filled, covers.text_eq, shown, ?_⟩
  rw [shown]
  exact Text.normalised_eq_iff

end FortranWriter.Highlight
