import FortranWriter.Fragment
import FortranWriter.Proofs.Text.Trimming
/-! Texts that take exactly one line when fragments are flattened, and the lines that other texts
fall into. -/
namespace FortranWriter

namespace Literal

/-- Doubling adds apostrophes only where there is one. -/
theorem mem_of_mem_doubled {t : Text} {c : Char} (h : c ∈ doubled t) : c ∈ t := by
  induction t with
  | nil => exact h
  | cons d t ih =>
      rw [doubled] at h
      split at h
      · case _ quote =>
          rw [quote]
          rcases List.mem_cons.mp h with rfl | again
          · exact List.mem_cons_self
          · rcases List.mem_cons.mp again with rfl | later
            · exact List.mem_cons_self
            · exact List.mem_cons_of_mem _ (ih later)
      · rcases List.mem_cons.mp h with rfl | later
        · exact List.mem_cons_self
        · exact List.mem_cons_of_mem _ (ih later)

theorem mem_quote_cases {t : Text} {c : Char} (h : c ∈ quote t) : c = '\'' ∨ c ∈ t := by
  rw [quote, List.cons_append, List.mem_cons, List.mem_append, List.mem_singleton] at h
  rcases h with first | inside | last
  · exact .inl first
  · exact .inr (mem_of_mem_doubled inside)
  · exact .inl last

end Literal

namespace Text

/-- Something is to be seen, and no line ends in it. -/
structure OneLine (t : Text) : Prop where
  shown : t.isAllBlank = false
  single : t.isSingleLine = true

instance (t : Text) : Decidable t.OneLine :=
  decidable_of_iff (t.isAllBlank = false ∧ t.isSingleLine = true)
    ⟨fun h => ⟨h.1, h.2⟩, fun h => ⟨h.shown, h.single⟩⟩

theorem isSingleLine_iff {t : Text} :
    t.isSingleLine = true ↔ ∀ c ∈ t, c ≠ '\n' ∧ c ≠ '\r' := by
  simp only [isSingleLine, List.all_eq_true, Bool.and_eq_true, bne_iff_ne]

theorem isSingleLine_iff_not_mem {t : Text} : t.isSingleLine = true ↔ '\n' ∉ t ∧ '\r' ∉ t := by
  rw [isSingleLine_iff]
  constructor
  · intro single
    exact ⟨fun mem => (single _ mem).1 rfl, fun mem => (single _ mem).2 rfl⟩
  · rintro ⟨feed, ret⟩ c mem
    exact ⟨ne_of_mem_of_not_mem mem feed, ne_of_mem_of_not_mem mem ret⟩

theorem isSingleLine_of_filled {t : Text} (filled : ∀ c ∈ t, isBlank c = false) :
    t.isSingleLine = true := by
  refine isSingleLine_iff_not_mem.mpr ⟨fun feed => ?_, fun ret => ?_⟩
  · cases filled _ feed
  · cases filled _ ret

theorem isSingleLine_append {t u : Text} (left : t.isSingleLine = true)
    (right : u.isSingleLine = true) : isSingleLine (t ++ u) = true := by
  rw [isSingleLine, List.all_append]
  exact Bool.and_eq_true_iff.mpr ⟨left, right⟩

theorem OneLine.append {t u : Text} (h : OneLine t) (right : u.isSingleLine = true) :
    OneLine (t ++ u) := by
  refine ⟨?_, isSingleLine_append h.single right⟩
  rw [isAllBlank_append, h.shown, Bool.false_and]

theorem OneLine.ne_nil {t : Text} (h : OneLine t) : t ≠ [] := by
  rintro rfl
  cases h.shown

theorem isSingleLine_joinWith {separator : Text} (between : separator.isSingleLine = true) :
    ∀ {items : List Text}, (∀ t ∈ items, t.isSingleLine = true) →
      isSingleLine (joinWith separator items) = true
  | [], _ => rfl
  | [t], single => single t List.mem_cons_self
  | t :: u :: rest, single => by
      have others := isSingleLine_joinWith between (List.forall_mem_cons.mp single).2
      exact isSingleLine_append (isSingleLine_append (single t List.mem_cons_self) between) others

theorem mem_of_mem_trim {t : Text} {c : Char} (h : c ∈ t.trim) : c ∈ t := by
  rw [trim, trimEnd, List.mem_reverse] at h
  have inner := List.mem_reverse.mp ((List.dropWhile_sublist isBlank).subset h)
  exact (List.dropWhile_sublist isBlank).subset inner

theorem isSingleLine_trim {t : Text} (single : t.isSingleLine = true) :
    t.trim.isSingleLine = true :=
  isSingleLine_iff.mpr fun c h => isSingleLine_iff.mp single c (mem_of_mem_trim h)

/-- Trimming leaves nothing at all of a blank text. -/
theorem isAllBlank_trim {t : Text} (some : t.trim ≠ []) : t.trim.isAllBlank = false :=
  (trimmed_trim t).ends.shown some

theorem isSingleLine_quote {t : Text} (single : t.isSingleLine = true) :
    isSingleLine (Literal.quote t) = true := by
  refine isSingleLine_iff.mpr fun c mem => ?_
  rcases Literal.mem_quote_cases mem with rfl | inside
  · decide
  · exact isSingleLine_iff.mp single c inside

theorem oneLine_of_digits {t : Text} (some : t ≠ []) (digits : ∀ c ∈ t, c.isDigit = true) :
    OneLine t := by
  constructor
  · obtain ⟨d, t, rfl⟩ := List.exists_cons_of_ne_nil some
    rw [isAllBlank, List.all_cons, isBlank_of_isDigit (digits d List.mem_cons_self)]
    rfl
  · exact isSingleLine_of_filled fun c mem => isBlank_of_isDigit (digits c mem)

/-- A text in which no line ends is its only line. -/
theorem lines_eq_singleton {t : Text} (some : t ≠ []) (unbroken : '\n' ∉ t) : t.lines = [t] := by
  fun_induction lines t with
  | case1 => exact absurd rfl some
  | case2 rest ih => exact absurd List.mem_cons_self unbroken
  | case3 rest ih => exact absurd (List.mem_cons_of_mem _ List.mem_cons_self) unbroken
  | case4 c rest _ _ none ih =>
      rw [List.mem_cons, not_or] at unbroken
      cases rest with
      | nil => rfl
      | cons d rest =>
          rw [ih (List.cons_ne_nil _ _) unbroken.2] at none
          cases none
  | case5 c rest _ _ line more found ih =>
      rw [List.mem_cons, not_or] at unbroken
      have filled : rest ≠ [] := by
        rintro rfl
        cases found
      rw [ih filled unbroken.2] at found
      cases found
      rfl

theorem newline_not_mem_of_mem_lines {t line : Text} (h : line ∈ t.lines) : '\n' ∉ line := by
  fun_induction lines t generalizing line with
  | case1 => cases h
  | case2 rest ih =>
      rcases List.mem_cons.mp h with rfl | later
      · exact List.not_mem_nil
      · exact ih later
  | case3 rest ih =>
      rcases List.mem_cons.mp h with rfl | later
      · exact List.not_mem_nil
      · exact ih later
  | case4 c rest first _ none ih =>
      rcases List.mem_singleton.mp h with rfl
      intro newline
      exact first (List.mem_singleton.mp newline).symm
  | case5 c rest first _ line more found ih =>
      rw [found] at ih
      rcases List.mem_cons.mp h with rfl | later
      · intro newline
        rcases List.mem_cons.mp newline with same | inner
        · exact first same.symm
        · exact ih List.mem_cons_self inner
      · exact ih (List.mem_cons_of_mem _ later)

theorem OneLine.newline_not_mem {t : Text} (h : OneLine t) : '\n' ∉ t :=
  (isSingleLine_iff_not_mem.mp h.single).1

end Text

theorem Decimal.oneLine_ofNat (n : Nat) : (Decimal.ofNat n).OneLine :=
  Text.oneLine_of_digits (Decimal.ofNat_ne_nil n) fun _ => Decimal.isDigit_of_mem_ofNat

/-- A text on one line becomes that line when it is flattened. -/
theorem Line.ofText_of_oneLine {depth : Nat} {t : Text} (h : t.OneLine) :
    Line.ofText depth t = [⟨depth, t⟩] := by
  rw [Line.ofText, Text.lines_eq_singleton h.ne_nil h.newline_not_mem, List.filter_cons_of_pos]
  · rfl
  · rw [h.shown]; rfl

/-- A text without a line feed is kept as it is, or left out if it is blank. -/
theorem Line.ofText_of_unbroken {depth : Nat} {t : Text} (unbroken : '\n' ∉ t) :
    Line.ofText depth t = ([t].filter fun t => !Text.isAllBlank t).map (Line.mk depth) := by
  cases t with
  | nil => rfl
  | cons c t => rw [Line.ofText, Text.lines_eq_singleton (List.cons_ne_nil _ _) unbroken]

theorem Line.flatMap_ofText {depth : Nat} {texts : List Text}
    (unbroken : ∀ t ∈ texts, '\n' ∉ t) : texts.flatMap (Line.ofText depth) =
      (texts.filter fun t => !Text.isAllBlank t).map (Line.mk depth) := by
  induction texts with
  | nil => rfl
  | cons t texts ih =>
      rw [List.forall_mem_cons] at unbroken
      rw [List.flatMap_cons, Line.ofText_of_unbroken unbroken.1, ih unbroken.2, ← List.map_append,
        ← List.filter_append]
      rfl

theorem Fragment.linesOfAll_eq_flatMap (depth : Nat) (fragments : List Fragment) :
    Fragment.linesOfAll depth fragments = fragments.flatMap (Fragment.linesAt depth) := by
  induction fragments with
  | nil => rfl
  | cons f fragments ih => rw [Fragment.linesOfAll, List.flatMap_cons, ih]

theorem Part.linesOfAll_eq_flatMap (depth : Nat) (parts : List Part) :
    Part.linesOfAll depth parts = parts.flatMap (Part.linesAt depth) := by
  induction parts with
  | nil => rfl
  | cons part parts ih => rw [Part.linesOfAll, List.flatMap_cons, ih]

theorem Part.linesOfAll_map_line (depth : Nat) (texts : List Text) :
    Part.linesOfAll depth (texts.map Part.line) = texts.flatMap (Line.ofText depth) := by
  rw [Part.linesOfAll_eq_flatMap, List.flatMap_map]
  rfl

/-- Text of several lines is flattened to its lines, blank ones left out, as if it were one. -/
theorem Fragment.linesAt_ofText (depth : Nat) (t : Text) :
    (Fragment.ofText t).linesAt depth = Line.ofText depth t := by
  rw [Fragment.ofText]
  split
  · rw [Fragment.linesAt, Part.linesOfAll_map_line]
    exact Line.flatMap_ofText fun _ h => Text.newline_not_mem_of_mem_lines h
  · rfl

end FortranWriter
