import FortranWriter.Proofs.Text.Lines
import FortranWriter.Proofs.Text.Parts
import FortranWriter.Text.Position
import Mathlib.Data.List.DropRight
/-! Line and column of a byte offset. They add up to the offset and grow with it, and the character
they lead to in the lines of the text is the one at the offset. -/
namespace FortranWriter

namespace Text

/-- A text in two parts, the first of which ends at a byte offset. Past the end of the text, an
offset counts as its end. -/
structure CutAt (source : Text) (offset : Nat) (front rest : Text) : Prop where
  whole : front ++ rest = source
  bytes : front.byteCount = min offset source.byteCount

theorem byteCount_append (t u : Text) : byteCount (t ++ u) = byteCount t + byteCount u := by
  induction t with
  | nil => exact (Nat.zero_add _).symm
  | cons c t ih => rw [List.cons_append, byteCount, ih, byteCount, Nat.add_assoc]

theorem byteCount_eq_zero_iff {t : Text} : t.byteCount = 0 ↔ t = [] := by
  cases t with
  | nil => exact ⟨fun _ => rfl, fun _ => rfl⟩
  | cons c t =>
      have := c.utf8Size_pos
      simp only [byteCount, reduceCtorEq, iff_false]
      omega

theorem lines_cons {c : Char} {t : Text} (other : c ≠ '\n')
    (apart : ¬ (c = '\r' ∧ t.head? = some '\n')) :
    lines (c :: t) = (c :: t.lines.headD []) :: t.lines.tail := by
  rw [lines]
  · cases t.lines with
    | nil => rfl
    | cons line more => rfl
  · exact other
  · rintro rest rfl rfl
    exact apart ⟨rfl, rfl⟩

end Text

namespace Position

/-- One position is before another: on an earlier line, or in front of it on the same. -/
def Precedes (p q : Position) : Prop :=
  p.line < q.line ∨ p.line = q.line ∧ p.column < q.column

/-- A position is in a text behind so many bytes: those of the lines before its own with their line
feeds, and those of the characters before it on its own. -/
def Measures (position : Position) (source : Text) (bytes : Nat) : Prop :=
  ∃ line, (Text.pieces '\n' source)[position.line]? = some line ∧ position.column ≤ line.length ∧
    Text.byteCount (((Text.pieces '\n' source).take position.line).flatMap (· ++ ['\n']) ++
      line.take position.column) = bytes

section Fold
variable {p q r : Position} {c : Char} {t : Text}

theorem Precedes.trans (first : p.Precedes q) (second : q.Precedes r) : p.Precedes r := by
  unfold Precedes at *
  omega

theorem precedes_advance (p : Position) (c : Char) : p.Precedes (p.advance c) := by
  rw [advance]
  split
  · exact .inl (Nat.lt_succ_self _)
  · exact .inr ⟨rfl, Nat.lt_succ_self _⟩

theorem precedes_foldl (p : Position) (some : t ≠ []) : p.Precedes (t.foldl advance p) := by
  induction t generalizing p with
  | nil => exact absurd rfl some
  | cons c t ih =>
      rw [List.foldl_cons]
      by_cases none : t = []
      · rw [none]
        exact precedes_advance p c
      · exact (precedes_advance p c).trans (ih _ none)

theorem behind_append (t u : Text) : behind (t ++ u) = u.foldl advance (behind t) :=
  List.foldl_append

theorem behind_concat (t : Text) (c : Char) : behind (t ++ [c]) = (behind t).advance c :=
  behind_append t [c]

/-- Lines are numbered by the line feeds in front of them, columns by the characters
behind the last of these. -/
theorem line_behind (t : Text) : (behind t).line = t.count '\n' := by
  induction t using List.reverseRecOn with
  | nil => rfl
  | append_singleton t c ih =>
      rw [behind_concat, advance, List.count_append, List.count_singleton, ← ih]
      split
      · case _ newline => rw [newline]; rfl
      · case _ other => rw [if_neg (by simpa using other)]; rfl

theorem column_behind (t : Text) : (behind t).column = (t.rtakeWhile (· != '\n')).length := by
  induction t using List.reverseRecOn with
  | nil => rfl
  | append_singleton t c ih =>
      rw [behind_concat, advance, List.rtakeWhile_concat]
      split
      · case _ newline => rw [newline]; rfl
      · case _ other =>
          rw [if_pos (bne_iff_ne.mpr other), List.length_append, ← ih]
          rfl

/-- What is behind a text depends on where it starts by the line, and by the column
if it has no line feed. -/
theorem foldl_advance (p : Position) (t : Text) : t.foldl advance p =
    ⟨p.line + (behind t).line,
      (if (behind t).line = 0 then p.column else 0) + (behind t).column⟩ := by
  induction t using List.reverseRecOn with
  | nil => rfl
  | append_singleton t c ih =>
      rw [List.foldl_append, ih, behind_concat, List.foldl_cons, List.foldl_nil, advance, advance]
      split
      · rfl
      · rfl

theorem behind_newline_cons (t : Text) :
    behind ('\n' :: t) = ⟨(behind t).line + 1, (behind t).column⟩ := by
  rw [behind, List.foldl_cons, foldl_advance]
  simp [advance, Nat.add_comm]

theorem behind_cons (other : c ≠ '\n') (t : Text) : behind (c :: t) =
    ⟨(behind t).line, (if (behind t).line = 0 then 1 else 0) + (behind t).column⟩ := by
  rw [behind, List.foldl_cons, foldl_advance, advance, if_neg other]
  simp

end Fold

section Lines
variable {c : Char} {rest : Text}

/-- The lines before the position behind a text, and what is before it on its
own, make up the text. -/
theorem exists_piece_behind (front rest : Text) :
    ∃ line, (Text.pieces '\n' (front ++ rest))[(behind front).line]? = some line ∧
      (behind front).column ≤ line.length ∧
      ((Text.pieces '\n' (front ++ rest)).take (behind front).line).flatMap (· ++ ['\n']) ++
        line.take (behind front).column = front := by
  induction front with
  | nil =>
      obtain ⟨piece, more, found⟩ := Text.exists_pieces_eq_cons '\n' rest
      exact ⟨piece, by rw [List.nil_append, found]; rfl, Nat.zero_le _, rfl⟩
  | cons c front ih =>
      obtain ⟨line, there, fits, whole⟩ := ih
      by_cases newline : c = '\n'
      · rw [newline, List.cons_append, behind_newline_cons, Text.pieces_separator_cons]
        exact ⟨line, there, fits, congrArg ('\n' :: ·) whole⟩
      · obtain ⟨piece, more, found⟩ := Text.exists_pieces_eq_cons '\n' (front ++ rest)
        rw [found] at there whole
        rw [List.cons_append, behind_cons newline, Text.pieces_cons newline found]
        -- the character is on the same line as the place behind it, or on an earlier one
        rcases number : (behind front).line with _ | n
        · rw [number] at there whole
          cases there
          rw [if_pos rfl, Nat.add_comm 1]
          exact ⟨c :: line, rfl, Nat.succ_le_succ fits, congrArg (c :: ·) whole⟩
        · rw [number] at there whole
          rw [if_neg (Nat.succ_ne_zero n), Nat.zero_add]
          exact ⟨line, there, fits, congrArg (c :: ·) whole⟩

theorem measures_behind (front rest : Text) :
    (behind front).Measures (front ++ rest) front.byteCount := by
  obtain ⟨line, there, fits, whole⟩ := exists_piece_behind front rest
  exact ⟨line, there, fits, congrArg Text.byteCount whole⟩

/-- A position is in one place only. -/
theorem Measures.unique {p : Position} {source : Text} {m n : Nat} (first : p.Measures source m)
    (second : p.Measures source n) : m = n := by
  obtain ⟨line, there, -, rfl⟩ := first
  obtain ⟨other, here, -, rfl⟩ := second
  cases there.symm.trans here
  rfl

/-- A character that ends no line is found in the lines of a text by the position in front of it. -/
theorem exists_line_behind (front : Text) (other : c ≠ '\n')
    (apart : ¬ (c = '\r' ∧ rest.head? = some '\n')) :
    ∃ t, (Text.lines (front ++ c :: rest))[(behind front).line]? = some t ∧
      t[(behind front).column]? = some c := by
  induction front with
  | nil => exact ⟨_, by rw [List.nil_append, Text.lines_cons other apart]; rfl, rfl⟩
  | cons d front ih =>
      obtain ⟨line, there, char⟩ := ih
      rw [List.cons_append]
      by_cases newline : d = '\n'
      · rw [newline, behind_newline_cons, Text.lines]
        exact ⟨line, there, char⟩
      by_cases carriage : d = '\r' ∧ (front ++ c :: rest).head? = some '\n'
      -- both characters end the same line, and the second one alone would end it in the same place
      · obtain ⟨rfl, feed⟩ := carriage
        cases front with
        | nil => exact absurd (Option.some.inj feed) other
        | cons e front =>
            cases feed
            rw [behind_cons newline]
            rw [behind_newline_cons, List.cons_append, Text.lines] at there
            rw [behind_newline_cons] at char ⊢
            rw [List.cons_append, Text.lines, if_neg (Nat.succ_ne_zero _), Nat.zero_add]
            exact ⟨line, there, char⟩
      · rw [behind_cons newline, Text.lines_cons newline carriage]
        rcases number : (behind front).line with _ | n
        · rw [number] at there
          obtain ⟨more, found⟩ := List.head?_eq_some_iff.mp (List.head?_eq_getElem?.trans there)
          rw [found]
          refine ⟨d :: line, rfl, ?_⟩
          rw [if_pos rfl, Nat.add_comm 1]
          exact char
        · rw [number] at there
          refine ⟨line, ?_, ?_⟩
          · rw [List.getElem?_cons_succ, List.getElem?_tail]
            exact there
          · rw [if_neg (Nat.succ_ne_zero n), Nat.zero_add]
            exact char

end Lines

section Offset
variable {source front rest : Text} {offset : Nat}

theorem upTo_byteCount (front rest : Text) : upTo front.byteCount (front ++ rest) = front := by
  induction front with
  | nil =>
      cases rest with
      | nil => rfl
      | cons c rest => exact if_pos c.utf8Size_pos
  | cons c front ih =>
      rw [List.cons_append, upTo, Text.byteCount, if_neg (Nat.not_lt.mpr (Nat.le_add_right _ _)),
        Nat.add_sub_cancel_left, ih]

theorem upTo_of_le (past : source.byteCount ≤ offset) : upTo offset source = source := by
  induction source generalizing offset with
  | nil => rfl
  | cons c source ih =>
      rw [Text.byteCount] at past
      rw [upTo, if_neg (by omega), ih (by omega)]

end Offset

end Position

section
variable {source front rest : Text} {offset : Nat}

theorem Text.CutAt.upTo_eq (cut : source.CutAt offset front rest) :
    Position.upTo offset source = front := by
  obtain ⟨rfl, bytes⟩ := cut
  rw [byteCount_append] at bytes
  rcases Nat.le_total offset (front.byteCount + rest.byteCount) with inside | past
  · rw [Nat.min_eq_left inside] at bytes
    rw [← bytes, Position.upTo_byteCount]
  · have none : rest = [] := byteCount_eq_zero_iff.mp (by omega)
    rw [none, List.append_nil, Position.upTo_of_le]
    omega

theorem Text.CutAt.ofOffset_eq (cut : source.CutAt offset front rest) :
    Position.ofOffset source offset = Position.behind front :=
  congrArg Position.behind cut.upTo_eq

/-- Of two cuts of a text the later one has more in front. -/
theorem Text.CutAt.exists_append {later : Text} {further : Text} {beyond : Nat}
    (cut : source.CutAt offset front rest) (next : source.CutAt beyond later further)
    (less : front.byteCount < later.byteCount) :
    ∃ between, between ≠ [] ∧ later = front ++ between := by
  have first : front <+: source := ⟨rest, cut.whole⟩
  have second : later <+: source := ⟨further, next.whole⟩
  rcases List.prefix_or_prefix_of_prefix first second with ⟨between, rfl⟩ | ⟨between, rfl⟩
  · refine ⟨between, ?_, rfl⟩
    rintro rfl
    rw [List.append_nil] at less
    exact absurd less (Nat.lt_irrefl _)
  · rw [byteCount_append] at less
    omega

/-- The position of a byte offset at which a character begins, or the text ends, adds up to that
offset. It comes before those of greater offsets, so no two have the same. The character at the
offset, if it does not end a line, is found by the position in the lines of the text. -/
theorem Position.ofOffset_measures (cut : source.CutAt offset front rest) :
    (ofOffset source offset).Measures source (min offset source.byteCount) ∧
    (∀ beyond later further, source.CutAt beyond later further →
      (min offset source.byteCount < min beyond source.byteCount →
        (ofOffset source offset).Precedes (ofOffset source beyond)) ∧
      (ofOffset source beyond = ofOffset source offset →
        min beyond source.byteCount = min offset source.byteCount)) ∧
    ∀ c behind, rest = c :: behind → c ≠ '\n' → ¬ (c = '\r' ∧ behind.head? = some '\n') →
      ∃ t, source.lines[(ofOffset source offset).line]? = some t ∧
        t[(ofOffset source offset).column]? = some c := by
  have measures : ∀ {n : Nat} {t u : Text}, source.CutAt n t u →
      (ofOffset source n).Measures source (min n source.byteCount) := by
    intro n t u other
    have found := measures_behind t u
    rwa [other.whole, other.bytes, ← other.ofOffset_eq] at found
  refine ⟨measures cut, fun beyond later further next => ⟨fun less => ?_, fun same => ?_⟩, ?_⟩
  · rw [← cut.bytes, ← next.bytes] at less
    obtain ⟨between, some, more⟩ := cut.exists_append next less
    rw [cut.ofOffset_eq, next.ofOffset_eq, more, behind_append]
    exact precedes_foldl _ some
  · have found := measures next
    rw [same] at found
    exact found.unique (measures cut)
  · rintro c behind rfl other apart
    rw [cut.ofOffset_eq, ← cut.whole]
    exact exists_line_behind front other apart

/-- The sixth byte of a text of eight is behind a line that ends in two
characters, and a wide one. -/
theorem Position.ofOffset_measures_wide :
    Text.CutAt "é\r\n§x\n".toList 6 "é\r\n§".toList "x\n".toList ∧
    ofOffset "é\r\n§x\n".toList 6 = ⟨1, 1⟩ ∧
    (ofOffset "é\r\n§x\n".toList 6).Measures "é\r\n§x\n".toList 6 ∧
    (ofOffset "é\r\n§x\n".toList 6).Precedes (ofOffset "é\r\n§x\n".toList 99) ∧
    ∃ t, (Text.lines "é\r\n§x\n".toList)[1]? = some t ∧ t[1]? = some 'x' := by
  have cut : Text.CutAt "é\r\n§x\n".toList 6 "é\r\n§".toList "x\n".toList := ⟨rfl, by decide⟩
  have last : Text.CutAt "é\r\n§x\n".toList 99 "é\r\n§x\n".toList [] := ⟨rfl, by decide⟩
  obtain ⟨measures, ordered, char⟩ := ofOffset_measures cut
  exact ⟨cut, by decide, measures, (ordered 99 _ _ last).1 (by decide),
    char 'x' ['\n'] rfl (by decide) (by decide)⟩

end

end FortranWriter
