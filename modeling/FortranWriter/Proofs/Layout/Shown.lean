import FortranWriter.Proofs.Fragment.Nesting
import FortranWriter.Proofs.Layout.FreeForm
import Mathlib.Data.List.Chain
/-! Physical lines on which nothing is to be seen but the marks of the layout: they arise where a
statement that is indented by its own text is broken in front of its first word. -/
namespace FortranWriter

/-- No two blanks stand side by side, and none at the end. -/
structure Text.Spaced (t : Text) : Prop where
  single : t.IsChain fun c d => isBlank c = true → isBlank d = false
  filled : ∀ c, t.getLast? = some c → isBlank c = false

namespace Text

theorem shown_append_right (t : Text) {u : Text} (h : u.isAllBlank = false) :
    isAllBlank (t ++ u) = false := by
  rw [isAllBlank_append, h, Bool.and_false]

theorem shown_of_mem {t : Text} {c : Char} (mem : c ∈ t) (h : isBlank c = false) :
    t.isAllBlank = false :=
  List.all_eq_false.mpr ⟨c, mem, by rw [h]; exact Bool.false_ne_true⟩

theorem shown_of_isChain {t : Text}
    (single : t.IsChain fun c d => isBlank c = true → isBlank d = false) (wide : 2 ≤ t.length) :
    t.isAllBlank = false := by
  obtain ⟨c, t, rfl⟩ := List.exists_cons_of_length_pos (Nat.lt_of_lt_of_le Nat.zero_lt_two wide)
  obtain ⟨d, t, rfl⟩ := List.exists_cons_of_length_pos (Nat.lt_of_succ_lt_succ wide)
  have second := (List.isChain_cons_cons.mp single).1
  cases first : isBlank c with
  | false => exact shown_of_mem List.mem_cons_self first
  | true => exact shown_of_mem (List.mem_cons_of_mem _ List.mem_cons_self) (second first)

theorem Spaced.shown {t : Text} (h : t.Spaced) (some : t ≠ []) : t.isAllBlank = false := by
  have last := List.getLast?_eq_some_getLast some
  exact shown_of_mem (List.getLast_mem some) (h.filled _ last)

theorem Spaced.of_append {t u : Text} (h : Spaced (t ++ u)) : u.Spaced := by
  refine ⟨h.single.suffix (List.suffix_append t u), fun c last => h.filled c ?_⟩
  rw [List.getLast?_append, last, Option.some_or]

theorem Spaced.indented {n : Nat} {t : Text} (h : t.Spaced) (begun : t.BeginsFilled) (some : t ≠ [])
    (few : n < 2) : Spaced (spaces n ++ t) := by
  obtain ⟨c, t, rfl⟩ := List.exists_cons_of_ne_nil some
  have same : spaces n = [] ∨ spaces n = [' '] := by
    cases n with
    | zero => exact .inl rfl
    | succ n => exact .inr (by rw [show n = 0 by omega]; rfl)
  rcases same with none | one
  · rw [none]
    exact h
  · rw [one]
    refine ⟨List.isChain_cons_cons.mpr ⟨fun _ => begun c rfl, h.single⟩,
      fun d last => h.filled d ?_⟩
    rw [List.singleton_append, List.getLast?_cons_cons] at last
    exact last

theorem length_spaces_append (n : Nat) (t : Text) : (spaces n ++ t).length = n + t.length := by
  rw [List.length_append, length_spaces]

theorem take_spaces_append (n k : Nat) (t : Text) :
    (spaces n ++ t).take k = spaces (min k n) ++ t.take (k - n) := by
  rw [List.take_append, spaces, List.take_replicate, List.length_replicate]
  rfl

/-- So many spaces, and behind them no blanks side by side or at the end. -/
structure Indents (t : Text) (n : Nat) (u : Text) : Prop where
  parts : t = spaces n ++ u
  begun : u.BeginsFilled
  spaced : u.Spaced

end Text

namespace Layout
open FreeForm (freeLine_of_not_comment)

theorem exists_lastBreak?_iff {inside : Bool} {position : Nat} (positive : 0 < position)
    {t : Text} :
    (∃ found, lastBreak? inside position t = some found) ↔
      ∃ front rest, t = front ++ ' ' :: rest ∧ Literal.insideAfter inside front = false := by
  constructor
  · rintro ⟨found, h⟩
    obtain ⟨front, rest, text, -, -, outside⟩ := lastBreak?_spec h
    exact ⟨front, rest, text, outside⟩
  · rintro ⟨front, rest, rfl, outside⟩
    have space :
        lastBreak? false (position + front.length) [' '] = some (position + front.length) :=
      if_pos ⟨rfl, rfl, Nat.add_pos_left positive _⟩
    rw [lastBreak?_append, outside, ← List.singleton_append, lastBreak?_append, space]
    cases lastBreak? (Literal.insideAfter false [' '])
        (position + front.length + [' '].length) rest with
    | some later => exact ⟨later, rfl⟩
    | none => exact ⟨_, rfl⟩

theorem lastBreak?_spaces {position n : Nat} (later : 0 < position + n) :
    lastBreak? false position (Text.spaces (n + 1)) = some (position + n) := by
  have last : Text.spaces (n + 1) = Text.spaces n ++ [' '] := List.replicate_succ'
  have space : lastBreak? false (position + n) [' '] = some (position + n) :=
    if_pos ⟨rfl, rfl, later⟩
  rw [last, lastBreak?_append, insideAfter_spaces, Text.length_spaces, space]
  rfl

theorem Rounds.shown {rest capacity : Nat} {inside : Bool} {t : Text} {pieces : List Piece}
    (h : Rounds rest capacity inside t pieces) (restWide : 2 ≤ rest) (wide : 2 ≤ capacity)
    (spaced : t.Spaced) (some : t ≠ []) : ∀ piece ∈ pieces, piece.text.isAllBlank = false := by
  induction h with
  | last => exact List.forall_mem_singleton.mpr (spaced.shown some)
  | next long round _ ih =>
      have text := round.append_eq
      rw [← text] at spaced
      have others := ih restWide spaced.of_append (round.left_ne_nil long)
      refine List.forall_mem_cons.mpr ⟨?_, others⟩
      cases round with
      | atBlank found =>
          obtain ⟨after, -, left, front, -⟩ := lastBreak?_window found
          rw [left] at spaced
          -- the last character in front of the blank of the break is none itself
          have apart := spaced.single.rel_getLast_head_of_append front (List.cons_ne_nil _ _)
          refine Text.shown_of_mem (List.getLast_mem front) (Bool.eq_false_iff.mpr fun blank => ?_)
          cases apart blank
      | within =>
          rw [text] at spaced
          refine Text.shown_of_isChain (spaced.single.take _) ?_
          rw [List.length_take_of_le (Nat.le_of_lt long)]
          exact wide

theorem shown_split {first rest : Nat} (wide : 2 ≤ first) (restWide : 2 ≤ rest) {t : Text}
    (spaced : t.Spaced) (some : t ≠ []) :
    ∀ piece ∈ split first rest t, piece.text.isAllBlank = false :=
  (rounds_split (Nat.zero_lt_of_lt wide) (Nat.zero_lt_of_lt restWide) t).shown
    restWide wide spaced some

/-- In a window on an indented text the last break is behind the indentation, or else at its end. -/
theorem lastBreak?_window_indented {first n : Nat} (u : Text) (wide : 2 ≤ first) (several : 2 ≤ n) :
    lastBreak? false 0 ((Text.spaces n ++ u).take first) =
      (lastBreak? false (min first n) (u.take (first - n))).or (some (min first n - 1)) := by
  obtain ⟨m, size⟩ : ∃ m, min first n = m + 1 := ⟨min first n - 1, by omega⟩
  rw [Text.take_spaces_append, lastBreak?_append, insideAfter_spaces, Text.length_spaces, size,
    lastBreak?_spaces (by omega), Nat.zero_add, Nat.zero_add, Nat.add_sub_cancel]

section
variable {first n : Nat} {u : Text} (wide : 2 ≤ first) (long : first < n + u.length)
include wide long

theorem not_shown_split (several : 2 ≤ n)
    (unbroken : lastBreak? false (min first n) (u.take (first - n)) = none) (rest : Nat) :
    ∃ piece ∈ split first rest (Text.spaces n ++ u), piece.text.isAllBlank = true := by
  have size := Text.length_spaces_append n u
  obtain ⟨fuel, total⟩ := Nat.exists_eq_succ_of_ne_zero (Nat.ne_zero_of_lt long)
  have found := lastBreak?_window_indented u wide several
  rw [unbroken, Option.none_or] at found
  have inside : min first n - 1 ≤ n := by omega
  have front : (Text.spaces n ++ u).take (min first n - 1) = Text.spaces (min first n - 1) := by
    rw [Text.take_spaces_append, Nat.sub_eq_zero_of_le inside, Nat.min_eq_left inside,
      List.take_zero, List.append_nil]
  rw [split, size, total, (Round.atBlank found).splitFrom_eq (by rw [size]; exact long), front]
  exact ⟨_, List.mem_cons_self, Text.isAllBlank_spaces _⟩

theorem shown_split_of_break {rest : Nat} (several : 2 ≤ n) (restWide : 2 ≤ rest)
    (begun : u.BeginsFilled) (spaced : u.Spaced) {found : Nat}
    (broken : lastBreak? false (min first n) (u.take (first - n)) = some found) :
    ∀ piece ∈ split first rest (Text.spaces n ++ u), piece.text.isAllBlank = false := by
  have size := Text.length_spaces_append n u
  have last := lastBreak?_window_indented u wide several
  rw [broken, Option.some_or] at last
  -- the break is behind the indentation and behind something that is to be seen
  obtain ⟨front, more, window, place, -, -⟩ := lastBreak?_spec broken
  have narrow := List.length_take_le (first - n) u
  have shorter := List.length_take_le' (first - n) u
  rw [window, List.length_append, List.length_cons] at narrow shorter
  have position : found = n + front.length := by omega
  have head := congrArg List.head? window
  rw [List.head?_take, if_neg (by omega)] at head
  have filled : front.isAllBlank = false := by
    cases front with
    | nil =>
        have space : isBlank ' ' = false := begun ' ' head
        cases space
    | cons c front => exact Text.shown_of_mem List.mem_cons_self (begun c head)
  have front_eq : u.take front.length = front := by
    have cut := congrArg (List.take front.length) window
    rw [List.take_take, Nat.min_eq_left (by omega), List.take_left] at cut
    exact cut
  have piece : (Text.spaces n ++ u).take found = Text.spaces n ++ front := by
    rw [Text.take_spaces_append, Nat.min_eq_right (by omega), position, Nat.add_sub_cancel_left,
      front_eq]
  have behind : (Text.spaces n ++ u).drop found = u.drop front.length := by
    rw [position, ← List.drop_drop, List.drop_left' (Text.length_spaces n)]
  have rounds :
      Rounds rest first false (Text.spaces n ++ u) (split first rest (Text.spaces n ++ u)) :=
    rounds_split (Nat.zero_lt_of_lt wide) (Nat.zero_lt_of_lt restWide) _
  obtain ⟨others, parts, left⟩ := rounds.of_break (by rw [size]; exact long) last
  rw [parts, piece, List.forall_mem_cons]
  rw [behind] at left
  constructor
  · exact Text.shown_append_right _ filled
  · rw [← List.take_append_drop front.length u] at spaced
    refine left.shown restWide restWide spaced.of_append ?_
    exact List.ne_nil_of_length_pos (by rw [List.length_drop]; omega)

end

/-- The pieces of an indented text all show something exactly if it is hardly indented, or taken
whole, or broken behind its indentation. -/
theorem shown_split_iff {first rest n : Nat} {u : Text} (wide : 2 ≤ first) (restWide : 2 ≤ rest)
    (some : u ≠ []) (begun : u.BeginsFilled) (spaced : u.Spaced) :
    (∀ piece ∈ split first rest (Text.spaces n ++ u), piece.text.isAllBlank = false) ↔
      n < 2 ∨ n + u.length ≤ first ∨ ∃ front more,
        u.take (first - n) = front ++ ' ' :: more ∧ Literal.insideAfter false front = false := by
  by_cases few : n < 2
  · exact iff_of_true (shown_split wide restWide (spaced.indented begun some few)
      (List.append_ne_nil_of_right_ne_nil _ some)) (.inl few)
  · by_cases fits : n + u.length ≤ first
    · rw [split_of_fits (by rw [Text.length_spaces_append]; exact fits), List.forall_mem_singleton]
      exact iff_of_true (Text.shown_append_right _ (spaced.shown some)) (.inr (.inl fits))
    · have long : first < n + u.length := Nat.lt_of_not_le fits
      have several : 2 ≤ n := Nat.le_of_not_lt few
      have positive : 0 < min first n := by omega
      rw [or_iff_right few, or_iff_right fits, ← exists_lastBreak?_iff positive]
      cases broken : lastBreak? false (min first n) (u.take (first - n)) with
      | some found =>
          exact iff_of_true (shown_split_of_break wide long several restWide begun spaced broken)
            ⟨found, rfl⟩
      | none =>
          obtain ⟨piece, mem, blank⟩ := not_shown_split wide long several broken rest
          refine iff_of_false (fun all => ?_) (fun ⟨_, h⟩ => nomatch h)
          rw [all piece mem] at blank
          cases blank

/-- What physical lines have of a statement in fixed form: all but the first begin with columns that
the layout put there. -/
def bareFixed : List Text → List Text
  | [] => []
  | first :: rest => first :: rest.map fun row => row.drop 6

/-- What a physical line has behind its mark, if it resumes a statement. -/
def behindMark (resumed : Bool) (row : Text) : Text :=
  if resumed then (Text.trimStart row).drop 1 else row

/-- What physical lines have of a statement in free form: all but the last end in a mark, and all
but the first begin with one behind the indentation. -/
def bareFree (resumed : Bool) : List Text → List Text
  | [] => []
  | [row] => [behindMark resumed row]
  | row :: next :: rest => behindMark resumed row.dropLast :: bareFree true (next :: rest)

/-- Physical lines without the marks of the layout. -/
def bare : SourceForm → List Text → List Text
  | .fixed => bareFixed
  | .free => bareFree false

theorem bareFixed_fixedStatement (limit : Nat) (field indent statement : Text) :
    ∃ first rest, piecesWithin limit (field ++ indent).length (field ++ indent).length 6 statement =
        first :: rest ∧
      bareFixed (fixedStatement limit field indent statement) =
        (field ++ indent ++ first.text) :: rest.map Piece.text := by
  obtain ⟨first, rest, parts, rows⟩ := exists_fixedStatement_eq limit field indent statement
  refine ⟨first, rest, parts, ?_⟩
  rw [rows, bareFixed, List.map_map]
  rfl

theorem isAllBlank_behindMark {indent : Text} (blank : indent.isAllBlank = true) (resumed : Bool)
    (t : Text) : (behindMark resumed (indent ++ (if resumed then ['&'] else []) ++ t)).isAllBlank =
      t.isAllBlank := by
  cases resumed with
  | false =>
      rw [behindMark, if_neg Bool.false_ne_true, if_neg Bool.false_ne_true, List.append_nil,
        Text.isAllBlank_append, blank, Bool.true_and]
  | true =>
      have mark : Text.BeginsFilled ('&' :: t) := Text.beginsFilled_cons (by decide)
      rw [behindMark, if_pos rfl, if_pos rfl, List.append_assoc, List.singleton_append,
        Text.trimStart_append blank mark, List.drop_one, List.tail_cons]

theorem map_isAllBlank_bareFree {indent : Text} (blank : indent.isAllBlank = true) (resumed : Bool)
    (pieces : List Piece) :
    (bareFree resumed (freePieces indent (if resumed then ['&'] else []) pieces)).map
      Text.isAllBlank = pieces.map fun piece => piece.text.isAllBlank := by
  induction pieces generalizing resumed with
  | nil => rfl
  | cons piece pieces ih =>
      cases pieces with
      | nil =>
          rw [freePieces, bareFree, List.map_singleton, List.map_singleton,
            isAllBlank_behindMark blank]
      | cons next pieces =>
          obtain ⟨second, rest, more⟩ : ∃ second rest,
              freePieces indent ['&'] (next :: pieces) = second :: rest := by
            cases pieces with
            | nil => exact ⟨_, _, rfl⟩
            | cons => exact ⟨_, _, rfl⟩
          have others := ih true
          rw [if_pos rfl, more] at others
          rw [freePieces, more, bareFree, List.map_cons, others, List.map_cons]
          congr 1
          -- the space in front of the mark of a break at a blank is blank, too
          cases piece.cut with
          | true => rw [if_pos rfl, List.dropLast_concat, isAllBlank_behindMark blank]
          | false =>
              have space : indent ++ (if resumed then ['&'] else []) ++ piece.text ++ [' ', '&'] =
                  indent ++ (if resumed then ['&'] else []) ++ (piece.text ++ [' ']) ++ ['&'] := by
                simp only [List.append_assoc, List.cons_append, List.nil_append]
              rw [if_neg Bool.false_ne_true, space, List.dropLast_concat,
                isAllBlank_behindMark blank, Text.isAllBlank_append]
              exact Bool.and_true _

theorem length_freePieces (indent mark : Text) (pieces : List Piece) :
    (freePieces indent mark pieces).length = pieces.length := by
  induction pieces generalizing mark with
  | nil => rfl
  | cons piece pieces ih =>
      cases pieces with
      | nil => rfl
      | cons next pieces => exact congrArg Nat.succ (ih ['&'])

theorem length_bareFixed (rows : List Text) : (bareFixed rows).length = rows.length := by
  cases rows with
  | nil => rfl
  | cons first rest => exact congrArg Nat.succ (List.length_map _)

section
variable {limit lead first rest n : Nat} {statement u : Text}

theorem shown_of_mem_piecesWithin (spaced : statement.Spaced) (some : statement ≠ []) :
    ∀ piece ∈ piecesWithin limit lead first rest statement, piece.text.isAllBlank = false := by
  have wide (used : Nat) : 2 ≤ capacity limit used :=
    Nat.le_trans (by decide) (minimumWidth_le_capacity limit used)
  rw [piecesWithin]
  split
  · exact List.forall_mem_singleton.mpr (spaced.shown some)
  · exact shown_split (wide first) (wide rest) spaced some

theorem shown_piecesWithin_iff (some : u ≠ []) (begun : u.BeginsFilled) (spaced : u.Spaced) :
    (∀ piece ∈ piecesWithin limit lead first rest (Text.spaces n ++ u),
        piece.text.isAllBlank = false) ↔
      n < 2 ∨ (piecesWithin limit lead first rest (Text.spaces n ++ u)).length = 1 ∨
        ∃ front more, u.take (capacity limit first - n) = front ++ ' ' :: more ∧
          Literal.insideAfter false front = false := by
  have wide (used : Nat) : 2 ≤ capacity limit used :=
    Nat.le_trans (by decide) (minimumWidth_le_capacity limit used)
  rw [piecesWithin]
  split
  · rw [List.forall_mem_singleton]
    exact iff_of_true (Text.shown_append_right _ (spaced.shown some)) (.inr (.inl rfl))
  · rw [shown_split_iff (wide first) (wide rest) some begun spaced, length_split_eq_one_iff,
      Text.length_spaces_append]

end

theorem shown_bareFree_iff {indent : Text} (blank : indent.isAllBlank = true) (limit : Nat)
    (statement : Text) : (∀ row ∈ bareFree false (freeStatement limit indent statement),
        row.isAllBlank = false) ↔
      ∀ piece ∈ piecesWithin limit indent.length (indent.length + 2) (indent.length + 3) statement,
        piece.text.isAllBlank = false := by
  have blanks := map_isAllBlank_bareFree blank false
    (piecesWithin limit indent.length (indent.length + 2) (indent.length + 3) statement)
  rw [if_neg Bool.false_ne_true, ← freeStatement_eq] at blanks
  rw [← List.forall_mem_map (P := (· = false)), blanks, List.forall_mem_map]

theorem shown_bareFixed_iff {field indent : Text} (blank : (field ++ indent).isAllBlank = true)
    (limit : Nat) (statement : Text) :
    (∀ row ∈ bareFixed (fixedStatement limit field indent statement), row.isAllBlank = false) ↔
      ∀ piece ∈ piecesWithin limit (field ++ indent).length (field ++ indent).length 6 statement,
        piece.text.isAllBlank = false := by
  obtain ⟨first, rest, parts, rows⟩ := bareFixed_fixedStatement limit field indent statement
  rw [parts, rows, List.forall_mem_cons, List.forall_mem_cons, List.forall_mem_map,
    Text.isAllBlank_append, blank, Bool.true_and]

theorem shown_bareFixed_of_spaced {limit : Nat} {field indent statement : Text}
    (spaced : statement.Spaced) (some : statement ≠ []) :
    ∀ row ∈ bareFixed (fixedStatement limit field indent statement), row.isAllBlank = false := by
  obtain ⟨first, rest, parts, rows⟩ := bareFixed_fixedStatement limit field indent statement
  have pieces : ∀ piece ∈ first :: rest, piece.text.isAllBlank = false := by
    rw [← parts]
    exact shown_of_mem_piecesWithin spaced some
  obtain ⟨begun, others⟩ := List.forall_mem_cons.mp pieces
  rw [rows, List.forall_mem_cons, List.forall_mem_map]
  exact ⟨Text.shown_append_right _ begun, others⟩

theorem length_fixedStatement (limit : Nat) (field indent statement : Text) :
    (fixedStatement limit field indent statement).length =
      (piecesWithin limit
        (field ++ indent).length (field ++ indent).length 6 statement).length := by
  obtain ⟨first, rest, parts, rows⟩ := bareFixed_fixedStatement limit field indent statement
  rw [← length_bareFixed, rows, parts, List.length_cons, List.length_cons, List.length_map]

theorem spaced_of_isLabelled {t lead label statement u : Text} {n : Nat}
    (shape : IsLabelled t lead label statement) (indents : t.Indents n u) : statement.Spaced := by
  obtain ⟨gap, text, -⟩ := shape.parts
  obtain ⟨d, others, rfl⟩ := List.exists_cons_of_length_pos shape.one_le
  have begun : Text.BeginsFilled (d :: others ++ (gap ++ statement)) :=
    Text.beginsFilled_cons (isBlank_of_isDigit (shape.digits d List.mem_cons_self))
  -- the blanks in front are the same ones, so the label begins what is indented
  have front := Text.leading_append shape.lead_blank begun
  rw [← text, indents.parts, Text.leading_append (Text.isAllBlank_spaces n) indents.begun] at front
  have same := indents.parts
  rw [text, front, List.append_cancel_left_eq] at same
  have spaced := indents.spaced
  rw [← same] at spaced
  exact spaced.of_append.of_append

def usedColumns (form : SourceForm) (line : Line) : Nat :=
  match form with
  | .fixed => 6 + line.indentation
  | .free => line.indentation + 2

def Breakable (t : Text) : Prop :=
  ∃ front rest, t = front ++ ' ' :: rest ∧ front.count '\'' % 2 = 0

theorem shown_bare_line_iff {form : SourceForm} {limit n : Nat} {line : Line} {u : Text}
    (statement : ∀ content, ¬ IsComment line.text content) (indents : line.text.Indents n u)
    (some : u ≠ []) :
    (∀ row ∈ bare form (Layout.line form limit line), row.isAllBlank = false) ↔
      n < 2 ∨ (Layout.line form limit line).length = 1 ∨
        (form = .fixed ∧ ∃ lead label rest, IsLabelled line.text lead label rest) ∨
        Breakable (u.take (capacity limit (usedColumns form line) - n)) := by
  obtain ⟨text, begun, spaced⟩ := indents
  simp only [Breakable, ← Literal.insideAfter_false_iff]
  have size : (Text.spaces line.indentation).length = line.indentation := Text.length_spaces _
  cases form with
  | free =>
      rw [Layout.line, freeLine_of_not_comment limit statement, bare,
        shown_bareFree_iff (Text.isAllBlank_spaces _), size, text,
        shown_piecesWithin_iff some begun spaced, freeStatement_eq, length_freePieces, size]
      have other : ¬ (SourceForm.free = .fixed ∧ ∃ lead label rest,
          IsLabelled (Text.spaces n ++ u) lead label rest) := by
        rintro ⟨fixed, -⟩
        cases fixed
      rw [or_iff_right other]
      rfl
  | fixed =>
      rw [Layout.line, fixedLine, bare]
      cases found : read line.text with
      | comment content => exact absurd ((read_eq_comment_iff _ _).mp found) (statement content)
      | labelled lead label rest =>
          have shape := (read_eq_labelled_iff _ _ _ _).mp found
          have spacedRest := spaced_of_isLabelled shape ⟨text, begun, spaced⟩
          exact iff_of_true (shown_bareFixed_of_spaced spacedRest shape.nonempty)
            (.inr (.inr (.inl ⟨rfl, lead, label, rest, shape⟩)))
      | plain whole =>
          obtain ⟨rfl, -, unlabelled⟩ := (read_eq_plain_iff _ _).mp found
          have other : ¬ (SourceForm.fixed = .fixed ∧ ∃ lead label rest,
              IsLabelled line.text lead label rest) := by
            rintro ⟨-, lead, label, rest, shape⟩
            exact unlabelled lead label rest shape
          have blank : (labelField [] ++ Text.spaces line.indentation).isAllBlank = true := by
            rw [Text.isAllBlank_append, Text.isAllBlank_spaces]
            rfl
          have lead : (labelField [] ++ Text.spaces line.indentation).length =
              6 + line.indentation := by
            rw [List.length_append, size]
            rfl
          rw [or_iff_right other, shown_bareFixed_iff blank, length_fixedStatement, lead, text,
            shown_piecesWithin_iff some begun spaced]
          rfl

/-- For every line that is no comment and has no blanks side by side but its indentation, and none
at its end: each of its physical lines shows something besides the marks of the layout exactly if it
is indented by a space at most, or is not continued, or gives its indentation up to a label, or can
be broken behind the indentation within its first physical line. -/
theorem layout_shown_iff (fragments : List Fragment) (emission : Emission) :
    layout fragments emission = (fragments.flatMap Fragment.lines).flatMap
        (Layout.line emission.form emission.limit) ∧
      ∀ line ∈ fragments.flatMap Fragment.lines, (∀ content, ¬ IsComment line.text content) →
        ∀ n u, line.text.Indents n u →
          ((∀ row ∈ bare emission.form (Layout.line emission.form emission.limit line),
              row.isAllBlank = false) ↔
            n < 2 ∨ (Layout.line emission.form emission.limit line).length = 1 ∨
              (emission.form = .fixed ∧ ∃ lead label rest, IsLabelled line.text lead label rest) ∨
              Breakable
                (u.take (capacity emission.limit (usedColumns emission.form line) - n))) := by
  refine ⟨rfl, ?_⟩
  intro line mem statement n u indents
  obtain ⟨f, -, inside⟩ := List.mem_flatMap.mp mem
  obtain ⟨t, -, shows⟩ := f.exists_shows inside
  refine shown_bare_line_iff statement indents ?_
  rintro rfl
  have shown := shows.shown
  rw [indents.parts, List.append_nil, Text.isAllBlank_spaces] at shown
  cases shown

/-- An indented call that can be broken behind its first word. -/
theorem layout_shown_iff_call :
    Layout.line .fixed 16 ⟨0, "    call evaluate(x)".toList⟩ =
        ["          call".toList, "     & evaluate(".toList, "     &x)".toList] ∧
      ∀ row ∈ bare .fixed (Layout.line .fixed 16 ⟨0, "    call evaluate(x)".toList⟩),
        row.isAllBlank = false := by
  have indents : Text.Indents "    call evaluate(x)".toList 4 "call evaluate(x)".toList := by
    refine ⟨rfl, fun c head => ?_, by decide, fun c last => ?_⟩
    · cases head
      decide
    · cases last
      decide
  refine ⟨by decide +kernel, ?_⟩
  exact ((layout_shown_iff [.line "    call evaluate(x)".toList]
    { form := .fixed, maxLineLength := some 16 }).2 ⟨0, "    call evaluate(x)".toList⟩
    (by decide +kernel) (by decide) 4 _ indents).mpr
    (.inr (.inr (.inr ⟨"call".toList, "e".toList, by decide, by decide⟩)))

/-- The statement whose first word is too long for that begins with a blank line. -/
theorem not_layout_shown : ¬ ∀ (fragments : List Fragment) (emission : Emission),
    ∀ line ∈ fragments.flatMap Fragment.lines, (∀ content, ¬ IsComment line.text content) →
      ∀ row ∈ bare emission.form (Layout.line emission.form emission.limit line),
        row.isAllBlank = false := by
  intro all
  have shown := all [.line "    total_of_all = 1".toList]
    { form := .fixed, maxLineLength := some 16 } ⟨0, "    total_of_all = 1".toList⟩
    (by decide +kernel) (by decide) (Text.spaces 9) (by decide +kernel)
  exact absurd shown (by decide)

end Layout
end FortranWriter
