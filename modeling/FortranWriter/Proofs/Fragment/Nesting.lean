import FortranWriter.Proofs.Text.OneLine
/-! Fragments inside others: what is put around a fragment moves its lines to the right and
changes nothing else about them, and a fragment that has become text has its lines back,
indentation included. -/
namespace FortranWriter

/-- The same line inside so many more constructs. -/
def Line.deepen (levels : Nat) (line : Line) : Line :=
  ⟨levels + line.depth, line.text⟩

theorem Line.ofText_add (levels depth : Nat) (t : Text) :
    Line.ofText (levels + depth) t = (Line.ofText depth t).map (Line.deepen levels) := by
  rw [Line.ofText, Line.ofText, List.map_map]
  rfl

mutual

theorem Fragment.linesAt_add (levels depth : Nat) (f : Fragment) :
    f.linesAt (levels + depth) = (f.linesAt depth).map (Line.deepen levels) := by
  cases f with
  | line t => exact Line.ofText_add levels depth t
  | block parts =>
      rw [Fragment.linesAt, Fragment.linesAt]
      exact Part.linesOfAll_add levels depth parts

theorem Part.linesAt_add (levels depth : Nat) (part : Part) :
    part.linesAt (levels + depth) = (part.linesAt depth).map (Line.deepen levels) := by
  cases part with
  | line t => exact Line.ofText_add levels depth t
  | body fragments =>
      rw [Part.linesAt, Part.linesAt, Nat.add_assoc]
      exact Fragment.linesOfAll_add levels (depth + 1) fragments

theorem Part.linesOfAll_add (levels depth : Nat) (parts : List Part) :
    Part.linesOfAll (levels + depth) parts =
      (Part.linesOfAll depth parts).map (Line.deepen levels) := by
  cases parts with
  | nil => rfl
  | cons part parts =>
      rw [Part.linesOfAll, Part.linesOfAll, List.map_append, Part.linesAt_add levels depth part,
        Part.linesOfAll_add levels depth parts]

theorem Fragment.linesOfAll_add (levels depth : Nat) (fragments : List Fragment) :
    Fragment.linesOfAll (levels + depth) fragments =
      (Fragment.linesOfAll depth fragments).map (Line.deepen levels) := by
  cases fragments with
  | nil => rfl
  | cons f fragments =>
      rw [Fragment.linesOfAll, Fragment.linesOfAll, List.map_append,
        Fragment.linesAt_add levels depth f, Fragment.linesOfAll_add levels depth fragments]

end

theorem Fragment.linesAt_eq_map (depth : Nat) (f : Fragment) :
    f.linesAt depth = f.lines.map (Line.deepen depth) :=
  f.linesAt_add depth 0

mutual

def Fragment.texts : Fragment → List Text
  | .line t => [t]
  | .block parts => Part.textsOfAll parts

def Part.texts : Part → List Text
  | .line t => [t]
  | .body fragments => Fragment.textsOfAll fragments

def Part.textsOfAll : List Part → List Text
  | [] => []
  | part :: rest => part.texts ++ Part.textsOfAll rest

def Fragment.textsOfAll : List Fragment → List Text
  | [] => []
  | fragment :: rest => fragment.texts ++ Fragment.textsOfAll rest

end

/-- A line is one of a text, and something is to be seen in it. -/
structure Line.Shows (line : Line) (t : Text) : Prop where
  mem : line.text ∈ t.lines
  shown : line.text.isAllBlank = false

theorem Line.exists_shows_of_mem_ofText {line : Line} {depth : Nat} {t : Text}
    (h : line ∈ Line.ofText depth t) : ∃ u ∈ [t], line.Shows u := by
  obtain ⟨u, found, rfl⟩ := List.mem_map.mp h
  obtain ⟨mem, filled⟩ := List.mem_filter.mp found
  exact ⟨t, List.mem_singleton_self t, mem, by simpa using filled⟩

mutual

theorem Fragment.exists_shows {line : Line} {depth : Nat} (f : Fragment)
    (h : line ∈ f.linesAt depth) : ∃ t ∈ f.texts, line.Shows t := by
  cases f with
  | line t => exact Line.exists_shows_of_mem_ofText h
  | block parts => exact Part.exists_shows_of_mem parts h

theorem Part.exists_shows {line : Line} {depth : Nat} (part : Part)
    (h : line ∈ part.linesAt depth) : ∃ t ∈ part.texts, line.Shows t := by
  cases part with
  | line t => exact Line.exists_shows_of_mem_ofText h
  | body fragments => exact Fragment.exists_shows_of_mem fragments h

theorem Part.exists_shows_of_mem {line : Line} {depth : Nat} (parts : List Part)
    (h : line ∈ Part.linesOfAll depth parts) : ∃ t ∈ Part.textsOfAll parts, line.Shows t := by
  cases parts with
  | nil => cases h
  | cons part parts =>
      rw [Part.linesOfAll, List.mem_append] at h
      rw [Part.textsOfAll]
      rcases h with first | later
      · obtain ⟨t, mem, shows⟩ := Part.exists_shows part first
        exact ⟨t, List.mem_append_left _ mem, shows⟩
      · obtain ⟨t, mem, shows⟩ := Part.exists_shows_of_mem parts later
        exact ⟨t, List.mem_append_right _ mem, shows⟩

theorem Fragment.exists_shows_of_mem {line : Line} {depth : Nat} (fragments : List Fragment)
    (h : line ∈ Fragment.linesOfAll depth fragments) :
    ∃ t ∈ Fragment.textsOfAll fragments, line.Shows t := by
  cases fragments with
  | nil => cases h
  | cons f fragments =>
      rw [Fragment.linesOfAll, List.mem_append] at h
      rw [Fragment.textsOfAll]
      rcases h with first | later
      · obtain ⟨t, mem, shows⟩ := Fragment.exists_shows f first
        exact ⟨t, List.mem_append_left _ mem, shows⟩
      · obtain ⟨t, mem, shows⟩ := Fragment.exists_shows_of_mem fragments later
        exact ⟨t, List.mem_append_right _ mem, shows⟩

end

namespace Text

theorem mem_of_mem_lines {t line : Text} {c : Char} (h : line ∈ t.lines) (mem : c ∈ line) :
    c ∈ t := by
  fun_induction lines t generalizing line with
  | case1 => cases h
  | case2 rest ih =>
      rcases List.mem_cons.mp h with rfl | later
      · cases mem
      · exact List.mem_cons_of_mem _ (ih later mem)
  | case3 rest ih =>
      rcases List.mem_cons.mp h with rfl | later
      · cases mem
      · exact List.mem_cons_of_mem _ (List.mem_cons_of_mem _ (ih later mem))
  | case4 first rest _ _ none ih =>
      rcases List.mem_singleton.mp h with rfl
      rw [List.mem_singleton.mp mem]
      exact List.mem_cons_self
  | case5 first rest _ _ line more found ih =>
      rw [found] at ih
      rcases List.mem_cons.mp h with rfl | later
      · rcases List.mem_cons.mp mem with rfl | inner
        · exact List.mem_cons_self
        · exact List.mem_cons_of_mem _ (ih List.mem_cons_self inner)
      · exact List.mem_cons_of_mem _ (ih (List.mem_cons_of_mem _ later) mem)

theorem lines_append_newline {t : Text} (single : t.isSingleLine = true) (rest : Text) :
    lines (t ++ '\n' :: rest) = t :: lines rest := by
  induction t with
  | nil => rw [List.nil_append, lines]
  | cons c t ih =>
      obtain ⟨feed, carriage⟩ := isSingleLine_iff.mp single c List.mem_cons_self
      have others : isSingleLine t = true :=
        isSingleLine_iff.mpr fun d h => isSingleLine_iff.mp single d (List.mem_cons_of_mem _ h)
      rw [List.cons_append, lines, ih others]
      · exact feed
      · exact fun _ same => absurd same carriage

/-- Lines joined by line feeds are found again. -/
theorem lines_joinWith {rows : List Text} (each : ∀ row ∈ rows, row.OneLine) :
    lines (joinWith ['\n'] rows) = rows := by
  induction rows with
  | nil => rfl
  | cons row rows ih =>
      obtain ⟨first, others⟩ := List.forall_mem_cons.mp each
      cases rows with
      | nil => exact lines_eq_singleton first.ne_nil first.newline_not_mem
      | cons next rows =>
          rw [joinWith, List.append_assoc, List.singleton_append, lines_append_newline first.single,
            ih others]

end Text

theorem Line.Shows.newline_not_mem {line : Line} {t : Text} (shows : line.Shows t) :
    '\n' ∉ line.text :=
  Text.newline_not_mem_of_mem_lines shows.mem

theorem Line.Shows.ne_nil {line : Line} {t : Text} (shows : line.Shows t) : line.text ≠ [] := by
  intro empty
  have shown := shows.shown
  rw [empty] at shown
  cases shown

theorem Line.Shows.oneLine {line : Line} {t : Text} (shows : line.Shows t) (clean : '\r' ∉ t) :
    line.text.OneLine := by
  have bare : '\r' ∉ line.text := mt (Text.mem_of_mem_lines shows.mem) clean
  exact ⟨shows.shown, Text.isSingleLine_iff_not_mem.mpr ⟨shows.newline_not_mem, bare⟩⟩

theorem Text.OneLine.indented {t : Text} (h : t.OneLine) (n : Nat) :
    (Text.spaces n ++ t).OneLine := by
  constructor
  · rw [Text.isAllBlank_append, h.shown, Bool.and_false]
  · refine Text.isSingleLine_append (Text.isSingleLine_iff.mpr fun c space => ?_) h.single
    rw [List.eq_of_mem_replicate space]
    decide

section
variable {f : Fragment} (clean : ∀ t ∈ f.texts, '\r' ∉ t)
include clean

theorem Fragment.oneLine_of_mem_lines {line : Line} (h : line ∈ f.lines) : line.text.OneLine := by
  obtain ⟨t, kept, shows⟩ := f.exists_shows h
  exact shows.oneLine (clean t kept)

/-- What a fragment becomes as text falls into its lines again, each behind the indentation that it
had, and without any depth of its own. -/
theorem Fragment.lines_ofText_text : (Fragment.ofText f.text).lines =
    f.lines.map fun line => ⟨0, line.render⟩ := by
  have each : ∀ row ∈ f.lines.map Line.render, row.OneLine := by
    intro row h
    obtain ⟨line, mem, rfl⟩ := List.mem_map.mp h
    exact (Fragment.oneLine_of_mem_lines clean mem).indented _
  have shown : (f.lines.map Line.render).filter (fun t => !Text.isAllBlank t) =
      f.lines.map Line.render := by
    rw [List.filter_eq_self]
    intro row h
    rw [(each row h).shown]
    rfl
  rw [Fragment.lines, Fragment.linesAt_ofText, Line.ofText, Fragment.text, Text.lines_joinWith each,
    shown, List.map_map]
  rfl

end

/-- A place among fragments: between others, or in a body of a construct that
is itself at a place. -/
inductive Fragment.Context where
  | between (left right : List Fragment)
  | inside (left right : List Fragment) (opening closing : List Part) (inner : Context)

namespace Fragment.Context

def fill : Context → Fragment → List Fragment
  | between left right, f => left ++ f :: right
  | inside left right opening closing inner, f =>
    left ++ .block (opening ++ .body (inner.fill f) :: closing) :: right

def depth : Context → Nat
  | between _ _ => 0
  | inside _ _ _ _ inner => inner.depth + 1

/-- The second body of a condition is such a place. -/
example (opener divider closer : Text) (body : List Fragment) (f : Fragment) :
    fill (.inside [] [] [.line opener, .body body, .line divider]
        [.line closer] (.between [] [])) f =
      [.block [.line opener, .body body, .line divider, .body [f], .line closer]] :=
  rfl

theorem linesOfAll_fill (s : Context) (outer : Nat) : ∃ front back, ∀ f,
    Fragment.linesOfAll outer (s.fill f) = front ++ f.linesAt (outer + s.depth) ++ back := by
  induction s generalizing outer with
  | between left right =>
      refine ⟨Fragment.linesOfAll outer left, Fragment.linesOfAll outer right, fun f => ?_⟩
      simp only [fill, depth, Fragment.linesOfAll_eq_flatMap, List.flatMap_append,
        List.flatMap_cons, List.append_assoc, Nat.add_zero]
  | inside left right opening closing inner ih =>
      obtain ⟨front, back, found⟩ := ih (outer + 1)
      refine ⟨Fragment.linesOfAll outer left ++ Part.linesOfAll outer opening ++ front,
        back ++ Part.linesOfAll outer closing ++ Fragment.linesOfAll outer right, fun f => ?_⟩
      have body : Part.linesAt outer (.body (inner.fill f)) =
          front ++ f.linesAt (outer + 1 + inner.depth) ++ back := found f
      rw [Nat.add_assoc, Nat.add_comm 1] at body
      simp only [fill, depth, Fragment.linesOfAll_eq_flatMap, Part.linesOfAll_eq_flatMap,
        Fragment.linesAt, List.flatMap_append, List.flatMap_cons, List.append_assoc, body]

end Fragment.Context
end FortranWriter
