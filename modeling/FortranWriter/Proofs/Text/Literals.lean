import FortranWriter.Text.Basic
import Mathlib.Algebra.GroupWithZero.Nat
/-! Where a text is inside a literal, and which literals it has. A literal ends with the delimiter
that it began with; written twice inside, it is one character of the content, and the other
delimiters are ordinary characters there. -/
namespace FortranWriter.Literal

/-- One of the characters that literals may begin and end with. -/
abbrev Delimiter (delimiters : List Char) := {c : Char // c ∈ delimiters}

section Scanner
variable {delimiters : List Char}

def Delimiter.ofChar? (c : Char) : Option (Delimiter delimiters) :=
  if h : c ∈ delimiters then some ⟨c, h⟩ else none

theorem Delimiter.ne_of_not_mem {c : Char} (plain : c ∉ delimiters) (d : Delimiter delimiters) :
    c ≠ d.val :=
  fun same => plain (same ▸ d.property)

theorem Delimiter.ofChar?_val (d : Delimiter delimiters) : ofChar? d.val = some d :=
  dif_pos d.property

def turn : Option (Delimiter delimiters) → Char → Option (Delimiter delimiters)
  | none, c => Delimiter.ofChar? c
  | some d, c => if c = d.val then none else some d

def openAfter (delimiter : Option (Delimiter delimiters)) : Text → Option (Delimiter delimiters)
  | [] => delimiter
  | c :: rest => openAfter (turn delimiter c) rest

/-- Where a text is with respect to its literals: outside, or behind the content read so far of one
that is open, or behind a delimiter that closes it unless another follows. -/
inductive Place (delimiters : List Char) where
  | outside
  | inside (delimiter : Delimiter delimiters) (content : Text)
  | closing (delimiter : Delimiter delimiters) (content : Text)
deriving DecidableEq, Repr

namespace Place

def open? : Place delimiters → Option (Delimiter delimiters)
  | outside | closing _ _ => none
  | inside d _ => some d

def opened (c : Char) : Place delimiters :=
  match Delimiter.ofChar? c with
  | some d => inside d []
  | none => outside

/-- The place behind one more character. Two delimiters in a literal are one of its content. -/
def after : Place delimiters → Char → Place delimiters
  | outside, c => opened c
  | inside d content, c => if c = d.val then closing d content else inside d (content ++ [c])
  | closing d content, c => if c = d.val then inside d (content ++ [c]) else opened c

/-- The literal that a character shows to be closed. -/
def closed : Place delimiters → Char → List (Delimiter delimiters × Text)
  | closing d content, c => if c = d.val then [] else [(d, content)]
  | outside, _ | inside _ _, _ => []

/-- The literal that the end of the text closes. -/
def last : Place delimiters → List (Delimiter delimiters × Text)
  | outside => []
  | inside d content | closing d content => [(d, content)]

theorem open?_opened (c : Char) :
    (opened c : Place delimiters).open? = Delimiter.ofChar? c := by
  rw [opened]
  cases (Delimiter.ofChar? c : Option (Delimiter delimiters)) <;> rfl

theorem open?_after (place : Place delimiters) (c : Char) :
    (place.after c).open? = turn place.open? c := by
  cases place with
  | outside => exact open?_opened c
  | inside d content =>
      by_cases same : c = d.val
      · rw [after, if_pos same, open?, open?, turn, if_pos same]
      · rw [after, if_neg same, open?, open?, turn, if_neg same]
  | closing d content =>
      by_cases same : c = d.val
      · rw [after, if_pos same, open?, open?, turn, same, Delimiter.ofChar?_val]
      · rw [after, if_neg same, open?_opened]
        rfl

theorem open?_foldl_after (place : Place delimiters) (t : Text) :
    (t.foldl after place).open? = openAfter place.open? t := by
  induction t generalizing place with
  | nil => rfl
  | cons c t ih => rw [List.foldl_cons, ih, open?_after, openAfter]

theorem opened_of_not_mem {c : Char} (plain : c ∉ delimiters) :
    (opened c : Place delimiters) = outside := by
  rw [opened, Delimiter.ofChar?, dif_neg plain]

end Place

/-- The literals of a text in order, from a place on: each with its delimiter and its content. -/
def literalsFrom (place : Place delimiters) : Text → List (Delimiter delimiters × Text)
  | [] => place.last
  | c :: rest => place.closed c ++ literalsFrom (place.after c) rest

theorem literalsFrom_cons (place : Place delimiters) (c : Char) (rest : Text) :
    literalsFrom place (c :: rest) = place.closed c ++ literalsFrom (place.after c) rest :=
  rfl

/-- A second blank in front of a blank outside the literals changes none of them. -/
theorem literalsFrom_blank (plain : ' ' ∉ delimiters) (place : Place delimiters)
    (before rest : Text) (outside : openAfter place.open? before = none) :
    literalsFrom place (before ++ ' ' :: ' ' :: rest) =
      literalsFrom place (before ++ ' ' :: rest) := by
  have idle (t : Text) : literalsFrom (.outside : Place delimiters) (' ' :: t) =
      literalsFrom .outside t := by
    rw [literalsFrom_cons, Place.after, Place.opened_of_not_mem plain]
    rfl
  induction before generalizing place with
  | nil =>
      rw [List.nil_append, List.nil_append]
      cases place with
      | outside => exact idle _
      | inside d content => cases outside
      | closing d content =>
          have next : (Place.closing d content).after ' ' = .outside := by
            rw [Place.after, if_neg (d.ne_of_not_mem plain), Place.opened_of_not_mem plain]
          rw [literalsFrom_cons, next, idle, literalsFrom_cons, next]
  | cons c before ih =>
      rw [openAfter, ← Place.open?_after] at outside
      rw [List.cons_append, List.cons_append, literalsFrom_cons, literalsFrom_cons, ih _ outside]

def widthFrom (place : Place delimiters) (t : Text) : Nat :=
  ((literalsFrom place t).map fun literal => literal.2.length).sum

theorem widthFrom_cons (place : Place delimiters) (c : Char) (rest : Text) :
    widthFrom place (c :: rest) =
      ((place.closed c).map fun literal => literal.2.length).sum +
        widthFrom (place.after c) rest := by
  rw [widthFrom, literalsFrom, List.map_append, List.sum_append]
  rfl

theorem widthFrom_inside_cons (d : Delimiter delimiters) (content : Text) (c : Char) (rest : Text) :
    widthFrom (.inside d content) (c :: rest) =
      widthFrom ((Place.inside d content).after c) rest := by
  rw [widthFrom_cons]
  exact Nat.zero_add _

theorem widthFrom_content (d : Delimiter delimiters) (content t : Text) :
    widthFrom (.inside d content) t = content.length + widthFrom (.inside d []) t ∧
      widthFrom (.closing d content) t = content.length + widthFrom (.closing d []) t := by
  induction t generalizing content with
  | nil => exact ⟨rfl, rfl⟩
  | cons c t ih =>
      constructor
      · rw [widthFrom_inside_cons, widthFrom_inside_cons]
        by_cases same : c = d.val
        · rw [Place.after, if_pos same, Place.after, if_pos same]
          exact (ih content).2
        · rw [Place.after, if_neg same, Place.after, if_neg same, (ih (content ++ [c])).1,
            (ih ([] ++ [c])).1, List.length_append, Nat.add_assoc]
          rfl
      · rw [widthFrom_cons, widthFrom_cons]
        by_cases same : c = d.val
        · rw [Place.after, if_pos same, Place.after, if_pos same, (ih (content ++ [c])).1,
            (ih ([] ++ [c])).1, List.length_append, Place.closed, if_pos same, Place.closed,
            if_pos same]
          simp only [List.map_nil, List.sum_nil, List.nil_append, List.length_singleton]
          omega
        · rw [Place.after, if_neg same, Place.after, if_neg same, Place.closed, if_neg same,
            Place.closed, if_neg same]
          simp only [List.map_singleton, List.sum_singleton, List.length_nil, Nat.zero_add]

/-- In a literal it is one more character of the content. -/
theorem widthFrom_blank (plain : ' ' ∉ delimiters) {place : Place delimiters} {before : Text}
    {d : Delimiter delimiters} (inside : openAfter place.open? before = some d) (rest : Text) :
    widthFrom place (before ++ ' ' :: ' ' :: rest) =
      widthFrom place (before ++ ' ' :: rest) + 1 := by
  induction before generalizing place with
  | nil =>
      cases place with
      | outside => cases inside
      | closing d content => cases inside
      | inside d content =>
          have next : (Place.inside d content).after ' ' = .inside d (content ++ [' ']) :=
            if_neg (d.ne_of_not_mem plain)
          rw [List.nil_append, List.nil_append, widthFrom_inside_cons, next,
            (widthFrom_content d (content ++ [' ']) _).1, (widthFrom_content d content _).1,
            List.length_append, Nat.add_right_comm]
          rfl
  | cons c before ih =>
      rw [openAfter, ← Place.open?_after] at inside
      rw [List.cons_append, List.cons_append, widthFrom_cons, widthFrom_cons, ih inside,
        Nat.add_assoc]

end Scanner

section Apostrophes

theorem insideAfter_append (inside : Bool) (t u : Text) :
    insideAfter inside (t ++ u) = insideAfter (insideAfter inside t) u := by
  induction t generalizing inside with
  | nil => rfl
  | cons c t ih => exact ih _

/-- Each apostrophe changes sides, and no other character does. -/
theorem insideAfter_eq_xor (inside : Bool) (t : Text) :
    insideAfter inside t = (inside ^^ decide (t.count '\'' % 2 = 1)) := by
  induction t generalizing inside with
  | nil => cases inside <;> rfl
  | cons c t ih =>
      rw [insideAfter, ih]
      by_cases quote : c = '\''
      · subst quote
        rw [if_pos rfl, List.count_cons_self]
        have parity : (List.count '\'' t + 1) % 2 = 1 ↔ ¬ List.count '\'' t % 2 = 1 := by omega
        simp only [parity, decide_not]
        cases inside <;> cases decide (List.count '\'' t % 2 = 1) <;> rfl
      · rw [if_neg quote, List.count_cons_of_ne quote]

theorem insideAfter_false_iff (t : Text) :
    insideAfter false t = false ↔ t.count '\'' % 2 = 0 := by
  rw [insideAfter_eq_xor, Bool.false_xor, decide_eq_false_iff_not]
  omega

theorem insideAfter_true_iff (t : Text) :
    insideAfter false t = true ↔ t.count '\'' % 2 = 1 := by
  rw [insideAfter_eq_xor, Bool.false_xor, decide_eq_true_eq]

/-- The delimiters that are minded where a statement is broken. -/
abbrev apostrophes : List Char := ['\'']

theorem isSome_turn (open? : Option (Delimiter apostrophes)) (c : Char) :
    (turn open? c).isSome = if c = '\'' then !open?.isSome else open?.isSome := by
  cases open? with
  | none =>
      by_cases quote : c = '\''
      · rw [turn, Delimiter.ofChar?, dif_pos (List.mem_singleton.mpr quote), if_pos quote]
        rfl
      · rw [turn, Delimiter.ofChar?, dif_neg (mt List.mem_singleton.mp quote), if_neg quote]
  | some d =>
      rw [turn, List.mem_singleton.mp d.property]
      split <;> rfl

theorem isSome_openAfter (open? : Option (Delimiter apostrophes)) (t : Text) :
    (openAfter open? t).isSome = insideAfter open?.isSome t := by
  induction t generalizing open? with
  | nil => rfl
  | cons c t ih => rw [openAfter, ih, isSome_turn, insideAfter]

/-- Whether a literal is in both of two texts, the one behind the other. An apostrophe in front that
would close it is the first half of one in its content if another follows. -/
def goesOn (front behind : Text) : Bool :=
  match front.foldl Place.after (.outside : Place apostrophes) with
  | .outside => false
  | .inside _ _ => true
  | .closing _ _ => behind.head? == some '\''

theorem insideAfter_or_of_goesOn {front behind : Text} (h : goesOn front behind = true) :
    insideAfter false front = true ∨ behind.head? = some '\'' := by
  have known := Place.open?_foldl_after (.outside : Place apostrophes) front
  rw [goesOn] at h
  split at h
  · cases h
  · case _ d content place =>
      left
      rw [place] at known
      exact (isSome_openAfter none front).symm.trans (congrArg Option.isSome known.symm)
  · exact .inr (beq_iff_eq.mp h)

def contents (t : Text) : List Text :=
  (literalsFrom (.outside : Place apostrophes) t).map Prod.snd

theorem contents_blank {before : Text} (rest : Text) (even : before.count '\'' % 2 = 0) :
    contents (before ++ ' ' :: ' ' :: rest) = contents (before ++ ' ' :: rest) := by
  have outside : openAfter (none : Option (Delimiter apostrophes)) before = none := by
    rw [← Option.not_isSome_iff_eq_none, isSome_openAfter, Bool.not_eq_true]
    exact (insideAfter_false_iff before).mpr even
  exact congrArg (List.map Prod.snd)
    (literalsFrom_blank (by decide) .outside before rest outside)

end Apostrophes

end FortranWriter.Literal

/-! The literals of the language: between apostrophes or between quotation marks. -/
namespace FortranWriter.Quotation
open Literal

abbrev marks : List Char := ['\'', '"']

/-- The delimiter of the literal that is open behind a text. -/
def unclosed? (t : Text) : Option (Delimiter marks) :=
  openAfter none t

/-- Every literal is closed, and no comment begins outside of them. -/
structure Closed (t : Text) : Prop where
  ended : unclosed? t = none
  plain : ∀ front rest, t = front ++ '!' :: rest → unclosed? front ≠ none

def literals (t : Text) : List (Delimiter marks × Text) :=
  literalsFrom .outside t

def width (t : Text) : Nat :=
  widthFrom (.outside : Place marks) t

theorem literals_spaces_append (n : Nat) (t : Text) :
    literals (Text.spaces n ++ t) = literals t := by
  induction n with
  | zero => rfl
  | succ n ih => exact ih

theorem literals_blank {before : Text} (outside : unclosed? before = none) (rest : Text) :
    literals (before ++ ' ' :: ' ' :: rest) = literals (before ++ ' ' :: rest) :=
  literalsFrom_blank (by decide) .outside before rest outside

theorem width_blank (before rest : Text) : width (before ++ ' ' :: ' ' :: rest) =
    width (before ++ ' ' :: rest) + if (unclosed? before).isSome then 1 else 0 := by
  cases found : unclosed? before with
  | none => exact congrArg (fun found => (found.map (·.2.length)).sum) (literals_blank found rest)
  | some d =>
      have inside : openAfter (Place.open? (.outside : Place marks)) before = some d := found
      exact widthFrom_blank (by decide) inside rest

end FortranWriter.Quotation
