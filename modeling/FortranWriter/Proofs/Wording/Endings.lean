import FortranWriter.Proofs.Wording
/-! How the beginnings of a statement end: with something to be seen, or with a comma or a
parenthesis that something has to follow. Words and lists lead from each ending to the next. -/
namespace FortranWriter.Wording
open Argument

/-- Neither a comma nor a parenthesis is in a text. -/
def Unseparated (t : Text) : Prop :=
  ∀ c ∈ t, c ≠ ',' ∧ c ≠ '(' ∧ c ≠ ')'

theorem unseparated_iff {t : Text} : Unseparated t ↔ ',' ∉ t ∧ '(' ∉ t ∧ ')' ∉ t := by
  constructor
  · intro free
    exact ⟨fun mem => (free _ mem).1 rfl, fun mem => (free _ mem).2.1 rfl,
      fun mem => (free _ mem).2.2 rfl⟩
  · rintro ⟨comma, opening, closing⟩ c mem
    exact ⟨ne_of_mem_of_not_mem mem comma, ne_of_mem_of_not_mem mem opening,
      ne_of_mem_of_not_mem mem closing⟩

/-- What a text ends with, as far as separators are concerned. -/
inductive Ending where
  /-- Something to be seen, a closing parenthesis included. -/
  | filled
  /-- Blanks behind that, or nothing at all. -/
  | spaced
  /-- An opening parenthesis. -/
  | opened
  /-- A comma, or blanks behind a comma or an opening parenthesis. -/
  | pending
  /-- Parentheses with nothing between them. -/
  | vacant
deriving DecidableEq

namespace Ending

/-- What a text ends with once one more character follows, unless a comma or an opening parenthesis
is left with nothing behind it. Parentheses may be empty at the very end only. -/
def after (ending : Ending) (c : Char) : Option Ending :=
  if ending = vacant then none
  else if c = '(' then some opened
  else if c = ')' then
    if ending = pending then none else some (if ending = opened then vacant else filled)
  else if c = ',' then
    if ending = opened ∨ ending = pending then none else some pending
  else if isBlank c then
    some (if ending = opened ∨ ending = pending then pending else spaced)
  else some filled

/-- A text leads from one ending to another, and leaves no separator behind. -/
abbrev Leads (first : Ending) (t : Text) (last : Ending) : Prop :=
  t.foldlM after first = some last

variable {first middle last : Ending} {t u : Text} {c : Char}

theorem leads_append_iff :
    Leads first (t ++ u) last ↔ ∃ middle, Leads first t middle ∧ Leads middle u last := by
  rw [Leads, List.foldlM_append]
  exact Option.bind_eq_some_iff

theorem Leads.append (front : Leads first t middle) (back : Leads middle u last) :
    Leads first (t ++ u) last :=
  leads_append_iff.mpr ⟨middle, front, back⟩

theorem leads_singleton_iff : Leads first [c] last ↔ first.after c = some last := by
  rw [Leads, List.foldlM_cons]
  exact Option.bind_eq_some_iff.trans ⟨fun ⟨_, h, same⟩ => same ▸ h, fun h => ⟨_, h, rfl⟩⟩

/-- Only an ending that nothing can follow leads nowhere. -/
theorem after_of_free (goesOn : first ≠ vacant) (free : c ≠ ',' ∧ c ≠ '(' ∧ c ≠ ')') :
    ∃ last, first.after c = some last ∧ last ≠ vacant ∧ (isBlank c = false → last = filled) := by
  obtain ⟨comma, opening, closing⟩ := free
  rw [after, if_neg goesOn, if_neg opening, if_neg closing, if_neg comma]
  split
  · case _ blank =>
      refine ⟨_, rfl, ?_, fun shown => ?_⟩
      · split
        · exact Ending.noConfusion
        · exact Ending.noConfusion
      · rw [blank] at shown
        cases shown
  · exact ⟨_, rfl, Ending.noConfusion, fun _ => rfl⟩

theorem not_leads_of_mem {pattern : String} (mem : pattern ∈ [", )", "(, ", ",)", "(,"])
    (ending last : Ending) : ¬ Leads ending pattern.toList last := by
  intro leads
  simp only [List.mem_cons, List.not_mem_nil, or_false] at mem
  rcases mem with rfl | rfl | rfl | rfl
  all_goals cases ending <;> cases leads

/-- A text that leaves nothing behind has none of the patterns that lead nowhere. -/
theorem Leads.not_infix (h : Leads first t last) (stuck : ∀ ending last, ¬ Leads ending u last) :
    ¬ u <:+: t := by
  rintro ⟨front, back, rfl⟩
  obtain ⟨_, inside, -⟩ := leads_append_iff.mp h
  obtain ⟨ending, -, within⟩ := leads_append_iff.mp inside
  exact stuck _ _ within

theorem Leads.eq_nil_of_vacant (h : Leads vacant t last) : t = [] ∧ last = vacant := by
  cases t with
  | nil =>
      cases h
      exact ⟨rfl, rfl⟩
  | cons c t =>
      rw [← List.singleton_append, leads_append_iff] at h
      obtain ⟨middle, none, -⟩ := h
      cases leads_singleton_iff.mp none

/-- Empty parentheses are the last that there is. -/
theorem Leads.empty_parentheses {front back : Text}
    (h : Leads first (front ++ "()".toList ++ back) last) :
    back = [] ∧ last = vacant := by
  obtain ⟨middle, inside, behind⟩ := leads_append_iff.mp h
  obtain ⟨ending, -, within⟩ := leads_append_iff.mp inside
  have reached : middle = vacant := by
    cases ending <;> cases within <;> rfl
  rw [reached] at behind
  exact behind.eq_nil_of_vacant

theorem eq_pending_of_comma (h : first.after ',' = some last) : last = pending := by
  cases first <;> cases h <;> rfl

theorem open_of_blank (blank : isBlank c = true) (h : first.after c = some last) :
    last = pending ∨ last = spaced := by
  have opening : c ≠ '(' := by
    rintro rfl
    exact absurd blank (by decide)
  have closing : c ≠ ')' := by
    rintro rfl
    exact absurd blank (by decide)
  have comma : c ≠ ',' := by
    rintro rfl
    exact absurd blank (by decide)
  rw [after, if_neg opening, if_neg closing, if_neg comma, if_pos blank] at h
  split at h
  · cases h
  · cases h
    split
    · exact .inl rfl
    · exact .inr rfl

theorem Leads.ended (h : Leads first t last) (closed : last = filled ∨ last = vacant) :
    ∀ c, t.getLast? = some c → isBlank c = false ∧ c ≠ ',' := by
  intro c ends
  obtain ⟨front, rfl⟩ := List.getLast?_eq_some_iff.mp ends
  obtain ⟨middle, -, step⟩ := leads_append_iff.mp h
  rw [leads_singleton_iff] at step
  constructor
  · rw [← Bool.not_eq_true]
    intro blank
    rcases open_of_blank blank step with rfl | rfl
    · exact absurd closed (by decide)
    · exact absurd closed (by decide)
  · rintro rfl
    rw [eq_pending_of_comma step] at closed
    exact absurd closed (by decide)

end Ending

/-- A word of a statement: no separator is in it, and its last character is to be seen. -/
structure IsWord (t : Text) : Prop where
  some : t ≠ []
  free : Unseparated t
  ends : t.EndsFilled

section Leading
open Ending
variable {first : Ending} {t : Text}

theorem exists_leads (goesOn : first ≠ vacant) (free : Unseparated t) :
    ∃ last, Leads first t last ∧ last ≠ vacant := by
  induction t generalizing first with
  | nil => exact ⟨first, rfl, goesOn⟩
  | cons c t ih =>
      obtain ⟨here, behind⟩ := List.forall_mem_cons.mp free
      obtain ⟨middle, step, further, -⟩ := after_of_free goesOn here
      obtain ⟨last, rest, still⟩ := ih further behind
      exact ⟨last, (leads_singleton_iff.mpr step).append rest, still⟩

/-- Whatever a word stands behind, it ends in something to be seen. -/
theorem IsWord.leads (word : IsWord t) (goesOn : first ≠ vacant) : Leads first t filled := by
  obtain ⟨front, c, rfl⟩ := (List.eq_nil_or_concat' t).resolve_left word.some
  obtain ⟨before, final⟩ := List.forall_mem_append.mp word.free
  obtain ⟨middle, leads, further⟩ := exists_leads goesOn before
  obtain ⟨last, step, -, filled⟩ := after_of_free further (final c (List.mem_singleton_self c))
  rw [filled (word.ends c List.getLast?_concat)] at step
  exact leads.append (leads_singleton_iff.mpr step)

theorem leads_joinWith {separator : Text} (between : Leads filled separator pending)
    {items : List Text} (some : items ≠ []) (words : ∀ item ∈ items, IsWord item)
    (goesOn : first ≠ vacant) : Leads first (Text.joinWith separator items) filled := by
  induction items generalizing first with
  | nil => exact absurd rfl some
  | cons item rest ih =>
      obtain ⟨word, others⟩ := List.forall_mem_cons.mp words
      cases rest with
      | nil => exact word.leads goesOn
      | cons next rest =>
          have behind : Leads pending (Text.joinWith separator (next :: rest)) filled :=
            ih (List.cons_ne_nil _ _) others (by decide)
          exact ((word.leads goesOn).append between).append behind

/-- A list between parentheses, which are empty exactly if it is. -/
theorem leads_listed {items : List Text} (named : Leads spaced t filled)
    (words : ∀ item ∈ items, IsWord item) :
    Leads spaced (t ++ "(".toList ++ join items ++ ")".toList)
      (if items = [] then vacant else filled) := by
  have opened : Leads spaced (t ++ "(".toList) opened := named.append rfl
  split
  · case _ none =>
      rw [none]
      exact (opened.append rfl).append rfl
  · case _ some =>
      have listed : Leads Ending.opened (join items) filled :=
        leads_joinWith rfl some words (by decide)
      exact (opened.append listed).append rfl

end Leading

theorem isWord_of_digits {t : Text} (some : t ≠ []) (digits : ∀ c ∈ t, c.isDigit = true) :
    IsWord t := by
  have other : ∀ c, c.isDigit = false → c ∉ t := by
    intro c none mem
    rw [digits c mem] at none
    cases none
  refine ⟨some,
    unseparated_iff.mpr ⟨other _ (by decide), other _ (by decide), other _ (by decide)⟩, ?_⟩
  intro c last
  exact isBlank_of_isDigit (digits c (List.mem_of_getLast? last))

theorem isWord_ofNat (n : Nat) : IsWord (Decimal.ofNat n) :=
  isWord_of_digits (Decimal.ofNat_ne_nil n) fun _ => Decimal.isDigit_of_mem_ofNat

theorem IsWord.cons {c : Char} {t : Text} (word : IsWord t) (free : c ≠ ',' ∧ c ≠ '(' ∧ c ≠ ')') :
    IsWord (c :: t) := by
  refine ⟨List.cons_ne_nil _ _, List.forall_mem_cons.mpr ⟨free, word.free⟩, ?_⟩
  intro d last
  rw [List.getLast?_cons_of_ne_nil word.some] at last
  exact word.ends d last

theorem isWord_ofInt (n : Int) : IsWord (Decimal.ofInt n) := by
  cases n with
  | ofNat n => exact isWord_ofNat n
  | negSucc n => exact (isWord_ofNat (n + 1)).cons (by decide)

theorem isWord_quote {t : Text} (free : Unseparated t) : IsWord (Literal.quote t) := by
  refine ⟨List.cons_ne_nil _ _, fun c mem => ?_, fun c last => ?_⟩
  · rcases Literal.mem_quote_cases mem with rfl | inside
    · decide
    · exact free c inside
  · rw [Literal.quote, List.getLast?_concat] at last
    cases last
    decide

/-- A text without commas and parentheses, and without blanks at its ends. -/
structure Neat (t : Text) : Prop where
  free : Unseparated t
  trimmed : t.Trimmed

theorem neat_iff {t : Text} : Neat t ↔ (',' ∉ t ∧ '(' ∉ t ∧ ')' ∉ t) ∧ t.trim = t := by
  rw [Text.trim_eq_self_iff, ← unseparated_iff]
  exact ⟨fun neat => ⟨neat.free, neat.trimmed⟩, fun h => ⟨h.1, h.2⟩⟩

instance (t : Text) : Decidable (Neat t) :=
  decidable_of_iff _ neat_iff.symm

theorem Neat.isWord {t : Text} (neat : Neat t) (some : t ≠ []) : IsWord t :=
  ⟨some, neat.free, neat.trimmed.ends⟩

theorem isWord_of_neat {texts : List Text} (neat : ∀ t ∈ texts, Neat t)
    (shown : ∀ t ∈ texts, t.OneLine) :
    ∀ t ∈ texts, IsWord t :=
  fun t mem => (neat t mem).isWord (shown t mem).ne_nil

theorem isWord_of_render {bound : Bound} {t : Text} (neat : ∀ u ∈ bound.texts, Neat u)
    (rendered : bound.render = .ok t) : IsWord t := by
  obtain ⟨rfl, shown⟩ := Bound.eq_shown_of_render rendered
  cases bound with
  | integer n => exact isWord_ofInt n
  | expression u =>
      have whole := List.forall_mem_singleton.mp neat
      have same : Bound.shown (.expression u) = u := Text.trim_eq_self_iff.mpr whole.trimmed
      rw [same] at shown ⊢
      exact whole.isWord shown.ne_nil

end FortranWriter.Wording
