import FortranWriter.Text.Basic
/-! Texts cut at separators, of one character or several, and when the cuts are
where texts were joined. -/
namespace FortranWriter.Text

theorem exists_pieces_eq_cons (separator : Char) (t : Text) :
    ∃ piece more, pieces separator t = piece :: more := by
  fun_cases pieces separator t with
  | case1 => exact ⟨_, _, rfl⟩
  | case2 => exact ⟨_, _, rfl⟩
  | case3 => exact ⟨_, _, rfl⟩
  | case4 => exact ⟨_, _, rfl⟩

theorem pieces_separator_cons (separator : Char) (t : Text) :
    pieces separator (separator :: t) = [] :: pieces separator t := by
  rw [pieces, if_pos rfl]

theorem pieces_cons {separator c : Char} {t piece : Text} {more : List Text} (apart : c ≠ separator)
    (found : pieces separator t = piece :: more) :
    pieces separator (c :: t) = (c :: piece) :: more := by
  rw [pieces, if_neg apart, found]

/-- A text that ends at a separator and what is behind it are cut one by one. -/
theorem pieces_append (separator : Char) (t u : Text) :
    pieces separator (t ++ separator :: u) = pieces separator t ++ pieces separator u := by
  induction t with
  | nil => exact pieces_separator_cons separator u
  | cons c t ih =>
      by_cases same : c = separator
      · rw [same, List.cons_append, pieces_separator_cons, pieces_separator_cons, ih]
        rfl
      · obtain ⟨piece, more, found⟩ := exists_pieces_eq_cons separator t
        rw [found] at ih
        rw [List.cons_append, pieces_cons same found]
        exact pieces_cons same ih

def partsFrom (separator : Text) : Nat → Text → List Text
  | _, [] => [[]]
  | passed + 1, _ :: rest => partsFrom separator passed rest
  | 0, c :: rest =>
    if separator.isPrefixOf (c :: rest) then [] :: partsFrom separator (separator.length - 1) rest
    else
      match partsFrom separator 0 rest with
      | [] => [[c]]
      | part :: more => (c :: part) :: more

/-- What is between the places where a separator is found, from the left, empty parts included. -/
def parts (separator : Text) : Text → List Text :=
  partsFrom separator 0

/-- A separator begins nowhere in a text, not even with its own beginning behind the text. -/
def Clear (separator t : Text) : Prop :=
  ∀ back, back <:+ t → back ≠ [] → ¬ separator <+: back ++ separator

section
variable {separator t : Text}

theorem partsFrom_length (rest : Text) :
    partsFrom separator t.length (t ++ rest) = parts separator rest := by
  induction t with
  | nil => rfl
  | cons c t ih => exact ih

theorem partsFrom_cons_of_not_prefix {c : Char} {rest part : Text} {more : List Text}
    (apart : ¬ separator <+: c :: rest) (found : parts separator rest = part :: more) :
    parts separator (c :: rest) = (c :: part) :: more := by
  unfold parts at found ⊢
  rw [partsFrom, if_neg (by rwa [List.isPrefixOf_iff_prefix]), found]

theorem parts_separator_append (some : separator ≠ []) (rest : Text) :
    parts separator (separator ++ rest) = [] :: parts separator rest := by
  obtain ⟨c, behind, rfl⟩ := List.exists_cons_of_ne_nil some
  rw [parts, List.cons_append, partsFrom, if_pos]
  · exact congrArg (List.cons []) (partsFrom_length rest)
  · rw [List.isPrefixOf_iff_prefix, ← List.cons_append]
    exact List.prefix_append _ _

theorem Clear.of_cons {c : Char} (clear : Clear separator (c :: t)) : Clear separator t :=
  fun back suffix => clear back (suffix.trans (List.suffix_cons c t))

/-- What stands behind the separator that follows a clear text does not help it to begin earlier. -/
theorem Clear.not_prefix {c : Char} (clear : Clear separator (c :: t)) (rest : Text) :
    ¬ separator <+: c :: t ++ separator ++ rest := by
  intro found
  refine clear _ (List.suffix_refl _) (List.cons_ne_nil c t) ?_
  exact List.prefix_of_prefix_length_le found (List.prefix_append _ _)
    (by rw [List.length_append]; exact Nat.le_add_left _ _)

theorem parts_append (some : separator ≠ []) (clear : Clear separator t) (rest : Text) :
    parts separator (t ++ separator ++ rest) = t :: parts separator rest := by
  induction t with
  | nil => exact parts_separator_append some rest
  | cons c t ih => exact partsFrom_cons_of_not_prefix (clear.not_prefix rest) (ih clear.of_cons)

theorem parts_of_clear (clear : Clear separator t) : parts separator t = [t] := by
  induction t with
  | nil => rfl
  | cons c t ih =>
      refine partsFrom_cons_of_not_prefix (fun found => ?_) (ih clear.of_cons)
      exact clear _ (List.suffix_refl _) (List.cons_ne_nil c t)
        (found.trans (List.prefix_append _ _))

/-- Texts that are clear of the separator between them are found again. -/
theorem parts_joinWith {texts : List Text} (some : separator ≠ []) (filled : texts ≠ [])
    (clear : ∀ t ∈ texts, Clear separator t) :
    parts separator (joinWith separator texts) = texts := by
  induction texts with
  | nil => exact absurd rfl filled
  | cons t texts ih =>
      obtain ⟨first, others⟩ := List.forall_mem_cons.mp clear
      cases texts with
      | nil => exact parts_of_clear first
      | cons u rest =>
          rw [joinWith, parts_append some first, ih (List.cons_ne_nil u rest) others]

/-- A separator whose first character is nowhere else in it does not overlap with itself, so that it
begins nowhere in a text that it does not occur in. -/
theorem clear_cons_iff {c : Char} {behind t : Text} (apart : c ∉ behind) :
    Clear (c :: behind) t ↔ ¬ c :: behind <:+: t := by
  constructor
  · rintro clear ⟨front, rest, rfl⟩
    refine clear (c :: behind ++ rest) ?_ (List.cons_ne_nil c (behind ++ rest)) ?_
    · rw [List.append_assoc]
      exact List.suffix_append _ _
    · rw [List.append_assoc]
      exact List.prefix_append _ _
  · intro absent back suffix some found
    obtain ⟨d, back, rfl⟩ := List.exists_cons_of_ne_nil some
    obtain ⟨rfl, within⟩ := List.cons_prefix_cons.mp found
    by_cases short : back.length < behind.length
    -- the separator behind the text begins inside the one that is found
    · have begins : back ++ [c] <+: behind := by
        refine List.prefix_of_prefix_length_le ?_ within ?_
        · exact (List.prefix_append_right_inj back).mpr (List.prefix_append [c] behind)
        · rw [List.length_append, List.length_singleton]
          exact short
      exact apart (begins.subset (List.mem_append_right _ List.mem_cons_self))
    · have whole :=
        List.prefix_of_prefix_length_le within (List.prefix_append _ _) (Nat.le_of_not_lt short)
      exact absent ((List.cons_prefix_cons.mpr ⟨rfl, whole⟩).isInfix.trans suffix.isInfix)

theorem partsFrom_ne_nil (passed : Nat) (t : Text) : partsFrom separator passed t ≠ [] := by
  fun_induction partsFrom separator passed t with
  | case1 => exact List.cons_ne_nil _ _
  | case2 _ _ _ ih => exact ih
  | case3 => exact List.cons_ne_nil _ _
  | case4 => exact List.cons_ne_nil _ _
  | case5 => exact List.cons_ne_nil _ _

theorem joinWith_cons_of_ne_nil {texts : List Text} (filled : texts ≠ []) :
    joinWith separator (t :: texts) = t ++ separator ++ joinWith separator texts := by
  obtain ⟨u, rest, rfl⟩ := List.exists_cons_of_ne_nil filled
  rfl

theorem joinWith_cons_cons (c : Char) (texts : List Text) :
    joinWith separator ((c :: t) :: texts) = c :: joinWith separator (t :: texts) := by
  cases texts <;> rfl

theorem prefix_joinWith (texts : List Text) : t <+: joinWith separator (t :: texts) := by
  cases texts with
  | nil => exact List.prefix_rfl
  | cons u rest =>
      rw [joinWith, List.append_assoc]
      exact List.prefix_append _ _

theorem joinWith_partsFrom (some : separator ≠ []) (passed : Nat) (t : Text) :
    joinWith separator (partsFrom separator passed t) = t.drop passed := by
  fun_induction partsFrom separator passed t with
  | case1 => exact List.drop_nil.symm
  | case2 _ _ _ ih => exact ih
  -- what is passed over behind a cut is what is left of the separator
  | case3 c rest found ih =>
      rw [List.isPrefixOf_iff_prefix] at found
      obtain ⟨front, behind, rfl⟩ := List.exists_cons_of_ne_nil some
      obtain ⟨rfl, within⟩ := List.cons_prefix_cons.mp found
      rw [joinWith_cons_of_ne_nil (partsFrom_ne_nil _ rest), ih]
      exact congrArg _ (List.prefix_iff_eq_append.mp within)
  | case4 _ rest _ none => exact absurd none (partsFrom_ne_nil 0 rest)
  | case5 c rest _ part more found ih =>
      rw [joinWith_cons_cons, ← found, ih]
      rfl

/-- No character is lost where a text is cut: its parts are joined to the text. -/
theorem joinWith_parts (some : separator ≠ []) (t : Text) :
    joinWith separator (parts separator t) = t :=
  joinWith_partsFrom some 0 t

/-- One text or more, with the separator in none of them. -/
structure Separable (separator : Text) (texts : List Text) : Prop where
  filled : texts ≠ []
  absent : ∀ t ∈ texts, ¬ separator <:+: t

theorem not_infix_of_mem_partsFrom (some : separator ≠ []) (passed : Nat) (t : Text) :
    ∀ part ∈ partsFrom separator passed t, ¬ separator <:+: part := by
  have nil : ¬ separator <:+: [] := fun found => some (List.infix_nil.mp found)
  fun_induction partsFrom separator passed t with
  | case1 => exact List.forall_mem_singleton.mpr nil
  | case2 _ _ _ ih => exact ih
  | case3 _ _ _ ih => exact List.forall_mem_cons.mpr ⟨nil, ih⟩
  | case4 _ rest _ none => exact absurd none (partsFrom_ne_nil 0 rest)
  -- a part lies at the front of what is left, so a separator that it began with would
  -- have been found
  | case5 c rest apart part more found ih =>
      rw [found] at ih
      obtain ⟨first, others⟩ := List.forall_mem_cons.mp ih
      refine List.forall_mem_cons.mpr ⟨fun inside => ?_, others⟩
      have front : part <+: rest := by
        have whole := joinWith_parts some rest
        rw [parts, found] at whole
        rw [← whole]
        exact prefix_joinWith more
      rcases List.infix_cons_iff.mp inside with begins | later
      · rw [List.isPrefixOf_iff_prefix] at apart
        exact apart (begins.trans (List.cons_prefix_cons.mpr ⟨rfl, front⟩))
      · exact first later

theorem separable_parts (some : separator ≠ []) (t : Text) :
    Separable separator (parts separator t) :=
  ⟨partsFrom_ne_nil 0 t, not_infix_of_mem_partsFrom some 0 t⟩

/-- Exactly the lists that can be found again are found. -/
theorem parts_joinWith_iff {c : Char} {behind : Text} {texts : List Text} (apart : c ∉ behind) :
    parts (c :: behind) (joinWith (c :: behind) texts) = texts ↔ Separable (c :: behind) texts := by
  constructor
  · intro same
    rw [← same]
    exact separable_parts (List.cons_ne_nil c behind) _
  · rintro ⟨filled, absent⟩
    exact parts_joinWith (List.cons_ne_nil c behind) filled fun t mem =>
      (clear_cons_iff apart).mpr (absent t mem)

end

/-- To cut at a single character is to cut at the separator that is this character. -/
theorem parts_singleton (separator : Char) (t : Text) :
    parts [separator] t = pieces separator t := by
  induction t with
  | nil => rfl
  | cons c t ih =>
      by_cases same : c = separator
      · rw [same, pieces_separator_cons, ← ih]
        exact parts_separator_append (List.cons_ne_nil separator []) t
      · obtain ⟨piece, more, found⟩ := exists_pieces_eq_cons separator t
        rw [pieces_cons same found]
        refine partsFrom_cons_of_not_prefix (fun begins => ?_) (ih.trans found)
        exact same (List.cons_prefix_cons.mp begins).1.symm

theorem pieces_joinWith {separator : Char} {texts : List Text} (filled : texts ≠ [])
    (apart : ∀ t ∈ texts, separator ∉ t) :
    pieces separator (joinWith [separator] texts) = texts := by
  rw [← parts_singleton]
  refine (parts_joinWith_iff List.not_mem_nil).mpr ⟨filled, fun t mem found => ?_⟩
  exact apart t mem (found.subset List.mem_cons_self)

end FortranWriter.Text
