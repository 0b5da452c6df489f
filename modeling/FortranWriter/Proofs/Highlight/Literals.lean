import FortranWriter.Proofs.Highlight.Lexemes
import FortranWriter.Proofs.Highlight.Rows
import FortranWriter.Proofs.Layout.Quotations
/-! Layout and highlighting agree on what is in a literal. The layout changes sides at each
apostrophe; the lexemes of a text take a literal in one go, up to the apostrophe that closes it. -/
namespace FortranWriter.Highlight
open FreeForm (blankBreaks lineBreaks)
open Layout (IsComment)
open Literal (insideAfter insideAfter_append)

/-- Segments of a text in which every character but an apostrophe is in a literal where the layout
takes it to be in one. -/
def ShowsLiterals (segments : List Segment) (t : Text) : Prop :=
  ∀ front c more, t = front ++ c :: more → c ≠ '\'' →
    ∃ s, segmentAt? front.length segments = some s ∧
      (s.tag = .string ↔ insideAfter false front = true)

theorem insideAfter_of_bare (inside : Bool) {t : Text} (bare : '\'' ∉ t) :
    insideAfter inside t = inside := by
  rw [Literal.insideAfter_eq_xor, List.count_eq_zero.mpr bare]
  exact Bool.xor_false inside

/-- Behind its first apostrophe a literal is open in front of each of its characters that is no
apostrophe. -/
theorem insideAfter_of_literalRest {t front more : Text} {c : Char}
    (h : (literalRest t).1 = front ++ c :: more) (other : c ≠ '\'') :
    insideAfter true front = true := by
  fun_induction literalRest t generalizing front with
  | case1 => cases front <;> cases h
  | case2 rest ih =>
      -- neither half of a doubled apostrophe can be the character itself
      cases front with
      | nil => exact absurd (List.head_eq_of_cons_eq h).symm other
      | cons d front =>
          injection h with first h
          cases front with
          | nil => exact absurd (List.head_eq_of_cons_eq h).symm other
          | cons e front =>
              injection h with second h
              subst first second
              change insideAfter true front = true
              exact ih h
  | case3 rest _ =>
      cases front with
      | nil => exact absurd (List.head_eq_of_cons_eq h).symm other
      | cons d front => cases front <;> cases List.tail_eq_of_cons_eq h
  | case4 d rest _ apart ih =>
      cases front with
      | nil => rfl
      | cons e front =>
          injection h with same h
          subst same
          rw [insideAfter, if_neg apart]
          exact ih h

theorem insideAfter_literalRest {t : Text} (more : (literalRest t).2 ≠ []) :
    insideAfter true (literalRest t).1 = false := by
  fun_induction literalRest t with
  | case1 => exact absurd rfl more
  | case2 rest ih => exact ih more
  | case3 rest _ => rfl
  | case4 d rest _ apart ih =>
      rw [Cut.behind, List.singleton_append, insideAfter, if_neg apart]
      exact ih more

theorem showsLiterals_nil : ShowsLiterals [] [] := by
  intro front c more text
  exact absurd text.symm (List.append_ne_nil_of_right_ne_nil _ (List.cons_ne_nil _ _))

section
variable {s : Segment} {segments : List Segment} {rest : Text}

theorem ShowsLiterals.cons
    (within : ∀ front c more, s.text = front ++ c :: more → c ≠ '\'' →
      (s.tag = .string ↔ insideAfter false front = true))
    (closed : rest ≠ [] → insideAfter false s.text = false) (later : ShowsLiterals segments rest) :
    ShowsLiterals (s :: segments) (s.text ++ rest) := by
  intro front c more text other
  rcases cases_of_append_eq text with ⟨inside, here⟩ | ⟨behind, rfl, rfl⟩
  · refine ⟨s, ?_, within front c inside here other⟩
    rw [segmentAt?, here, List.length_append, List.length_cons, if_pos (by omega)]
  · -- only the last segment of a text may leave a literal open
    have outside := closed (List.append_ne_nil_of_right_ne_nil _ (List.cons_ne_nil _ _))
    rw [segmentAt?, List.length_append, if_neg (by omega), Nat.add_sub_cancel_left,
      insideAfter_append, outside]
    exact later behind c more rfl other

theorem ShowsLiterals.bare (tag : s.tag ≠ .string) (bare : '\'' ∉ s.text)
    (later : ShowsLiterals segments rest) : ShowsLiterals (s :: segments) (s.text ++ rest) := by
  apply ShowsLiterals.cons
  · intro front c more text other
    have outside : '\'' ∉ front := fun mem => bare (text ▸ List.mem_append_left _ mem)
    rw [insideAfter_of_bare false outside]
    exact iff_of_false tag Bool.false_ne_true
  · exact fun _ => insideAfter_of_bare false bare
  · exact later

theorem ShowsLiterals.literal {t : Text} (later : ShowsLiterals segments (literalRest t).2) :
    ShowsLiterals (⟨.string, '\'' :: (literalRest t).1⟩ :: segments)
      ('\'' :: (literalRest t).1 ++ (literalRest t).2) := by
  apply ShowsLiterals.cons
  · intro front c more text other
    cases front with
    | nil => exact absurd (List.head_eq_of_cons_eq text).symm other
    | cons d front =>
        injection text with same text
        subst same
        exact iff_of_true rfl (insideAfter_of_literalRest text other)
  · exact fun more => insideAfter_literalRest more
  · exact later

theorem ShowsLiterals.segment? {tag : Tag} (apart : tag ≠ .string) {t : Text} (bare : '\'' ∉ t)
    (later : ShowsLiterals segments rest) :
    ShowsLiterals (segment? tag t ++ segments) (t ++ rest) := by
  cases t with
  | nil => exact later
  | cons c t => exact later.bare apart bare

end

theorem IsNumber.bare {sign t : Text} (h : IsNumber sign t) : '\'' ∉ t := by
  intro mem
  rcases h.mem_cases mem with (digit | point | letter) | signed
  · exact absurd digit (by decide)
  · exact absurd point (by decide)
  · exact absurd letter (by decide)
  · have apart : ∀ c ∈ sign, c ≠ '\'' := h.forall_mem_sign (by decide) (by decide)
    exact apart _ signed rfl

theorem ShowsLiterals.lexed {c : Char} {rest : Text} {cut : Cut} {segments : List Segment}
    (lexed : Lexed c rest cut) (later : ShowsLiterals segments cut.rest) :
    ShowsLiterals (⟨cut.tag, cut.head⟩ :: segments) (cut.head ++ cut.rest) := by
  cases lexed with
  | literal quote =>
      subst quote
      exact later.literal
  | number shape => exact later.bare Tag.noConfusion shape.bare
  | other apart _ bare => exact later.bare apart bare

theorem showsLiterals_lexemesFrom {fuel : Nat} {t : Text} (enough : t.length ≤ fuel) :
    ShowsLiterals (lexemesFrom fuel t) t := by
  induction fuel generalizing t with
  | zero =>
      obtain rfl := List.length_eq_zero_iff.mp (Nat.le_zero.mp enough)
      exact showsLiterals_nil
  | succ fuel ih =>
      cases t with
      | nil => exact showsLiterals_nil
      | cons c rest =>
          have shorter :=
            Nat.le_trans (length_rest_lexeme_le c rest) (Nat.le_of_succ_le_succ enough)
          have whole := (ih shorter).lexed (lexed_lexeme c rest)
          rw [(lexeme_holds c rest).parts] at whole
          exact whole

theorem showsLiterals_lexemes (t : Text) : ShowsLiterals (lexemes t) t :=
  showsLiterals_lexemesFrom (Nat.le_refl _)

theorem bare_of_leadingLabel? {t label gap rest : Text}
    (h : leadingLabel? t = some (label, gap, rest)) : '\'' ∉ label ∧ '\'' ∉ gap := by
  unfold leadingLabel? at h
  simp only at h
  split at h
  · cases h
    constructor
    · exact fun mem => absurd (List.all_eq_true.mp List.all_takeWhile _ mem) (by decide)
    · exact fun mem => absurd (List.all_eq_true.mp List.all_takeWhile _ mem) (by decide)
  · cases h

theorem showsLiterals_freeContent {t : Text} (statement : t.head? ≠ some '!') :
    ShowsLiterals (freeContent t) t := by
  unfold freeContent
  split
  · exact absurd rfl statement
  · exact (showsLiterals_lexemes _).bare Tag.noConfusion (by decide)
  · split
    · case _ label gap rest found =>
        obtain ⟨digits, blank⟩ := bare_of_leadingLabel? found
        rw [(leadingLabel?_eq_some found).1]
        apply ShowsLiterals.bare Tag.noConfusion digits
        exact (showsLiterals_lexemes rest).bare Tag.noConfusion blank
    · exact showsLiterals_lexemes t

theorem showsLiterals_free {t : Text} (statement : t.trimStart.head? ≠ some '!') :
    ShowsLiterals (line .free t) t := by
  have blank : '\'' ∉ t.leading :=
    fun mem => absurd (Text.isAllBlank_iff.mp t.leading_isAllBlank _ mem) (by decide)
  have whole : ShowsLiterals (line .free t) (t.leading ++ t.trimStart) :=
    (showsLiterals_freeContent statement).segment? Tag.noConfusion blank
  rw [t.leading_append_trimStart] at whole
  exact whole

theorem segmentAt?_append_left {front : List Segment} {column : Nat} {s : Segment}
    (h : segmentAt? column front = some s) (behind : List Segment) :
    segmentAt? column (front ++ behind) = some s := by
  induction front generalizing column with
  | nil => cases h
  | cons first front ih =>
      rw [List.cons_append, segmentAt?]
      rw [segmentAt?] at h
      split at h
      · case _ covered => rw [if_pos covered, h]
      · case _ beyond => rw [if_neg beyond, ih h]

theorem ShowsLiterals.exists_of_outside {segments : List Segment} {t : Text}
    (h : ShowsLiterals segments t) {front more : Text} (text : t = front ++ ' ' :: more)
    (outside : insideAfter false front = false) :
    ∃ s, segmentAt? front.length segments = some s ∧ s.tag ≠ .string := by
  obtain ⟨s, found, shown⟩ := h front ' ' more text (by decide)
  refine ⟨s, found, fun literal => ?_⟩
  rw [shown.mp literal] at outside
  cases outside

/-- In the segments of a text exactly those blanks are part of a literal that have an odd number of
apostrophes in front. So a break at a blank is never in what is shown as a literal, be it in the
statement or in its unbroken line, whatever columns that is indented by. -/
theorem lexemes_agree_with_layout (t : Text) (single : '\n' ∉ t) :
    (∀ front c more, t = front ++ c :: more → c ≠ '\'' → ∃ s,
      segmentAt? front.length (lexemes t) = some s ∧
        (s.tag = .string ↔ front.count '\'' % 2 = 1)) ∧
    (∀ first rest, 0 < first → 0 < rest → ∀ front ∈ blankBreaks [] (Layout.split first rest t),
      ∃ more s, t = front ++ ' ' :: more ∧ segmentAt? front.length (lexemes t) = some s ∧
        s.tag ≠ .string) ∧
    ∀ limit depth columns, (∀ content, ¬ IsComment t content) →
      ∀ front ∈ lineBreaks limit ⟨depth, t⟩, ∃ more s, t = front ++ ' ' :: more ∧
        segmentAt? (columns + front.length) (highlight (Text.spaces columns ++ t) .free) = some s ∧
          s.tag ≠ .string := by
  have shows := showsLiterals_lexemes t
  refine ⟨?_, ?_, ?_⟩
  · intro front c more text other
    obtain ⟨s, found, shown⟩ := shows front c more text other
    exact ⟨s, found, shown.trans (Literal.insideAfter_true_iff front)⟩
  · intro first rest firstPos restPos front mem
    obtain ⟨⟨more, text⟩, outside⟩ := FreeForm.blank_of_mem_blankBreaks
      (Layout.splits_split firstPos restPos t) mem
    obtain ⟨s, found, bare⟩ := shows.exists_of_outside text outside
    exact ⟨more, s, text, found, bare⟩
  · intro limit depth columns statement front mem
    obtain ⟨⟨more, text⟩, outside⟩ := FreeForm.blank_of_mem_blankBreaks
      (Layout.splits_piecesWithin _ _ _ _ t) mem
    rw [List.nil_append] at text
    have first : (Text.spaces columns ++ t).trimStart.head? ≠ some '!' := by
      rw [Text.trimStart_spaces_append]
      exact mt Layout.exists_isComment_iff.mpr (not_exists.mpr statement)
    have whole : Text.spaces columns ++ t = Text.spaces columns ++ front ++ ' ' :: more := by
      rw [text, List.append_assoc]
    have filled : Text.spaces columns ++ t ≠ [] := by
      rw [whole]
      exact List.append_ne_nil_of_right_ne_nil _ (List.cons_ne_nil _ _)
    have unbroken : '\n' ∉ Text.spaces columns ++ t := by
      intro mem
      rcases List.mem_append.mp mem with space | inside
      · exact absurd (List.eq_of_mem_replicate space) (by decide)
      · exact single inside
    have closed : insideAfter false (Text.spaces columns ++ front) = false := by
      rw [insideAfter_append, Layout.insideAfter_spaces, outside]
    obtain ⟨s, found, bare⟩ := (showsLiterals_free first).exists_of_outside whole closed
    rw [List.length_append, Text.length_spaces] at found
    refine ⟨more, s, text, ?_, bare⟩
    rw [highlight_of_unbroken filled unbroken]
    exact segmentAt?_append_left found _

/-- A blank behind a doubled apostrophe is in the literal; the one that the line is broken at is
not. -/
theorem lexemes_agree_with_layout_doubled :
    '\n' ∉ "print *, 'it''s a b', 'no end".toList ∧
      (∃ s, segmentAt? 15 (lexemes "print *, 'it''s a b', 'no end".toList) = some s ∧
        s.tag = .string) ∧
      ∃ s, segmentAt? (2 + 8) (highlight
        (Text.spaces 2 ++ "print *, 'it''s a b', 'no end".toList) .free) = some s ∧
          s.tag ≠ .string := by
  have single : '\n' ∉ "print *, 'it''s a b', 'no end".toList := by decide
  obtain ⟨blanks, -, breaks⟩ := lexemes_agree_with_layout _ single
  obtain ⟨s, found, shown⟩ := blanks "print *, 'it''s".toList ' ' "a b', 'no end".toList
    (by decide) (by decide)
  obtain ⟨-, other, -, apart, bare⟩ :=
    breaks 18 1 2 (by decide) "print *,".toList (by decide +kernel)
  exact ⟨single, ⟨s, found, shown.mpr (by decide)⟩, other, apart, bare⟩

end FortranWriter.Highlight
