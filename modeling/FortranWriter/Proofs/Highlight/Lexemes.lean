import FortranWriter.Proofs.Highlight.Segments
/-! What a lexeme can be: a literal behind its apostrophe, a number, or something that has no
apostrophe in it. Numbers have a whole part, a fraction and an exponent. -/
namespace FortranWriter.Highlight

inductive IsFraction : Text → Prop
  | none : IsFraction []
  | point {digits : Text} : (∀ c ∈ digits, c.isDigit = true) → IsFraction ('.' :: digits)

/-- An exponent letter, a sign or none, and digits, or nothing at all. -/
inductive IsExponent : (sign t : Text) → Prop
  | none : IsExponent [] []
  | scaled {letter : Char} {sign digits : Text} : letter ∈ "eEdD".toList →
      sign = [] ∨ sign = ['+'] ∨ sign = ['-'] → (∀ c ∈ digits, c.isDigit = true) →
      IsExponent sign (letter :: (sign ++ digits))

/-- Digits, a fraction and an exponent. The sign is that of the exponent. -/
structure IsNumber (sign t : Text) : Prop where
  parts : ∃ whole fraction exponent : Text, t = whole ++ (fraction ++ exponent) ∧ whole ≠ [] ∧
    (∀ c ∈ whole, c.isDigit = true) ∧ IsFraction fraction ∧ IsExponent sign exponent

def HasSignedExponent (t : Text) : Prop :=
  ∃ sign, sign ≠ [] ∧ IsNumber sign t

section
variable {sign t : Text} {c : Char}

theorem IsFraction.mem_cases (h : IsFraction t) (mem : c ∈ t) : c.isDigit = true ∨ c = '.' := by
  cases h with
  | none => cases mem
  | point digits =>
      rcases List.mem_cons.mp mem with rfl | inside
      · exact .inr rfl
      · exact .inl (digits c inside)

theorem IsExponent.mem_cases (h : IsExponent sign t) (mem : c ∈ t) :
    c.isDigit = true ∨ c ∈ "eEdD".toList ∨ c ∈ sign := by
  cases h with
  | none => cases mem
  | scaled letter _ digits =>
      rcases List.mem_cons.mp mem with rfl | inside
      · exact .inr (.inl letter)
      · rcases List.mem_append.mp inside with signed | digit
        · exact .inr (.inr signed)
        · exact .inl (digits c digit)

theorem IsNumber.mem_cases (h : IsNumber sign t) (mem : c ∈ t) :
    (c.isDigit = true ∨ c = '.' ∨ c ∈ "eEdD".toList) ∨ c ∈ sign := by
  obtain ⟨whole, fraction, exponent, rfl, -, digits, point, scaled⟩ := h.parts
  rcases List.mem_append.mp mem with front | behind
  · exact .inl (.inl (digits c front))
  · rcases List.mem_append.mp behind with inside | last
    · exact .inl ((point.mem_cases inside).imp_right .inl)
    · rcases scaled.mem_cases last with digit | letter | signed
      · exact .inl (.inl digit)
      · exact .inl (.inr (.inr letter))
      · exact .inr signed

theorem IsExponent.sign_cases (h : IsExponent sign t) :
    sign = [] ∨ sign = ['+'] ∨ sign = ['-'] := by
  cases h with
  | none => exact .inl rfl
  | scaled _ possible _ => exact possible

theorem IsExponent.subset (h : IsExponent sign t) : sign ⊆ t := by
  cases h with
  | none => exact List.nil_subset _
  | scaled => exact fun c mem => List.mem_cons_of_mem _ (List.mem_append_left _ mem)

theorem IsNumber.sign_cases (h : IsNumber sign t) : sign = [] ∨ sign = ['+'] ∨ sign = ['-'] := by
  obtain ⟨_, _, _, _, _, _, _, scaled⟩ := h.parts
  exact scaled.sign_cases

theorem IsNumber.forall_mem_sign {p : Char → Prop} (h : IsNumber sign t) (plus : p '+')
    (minus : p '-') :
    ∀ c ∈ sign, p c := by
  rcases h.sign_cases with rfl | rfl | rfl
  · exact List.forall_mem_nil p
  · exact List.forall_mem_singleton.mpr plus
  · exact List.forall_mem_singleton.mpr minus

theorem IsNumber.subset (h : IsNumber sign t) : sign ⊆ t := by
  obtain ⟨whole, fraction, exponent, rfl, -, -, -, scaled⟩ := h.parts
  intro c mem
  exact List.mem_append_right _ (List.mem_append_right _ (scaled.subset mem))

theorem IsNumber.exists_cons (h : IsNumber sign t) :
    ∃ d rest, t = d :: rest ∧ d.isDigit = true := by
  obtain ⟨whole, fraction, exponent, rfl, some, digits, -, -⟩ := h.parts
  obtain ⟨d, more, rfl⟩ := List.exists_cons_of_ne_nil some
  exact ⟨d, more ++ (fraction ++ exponent), rfl, digits d List.mem_cons_self⟩

end

theorem of_mem_span {p : Char → Bool} {t : Text} {c : Char} (h : c ∈ (t.span p).1) :
    p c = true := by
  rw [List.span_eq_takeWhile_dropWhile] at h
  exact List.all_eq_true.mp List.all_takeWhile c h

theorem isFraction_fraction (t : Text) : IsFraction (fraction t).1 := by
  unfold fraction
  split
  · exact .point fun c => of_mem_span
  · exact .none

theorem exists_isExponent (t : Text) : ∃ sign, IsExponent sign (exponent t).1 := by
  have scaled := scaled_exponent t
  generalize exponent t = cut at scaled ⊢
  cases scaled with
  | none => exact ⟨[], .none⟩
  | some letter possible _ => exact ⟨_, .scaled letter possible fun c => of_mem_span⟩

theorem exists_isNumber {c : Char} (digit : c.isDigit = true) (rest : Text) :
    ∃ sign, IsNumber sign (number (c :: rest)).1 := by
  obtain ⟨sign, exponent⟩ := exists_isExponent (fraction ((c :: rest).span Char.isDigit).2).2
  refine ⟨sign, _, _, _, List.append_assoc _ _ _, ?_, fun d => of_mem_span,
    isFraction_fraction _, exponent⟩
  rw [List.span_eq_takeWhile_dropWhile, List.takeWhile_cons_of_pos digit]
  exact List.cons_ne_nil _ _

/-- What the first lexeme of a text can be. -/
inductive Lexed (c : Char) (rest : Text) : Cut → Prop
  | literal : c = '\'' → Lexed c rest ⟨.string, c :: (literalRest rest).1, (literalRest rest).2⟩
  | number {sign head behind : Text} : IsNumber sign head → Lexed c rest ⟨.numeric, head, behind⟩
  | other {tag : Tag} {head behind : Text} : tag ≠ .string → tag ≠ .numeric → '\'' ∉ head →
      Lexed c rest ⟨tag, head, behind⟩

theorem lexed_alone {tag : Tag} {c : Char} (literal : tag ≠ .string) (numeric : tag ≠ .numeric)
    (apart : c ≠ '\'') (rest : Text) : Lexed c rest ⟨tag, [c], rest⟩ :=
  .other literal numeric fun mem => apart (List.mem_singleton.mp mem).symm

theorem lexed_span {tag : Tag} {c : Char} (literal : tag ≠ .string) (numeric : tag ≠ .numeric)
    (apart : c ≠ '\'') {p : Char → Bool} (outside : p '\'' = false) (rest : Text) :
    Lexed c rest ⟨tag, c :: (rest.span p).1, (rest.span p).2⟩ := by
  refine .other literal numeric fun mem => ?_
  rcases List.mem_cons.mp mem with same | inside
  · exact apart same.symm
  · exact absurd (of_mem_span inside) (Bool.eq_false_iff.mp outside)

theorem lexed_dotted {rest : Text} {cut : Text × Text} (h : dotted? rest = some cut) :
    Lexed '.' rest ⟨.operator, '.' :: cut.1, cut.2⟩ := by
  unfold dotted? at h
  split at h
  · case _ c letters behind found =>
      cases h
      refine .other Tag.noConfusion Tag.noConfusion fun mem => ?_
      have letter : '\'' ∉ c :: letters := by
        intro inside
        have front : (rest.span Char.isAlpha).1 = c :: letters := congrArg Prod.fst found
        rw [← front] at inside
        exact absurd (of_mem_span inside) (by decide)
      simp at mem letter
      tauto
  · cases h

theorem wordTag_ne (word : Text) : wordTag word ≠ .string ∧ wordTag word ≠ .numeric := by
  unfold wordTag
  simp only
  split_ifs <;> exact ⟨Tag.noConfusion, Tag.noConfusion⟩

theorem lexed_lexeme (c : Char) (rest : Text) : Lexed c rest (lexeme c rest) := by
  unfold lexeme
  simp only
  split_ifs with quote point operator digit letter mark structural blank
  · exact .literal quote
  · subst point
    split
    · case _ cut found => exact lexed_dotted found
    · exact lexed_alone Tag.noConfusion Tag.noConfusion quote rest
  · exact lexed_span Tag.noConfusion Tag.noConfusion quote (by decide) rest
  · obtain ⟨sign, shape⟩ := exists_isNumber digit rest
    exact .number shape
  · obtain ⟨literal, numeric⟩ := wordTag_ne (c :: (rest.span isWordRest).1)
    exact lexed_span literal numeric quote (by decide) rest
  · exact lexed_alone Tag.noConfusion Tag.noConfusion quote rest
  · exact lexed_alone Tag.noConfusion Tag.noConfusion quote rest
  · exact lexed_span Tag.noConfusion Tag.noConfusion quote (by decide) rest
  · exact lexed_alone Tag.noConfusion Tag.noConfusion quote rest

theorem exists_lexed_of_mem {fuel : Nat} {t : Text} {s : Segment} (h : s ∈ lexemesFrom fuel t) :
    ∃ c rest behind, Lexed c rest ⟨s.tag, s.text, behind⟩ := by
  induction fuel generalizing t with
  | zero => cases h
  | succ fuel ih =>
      cases t with
      | nil => cases h
      | cons c rest =>
          rcases List.mem_cons.mp h with rfl | later
          · exact ⟨c, rest, _, lexed_lexeme c rest⟩
          · exact ih later

theorem exists_isNumber_of_mem {t u : Text} (h : ⟨.numeric, u⟩ ∈ lexemes t) :
    ∃ sign, IsNumber sign u := by
  obtain ⟨c, rest, behind, lexed⟩ := exists_lexed_of_mem h
  cases lexed with
  | number shape => exact ⟨_, shape⟩
  | other _ numeric _ => exact absurd rfl numeric

end FortranWriter.Highlight
