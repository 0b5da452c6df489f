import FortranWriter.Proofs.Layout.Widths
/-! Literals that go on in the next physical line of fixed form. The reader takes every column up to
the limit for part of the literal, so the line in front of the break has to be full. -/
namespace FortranWriter.Layout

theorem fixedRows_append (lead : Text) (front behind : List Piece) :
    fixedRows lead (front ++ behind) =
      fixedRows lead front ++ fixedRows (atFirst lead continuationField front) behind := by
  induction front generalizing lead with
  | nil => rfl
  | cons piece front ih =>
      rw [List.cons_append, fixedRows, ih, atFirst_self, fixedRows, List.cons_append]
      rfl

theorem length_fixedRows (lead : Text) (pieces : List Piece) :
    (fixedRows lead pieces).length = pieces.length := by
  induction pieces generalizing lead with
  | nil => rfl
  | cons piece pieces ih => exact congrArg Nat.succ (ih continuationField)

/-- Physical lines cut in two belong to pieces cut in two. -/
theorem exists_append_of_fixedRows {lead : Text} {pieces : List Piece} {above below : List Text}
    (rows : fixedRows lead pieces = above ++ below) : ∃ front behind, pieces = front ++ behind ∧
      fixedRows lead front = above ∧
      fixedRows (atFirst lead continuationField front) behind = below := by
  have parts := List.take_append_drop above.length pieces
  have size := congrArg List.length rows
  rw [length_fixedRows, List.length_append] at size
  rw [← parts, fixedRows_append] at rows
  obtain ⟨up, down⟩ := List.append_inj rows (by
    rw [length_fixedRows, List.length_take]
    omega)
  exact ⟨_, _, parts.symm, up, down⟩

theorem exists_break_of_fixedRows {lead row next : Text} {pieces : List Piece}
    {above below : List Text} (rows : fixedRows lead pieces = above ++ row :: next :: below) :
    ∃ front piece other behind, pieces = front ++ piece :: other :: behind ∧
      fixedRows lead (front ++ [piece]) = above ++ [row] ∧
      fixedRows continuationField (other :: behind) = next :: below ∧
      row = atFirst lead continuationField front ++ piece.text := by
  obtain ⟨front, others, parts, up, down⟩ := exists_append_of_fixedRows rows
  match others, down with
  | piece :: other :: behind, down =>
      obtain ⟨here, later⟩ := List.cons.inj down
      refine ⟨front, piece, other, behind, parts, ?_, later, here.symm⟩
      rw [fixedRows_append, up, ← here]
      rfl

def bodies (rows : List Text) : Text :=
  rows.flatMap (List.drop 6)

theorem bodies_continuations (pieces : List Piece) :
    bodies (fixedRows continuationField pieces) = pieces.flatMap Piece.text := by
  rw [fixedRows_continuationField, bodies, List.flatMap_map]
  rfl

theorem bodies_fixedRows {field : Text} (size : field.length = 6) (indent : Text)
    {pieces : List Piece} (some : pieces ≠ []) :
    bodies (fixedRows (field ++ indent) pieces) = indent ++ pieces.flatMap Piece.text := by
  obtain ⟨piece, rest, rfl⟩ := List.exists_cons_of_ne_nil some
  have first : (field ++ indent ++ piece.text).drop 6 = indent ++ piece.text := by
    rw [List.append_assoc]
    exact List.drop_left' size
  have others := bodies_continuations rest
  rw [bodies] at others
  rw [fixedRows, bodies, List.flatMap_cons, List.flatMap_cons, others, first, List.append_assoc]

theorem cut_of_goesOn {n capacity : Nat} {before more : Text} {piece next : Piece}
    (breaks : Breaks before capacity piece next)
    (inside : Literal.goesOn (Text.spaces n ++ (before ++ piece.text)) (next.text ++ more) = true) :
    piece.cut = true := by
  cases cut : piece.cut with
  | true => rfl
  | false =>
      obtain ⟨blank, even⟩ := breaks.atBlank cut
      obtain ⟨rest, text⟩ := List.head?_eq_some_iff.mp blank
      rw [text] at inside
      rcases Literal.insideAfter_or_of_goesOn inside with inside | quote
      · rw [Literal.insideAfter_append, insideAfter_spaces,
          (Literal.insideAfter_false_iff _).mpr even] at inside
        cases inside
      · cases quote

theorem length_eq_of_goesOn {limit n : Nat} {field statement : Text} (size : field.length = 6)
    (wide : (field ++ Text.spaces n).length + 8 ≤ limit) {above below : List Text} {row next : Text}
    (rows : fixedStatement limit field (Text.spaces n) statement = above ++ row :: next :: below)
    (inside : Literal.goesOn (bodies (above ++ [row])) (bodies (next :: below)) = true) :
    row.length = limit := by
  rw [fixedStatement_eq] at rows
  obtain ⟨front, piece, other, behind, parts, up, down, here⟩ := exists_break_of_fixedRows rows
  have splits := splits_piecesWithin limit (field ++ Text.spaces n).length
    (field ++ Text.spaces n).length 6 statement
  have fits := fits_piecesWithin limit (field ++ Text.spaces n).length 6 statement
  rw [parts] at splits fits
  have breaks := breaks_of_append splits fits
  rw [List.nil_append] at breaks
  have some : front ++ [piece] ≠ [] := List.append_ne_nil_of_right_ne_nil _ (List.cons_ne_nil _ _)
  rw [← up, bodies_fixedRows size _ some, List.flatMap_append, List.flatMap_singleton, ← down,
    bodies_continuations, List.flatMap_cons] at inside
  -- so the piece is cut, and it takes all the columns that are left
  obtain ⟨full, -⟩ := breaks.within (cut_of_goesOn breaks inside)
  have marks : continuationField.length = 6 := rfl
  rw [here, List.length_append, full]
  rw [List.length_append, size] at wide ⊢
  cases front with
  | nil =>
      rw [atFirst, atFirst, capacity, minimumWidth, List.length_append, size]
      omega
  | cons first front =>
      rw [atFirst, atFirst, capacity, minimumWidth, marks]
      omega

/-- Where a text is broken at a blank, it is outside the literals between apostrophes; and
where it is not, no blank outside of them was among the characters there was room for, and
all of that room is taken. So a literal that goes on in the next physical line of fixed form
fills the one before it. -/
theorem breaks_layout :
    (∀ (first rest : Nat) (t : Text), 0 < first → 0 < rest → ∀ front piece next behind,
      split first rest t = front ++ piece :: next :: behind →
        t = front.flatMap Piece.text ++ piece.text ++ (next :: behind).flatMap Piece.text ∧
          Breaks (front.flatMap Piece.text) (atFirst first rest front) piece next) ∧
    ∀ (fragments : List Fragment) (emission : Emission), emission.form = .fixed →
      layout fragments emission = (fragments.flatMap Fragment.lines).flatMap
          (Layout.line emission.form emission.limit) ∧
        ∀ line ∈ fragments.flatMap Fragment.lines, (∀ content, ¬ IsComment line.text content) →
          statementOffset line + 8 ≤ emission.limit → ∀ above row next below,
            Layout.line emission.form emission.limit line = above ++ row :: next :: below →
              Literal.goesOn (bodies (above ++ [row])) (bodies (next :: below)) = true →
                row.length = emission.limit := by
  constructor
  · intro first rest t firstPos restPos front piece next behind parts
    refine ⟨?_, breaks_split firstPos restPos parts⟩
    have whole := split_flatMap_text first rest t
    rw [parts, List.flatMap_append, List.flatMap_cons, ← List.append_assoc] at whole
    exact whole.symm
  · intro fragments emission fixed
    refine ⟨rfl, ?_⟩
    intro line _ statement wide above row next below rows inside
    obtain ⟨field, n, t, laid, size, offset⟩ := exists_fixedLine_eq emission.limit statement
    rw [fixed, Layout.line, laid] at rows
    rw [← offset] at wide
    exact length_eq_of_goesOn size wide rows inside

/-- The third piece of a call is cut in a literal, behind another one with an apostrophe in it. -/
theorem breaks_layout_call :
    Breaks "call f('it''s',".toList 14 ⟨" 'two  long  w".toList, true⟩
        ⟨"ords', 'x y')".toList, false⟩ ∧
      Layout.line .fixed 20 ⟨0, "call f('it''s', 'two  long  words', 'x y')".toList⟩ =
        ["      call".toList, "     & f('it''s',".toList, "     & 'two  long  w".toList,
          "     &ords', 'x y')".toList] ∧
      "     & 'two  long  w".toList.length = 20 := by
  obtain ⟨splitting, laid⟩ := breaks_layout
  have third := (splitting 14 14 "call f('it''s', 'two  long  words', 'x y')".toList (by decide)
    (by decide) [⟨"call".toList, false⟩, ⟨" f('it''s',".toList, false⟩]
    ⟨" 'two  long  w".toList, true⟩ ⟨"ords', 'x y')".toList, false⟩ [] (by decide +kernel)).2
  have full := (laid [.line "call f('it''s', 'two  long  words', 'x y')".toList]
    { form := .fixed, maxLineLength := some 20 } rfl).2
    ⟨0, "call f('it''s', 'two  long  words', 'x y')".toList⟩ (by decide +kernel) (by decide)
    (by decide) ["      call".toList, "     & f('it''s',".toList] "     & 'two  long  w".toList
    "     &ords', 'x y')".toList [] (by decide +kernel) (by decide +kernel)
  exact ⟨third, by decide +kernel, full⟩

end FortranWriter.Layout
