import FortranWriter.Proofs.Wording
/-! Literals read back: what is quoted in an `open` statement cannot end the literal it stands in,
so that the file name and the status are found in the line again whatever they are. -/
namespace FortranWriter

namespace Literal

/-- The content of a literal from behind its opening apostrophe, and what follows the closing one.
Two apostrophes are one of the content. -/
def readContent? : Text → Option (Text × Text)
  | [] => none
  | '\'' :: '\'' :: rest =>
    (readContent? rest).map fun (content, behind) => ('\'' :: content, behind)
  | '\'' :: rest => some ([], rest)
  | c :: rest => (readContent? rest).map fun (content, behind) => (c :: content, behind)

def read? : Text → Option (Text × Text)
  | '\'' :: rest => readContent? rest
  | _ => none

theorem readContent?_doubled (t : Text) {behind : Text} (ended : behind.head? ≠ some '\'') :
    readContent? (doubled t ++ '\'' :: behind) = some (t, behind) := by
  induction t with
  | nil =>
      cases behind with
      | nil => rfl
      | cons c behind =>
          rw [doubled, List.nil_append, readContent?]
          rintro rest ⟨⟩
          exact ended rfl
  | cons c t ih =>
      rw [doubled]
      split
      · case _ quote => rw [List.cons_append, List.cons_append, readContent?, ih, quote]; rfl
      · case _ other =>
          rw [List.cons_append, readContent?, ih]
          · rfl
          · exact fun _ quote => absurd quote other
          · exact other

/-- A quoted text is read as what it was, unless an apostrophe follows it. -/
theorem read?_quote (t : Text) {behind : Text} (ended : behind.head? ≠ some '\'') :
    read? (quote t ++ behind) = some (t, behind) := by
  rw [quote, List.append_assoc]
  exact readContent?_doubled t ended

end Literal

namespace Wording

/-- A line opens a unit with a file and a status: these two are what its literals contain, and there
is nothing else in it than the words around them. -/
def Opens (unit file status t : Text) : Prop :=
  ∃ behind trail, t = "open(unit=".toList ++ unit ++ ", file=".toList ++ behind ∧
    Literal.read? behind = some (file, ", status=".toList ++ trail) ∧
      Literal.read? trail = some (status, ")".toList)

theorem opens_of_openFile {unit file t : Text} {status : Option Text}
    (h : openFile unit file status = .ok t) : Opens unit file (status.getD defaultStatus) t := by
  obtain ⟨-, -, -, text⟩ := openFile_eq_ok_iff.mp h
  refine ⟨_, _, ?_, Literal.read?_quote file ?_, Literal.read?_quote (status.getD defaultStatus) ?_⟩
  · rw [text]
    simp only [List.append_assoc]
  · exact fun quote => absurd (Option.some.inj quote) (by decide)
  · exact fun quote => absurd (Option.some.inj quote) (by decide)

/-- Which file and status a line opens a unit with can be told from it. -/
theorem Opens.unique {unit file status other state t : Text} (h : Opens unit file status t)
    (again : Opens unit other state t) : other = file ∧ state = status := by
  obtain ⟨behind, trail, text, name, last⟩ := h
  obtain ⟨rest, follow, same, name', last'⟩ := again
  obtain rfl := List.append_cancel_left (same.symm.trans text)
  obtain ⟨rfl, tail⟩ := Prod.mk.inj (Option.some.inj (name'.symm.trans name))
  obtain rfl := List.append_cancel_left tail
  obtain ⟨rfl, -⟩ := Prod.mk.inj (Option.some.inj (last'.symm.trans last))
  exact ⟨rfl, rfl⟩

/-- The literals of an `open` statement read as exactly the file and the status it was made for, the
default if none was given, and nothing stands behind them but the closing parenthesis. So no other
file or status gives the same line for the unit. -/
theorem literals_openFile {unit file t : Text} {status : Option Text}
    (h : openFile unit file status = .ok t) :
    Opens unit file (status.getD defaultStatus) t ∧
      ∀ other given, openFile unit other given = .ok t →
        other = file ∧ given.getD defaultStatus = status.getD defaultStatus := by
  have opens := opens_of_openFile h
  exact ⟨opens, fun other given same => opens.unique (opens_of_openFile same)⟩

/-- A file name that looks like the end of the literal it stands in, and a
status that is a literal. -/
theorem literals_openFile_nested :
    openFile "10".toList "a', status='old')".toList (some "'new'".toList) =
        .ok "open(unit=10, file='a'', status=''old'')', status='''new''')".toList ∧
      Opens "10".toList "a', status='old')".toList "'new'".toList
        "open(unit=10, file='a'', status=''old'')', status='''new''')".toList := by
  have made : openFile "10".toList "a', status='old')".toList (some "'new'".toList) =
      .ok "open(unit=10, file='a'', status=''old'')', status='''new''')".toList := rfl
  exact ⟨made, (literals_openFile made).1⟩

end Wording
end FortranWriter
