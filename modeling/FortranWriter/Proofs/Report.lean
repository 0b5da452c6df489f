import FortranWriter.Proofs.Fragment.Nesting
import FortranWriter.Proofs.Terminal
import FortranWriter.Proofs.Text.Positions
import FortranWriter.Report
/-! How a fault in a descriptor is shown in full: its place and problem, and under them the line it
is on with a mark at its column. -/
namespace FortranWriter

theorem Text.trimAscii_around (front back : Text) {t : Text} {c d : Char}
    (before : front.all isAsciiBlank = true) (after : back.all isAsciiBlank = true)
    (first : t.head? = some c) (last : t.getLast? = some d)
    (begun : isAsciiBlank c = false) (ended : isAsciiBlank d = false) :
    trimAscii (front ++ t ++ back) = t := by
  have start : ∀ e, (t ++ back).head? = some e → isAsciiBlank e = false := by
    intro e head
    rw [List.head?_append, first] at head
    cases head
    exact begun
  have finish : ∀ e, t.reverse.head? = some e → isAsciiBlank e = false := by
    intro e head
    rw [List.head?_reverse, last] at head
    cases head
    exact ended
  rw [← List.all_reverse] at after
  rw [trimAscii, List.append_assoc, dropWhile_of_stop (List.all_eq_true.mp before) start,
    List.reverse_append, dropWhile_of_stop (List.all_eq_true.mp after) finish, List.reverse_reverse]

namespace Report
open Terminal

/-- The rows of an excerpt: an empty one, a line behind its number, and a mark under a column of the
line. Their bars are in one column, behind the padded number. -/
def rows (number line : Text) (column : Nat) : List Text :=
  let padding := 3 - number.length
  let margin := Text.spaces (padding + number.length + 1)
  [margin ++ ['|'], Text.spaces padding ++ number ++ " | ".toList ++ line,
    margin ++ "| ".toList ++ Text.spaces column ++ ['^']]

theorem number_bare (n : Nat) : escape ∉ Decimal.ofNat n :=
  fun mem => absurd (Decimal.isDigit_of_mem_ofNat mem) (by decide)

theorem shows_spaces (n : Nat) : Shows (Text.spaces n) (Text.spaces n) :=
  shows_of_bare (Text.not_mem_spaces (by decide) n)

section
variable {fault : Descriptor.ParsingFault} {filename source : Text}

theorem getLast?_sequence (parameters : Text) : (sequence parameters).getLast? = some 'm' :=
  List.getLast?_concat (l := escape :: '[' :: parameters)

theorem getLast?_brightRed (t : Text) : (brightRed t).getLast? = some 'm' := by
  rw [brightRed, between, List.getLast?_append, getLast?_sequence]
  rfl

/-- Trimming takes away what the report is set on, and nothing of the report. -/
theorem parsingFaultInFull_eq (fault : Descriptor.ParsingFault) (filename source : Text) :
    parsingFaultInFull fault filename source =
      parsingFault fault filename source ++ "\n\n".toList ++
      excerpt source (Position.ofOffset source fault.offset) := by
  have first : (parsingFault fault filename source ++ "\n\n".toList ++
      excerpt source (Position.ofOffset source fault.offset)).head? = some escape := rfl
  have last : (parsingFault fault filename source ++ "\n\n".toList ++
      excerpt source (Position.ofOffset source fault.offset)).getLast? = some 'm' := by
    rw [excerpt, List.getLast?_append, List.getLast?_append, List.getLast?_cons, getLast?_brightRed]
    rfl
  exact Text.trimAscii_around ['\n'] ('\n' :: Text.spaces 8) (by decide) (by decide) first last
    (by decide) (by decide)

theorem shows_mark : Shows mark "error: ".toList :=
  (shows_between (by decide) (by decide) (shows_of_bare (by decide))).append
    (shows_of_bare (by decide))

theorem shows_parsingFault (name : escape ∉ filename) (problem : escape ∉ fault.problem)
    (position : Position) (found : Position.ofOffset source fault.offset = position) :
    Shows (parsingFault fault filename source)
      ("error: ".toList ++ filename ++ ':' :: Decimal.ofNat (position.line + 1) ++
        ':' :: Decimal.ofNat (position.column + 1) ++ ' ' :: fault.problem) := by
  have coordinate : ∀ n, Shows (':' :: Decimal.ofNat n) (':' :: Decimal.ofNat n) := by
    intro n
    refine shows_of_bare fun mem => number_bare n ?_
    exact (List.mem_cons.mp mem).resolve_left (by decide)
  have shown : Shows (bold fault.problem) fault.problem :=
    shows_between (by decide) (by decide) (shows_of_bare problem)
  rw [parsingFault, found]
  exact
    (((shows_mark.append (shows_of_bare name)).append (coordinate _)).append (coordinate _)).append
    ((shows_of_bare (t := [' ']) (by decide)).append shown)

theorem lineAt_cases (source : Text) (position : Position) :
    lineAt source position = ['?'] ∨ lineAt source position ∈ source.lines := by
  rw [lineAt]
  cases found : source.lines[position.line]? with
  | none => exact .inl rfl
  | some line => exact .inr (List.mem_of_getElem? found)

theorem lineAt_bare (bare : escape ∉ source) (position : Position) :
    escape ∉ lineAt source position := by
  rcases lineAt_cases source position with missing | among
  · rw [missing]
    decide
  · exact fun mem => bare (Text.mem_of_mem_lines among mem)

theorem newline_not_mem_lineAt (source : Text) (position : Position) :
    '\n' ∉ lineAt source position := by
  rcases lineAt_cases source position with missing | among
  · rw [missing]
    decide
  · exact Text.newline_not_mem_of_mem_lines among

theorem shows_bar : Shows bar ['|'] :=
  shows_between (by decide) (by decide) (shows_of_bare (by decide))

theorem shows_margin (width : Nat) :
    Shows (Text.spaces width ++ ' ' :: bar) (Text.spaces (width + 1) ++ ['|']) := by
  rw [Text.spaces, Text.spaces, List.replicate_succ', List.append_assoc]
  exact (shows_spaces width).append ((shows_of_bare (t := [' ']) (by decide)).append shows_bar)

theorem shows_number (n : Nat) :
    Shows (brightBlue (Text.alignRight (max 3 (Decimal.ofNat n).length) (Decimal.ofNat n)))
      (Text.spaces (3 - (Decimal.ofNat n).length) ++ Decimal.ofNat n) := by
  refine shows_between (by decide) (by decide) ?_
  have size : max 3 (Decimal.ofNat n).length - (Decimal.ofNat n).length =
      3 - (Decimal.ofNat n).length := by omega
  rw [Text.alignRight, size]
  exact (shows_spaces _).append (shows_of_bare (number_bare n))

theorem shows_pointer (column : Nat) : Shows (brightRed (Text.alignRight (column + 1) ['^']))
    (Text.spaces column ++ ['^']) :=
  shows_between (by decide) (by decide)
    ((shows_spaces column).append (shows_of_bare (by decide)))

theorem shows_excerpt (bare : escape ∉ source) (position : Position) :
    Shows (excerpt source position) (Text.joinWith ['\n']
      (rows (Decimal.ofNat (position.line + 1)) (lineAt source position) position.column)) := by
  have width : 3 - (Decimal.ofNat (position.line + 1)).length +
      (Decimal.ofNat (position.line + 1)).length =
        max 3 (Decimal.ofNat (position.line + 1)).length := by omega
  have feed : Shows ['\n'] ['\n'] := shows_of_bare (by decide)
  have space : Shows [' '] [' '] := shows_of_bare (by decide)
  have margin := shows_margin (max 3 (Decimal.ofNat (position.line + 1)).length)
  have numbered :=
    (((shows_number (position.line + 1)).append (space.append shows_bar)).append space).append
      (shows_of_bare (lineAt_bare bare position))
  have pointed := (margin.append space).append (shows_pointer position.column)
  have whole := (margin.append feed).append ((numbered.append feed).append pointed)
  have between : " | ".toList = [' ', '|', ' '] := rfl
  have behind : "| ".toList = ['|', ' '] := rfl
  simpa only [excerpt, rows, width, between, behind, Text.joinWith, List.append_assoc,
    List.cons_append, List.nil_append] using whole

theorem newline_not_mem_of_mem_rows {number line row : Text} {column : Nat} (plain : '\n' ∉ number)
    (single : '\n' ∉ line) (h : row ∈ rows number line column) : '\n' ∉ row := by
  have blank : ∀ n, '\n' ∉ Text.spaces n := Text.not_mem_spaces (by decide)
  rw [rows, List.mem_cons, List.mem_cons, List.mem_singleton] at h
  rcases h with rfl | rfl | rfl
  · simpa using blank _
  · simpa [single, plain] using blank _
  · simpa using ⟨blank _, blank _⟩

/-- A report in full begins with the one without the line, and under it has an empty row and
three more: a blank one, the line of the fault behind its number, and a mark under the place
of the fault in it. There is no line if the fault is behind the last line feed of the text
and nothing is there. -/
theorem parsingFaultInFull_points (fault : Descriptor.ParsingFault) (filename : Text)
    {source front rest : Text} (name : escape ∉ filename) (problem : escape ∉ fault.problem)
    (bare : escape ∉ source) (cut : source.CutAt fault.offset front rest) :
    (parsingFault fault filename source ++ "\n\n".toList) <+:
      parsingFaultInFull fault filename source ∧
    Text.pieces '\n' (unstyled (parsingFaultInFull fault filename source)) =
      Text.pieces '\n' (unstyled (parsingFault fault filename source)) ++
        [] :: rows (Decimal.ofNat (front.count '\n' + 1))
          (source.lines[front.count '\n']?.getD ['?']) (front.rtakeWhile (· != '\n')).length ∧
    (source.lines[front.count '\n']? = none ↔ rest = [] ∧ source.Ended) := by
  have found : Position.ofOffset source fault.offset =
      ⟨front.count '\n', (front.rtakeWhile (· != '\n')).length⟩ := by
    rw [cut.ofOffset_eq, ← Position.line_behind, ← Position.column_behind]
  refine ⟨⟨_, (parsingFaultInFull_eq fault filename source).symm⟩, ?_, ?_⟩
  · have header := shows_parsingFault name problem _ found
    have feeds : Shows "\n\n".toList ['\n', '\n'] := shows_of_bare (by decide)
    have whole :=
      (header.append feeds).append (shows_excerpt bare (Position.ofOffset source fault.offset))
    have unbroken : ∀ row ∈ rows (Decimal.ofNat (front.count '\n' + 1))
        (source.lines[front.count '\n']?.getD ['?']) (front.rtakeWhile (· != '\n')).length,
        '\n' ∉ row :=
      fun row => newline_not_mem_of_mem_rows (Decimal.oneLine_ofNat _).newline_not_mem
        (newline_not_mem_lineAt source ⟨front.count '\n', 0⟩)
    rw [found] at whole
    rw [parsingFaultInFull_eq, found, whole.unstyled, header.unstyled, List.append_assoc,
      List.cons_append, List.singleton_append, Text.pieces_append, Text.pieces_separator_cons]
    exact congrArg (_ ++ [] :: ·) (Text.pieces_joinWith (List.cons_ne_nil _ _) unbroken)
  · rw [← cut.whole]
    exact Text.getElem?_lines_eq_none_iff

/-- A wide character in front of the fault takes one column. -/
theorem parsingFaultInFull_points_wide :
    Text.CutAt "é\r\n§x\n".toList 6 "é\r\n§".toList "x\n".toList ∧
    Text.pieces '\n' (unstyled
      (parsingFaultInFull ⟨"bad".toList, 6⟩ "a.toml".toList "é\r\n§x\n".toList)) =
      ["error: a.toml:2:2 bad".toList, [], "    |".toList, "  2 | §x".toList,
        "    |  ^".toList] := by
  have cut : Text.CutAt "é\r\n§x\n".toList 6 "é\r\n§".toList "x\n".toList := ⟨rfl, by decide⟩
  obtain ⟨-, shown, -⟩ := parsingFaultInFull_points ⟨"bad".toList, 6⟩ "a.toml".toList (by decide)
    (by decide) (by decide) cut
  refine ⟨cut, shown.trans ?_⟩
  decide +kernel

/-- Behind the last line there is no line to show. -/
example : Text.pieces '\n' (unstyled
    (parsingFaultInFull ⟨"bad".toList, 99⟩ "a.toml".toList "x\n".toList)) =
      ["error: a.toml:2:1 bad".toList, [], "    |".toList, "  2 | ?".toList, "    | ^".toList] := by
  decide +kernel

end
end Report
end FortranWriter
