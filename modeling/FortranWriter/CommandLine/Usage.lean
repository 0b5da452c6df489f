import FortranWriter.CommandLine.Command
import FortranWriter.CommandLine.Misuse
/-! How a command is used: in one line, and at length. -/
namespace FortranWriter.CommandLine

/-- One line with the options that are in use, or else a place for any of them. -/
def usage (command : Command) (leads : Bool) (used : List Text) : Text :=
  let title := faces.literal (Text.joinWith [' '] command.words)
  let operand := (command.operand.toList.map Operand.shown).flatMap (' ' :: ·)
  if used.isEmpty then
    title ++ " [OPTIONS]".toList ++ operand ++ if leads then " [COMMAND]".toList else []
  else
    let switches := used.eraseDups.filterMap command.switchNamed?
    title ++ (switches.map (Switch.shownBy faces.literal)).flatMap (' ' :: ·) ++ operand

namespace Filled

/-- The lines of words behind a line that is begun: a word that does not fit
begins the next line. -/
def linesFrom (width : Nat) (line : Text) : List Text → List Text
  | [] => [line]
  | word :: rest =>
    if line.length + 1 + word.length ≤ width then linesFrom width (line ++ ' ' :: word) rest
    else line :: linesFrom width word rest

/-- As many words on each line as fit, and one at least. -/
def lines (width : Nat) (t : Text) : List Text :=
  match Text.pieces ' ' t with
  | [] => []
  | word :: rest => linesFrom width word rest

end Filled

namespace Help

structure Item where
  term : Text
  shown : Text := term
  help : Text

/-- The columns of a term and of what is around it. -/
def surroundings (widest : Nat) : Nat :=
  widest + 4

/-- Whether a text goes below its term: the terms take more than two fifths of the width and the
text does not fit beside them. -/
def isBelow (width widest : Nat) (help : Text) : Bool :=
  let taken := surroundings widest
  taken ≤ width && 4 * width < 10 * taken && width - taken < help.length

/-- Lines with blanks in front of all but the first. -/
def hanging (indent width : Nat) (t : Text) : Text :=
  Text.joinWith ('\n' :: Text.spaces indent) (Filled.lines (width - indent) t)

def part (width : Nat) (heading : String) (items : List Item) : Text :=
  let widest := (items.map fun item => item.term.length).foldl max 2
  let below := items.any fun item => isBelow width widest item.help
  let item (i : Item) : Text :=
    if below then
      Text.spaces 2 ++ i.shown ++ '\n' :: Text.spaces 10 ++ hanging 10 width i.help
    else
      Text.spaces 2 ++ i.shown ++ Text.spaces (widest + 2 - i.term.length) ++
        hanging (widest + 4) width i.help
  faces.usage (heading.toList ++ [':']) ++ '\n' :: Text.joinWith ['\n'] (items.map item)

def ofSwitch (switch : Switch) : Item :=
  let shownBy (face : Text → Text) : Text :=
    (match switch.letter with
      | some c => face ['-', c] ++ ", ".toList
      | none => Text.spaces 4) ++ switch.shownBy face
  ⟨shownBy id, shownBy faces.literal, switch.help⟩

def inOrder (switches : List Switch) : List Switch :=
  switches.mergeSort fun a b => a.rank ≤ b.rank

end Help

open Help in
/-- All there is to know of a command, for a given width. -/
def help (command : Command) (leads : List Command) (width : Nat) : Text :=
  let parts :=
    [part width "Commands" (leads.map fun c => ⟨c.name, faces.literal c.name, c.about⟩),
      part width "Arguments" (command.operand.toList.map fun o => ⟨o.shown, o.shown, o.help⟩),
      part width "Options" ((inOrder command.switches).map ofSwitch)]
  let present := [!leads.isEmpty, command.operand.isSome, !command.switches.isEmpty]
  let shown := (parts.zip present).filterMap fun (t, isPresent) =>
    if isPresent then some t else none
  hanging 0 width command.about ++ "\n\n".toList ++ faces.usage "Usage:".toList ++
    ' ' :: usage command (!leads.isEmpty) [] ++ "\n\n".toList ++
    Text.joinWith "\n\n".toList shown ++ ['\n']

end FortranWriter.CommandLine
