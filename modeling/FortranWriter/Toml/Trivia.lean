import FortranWriter.Toml.Reader
/-! White space, line ends and comments between the things that matter. -/
namespace FortranWriter.Toml
open Reader

/-- Spaces and tabs are the only white space within a line. -/
def isSpace (c : Char) : Bool :=
  c == ' ' || c == '\t'

/-- Control characters other than the tab may stand nowhere, except in line ends. -/
def isPrintable (c : Char) : Bool :=
  c == '\t' || (' ' ≤ c && c ≤ '~') || '\x80' ≤ c

def space : Reader Text :=
  run isSpace

/-- A line feed, or one behind a carriage return. Where something else stands the fault lies behind
it. -/
def newline : Reader Char := do
  match ← peek? with
  | some '\n' => char '\n'
  | some '\r' => do
    let _ ← char '\r'
    char '\n'
  | _ => missBehind

def comment : Reader Unit := do
  let _ ← char '#'
  let _ ← run isPrintable

def lineEnding : Reader Unit :=
  either (do let _ ← newline) endOfText

def lineTrailing : Reader Unit := do
  let _ ← space
  let _ ← optional comment
  lineEnding

def spaceOrNewline : Reader Unit := do
  let _ ← many (either (do let _ ← newline) (do let _ ← runOfSome isSpace))

/-- White space with line ends and comments in it. A comment has a line end behind it. -/
def blankLinesFrom : Nat → Reader Unit
  | 0 => pure ()
  | fuel + 1 => do
    let _ ← space
    match ← peek? with
    | some '#' => do
      comment
      let _ ← newline
      blankLinesFrom fuel
    | some '\n' | some '\r' => do
      let _ ← newline
      blankLinesFrom fuel
    | _ => pure ()

/-- Each round takes a character at least, but for the last. -/
def blankLines : Reader Unit := do
  blankLinesFrom ((← remaining).length + 1)

end FortranWriter.Toml
