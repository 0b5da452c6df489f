import FortranWriter.Toml.Trivia
/-! Strings: basic ones with escapes, literal ones without, and the two as they may span lines. -/
namespace FortranWriter.Toml
open Reader

/-- What stands for itself between quotation marks. -/
def isBasicCharacter (c : Char) : Bool :=
  isPrintable c && c != '"' && c != '\\'

def isLiteralCharacter (c : Char) : Bool :=
  isPrintable c && c != '\''

def isHexDigit (c : Char) : Bool :=
  c.isDigit || ('a' ≤ c && c ≤ 'f') || ('A' ≤ c && c ≤ 'F')

def hexDigitValue (c : Char) : Nat :=
  if c.isDigit then c.toNat - '0'.toNat
  else if 'a' ≤ c then c.toNat - 'a'.toNat + 10
  else c.toNat - 'A'.toNat + 10

def hexValue (digits : Text) : Nat :=
  digits.foldl (fun n c => 16 * n + hexDigitValue c) 0

/-- Surrogates and numbers past the last character are not characters. -/
def characterOf (number : Nat) : Except Cause Char :=
  if number < 0xd800 ∨ (0xdfff < number ∧ number < 0x110000) then .ok (Char.ofNat number)
  else .error .outOfRange

def hexCharacter (count : Nat) : Reader Char :=
  checked (fun digits => characterOf (hexValue digits)) (exactly isHexDigit count)

def escapeLetters : List String :=
  ["`b`", "`f`", "`n`", "`r`", "`t`", "`u`", "`U`", "`\\`", "`\"`"]

def escapeBody : Reader Char := do
  match ← peek? with
  | none => miss
  | some 'u' => do
    let _ ← char 'u'
    named "unicode 4-digit hex code" (committed (hexCharacter 4))
  | some 'U' => do
    let _ ← char 'U'
    named "unicode 8-digit hex code" (committed (hexCharacter 8))
  | some c =>
    match [('b', '\x08'), ('f', '\x0c'), ('n', '\n'), ('r', '\r'), ('t', '\t'), ('\\', '\\'),
        ('"', '"')].lookup c with
    | some meaning => do
      let _ ← char c
      return meaning
    | none => named "escape sequence" (expecting escapeLetters (committed missBehind))

def escaped : Reader Char := do
  let _ ← char '\\'
  escapeBody

def basicCharacters : Reader Text :=
  either (runOfSome isBasicCharacter) (do return [← escaped])

def basicString : Reader Text := do
  let _ ← char '"'
  let content ← many basicCharacters
  let _ ← named "basic string" (committed (char '"'))
  return content.flatten

def literalString : Reader Text :=
  named "literal string" do
    let _ ← char '\''
    let content ← run isLiteralCharacter
    let _ ← committed (char '\'')
    return content

/-- A backslash at the end of a line takes away all white space up to the next thing. -/
def escapedNewline : Reader Text := do
  let _ ← atLeastOne do
    let _ ← char '\\'
    let _ ← space
    let _ ← newline
    spaceOrNewline
  return []

/-- One or two quotation marks inside a string, if what follows them goes on as it should. -/
def innerQuotes (mark : Char) (next : Reader Unit) : Reader Text :=
  either
    (do let quotes ← literal [mark, mark]; lookahead next; return quotes)
    (do let quotes ← literal [mark]; lookahead next; return quotes)

/-- What is between the opening and the closing marks of a string over several lines: pieces of
text, with one or two marks between pieces or in front of the closing ones. Marks inside are taken
for themselves unless a third one follows. -/
def multilineContent (mark : Char) (piece : Reader Text)
    (pieces : Reader Text → Reader (List Text)) : Reader Text := do
  let first ← many piece
  let middle ← many do
    let quotes ← innerQuotes mark (do let _ ← one (· != mark))
    return quotes ++ (← pieces piece).flatten
  let last ← optional (innerQuotes mark (do let _ ← literal [mark, mark, mark]))
  return first.flatten ++ middle.flatten ++ last.getD []

/-- A string between triple marks. A line end right behind the opening ones does not count. -/
def multilineString (mark : Char) (content : Reader Text) : Reader Text := do
  let _ ← literal [mark, mark, mark]
  let _ ← optional newline
  let content ← committed content
  let _ ← committed (literal [mark, mark, mark])
  return content

/-- Quotation marks inside count as read even if nothing that may stand in a string follows. -/
def multilineBasicString : Reader Text :=
  named "multiline basic string" <| multilineString '"' <| multilineContent '"'
    (either (runOfSome isBasicCharacter) <| either escapedNewline <|
      either (do return [← escaped]) (do return [← newline])) many

/-- Apostrophes inside only count as read if something that may stand in a string follows. -/
def multilineLiteralString : Reader Text :=
  named "multiline literal string" <| multilineString '\'' <| multilineContent '\''
    (either (do return [← one isLiteralCharacter]) (do return [← newline])) atLeastOne

def string : Reader Text :=
  either multilineBasicString <| either basicString <| either multilineLiteralString literalString

end FortranWriter.Toml
