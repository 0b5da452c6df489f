/-! Text as a list of characters: blanks, trimming, lines and joining. -/
namespace FortranWriter

abbrev Text := List Char

/-- The Unicode property White_Space. -/
def isBlank (c : Char) : Bool :=
  let n := c.toNat
  (0x09 ≤ n && n ≤ 0x0d) || n == 0x20 || n == 0x85 || n == 0xa0 || n == 0x1680 ||
    (0x2000 ≤ n && n ≤ 0x200a) || n == 0x2028 || n == 0x2029 || n == 0x202f ||
    n == 0x205f || n == 0x3000

namespace Text

/-- A text with nothing but blanks in it, the empty one included. -/
def isAllBlank (t : Text) : Bool :=
  t.all isBlank

def trimStart (t : Text) : Text :=
  t.dropWhile isBlank

def trimEnd (t : Text) : Text :=
  (t.reverse.dropWhile isBlank).reverse

def trim (t : Text) : Text :=
  trimEnd (trimStart t)

/-- The white space of ASCII, the vertical tab excepted. -/
def isAsciiBlank (c : Char) : Bool :=
  c == ' ' || c == '\t' || c == '\n' || c == '\x0c' || c == '\r'

def trimAscii (t : Text) : Text :=
  ((t.dropWhile isAsciiBlank).reverse.dropWhile isAsciiBlank).reverse

def leading (t : Text) : Text :=
  t.takeWhile isBlank

def spaces (n : Nat) : Text :=
  List.replicate n ' '

/-- Blanks are put in front until the text is as wide as asked. -/
def alignRight (width : Nat) (t : Text) : Text :=
  spaces (width - t.length) ++ t

/-- The items in order, the separator between each two. -/
def joinWith (separator : Text) : List Text → Text
  | [] => []
  | [t] => t
  | t :: u :: rest => t ++ separator ++ joinWith separator (u :: rest)

/-- Neither a line feed nor a carriage return occurs. -/
def isSingleLine (t : Text) : Bool :=
  t.all fun c => c != '\n' && c != '\r'

/-- The lines of a text: it is cut at each line feed, a carriage return directly before one goes
with it, and nothing follows a final line feed. -/
def lines : Text → List Text
  | [] => []
  | '\n' :: rest => [] :: lines rest
  | '\r' :: '\n' :: rest => [] :: lines rest
  | c :: rest =>
    match lines rest with
    | [] => [[c]]
    | line :: more => (c :: line) :: more

/-- The pieces between separators, empty ones included. -/
def pieces (separator : Char) : Text → List Text
  | [] => [[]]
  | c :: rest =>
    if c = separator then [] :: pieces separator rest
    else
      match pieces separator rest with
      | [] => [[c]]
      | piece :: more => (c :: piece) :: more

def byteCount : Text → Nat
  | [] => 0
  | c :: rest => c.utf8Size + byteCount rest

def bytes (t : Text) : ByteArray :=
  (String.ofList t).toUTF8

/-- ASCII capitals become small letters and nothing else changes. -/
def lowerAscii (t : Text) : Text :=
  t.map Char.toLower

end Text

/-! Character literals delimited by apostrophes, an apostrophe inside being written twice. -/
namespace Literal

def doubled : Text → Text
  | [] => []
  | c :: rest => if c = '\'' then '\'' :: '\'' :: doubled rest else c :: doubled rest

def quote (t : Text) : Text :=
  '\'' :: doubled t ++ ['\'']

/-- Whether a position is inside a literal after the text has been passed, given whether it was
inside before: each apostrophe opens or closes one. -/
def insideAfter (inside : Bool) : Text → Bool
  | [] => inside
  | c :: rest => insideAfter (if c = '\'' then !inside else inside) rest

end Literal

/-! Sets of characters, given by the runs of code points that they consist of. -/
namespace Runs

/-- Looks for a run that a code point is in between two places of a table in order, the second of
which is past it. The distance halves in each round. -/
def isInBetween (runs : Array (Nat × Nat)) (n : Nat) : (fuel low high : Nat) → Bool
  | 0, _, _ => false
  | fuel + 1, low, high =>
    let middle := (low + high) / 2
    match runs[middle]? with
    | none => false
    | some (first, last) =>
      if n < first then low < middle && isInBetween runs n fuel low middle
      else if last < n then middle + 1 < high && isInBetween runs n fuel (middle + 1) high
      else true

def isIn (runs : Array (Nat × Nat)) (n : Nat) : Bool :=
  isInBetween runs n runs.size 0 runs.size

end Runs
end FortranWriter
