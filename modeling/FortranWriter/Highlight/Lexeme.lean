import FortranWriter.Highlight.Segment
/-! The lexemes of a statement: literals, operators, numbers, words and marks. Any text has them:
what is none of these is a run of blanks or a single character. -/
namespace FortranWriter.Highlight

/-- The first lexeme of a text, and what follows it. -/
structure Cut where
  tag : Tag
  head : Text
  rest : Text
deriving DecidableEq, Repr

def Cut.behind (front : Text) (cut : Text × Text) : Text × Text :=
  (front ++ cut.1, cut.2)

/-- The rest of a literal behind its opening apostrophe: up to an apostrophe that no other follows,
or everything. -/
def literalRest : Text → Text × Text
  | [] => ([], [])
  | '\'' :: '\'' :: rest => Cut.behind ['\'', '\''] (literalRest rest)
  | '\'' :: rest => (['\''], rest)
  | c :: rest => Cut.behind [c] (literalRest rest)

def isOperator (c : Char) : Bool :=
  "-+*/=<>".toList.contains c

def isWordStart (c : Char) : Bool :=
  c.isAlpha || c == '_'

def isWordRest (c : Char) : Bool :=
  c.isAlphanum || c == '_'

/-- Letters between two points, as in `.and.`, the first point already passed. -/
def dotted? (t : Text) : Option (Text × Text) :=
  match t.span Char.isAlpha with
  | (c :: letters, '.' :: rest) => some (c :: letters ++ ['.'], rest)
  | _ => none

/-- A point and digits, or nothing. -/
def fraction (t : Text) : Text × Text :=
  match t with
  | '.' :: rest => Cut.behind ['.'] (rest.span Char.isDigit)
  | _ => ([], t)

/-- An exponent letter, a sign at most, and digits, or nothing. -/
def exponent (t : Text) : Text × Text :=
  match t with
  | c :: rest =>
    if "eEdD".toList.contains c then
      let signed : Text × Text := match rest with
        | '+' :: more => (['+'], more)
        | '-' :: more => (['-'], more)
        | _ => ([], rest)
      match signed.2.span Char.isDigit with
      | ([], _) => ([], t)
      | digits => Cut.behind (c :: signed.1) digits
    else ([], t)
  | [] => ([], t)

def number (t : Text) : Text × Text :=
  let whole := t.span Char.isDigit
  let fractional := fraction whole.2
  let scaled := exponent fractional.2
  (whole.1 ++ fractional.1 ++ scaled.1, scaled.2)

def keywords : List String :=
  ["call", "do", "continue", "if", "then", "else", "end", "endif", "enddo", "goto", "go", "to",
    "return", "stop", "program", "subroutine", "function", "open", "close", "read", "write",
    "format", "common", "parameter", "implicit", "none"]

def typeWords : List String :=
  ["integer", "real", "double", "precision", "complex", "logical", "character"]

/-- Words of the language are told from names, in small or capital letters. -/
def wordTag (word : Text) : Tag :=
  let small := String.ofList (Text.lowerAscii word)
  if keywords.contains small then .keyword
  else if typeWords.contains small then .declaration
  else .neutral

/-- The lexeme that a text begins with, its first character given apart. -/
def lexeme (c : Char) (rest : Text) : Cut :=
  let plain (cut : Text × Text) (tag : Tag) : Cut := ⟨tag, cut.1, cut.2⟩
  if c = '\'' then plain (Cut.behind [c] (literalRest rest)) .string
  else if c = '.' then
    match dotted? rest with
    | some cut => plain (Cut.behind [c] cut) .operator
    | none => ⟨.neutral, [c], rest⟩
  else if isOperator c then plain (Cut.behind [c] (rest.span isOperator)) .operator
  else if c.isDigit then plain (number (c :: rest)) .numeric
  else if isWordStart c then
    let cut := Cut.behind [c] (rest.span isWordRest)
    plain cut (wordTag cut.1)
  else if c = '&' then ⟨.continuation, [c], rest⟩
  else if "(),:".toList.contains c then ⟨.structural, [c], rest⟩
  else if isBlank c then plain (Cut.behind [c] (rest.span isBlank)) .neutral
  else ⟨.neutral, [c], rest⟩

/-- The lexemes of a text. Each takes one character at least, so the fuel is its length. -/
def lexemesFrom : Nat → Text → List Segment
  | 0, _ => []
  | _, [] => []
  | fuel + 1, c :: rest =>
    let cut := lexeme c rest
    ⟨cut.tag, cut.head⟩ :: lexemesFrom fuel cut.rest

def lexemes (t : Text) : List Segment :=
  lexemesFrom t.length t

end FortranWriter.Highlight
