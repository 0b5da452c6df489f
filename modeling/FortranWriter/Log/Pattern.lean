import FortranWriter.Text.Numeral
/-! Regular expressions, as far as it has to be told which texts are such. Counted repetitions and
names in braces are left out: the places where patterns stand end at a brace. -/
namespace FortranWriter.Log.Pattern

/-- What is left of a pattern once a part of it has been read. -/
abbrev Rest := Option Text

def isLetter (c : Char) : Bool :=
  c.isAlpha

/-- Characters that may stand behind a backslash for themselves. -/
def isPunctuation (c : Char) : Bool :=
  c.toNat < 0x80 && !c.isAlphanum && c != '<' && c != '>'

def isHexDigit (c : Char) : Bool :=
  c.isDigit || ('a' ≤ c && c ≤ 'f') || ('A' ≤ c && c ≤ 'F')

def hexValue (digits : Text) : Nat :=
  digits.foldl (fun n c => 16 * n +
    if c.isDigit then c.toNat - 48 else if 'a' ≤ c then c.toNat - 87 else c.toNat - 55) 0

/-- What an escape stands for: one character, a class of them, or a place between them. -/
inductive Meaning where
  | character (c : Char)
  | kind
  | place
deriving DecidableEq, Repr

def numbered (count : Nat) (t : Text) : Option (Meaning × Text) :=
  let digits := t.take count
  let n := hexValue digits
  if digits.length = count && digits.all isHexDigit && n.isValidChar then
    some (.character (Char.ofNat n), t.drop count)
  else none

/-- What stands behind a backslash. The edges of words are no places that are known. -/
def escape : Text → Option (Meaning × Text)
  | [] => none
  | c :: rest =>
    if "dswDSW".toList.contains c then some (.kind, rest)
    else if c = 'p' || c = 'P' then
      match rest with
      | name :: rest => if "CLMNPSZclmnpsz".toList.contains name then some (.kind, rest) else none
      | [] => none
    else if c = 'x' then numbered 2 rest
    else if c = 'u' then numbered 4 rest
    else if c = 'U' then numbered 8 rest
    else if c = 'A' || c = 'z' then some (.place, rest)
    else
      match [('a', '\x07'), ('f', '\x0c'), ('t', '\t'), ('n', '\n'), ('r', '\r'),
          ('v', '\x0b')].lookup c with
      | some meaning => some (.character meaning, rest)
      | none => if isPunctuation c then some (.character c, rest) else none

/-- One member of a class in brackets. -/
def member : Text → Option (Meaning × Text)
  | [] => none
  | '\\' :: rest =>
    match escape rest with
    | some (.place, _) => none
    | outcome => outcome
  | c :: rest => some (.character c, rest)

/-- A member or a range of members, which goes upwards from one character to another. -/
def range (t : Text) : Rest := do
  let (first, rest) ← member t
  match rest with
  | '-' :: next =>
    match next with
    | [] => none
    | ']' :: _ | '-' :: _ => return rest
    | _ => do
      let (last, rest) ← member next
      match first, last with
      | .character a, .character b => if a ≤ b then return rest else none
      | _, _ => none
  | _ => return rest

def namedClasses : List Text :=
  ["alnum", "alpha", "ascii", "blank", "cntrl", "digit", "graph", "lower", "print", "punct",
    "space", "upper", "word", "xdigit"].map String.toList

/-- A class by name, between a bracket with a colon and a colon with a bracket. -/
def namedClass (t : Text) : Rest :=
  match t with
  | '[' :: ':' :: rest =>
    let rest := if rest.head? = some '^' then rest.drop 1 else rest
    let name := rest.takeWhile (· != ':')
    match rest.dropWhile (· != ':') with
    | ':' :: ']' :: rest => if namedClasses.contains name then some rest else none
    | _ => none
  | _ => none

/-- What an opening bracket and a circumflex are followed by for themselves: dashes, or
else a closing bracket. -/
def classOpening (t : Text) : Text :=
  let t := if t.head? = some '^' then t.drop 1 else t
  let dashes := t.takeWhile (· == '-')
  let t := t.drop dashes.length
  if dashes.isEmpty && t.head? = some ']' then t.drop 1 else t

/-- The rest behind a class whose opening brackets, so many of them, have been read. -/
def classFrom : (fuel depth : Nat) → Text → Rest
  | 0, _, _ => none
  | _, _, [] => none
  | fuel + 1, depth, ']' :: rest =>
    if depth ≤ 1 then some rest else classFrom fuel (depth - 1) rest
  | fuel + 1, depth, '[' :: rest =>
    match namedClass ('[' :: rest) with
    | some rest => classFrom fuel depth rest
    | none => classFrom fuel (depth + 1) (classOpening rest)
  | fuel + 1, depth, '&' :: '&' :: rest => classFrom fuel depth rest
  | fuel + 1, depth, '-' :: '-' :: rest => classFrom fuel depth rest
  | fuel + 1, depth, '~' :: '~' :: rest => classFrom fuel depth rest
  | fuel + 1, depth, t => do classFrom fuel depth (← range t)

def groupName (t : Text) : Option (Text × Text) :=
  let name := t.takeWhile (· != '>')
  let isFirst (c : Char) : Bool := isLetter c || c == '_'
  let isNext (c : Char) : Bool := c.isAlphanum || c == '_' || c == '.' || c == '[' || c == ']'
  match name, t.dropWhile (· != '>') with
  | first :: more, _ :: rest => if isFirst first && more.all isNext then some (name, rest) else none
  | _, _ => none

/-- Whether letters turn options on and off: each letter once, and one behind a dash. -/
def areFlags (t : Text) : Bool :=
  !t.isEmpty && t.all "imsUuxR-".toList.contains && t.Nodup && t.getLast? != some '-'

/-- What a group begins with: whether one is opened, the names of groups, and what is left. Without
a colon the options hold for what follows, and there is no group. -/
def groupOpening (names : List Text) (t : Text) : Option (Bool × List Text × Text) :=
  let withName (rest : Text) : Option (Bool × List Text × Text) := do
    let (name, rest) ← groupName rest
    if names.contains name then none else return (true, name :: names, rest)
  match t with
  | '?' :: ':' :: rest => some (true, names, rest)
  | '?' :: 'P' :: '<' :: rest => withName rest
  | '?' :: '<' :: rest => withName rest
  | '?' :: rest =>
    let flags := rest.takeWhile fun c => c != ':' && c != ')'
    match rest.dropWhile fun c => c != ':' && c != ')' with
    | ':' :: rest => if areFlags flags then some (true, names, rest) else none
    | _ :: rest => if areFlags flags then some (false, names, rest) else none
    | [] => none
  | rest => some (true, names, rest)

/-- Whether a text is a pattern, so many groups being open. What may be repeated is a thing that was
just read. -/
def isPatternFrom (fuel depth : Nat) (names : List Text) (repeatable : Bool) (t : Text) : Bool :=
  match fuel with
  | 0 => false
  | fuel + 1 =>
    let goOn (t : Text) : Bool := isPatternFrom fuel depth names true t
    match t with
    | [] => depth == 0
    | '(' :: rest =>
      match groupOpening names rest with
      | some (true, names, rest) => isPatternFrom fuel (depth + 1) names false rest
      | some (false, names, rest) => isPatternFrom fuel depth names false rest
      | none => false
    | ')' :: rest => depth != 0 && isPatternFrom fuel (depth - 1) names true rest
    | '|' :: rest => isPatternFrom fuel depth names false rest
    | '[' :: rest => (classFrom (2 * rest.length + 1) 1 (classOpening rest)).any goOn
    | '\\' :: rest => (escape rest).any fun (_, rest) => goOn rest
    | '\x7b' :: _ => false
    | c :: rest =>
      if c = '*' || c = '+' || c = '?' then
        repeatable && goOn (if rest.head? = some '?' then rest.drop 1 else rest)
      else goOn rest

def isPattern (t : Text) : Bool :=
  isPatternFrom (t.length + 1) 0 [] false t

/-- Digits with a point somewhere or nowhere, and perhaps an exponent. -/
def isDecimal (t : Text) : Bool :=
  let whole := t.takeWhile Char.isDigit
  let rest := t.dropWhile Char.isDigit
  let fraction := if rest.head? = some '.' then (rest.drop 1).takeWhile Char.isDigit else []
  let rest := if rest.head? = some '.' then (rest.drop 1).dropWhile Char.isDigit else rest
  !(whole.isEmpty && fraction.isEmpty) &&
    match rest with
    | [] => true
    | e :: exponent =>
      let digits := match exponent with
        | '+' :: digits | '-' :: digits => digits
        | digits => digits
      (e == 'e' || e == 'E') && !digits.isEmpty && digits.all Char.isDigit

/-- What may be asked of a field's value: a number with a plus sign, or a pattern, as all
other plain values are. -/
def isValue (t : Text) : Bool :=
  match t with
  | '+' :: rest =>
    isDecimal rest || ["inf", "infinity", "nan"].contains (String.ofList (Text.lowerAscii rest))
  | t => isPattern t

end FortranWriter.Log.Pattern
