import FortranWriter.Toml.Fault
/-! Readers take a value off the front of a text. One that does not find its value may be replaced
by another at the same place; past a point of commitment a fault is final. -/
namespace FortranWriter.Toml

/-- What is left of a text, and the number of bytes before it. -/
structure Cursor where
  rest : Text
  offset : Nat
deriving Repr

def Cursor.next (cursor : Cursor) (c : Char) (rest : Text) : Cursor :=
  ⟨rest, cursor.offset + c.utf8Size⟩

/-- A reader finds its value, misses it so that another reader may be tried, or stops for good. -/
inductive Outcome (α : Type) where
  | found (value : α) (cursor : Cursor)
  | missed (fault : Fault)
  | stopped (fault : Fault)

def Reader (α : Type) : Type :=
  Cursor → Outcome α

namespace Reader
variable {α β : Type}

instance : Monad Reader where
  pure value := fun cursor => .found value cursor
  bind reader next := fun cursor =>
    match reader cursor with
    | .found value cursor => next value cursor
    | .missed fault => .missed fault
    | .stopped fault => .stopped fault

def position : Reader Nat := fun cursor =>
  .found cursor.offset cursor

/-- The next character, which is left where it is. -/
def peek? : Reader (Option Char) := fun cursor =>
  .found cursor.rest.head? cursor

def remaining : Reader Text := fun cursor =>
  .found cursor.rest cursor

def miss : Reader α := fun cursor =>
  .missed { offset := cursor.offset }

def endOfText : Reader Unit := fun cursor =>
  if cursor.rest.isEmpty then .found () cursor else .missed { offset := cursor.offset }

def one (kind : Char → Bool) : Reader Char := fun cursor =>
  match cursor.rest with
  | c :: rest =>
      if kind c then .found c (cursor.next c rest) else .missed { offset := cursor.offset }
  | [] => .missed { offset := cursor.offset }

def char (c : Char) : Reader Char :=
  one (· == c)

/-- Misses behind the next character, if that is a single byte. -/
def missBehind : Reader α := do
  let _ ← one fun c => c.toNat < 0x80
  miss

/-- A given text. Nothing is taken unless all of it is there. -/
def literal (t : Text) : Reader Text := fun cursor =>
  if t.isPrefixOf cursor.rest then
    .found t ⟨cursor.rest.drop t.length, cursor.offset + Text.byteCount t⟩
  else .missed { offset := cursor.offset }

/-- All characters of a kind up to the first that is not. -/
def run (kind : Char → Bool) : Reader Text := fun cursor =>
  let taken := cursor.rest.takeWhile kind
  .found taken ⟨cursor.rest.dropWhile kind, cursor.offset + Text.byteCount taken⟩

def runOfSome (kind : Char → Bool) : Reader Text := do
  let first ← one kind
  let more ← run kind
  return first :: more

def exactly (kind : Char → Bool) (count : Nat) : Reader Text := fun cursor =>
  let taken := (cursor.rest.take count).takeWhile kind
  if taken.length = count then
    .found taken ⟨cursor.rest.drop count, cursor.offset + Text.byteCount taken⟩
  else .missed { offset := cursor.offset }

/-- A miss becomes final. -/
def committed (reader : Reader α) : Reader α := fun cursor =>
  match reader cursor with
  | .missed fault => .stopped fault
  | outcome => outcome

/-- The second reader is tried where the first one misses. -/
def either (first second : Reader α) : Reader α := fun cursor =>
  match first cursor with
  | .missed _ => second cursor
  | outcome => outcome

/-- Where the reader misses, nothing is taken. -/
def optional (reader : Reader α) : Reader (Option α) := fun cursor =>
  match reader cursor with
  | .found value next => .found (some value) next
  | .missed _ => .found none cursor
  | .stopped fault => .stopped fault

/-- What the reader finds is left where it is. -/
def lookahead (reader : Reader α) : Reader α := fun cursor =>
  match reader cursor with
  | .found value _ => .found value cursor
  | outcome => outcome

def mapFault (change : Fault → Fault) (reader : Reader α) : Reader α := fun cursor =>
  match reader cursor with
  | .found value next => .found value next
  | .missed fault => .missed (change fault)
  | .stopped fault => .stopped (change fault)

/-- A fault names what is being read, unless it already names something inside. -/
def named (label : String) : Reader α → Reader α :=
  mapFault fun fault => { fault with label := fault.label <|> some label.toList }

/-- A fault says what was expected, behind what was expected inside. -/
def expecting (things : List String) : Reader α → Reader α :=
  mapFault fun fault => { fault with expected := fault.expected ++ things.map String.toList }

/-- A rule for what has been read. If it is broken the fault lies where reading began. -/
def checked (rule : α → Except Cause β) (reader : Reader α) : Reader β := fun cursor =>
  match reader cursor with
  | .found value next =>
    match rule value with
    | .ok result => .found result next
    | .error cause => .missed { offset := cursor.offset, cause := some cause }
  | .missed fault => .missed fault
  | .stopped fault => .stopped fault

def located (reader : Reader α) : Reader (Nat × α) := do
  let start ← position
  return (start, ← reader)

def manyFrom (reader : Reader α) : Nat → Reader (List α)
  | 0 => pure []
  | fuel + 1 => do
    match ← optional reader with
    | none => return []
    | some first => return first :: (← manyFrom reader fuel)

/-- As many values as there are. A reader that finds its value takes a character, so there are no
more of them than characters. -/
def many (reader : Reader α) : Reader (List α) := do
  manyFrom reader (← remaining).length

def atLeastOne (reader : Reader α) : Reader (List α) := do
  let first ← reader
  return first :: (← many reader)

/-- Values with a separator between each two; a separator that no value follows is not taken. -/
def separated (separator : Reader β) (reader : Reader α) : Reader (List α) := do
  let first ← reader
  return first :: (← many (do let _ ← separator; reader))

end Reader
end FortranWriter.Toml
