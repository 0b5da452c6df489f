import FortranWriter.Toml.Moment
import FortranWriter.Toml.Node
import FortranWriter.Toml.Written
/-! Keys and values. Arrays and inline tables may be nested, but not without limit. -/
namespace FortranWriter.Toml
open Reader

/-- So many levels of nesting, or parts of a dotted key, are too many. -/
def nestingLimit : Nat := 80

def simpleKey : Reader Text := do
  match ← peek? with
  | some '"' => basicString
  | some '\'' => literalString
  | _ => runOfSome isBareKeyCharacter

def key : Reader (List Key) :=
  checked (fun path => if path.length < nestingLimit then .ok path else .error .nestedTooDeep) <|
    named "key" <| separated (char '.') do
      let _ ← space
      let (start, text) ← located simpleKey
      let _ ← space
      return ⟨text, start⟩

/-- A key, an equals sign and a value, what may follow the value being given. The last part of the
key is told from the path in front of it. -/
def keyValue {α : Type} (value : Reader Node) (trailing : Reader α) :
    Reader (List Key × Key × Node) := do
  let path ← key
  let _ ← expecting ["`.`", "`=`"] (committed (char '='))
  let _ ← space
  let node ← committed value
  let _ ← committed trailing
  match path.getLast? with
  | some last => return (path.dropLast, last, node)
  | none => miss

def array (value : Reader Node) : Reader (List Node) := do
  let _ ← char '['
  let items ← committed items
  let _ ← named "array" (expecting ["`]`"] (committed (char ']')))
  return items
where
  item : Reader Node := do
    blankLines
    let node ← value
    blankLines
    return node
  items : Reader (List Node) := do
    if (← peek?) == some ']' then return []
    let items ← optional do
      let items ← separated (char ',') item
      let _ ← optional (char ',')
      return items
    blankLines
    return items.getD []

def inlineTable (value : Reader Node) : Reader Entries := do
  let _ ← char '\x7b'
  let entries ← committed (checked collect pairs)
  let _ ← named "inline table" (expecting ["`\x7d`"] (committed (char '\x7d')))
  return entries
where
  pairs : Reader (List (List Key × Key × Node)) := do
    let pairs ← optional (separated (char ',') (keyValue value space))
    let _ ← space
    return pairs.getD []
  collect (pairs : List (List Key × Key × Node)) : Except Cause Entries :=
    pairs.foldlM (fun entries (path, key, node) =>
      insertDotted true none path key node ⟨none, true, false, false⟩ entries) []

/-- A word that may only be a truth value once it has begun like one. -/
def truth (word : String) (value : Bool) : Reader Scalar := do
  let _ ← committed (literal word.toList)
  return .boolean value

/-- What a word that is no value would have to be to be one. -/
def likeString : Reader Scalar → Reader Scalar :=
  fun reader => named "string" (expecting ["`\"`", "`'`"] reader)

/-- Values without parts are told apart by their first character. -/
def scalar : Reader Scalar := do
  match ← peek? with
  | none => miss
  | some '"' | some '\'' => return .string (← string)
  | some 't' => likeString (truth "true" true)
  | some 'f' => likeString (truth "false" false)
  | some 'i' => likeString (do let _ ← literal "inf".toList; return .float (.infinite false))
  | some 'n' => likeString (do let _ ← literal "nan".toList; return .float .undefined)
  | some '_' => expecting ["leading digit"] (do return .integer (← integer))
  | some '.' => expecting ["leading digit"] (do return .float (← float))
  | some c =>
    if isSign c || c.isDigit then
      either (do moment; return .moment) <|
        either (do return .float (← float)) (do return .integer (← integer))
    else likeString miss

/-- A value, given a reader for values inside it. Where there is none, nesting has gone too deep. -/
def valueWith (inner : Option (Reader Node)) : Reader Node := do
  let start ← position
  match ← peek?, inner with
  | some '[', some value => return .array start (← array value)
  | some '\x7b', some value => return .table ⟨some start, true, false, false⟩ (← inlineTable value)
  | some '[', none | some '\x7b', none =>
    fun _ => .stopped { offset := start, cause := some .nestedTooDeep }
  | _, _ => return .scalar start (← scalar)

/-- A value with at most so many levels of nesting. -/
def valueUpTo : Nat → Reader Node
  | 0 => valueWith none
  | depth + 1 => valueWith (some (valueUpTo depth))

def value : Reader Node :=
  valueUpTo (nestingLimit - 1)

end FortranWriter.Toml
