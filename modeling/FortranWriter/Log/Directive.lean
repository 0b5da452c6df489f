import FortranWriter.Log.Pattern
import FortranWriter.Text.Alphanumeric
import FortranWriter.Text.Numeral
/-! How it is written which records to show: directives, each with a topic, a stretch of work, a
field and a verbosity, any of which may be left out. -/
namespace FortranWriter.Log

def everything : Nat := 5

/-- Verbosities by number or by the least severe level that they show. -/
def verbosity? (word : Text) : Option Nat :=
  match Numeral.read (everything + 1) word with
  | .ok n => some n
  | .error _ =>
    match String.ofList (Text.lowerAscii word) with
    | "off" => some 0
    | "error" => some 1
    | "warn" => some 2
    | "info" => some 3
    | "debug" => some 4
    | "trace" => some 5
    | _ => none

/-- A field that records must have, by its name or with a value too. -/
structure Field where
  name : Text
  hasValue : Bool := false
deriving DecidableEq, Repr

/-- The verbosity that holds for records whose topics begin like the one that is given, if they are
of a stretch of work and have a field. -/
structure Directive where
  topic : Text := []
  stretch : Option Text := none
  field : Option Field := none
  verbosity : Nat := everything
deriving DecidableEq, Repr

namespace Directive

/-- A directive as it is looked at, each character with the one that is taken in its place, and what
is taken behind the last. -/
structure Source where
  cells : List (Char × Char)
  tail : Text

namespace Source

/-- The text without the white space around it is looked at, but as many characters are taken from
the beginning of the whole text. -/
def of (written : Text) : Source :=
  let core := Text.trim written
  ⟨core.zip written, written.drop core.length⟩

def taken (source : Source) : Text :=
  source.cells.map Prod.snd ++ source.tail

/-- What is taken up to the first character of a kind, that character, and
what is left behind it. -/
def upTo (kind : Char → Bool) (source : Source) : Text × Option (Char × Source) :=
  let first := source.cells.takeWhile fun cell => !kind cell.1
  let rest := match source.cells.dropWhile fun cell => !kind cell.1 with
    | [] => none
    | (c, _) :: cells => some (c, { source with cells })
  (first.map Prod.snd, rest)

end Source

/-- A verbosity behind an equals sign; without a word for it everything is shown. -/
def withVerbosity (directive : Directive) (source : Source) : Option Directive :=
  match source.taken with
  | [] => some directive
  | word => (verbosity? word).map fun verbosity => { directive with verbosity }

/-- What follows a closing bracket: nothing, or a verbosity. -/
def closed (directive : Directive) (source : Source) : Option Directive :=
  match source.cells with
  | [] => some directive
  | ('=', _) :: cells => directive.withVerbosity { source with cells }
  | _ => none

/-- A field: a name, or a name, an equals sign and a value or a pattern of values. -/
def field? (t : Text) : Option Field :=
  let name := t.takeWhile (· != '=')
  match t.dropWhile (· != '=') with
  | [] => if t.isEmpty then none else some ⟨name, false⟩
  | _ :: rest =>
    if Pattern.isValue (rest.takeWhile (· != '=')) then some ⟨name, true⟩ else none

/-- What follows an opening bracket: the name of a stretch, or a field between braces behind it. -/
def bracketed (directive : Directive) (source : Source) : Option Directive :=
  match source.upTo fun c => c == ']' || c == '\x7b' with
  | (stretch, some (']', rest)) => closed { directive with stretch := some stretch } rest
  | (stretch, some (_, rest)) =>
    match rest.upTo (· == '\x7d') with
    | (written, some (_, ⟨(']', _) :: cells, tail⟩)) => do
      let field ← field? written
      let stretch := if stretch.isEmpty then none else some stretch
      closed { directive with stretch, field := some field } ⟨cells, tail⟩
    | _ => none
  | (_, none) => none

/-- Whether a directive may begin like this, if not with a bracket. -/
def isBeginning (c : Char) : Bool :=
  c == '-' || c == ':' || c == '_' || isAlphanumeric c

/-- Reads a directive. A word by itself is a verbosity or else a topic. -/
def ofText? (written : Text) : Option Directive :=
  let source := Source.of written
  match source.cells with
  | [] => none
  | ('[', _) :: cells => bracketed {} { source with cells }
  | (c, _) :: _ =>
    if !isBeginning c then none
    else
      match source.upTo fun c => c == '=' || c == '[' with
      | (topic, some ('=', rest)) => withVerbosity { topic } rest
      | (topic, some (_, rest)) => bracketed { topic } rest
      | (_, none) =>
        match verbosity? source.taken with
        | some verbosity => some { verbosity }
        | none => some { topic := source.taken }

/-- Whether a directive is about stretches of work alone, not about single records. -/
def isAboutStretches (directive : Directive) : Bool :=
  directive.stretch.isSome || directive.field.any Field.hasValue

/-- How closely a directive fits what it fits: by the length of its topic, then by its field. -/
def closeness (directive : Directive) : Nat :=
  2 * directive.topic.length + if directive.field.isSome then 1 else 0

end Directive
end FortranWriter.Log
