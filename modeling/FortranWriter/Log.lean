import FortranWriter.Log.Directive
import FortranWriter.Terminal
import FortranWriter.Text.Decimal
/-! What is said of the work while it is done: records by level and topic, which of them are shown,
and how. -/
namespace FortranWriter.Log

/-- Information is of interest to users, details to those who look for a fault. -/
inductive Level where
  | information
  | detail
deriving DecidableEq, Repr

def Level.verbosity : Level → Nat
  | .information => 3
  | .detail => 4

/-- A message, or a value under its name. -/
inductive Content where
  | message (words : Text)
  | value (name text : Text)
deriving DecidableEq, Repr

structure Record where
  level : Level
  topic : Text
  content : Content
deriving DecidableEq, Repr

def Content.field : Content → Text
  | message _ => "message".toList
  | value name _ => name

abbrev Filter := List Directive

/-- Whether a directive holds for a record. None is made within a stretch of work. -/
def Directive.holdsFor (directive : Directive) (record : Record) : Bool :=
  !directive.isAboutStretches && directive.topic.isPrefixOf record.topic &&
    directive.field.all fun field => field.name = record.content.field

namespace Filter

def upTo (verbosity : Nat) : Filter :=
  [{ verbosity }]

/-- Directives between commas. Without any, only errors are shown. -/
def ofText? (written : Text) : Option Filter := do
  let directives ← ((Text.pieces ',' written).filter fun item => !item.isEmpty).mapM
    Directive.ofText?
  return if directives.isEmpty then upTo 1 else directives

/-- The verbosity for a record: the directive that fits most closely decides, the last one of
several. -/
def verbosityFor (filter : Filter) (record : Record) : Nat :=
  let fitting := filter.filter fun directive => directive.holdsFor record
  let chosen := fitting.foldl (fun best directive =>
    if best.closeness ≤ directive.closeness then directive else best) { verbosity := 0 }
  chosen.verbosity

def shows (filter : Filter) (record : Record) : Bool :=
  record.level.verbosity ≤ filter.verbosityFor record

/-- Everything down to details is shown on request; else what a filter asks for, and warnings and
errors only if there is none that can be read. -/
def choose (verbose : Bool) (written : Option Text) : Filter :=
  if verbose then upTo 4 else (written.bind ofText?).getD (upTo 2)

end Filter

def Level.name : Level → Text
  | .information => " INFO".toList
  | .detail => "DEBUG".toList

/-- A character by its number: two digits in ASCII, and as many as it takes in braces past it. -/
def byNumber (c : Char) : Text :=
  let digits := Nat.toDigits 16 c.toNat
  if c.toNat < 0x80 then "\\x".toList ++ List.replicate (2 - digits.length) '0' ++ digits
  else "\\u\x7b".toList ++ digits ++ "\x7d".toList

/-- Messages have no characters that a terminal would take for commands:
those are given by number. -/
def harmless (c : Char) : Text :=
  let n := c.toNat
  if n = 0x07 || n = 0x08 || n = 0x0c || n = 0x1b || (0x7f ≤ n && n ≤ 0x9f) then byNumber c else [c]

def line (coloured : Bool) (time : Text) (record : Record) : Text :=
  let face (wrap : Text → Text) : Text → Text := if coloured then wrap else id
  let shade := if record.level = .information then Terminal.green else Terminal.blue
  face Terminal.dim time ++ ' ' :: face shade record.level.name ++ ' ' :: content face ++ ['\n']
where
  content (face : (Text → Text) → Text → Text) : Text :=
    match record.content with
    | .message words => words.flatMap harmless
    | .value name text => face Terminal.italic name ++ face Terminal.dim ['='] ++ text

structure Setting where
  filter : Filter
  coloured : Bool

def Setting.text (setting : Setting) (time : Text) (record : Record) : Text :=
  if setting.filter.shows record then line setting.coloured time record else []

end FortranWriter.Log
