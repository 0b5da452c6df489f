import FortranWriter.Text.Basic
/-! What is wrong with a text that is not TOML, and where. -/
namespace FortranWriter.Toml

inductive Cause where
  | duplicateKey (key : Text) (table : Option (List Text))
  | extendsValue (path : List Text) (kind : Text)
  | outOfRange
  | nestedTooDeep
  | integerTooLarge
  | integerTooSmall
deriving DecidableEq, Repr

namespace Cause

def message : Cause → Text
  | duplicateKey key none => "duplicate key `".toList ++ key ++ "`".toList
  | duplicateKey key (some []) => "duplicate key `".toList ++ key ++ "` in document root".toList
  | duplicateKey key (some path) =>
    "duplicate key `".toList ++ key ++ "` in table `".toList ++ Text.joinWith ['.'] path ++
      "`".toList
  | extendsValue path kind =>
    "dotted key `".toList ++ Text.joinWith ['.'] path ++
      "` attempted to extend non-table type (".toList ++ kind ++ ")".toList
  | outOfRange => "value is out of range".toList
  | nestedTooDeep => "recursion limit exceeded".toList
  | integerTooLarge => "number too large to fit in target type".toList
  | integerTooSmall => "number too small to fit in target type".toList

end Cause

/-- A fault lies at a byte of the text. It may name the innermost thing that was being read, what
was expected instead, and the rule that was broken. -/
structure Fault where
  offset : Nat
  label : Option Text := none
  expected : List Text := []
  cause : Option Cause := none
deriving DecidableEq, Repr

namespace Fault

def message (fault : Fault) : Text :=
  let label := fault.label.toList.map fun label => "invalid ".toList ++ label
  let expected := if fault.expected.isEmpty then []
    else ["expected ".toList ++ Text.joinWith ", ".toList fault.expected]
  Text.joinWith ['\n'] (label ++ expected ++ (fault.cause.toList.map Cause.message))

end Fault
end FortranWriter.Toml
