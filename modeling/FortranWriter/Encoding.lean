import FortranWriter.Text.Basic
/-! Character encodings of the output and their names. -/
namespace FortranWriter

inductive Encoding where
  | utf8
  | latin1
  | ascii
deriving DecidableEq, Repr, Inhabited

namespace Encoding

def name : Encoding → Text
  | utf8 => "utf-8".toList
  | latin1 => "latin1".toList
  | ascii => "ascii".toList

/-- Encodings go by several names, in small or capital letters. -/
def ofName? (name : Text) : Option Encoding :=
  match String.ofList (Text.lowerAscii name) with
  | "utf-8" | "utf8" => some utf8
  | "latin1" | "latin-1" | "iso-8859-1" => some latin1
  | "ascii" | "us-ascii" => some ascii
  | _ => none

def unknownName (name : Text) : Text :=
  "unsupported encoding '".toList ++ name ++ "'".toList

/-- The number of characters an encoding with one byte a character can write. -/
def repertoire? : Encoding → Option Nat
  | utf8 => none
  | latin1 => some 0x100
  | ascii => some 0x80

end Encoding
end FortranWriter
