import FortranWriter.Text.Basic
/-! How keys are written: bare, or else between quotation marks or apostrophes. -/
namespace FortranWriter.Toml

def isBareKeyCharacter (c : Char) : Bool :=
  c.isAlphanum || c == '-' || c == '_'

/-- Controls other than the tab are only written by escapes. -/
def isControl (c : Char) : Bool :=
  (c < ' ' && c != '\t') || c == '\x7f'

def fourDigits (n : Nat) : Text :=
  let digits := (Nat.toDigits 16 n).map Char.toUpper
  List.replicate (4 - digits.length) '0' ++ digits

def writtenCharacter (c : Char) : Text :=
  match c with
  | '\x08' => "\\b".toList
  | '\t' => "\\t".toList
  | '\n' => "\\n".toList
  | '\x0c' => "\\f".toList
  | '\r' => "\\r".toList
  | '"' => "\\\"".toList
  | '\\' => "\\\\".toList
  | c => if isControl c then "\\u".toList ++ fourDigits c.toNat else [c]

def betweenQuotationMarks (t : Text) : Text :=
  '"' :: t.flatMap writtenCharacter ++ ['"']

/-- The plainest form of a key: bare, between quotation marks if nothing has to be escaped there,
between apostrophes if that spares escapes, and with escapes if not. -/
def writtenKey (key : Text) : Text :=
  if !key.isEmpty && key.all isBareKeyCharacter then key
  else if key.any isControl || key.contains '\'' then betweenQuotationMarks key
  else if key.contains '"' || key.contains '\\' then '\'' :: key ++ ['\'']
  else betweenQuotationMarks key

end FortranWriter.Toml
