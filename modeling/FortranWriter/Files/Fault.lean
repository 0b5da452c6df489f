import FortranWriter.Text.Decimal
import FortranWriter.Text.Escaped
/-! Why a file or a directory cannot be used. -/
namespace FortranWriter

inductive FileFault where
  | notFound
  | alreadyThere
  | notADirectory
  | isADirectory
  | noSpace
  | nameTooLong
  | nulInPath
  | invalidText
  | other (kind message : Text)
deriving DecidableEq, Repr

namespace FileFault

/-- The number that the system has for a fault that it reports. -/
def number? : FileFault → Option Nat
  | notFound => some 2
  | alreadyThere => some 17
  | notADirectory => some 20
  | isADirectory => some 21
  | noSpace => some 28
  | nameTooLong => some 36
  | nulInPath | invalidText | other _ _ => none

def meaning : FileFault → Text
  | notFound => "No such file or directory".toList
  | alreadyThere => "File exists".toList
  | notADirectory => "Not a directory".toList
  | isADirectory => "Is a directory".toList
  | noSpace => "No space left on device".toList
  | nameTooLong => "File name too long".toList
  | nulInPath => "file name contained an unexpected NUL byte".toList
  | invalidText => "stream did not contain valid UTF-8".toList
  | other _ message => message

/-- What is said of a fault, with its number if the system has one. -/
def message (fault : FileFault) : Text :=
  match fault.number? with
  | some number => fault.meaning ++ " (os error ".toList ++ Decimal.ofNat number ++ ")".toList
  | none => fault.meaning

def kind : FileFault → Text
  | notFound => "entity not found".toList
  | alreadyThere => "entity already exists".toList
  | notADirectory => "not a directory".toList
  | isADirectory => "is a directory".toList
  | noSpace => "no storage space".toList
  | nameTooLong => "invalid filename".toList
  | nulInPath => "invalid input parameter".toList
  | invalidText => "invalid data".toList
  | other kind _ => kind

/-- The kind of a fault in one word. -/
def name : FileFault → Text
  | notFound => "NotFound".toList
  | alreadyThere => "AlreadyExists".toList
  | notADirectory => "NotADirectory".toList
  | isADirectory => "IsADirectory".toList
  | noSpace => "StorageFull".toList
  | nameTooLong => "InvalidFilename".toList
  | nulInPath => "InvalidInput".toList
  | invalidText => "InvalidData".toList
  | other _ _ => "Uncategorized".toList

def record (fault : FileFault) : Text :=
  origin ++ "kind: ".toList ++ fault.name ++ ", message: ".toList ++ Escaped.quote fault.meaning ++
    " \x7d".toList
where
  origin : Text :=
    match fault.number? with
    | some number => "Os \x7b code: ".toList ++ Decimal.ofNat number ++ ", ".toList
    | none => "Error \x7b ".toList

end FileFault
end FortranWriter
