import FortranWriter.Log.Time
import FortranWriter.Run
import Std.Time.DateTime.Timestamp
/-! The program: runs on the files and streams of the machine that it is started on. -/
namespace FortranWriter

/-- The machine itself, once it is known what to log. -/
abbrev Machine := StateT (Option Log.Setting) IO

namespace Machine

/-- The number of a fault. Some calls report its negative. -/
def number (code : UInt32) : Nat :=
  (min code (0 - code)).toNat

def faultOf (error : IO.Error) : FileFault :=
  let unknown := FileFault.other "uncategorized error".toList (toString error).toList
  match error with
  | .noFileOrDirectory .. => .notFound
  | .alreadyExists .. => .alreadyThere
  | .inappropriateType _ code _ =>
    if number code = 20 then .notADirectory else if number code = 21 then .isADirectory else unknown
  | .resourceExhausted _ code _ => if number code = 28 then .noSpace else unknown
  | .invalidArgument _ code _ => if number code = 36 then .nameTooLong else unknown
  | .permissionDenied .. => .other "permission denied".toList (toString error).toList
  | _ => unknown

/-- Does something with a path, which the system would take to end at a NUL. -/
def attempt {α : Type} (path : Text) (action : String → IO α) : Machine (Except FileFault α) :=
  if path.contains '\x00' then return .error .nulInPath
  else do
    match ← (action (String.ofList path)).toBaseIO with
    | .ok a => return .ok a
    | .error error => return .error (faultOf error)

def holds (outcome : Except FileFault Bool) : Bool :=
  match outcome with
  | .ok b => b
  | .error _ => false

def now : IO Text := do
  let time ← Std.Time.Timestamp.now
  return Log.moment (time.val.toNanoseconds.val / 1000).toNat

instance : Host Machine where
  Handle := IO.FS.Handle
  readFile path := attempt path fun p => IO.FS.readBinFile p
  isPresent path :=
    return holds (← attempt path fun p => do
      let _ ← IO.FS.realPath p
      return true)
  isDirectory path :=
    return holds (← attempt path fun p => do (← IO.FS.realPath p).isDir)
  makeDirectory path := attempt path fun p => IO.FS.createDir p
  createFile path := attempt path fun p => IO.FS.Handle.mk p .write
  fill handle content := attempt [] fun _ => do
    handle.write content
    handle.flush
  startLog setting := set (some setting)
  note record := do
    if let some setting ← get then
      (← IO.getStderr).putStr (String.ofList (setting.text (← now) record))
  print content := do
    let output ← IO.getStdout
    output.write content
    output.flush
  complain words := do (← IO.getStderr).putStr (String.ofList words)

def surroundings : IO Surroundings := do
  return { filter := (← IO.getEnv "RUST_LOG").map String.toList
           withoutColours := (← IO.getEnv "NO_COLOR").map String.toList
           withColours := (← IO.getEnv "CLICOLOR_FORCE").map String.toList
           columns := (← IO.getEnv "COLUMNS").map String.toList }

end Machine
end FortranWriter

open FortranWriter in
def main (arguments : List String) : IO UInt32 := do
  let surroundings ← Machine.surroundings
  let (ending, _) ← (run (m := Machine) surroundings (arguments.map String.toList)).run none
  return UInt32.ofNat ending.code
