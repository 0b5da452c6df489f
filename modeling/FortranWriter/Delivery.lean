import FortranWriter.Files.Path
import FortranWriter.Host
import FortranWriter.Listing
/-! Files in and out: descriptors are read, and source text is written where it is asked for. -/
namespace FortranWriter

inductive Attempt where
  | makeDirectory
  | create
  | write
deriving DecidableEq, Repr

def Attempt.problem : Attempt → Text
  | makeDirectory => "Unable to create directory".toList
  | create => "Unable to create".toList
  | write => "Failed writing".toList

/-- Why source text is not generated: something given is refused, or a path stands in the way. -/
inductive Failure where
  | refused (refusal : Refusal)
  | blocked (attempt : Attempt) (fault : FileFault) (path : Text)
deriving DecidableEq, Repr

namespace Failure

def complaint : Failure → Complaint
  | refused refusal => refusal.complaint
  | blocked attempt fault _ => ⟨attempt.problem, fault.message⟩

def path? : Failure → Option Text
  | refused _ => none
  | blocked _ _ path => some path

end Failure

def FileFault.unread : FileFault → Complaint
  | .notFound => ⟨"File not found".toList, []⟩
  | fault => ⟨"Failed reading".toList, fault.kind⟩

section
variable {m : Type → Type} [Monad m] [Host m]

def decoded (content : ByteArray) : Except FileFault Text :=
  match String.fromUTF8? content with
  | some text => .ok text.toList
  | none => .error .invalidText

/-- The text of a file. What keeps it from being read is logged. -/
def load (path : Text) : m (Except FileFault Text) := do
  match (← Host.readFile path).bind decoded with
  | .error fault =>
    Host.detailValue "macrofor::parsing" "error" fault.record
    return .error fault
  | .ok text => return .ok text

def ensureDirectory (path : Text) : m (Except FileFault Unit) := do
  match ← Host.makeDirectory path with
  | .ok _ => return .ok ()
  | .error fault => if ← Host.isDirectory path then return .ok () else return .error fault

/-- Makes the innermost of several directories, each of them in the next one. The outer ones are
made only where they are missing. -/
def makeDirectories : List Text → m (Except FileFault Unit)
  | [] => return .ok ()
  | path :: outer => do
    if path.isEmpty then return .ok ()
    match ← ensureDirectory path with
    | .error .notFound =>
      match ← makeDirectories outer with
      | .ok _ => ensureDirectory path
      | .error fault => return .error fault
    | outcome => return outcome

/-- Makes the directory that a file is to be put in, unless it is there. -/
def prepareParent (path : Text) : m (Except Failure Unit) := do
  match Path.parent? path with
  | none => return .ok ()
  | some parent =>
    if parent.isEmpty then return .ok ()
    if ← Host.isPresent parent then return .ok ()
    Host.detail "macrofor::output" ("Creating directory: ".toList ++ parent)
    return (← makeDirectories (Path.ancestors parent)).mapError (.blocked .makeDirectory · parent)

def store (path : Text) (content : ByteArray) : m (Except Failure Unit) := do
  match ← Host.createFile path with
  | .error fault => return .error (.blocked .create fault path)
  | .ok handle => return (← Host.fill handle content).mapError (.blocked .write · path)

/-- Writes fragments to a file. Nothing is touched before all of its bytes are known. -/
def emit (path : Text) (fragments : List Fragment) (emission : Emission) :
    m (Except Failure Unit) := do
  Host.inform "macrofor::output" ("Writing file: ".toList ++ path)
  match sourceBytes fragments emission with
  | .error refusal => return .error (.refused refusal)
  | .ok content =>
    if let .error failure ← prepareParent path then return .error failure
    if let .error failure ← store path content then return .error failure
    Host.detail "macrofor::output"
      ("Wrote ".toList ++ Decimal.ofNat content.size ++ " bytes".toList)
    return .ok ()

end
end FortranWriter
