import FortranWriter.Files.Fault
import FortranWriter.Log
/-! What programs ask of the machine they run on: files, a log, and two streams for text. -/
namespace FortranWriter

/-- A machine whose steps are the steps of a monad. -/
class Host (m : Type → Type) where
  /-- A file that is open for writing. -/
  Handle : Type
  readFile : Text → m (Except FileFault ByteArray)
  isPresent : Text → m Bool
  isDirectory : Text → m Bool
  makeDirectory : Text → m (Except FileFault Unit)
  createFile : Text → m (Except FileFault Handle)
  fill : Handle → ByteArray → m (Except FileFault Unit)
  /-- Records are shown from now on as the setting says. -/
  startLog : Log.Setting → m Unit
  note : Log.Record → m Unit
  print : ByteArray → m Unit
  complain : Text → m Unit

namespace Host
variable {m : Type → Type} [Host m]

def inform (topic : String) (words : Text) : m Unit :=
  note ⟨.information, topic.toList, .message words⟩

def detail (topic : String) (words : Text) : m Unit :=
  note ⟨.detail, topic.toList, .message words⟩

def detailValue (topic name : String) (text : Text) : m Unit :=
  note ⟨.detail, topic.toList, .value name.toList text⟩

end Host
end FortranWriter
