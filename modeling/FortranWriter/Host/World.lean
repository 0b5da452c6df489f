import FortranWriter.Files.Tree
import FortranWriter.Host
/-! A machine as a value: its files, and what has been printed. -/
namespace FortranWriter

/-- The files of a machine, what its clock shows, its log, and its two streams. -/
structure World where
  tree : FileTree
  time : Text := []
  log : Option Log.Setting := none
  printed : ByteArray := ByteArray.empty
  complaints : ByteArray := ByteArray.empty

namespace World

def call {α : Type} (f : FileTree → Except FileFault (α × FileTree)) :
    StateM World (Except FileFault α) := fun world =>
  match f world.tree with
  | .ok (a, tree) => (.ok a, { world with tree })
  | .error fault => (.error fault, world)

def print (world : World) (content : ByteArray) : World :=
  { world with printed := world.printed ++ content }

def complain (world : World) (content : ByteArray) : World :=
  { world with complaints := world.complaints ++ content }

/-- Bytes are put where a file was made, or shown if a stream is there. -/
def fill (place : Place) (content : ByteArray) : StateM World (Except FileFault Unit) := do
  match (← get).tree.entry? place with
  | some (.device .output) => modify fun world => world.print content
  | some (.device .complaints) => modify fun world => world.complain content
  | _ => pure ()
  call fun tree => (tree.fill place content).map ((), ·)

def shown (world : World) (record : Log.Record) : Text :=
  match world.log with
  | some setting => setting.text world.time record
  | none => []

end World

instance : Host (StateM World) where
  Handle := Place
  readFile path := return (← get).tree.read path
  isPresent path := return (← get).tree.isPresent path
  isDirectory path := return (← get).tree.isDirectory path
  makeDirectory path := World.call fun tree => (tree.makeDirectory path).map ((), ·)
  createFile path := World.call fun tree => tree.createFile path
  fill := World.fill
  startLog setting := modify fun world => { world with log := some setting }
  note record := modify fun world => world.complain (Text.bytes (world.shown record))
  print content := modify fun world => world.print content
  complain words := modify fun world => world.complain (Text.bytes words)

end FortranWriter
