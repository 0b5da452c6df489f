import FortranWriter.Descriptor.Settings
import FortranWriter.Descriptor.Statements
import FortranWriter.Toml.Document
/-! Descriptors: settings and statements, written in TOML. -/
namespace FortranWriter

structure Descriptor where
  settings : Descriptor.Settings := {}
  statements : List Statement := []
deriving Repr, Inhabited

namespace Descriptor
open Toml (Node Entries)

/-- A text that is not a descriptor: what is wrong, and the byte it is put down to. -/
structure ParsingFault where
  problem : Text
  offset : Nat
deriving DecidableEq, Repr

/-- The statements in a list. A fault in one is put down to the list, unless it has a place. -/
def statementsOf (node : Node) : Except Misplaced (List Statement) :=
  match node with
  | .array _ items | .tables items => placedAt node.start? (items.mapM statement)
  | _ => unplaced (.wrongType (found node) "a sequence".toList)

def ofEntries (entries : Entries) : Except Misplaced Descriptor :=
  entries.foldlM (fun descriptor (key, node) =>
    if key.text = "settings".toList then do
      let settings ← placedAt (placeOf key node) (Settings.ofNode node)
      return { descriptor with settings }
    else if key.text = "statements".toList then do
      let statements ← placedAt (placeOf key node) (statementsOf node)
      return { descriptor with statements }
    else .error
      ⟨.unknownField key.text ["settings".toList, "statements".toList], some key.start⟩) {}

def parse (text : Text) : Except ParsingFault Descriptor :=
  match Toml.parse text with
  | .error fault => .error ⟨Text.trim fault.message, fault.offset⟩
  | .ok entries =>
    match ofEntries entries with
    | .error error => .error ⟨Text.trim error.misfit.message, error.start.getD 0⟩
    | .ok descriptor => .ok descriptor

end Descriptor
end FortranWriter
