import FortranWriter.Descriptor.Misfit
import FortranWriter.Emission
/-! The settings of a descriptor. What is left unset falls back to the usual. -/
namespace FortranWriter.Descriptor
open Toml (Node Key Entries)

structure Settings where
  form : Option SourceForm := none
  lineEnding : Option LineEnding := none
  encoding : Option Encoding := none
  maxLineLength : Option Nat := none
  firstLabel : Option Nat := none
  labelStep : Option Nat := none
  banner : Option Bool := none
deriving DecidableEq, Repr, Inhabited

namespace Settings

/-- A table that stands for a choice has nothing under its key. -/
def emptyContent (node : Node) : Except Misplaced Unit :=
  match node with
  | .tables (_ :: _) => .error ⟨.choice .fullArray, node.start?⟩
  | .array _ (_ :: _) => .error ⟨.choice .fullTable, node.start?⟩
  | .table _ (_ :: _) => .error ⟨.choice .fullTable, node.start?⟩
  | .scalar _ _ => .error ⟨.choice (.notATable node.kind), node.start?⟩
  | _ => .ok ()

/-- One of several names, given as a string or as the only key of a table. -/
def choice {α : Type} (options : List (Text × α)) (node : Node) : Except Misplaced α :=
  let pick (name : Text) (start : Option Nat) : Except Misplaced α :=
    match options.lookup name with
    | some option => .ok option
    | none => .error ⟨.unknownVariant name (options.map Prod.fst), start⟩
  match node with
  | .scalar _ (.string name) => pick name node.start?
  | .table _ [] => .error ⟨.choice .noEntry, node.start?⟩
  | .table _ [(key, content)] => do
    let option ← pick key.text (some key.start)
    emptyContent content
    return option
  | .table _ _ => .error ⟨.choice .severalEntries, node.start?⟩
  | _ => .error ⟨.choice .notAName, node.start?⟩

def number (expected : String) (limit : Nat) (node : Node) : Except Misplaced Nat :=
  match node with
  | .scalar _ (.integer n) =>
    if 0 ≤ n ∧ n < limit then .ok n.toNat
    else .error ⟨.wrongValue n expected.toList, node.start?⟩
  | _ => .error ⟨.wrongType (found node) expected.toList, node.start?⟩

def truth (node : Node) : Except Misplaced Bool :=
  match node with
  | .scalar _ (.boolean b) => .ok b
  | _ => .error ⟨.wrongType (found node) "a boolean".toList, node.start?⟩

def forms : List (Text × SourceForm) :=
  [SourceForm.fixed, .free].map fun form => (form.name, form)

def lineEndings : List (Text × LineEnding) :=
  [LineEnding.native, .lf, .crlf].map fun ending => (ending.name, ending)

def encodings : List (Text × Encoding) :=
  [Encoding.utf8, .latin1, .ascii].map fun encoding => (encoding.name, encoding)

/-- The fields in their order: the name of each, and how its value is put in. -/
def fields : List (Text × (Settings → Node → Except Misplaced Settings)) :=
  [("style".toList, fun s node => do return { s with form := ← choice forms node }),
    ("line_ending".toList, fun s node => do
      return { s with lineEnding := ← choice lineEndings node }),
    ("encoding".toList, fun s node => do return { s with encoding := ← choice encodings node }),
    ("max_line_length".toList, fun s node => do
      return { s with maxLineLength := ← number "usize" (Nat.pow 2 64) node }),
    ("first_label".toList, fun s node => do
      return { s with firstLabel := ← number "u32" (Nat.pow 2 32) node }),
    ("label_step".toList, fun s node => do
      return { s with labelStep := ← number "u32" (Nat.pow 2 32) node }),
    ("banner".toList, fun s node => do return { s with banner := ← truth node })]

/-- Settings by name, in the order in which they are given. -/
def ofEntries (entries : Entries) : Except Misplaced Settings :=
  entries.foldlM (fun settings (key, node) =>
    match fields.lookup key.text with
    | some set => placedAt (placeOf key node) (set settings node)
    | none => .error ⟨.unknownField key.text (fields.map Prod.fst), some key.start⟩) {}

/-- Settings by position. Every one has to be there, and what follows the last is passed over. -/
def ofItems (items : List Node) : Except Misplaced Settings := do
  let settings ← (fields.zip items).foldlM (fun settings ((_, set), node) => set settings node) {}
  if items.length < fields.length then
    unplaced (.wrongLength items.length "struct Settings with 7 elements".toList)
  else return settings

def ofNode (node : Node) : Except Misplaced Settings :=
  match node with
  | .table _ entries => ofEntries entries
  | .array _ items | .tables items => ofItems items
  | .scalar _ .moment => unplaced (.unknownField momentKey (fields.map Prod.fst))
  | .scalar _ _ => unplaced (.wrongType (found node) "struct Settings".toList)

end Settings
end FortranWriter.Descriptor
