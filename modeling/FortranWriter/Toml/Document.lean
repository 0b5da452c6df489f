import FortranWriter.Toml.Value
/-! A whole document: keys with values, and headers of tables, from first line to last. -/
namespace FortranWriter.Toml
open Reader

/-- A document as far as it has been read: the tables that are complete, and the one that keys are
being added to, with its path and whether it is one of several under its header. -/
structure Draft where
  root : Entries
  head : TableHead
  entries : Entries
  path : List Key
  repeated : Bool

namespace Draft

def rootHead : TableHead :=
  ⟨some 0, false, false, false⟩

/-- Before any header, keys are added to the root. -/
def empty : Draft :=
  ⟨[], rootHead, [], [], false⟩

def headerRoute : Route :=
  ⟨false, false⟩

/-- The fault of a header whose last key is taken. It shows the key as it would be written. -/
def taken (parent : List Key) (key : Key) : Cause :=
  .duplicateKey (writtenKey key.text) (some (parent.map Key.text))

def completed (draft : Draft) : Except Cause Entries :=
  match draft.path.getLast? with
  | none => .ok draft.entries
  | some key =>
    let parent := draft.path.dropLast
    let table : Node := .table draft.head draft.entries
    descend headerRoute [] parent (fun _ entries =>
      if draft.repeated then
        entries.update key (.tables []) fun node =>
          match node with
          | .tables items => .ok (.tables (items ++ [table]))
          | _ => .error (taken parent key)
      else if (entries.find? key.text).isSome then .error (taken parent key)
      else .ok (entries ++ [(key, table)])) rootHead draft.root

def insert (draft : Draft) (path : List Key) (key : Key) (node : Node) : Except Cause Draft := do
  let entries ← insertDotted false (some (draft.path.map Key.text)) path key node draft.head
    draft.entries
  return { draft with entries }

/-- A header begins a table. A table that has only been named on the way to another is gone on with;
no other may be there already. -/
def openTable (draft : Draft) (start : Nat) (path : List Key) (key : Key) : Except Cause Draft := do
  let root ← draft.completed
  let found := lookup path root
  let root ← descend headerRoute [] path (fun _ entries =>
    match entries.find? key.text with
    | none => .ok entries
    | some (_, .table head _) =>
      if head.implicit && !head.dotted && !head.inline then .ok (entries.erase key.text)
      else .error (taken path key)
    | some _ => .error (taken path key)) rootHead root
  return ⟨root, ⟨some start, false, false, false⟩, found, path ++ [key], false⟩
where
  /-- The entries that an unfinished table under the key has so far. -/
  lookup : List Key → Entries → Entries
    | [], entries =>
      match entries.find? key.text with
      | some (_, .table _ inner) => inner
      | _ => []
    | step :: rest, entries =>
      match entries.find? step.text with
      | some (_, .table _ inner) => lookup rest inner
      | some (_, .tables items) =>
        match items.getLast? with
        | some (.table _ inner) => lookup rest inner
        | _ => []
      | _ => []

/-- A header in double brackets begins one more table of several. -/
def openRepeated (draft : Draft) (start : Nat) (path : List Key) (key : Key) :
    Except Cause Draft := do
  let root ← draft.completed
  let root ← descend headerRoute [] path (fun _ entries =>
    entries.update key (.tables []) fun node =>
      match node with
      | .tables items => .ok (.tables items)
      | _ => .error (taken path key)) rootHead root
  return ⟨root, ⟨some start, false, false, false⟩, [], path ++ [key], true⟩

end Draft

/-- A header between its brackets, and the end of its line. -/
def headerLine (opening closing : String) : Reader (List Key) := do
  let _ ← literal opening.toList
  let path ← committed key
  let _ ← expecting ["`.`", "`" ++ closing ++ "`"] (committed (literal closing.toList))
  expecting ["newline", "`#`"] (committed lineTrailing)
  return path

def header (draft : Draft) : Reader Draft :=
  named "table header" do
    let start ← position
    let apply (begin : Draft → Nat → List Key → Key → Except Cause Draft) (path : List Key) :=
      match path.getLast? with
      | some key => begin draft start path.dropLast key
      | none => .ok draft
    match (← remaining).take 2 with
    | ['[', '['] => checked (apply Draft.openRepeated) (headerLine "[[" "]]")
    | [_, _] => checked (apply Draft.openTable) (headerLine "[" "]")
    | _ => miss

def keyLine (draft : Draft) : Reader Draft :=
  checked (fun (path, key, node) => draft.insert path key node) <|
    keyValue value (expecting ["newline", "`#`"] lineTrailing)

def documentFrom (draft : Draft) : Nat → Reader Draft
  | 0 => pure draft
  | fuel + 1 => do
    match ← peek? with
    | none => return draft
    | some '#' => do
      committed (do comment; lineEnding)
      let _ ← space
      documentFrom draft fuel
    | some '[' => do
      let draft ← committed (header draft)
      let _ ← space
      documentFrom draft fuel
    | some '\n' | some '\r' => do
      match ← optional newline with
      | some _ => do
        let _ ← space
        documentFrom draft fuel
      | none => return draft
    | some _ => do
      let draft ← committed (keyLine draft)
      let _ ← space
      documentFrom draft fuel

/-- A byte order mark in front does not count. Each round takes a character at least. -/
def document : Reader Draft := do
  let _ ← optional (char '\ufeff')
  let _ ← space
  let draft ← documentFrom .empty ((← remaining).length + 1)
  endOfText
  return draft

/-- The entries of a document's root, in their order. -/
def parse (text : Text) : Except Fault Entries :=
  match document ⟨text, 0⟩ with
  | .found draft _ =>
    match draft.completed with
    | .ok root => .ok root
    | .error cause => .error { offset := 0, cause := some cause }
  | .missed fault => .error fault
  | .stopped fault => .error fault

end FortranWriter.Toml
