import FortranWriter.Text.Binary64
import FortranWriter.Toml.Fault
/-! What a TOML document holds: values, and tables whose keys keep their order. Every node remembers
where it was written. -/
namespace FortranWriter.Toml

/-- A key, and the byte where it was written. -/
structure Key where
  text : Text
  start : Nat
deriving DecidableEq, Repr

inductive Scalar where
  | string (t : Text)
  | integer (n : Int)
  | float (x : Binary64)
  | boolean (b : Bool)
  | moment
deriving DecidableEq, Repr

/-- What is known of a table besides its entries. An implicit one has only been named on the way to
another, and a dotted one on the way through a dotted key. -/
structure TableHead where
  start : Option Nat
  inline : Bool
  implicit : Bool
  dotted : Bool
deriving DecidableEq, Repr

/-- A value, a table, or the tables that were written one by one under the same header. -/
inductive Node where
  | scalar (start : Nat) (value : Scalar)
  | array (start : Nat) (items : List Node)
  | table (head : TableHead) (entries : List (Key × Node))
  | tables (items : List Node)
deriving Repr, Inhabited

/-- The entries of a table in their order. -/
abbrev Entries := List (Key × Node)

namespace Node

def start? : Node → Option Nat
  | scalar start _ => some start
  | array start _ => some start
  | table head _ => head.start
  | tables items =>
    match items with
    | table head _ :: _ => head.start
    | _ => none

def kind : Node → Text
  | scalar _ (.string _) => "string".toList
  | scalar _ (.integer _) => "integer".toList
  | scalar _ (.float _) => "float".toList
  | scalar _ (.boolean _) => "boolean".toList
  | scalar _ .moment => "datetime".toList
  | array _ _ => "array".toList
  | table head _ => if head.inline then "inline table".toList else "table".toList
  | tables _ => "array of tables".toList

end Node

namespace Entries

def find? (key : Text) (entries : Entries) : Option (Key × Node) :=
  List.find? (fun entry => entry.1.text == key) entries

def erase (key : Text) (entries : Entries) : Entries :=
  List.eraseP (fun entry => entry.1.text == key) entries

/-- A change to the node under a key, or to a fresh node put behind the others. -/
def update (key : Key) (fresh : Node) (change : Node → Except Cause Node) :
    Entries → Except Cause Entries
  | [] => do return [(key, ← change fresh)]
  | (other, node) :: rest =>
    if other.text = key.text then do return (other, ← change node) :: rest
    else do return (other, node) :: (← update key fresh change rest)

end Entries

def updateLast (change : Node → Except Cause Node) : List Node → Except Cause (List Node)
  | [] => .ok []
  | [node] => do return [← change node]
  | node :: next :: rest => do return node :: (← updateLast change (next :: rest))

/-- How a path leads through tables: as a dotted key or as a header, and through inline tables or
through others. -/
structure Route where
  dotted : Bool
  inline : Bool

/-- A change to the table at the end of a path. Tables that are missing on the way are made, of
several under one header the last is taken, and a dotted key may not go through a table that has a
header or braces of its own. -/
def descend (route : Route) (passed : List Text) :
    List Key → (TableHead → Entries → Except Cause Entries) →
      TableHead → Entries → Except Cause Entries
  | [], change, head, entries => change head entries
  | key :: path, change, _, entries =>
    let fresh : Node := .table ⟨none, route.inline, true, route.dotted⟩ []
    let passed := passed ++ [key.text]
    let into (head : TableHead) (inner : Entries) : Except Cause Node := do
      return .table head (← descend route passed path change head inner)
    entries.update key fresh fun node =>
      match node with
      | .table head inner =>
        if head.inline != route.inline then .error (.extendsValue passed node.kind)
        else if route.dotted && !head.implicit then .error (.duplicateKey key.text none)
        else into head inner
      | .tables items => do
        return .tables (← updateLast (fun last =>
          match last with
          | .table head inner => into head inner
          | other => .ok other) items)
      | _ => .error (.extendsValue passed node.kind)

/-- Adds a value under a dotted key. The table at the end of the path has to be one that dotted keys
made, or the table itself where the path is empty. -/
def insertDotted (inline : Bool) (table : Option (List Text)) (path : List Key) (key : Key)
    (value : Node) : TableHead → Entries → Except Cause Entries :=
  descend ⟨true, inline⟩ [] path fun head entries =>
    if head.dotted == path.isEmpty then .error (.duplicateKey key.text none)
    else if (entries.find? key.text).isSome then .error (.duplicateKey key.text table)
    else .ok (entries ++ [(key, value)])

end FortranWriter.Toml
