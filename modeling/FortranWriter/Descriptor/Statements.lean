import FortranWriter.Descriptor.Misfit
import FortranWriter.Statement
/-! The statements of a descriptor: a table with a kind and the fields of that kind, or an array
with the same in order. -/
namespace FortranWriter.Descriptor
open Toml (Node Key)

inductive FieldShape where
  | text
  | texts
  | bound
  | statements
deriving DecidableEq, Repr

inductive FieldValue where
  | text (t : Text)
  | texts (items : List Text)
  | bound (b : Bound)
  | statements (items : List Statement)

structure Field where
  name : Text
  shape : FieldShape
  required : Bool
deriving DecidableEq, Repr

/-- The fields of a statement that have been read, each with its name. -/
abbrev FieldValues := List (Text × FieldValue)

namespace FieldValues

def text? (name : String) (values : FieldValues) : Option Text :=
  match values.lookup name.toList with
  | some (.text t) => some t
  | _ => none

def texts? (name : String) (values : FieldValues) : Option (List Text) :=
  match values.lookup name.toList with
  | some (.texts items) => some items
  | _ => none

def bound? (name : String) (values : FieldValues) : Option Bound :=
  match values.lookup name.toList with
  | some (.bound b) => some b
  | _ => none

def statements? (name : String) (values : FieldValues) : Option (List Statement) :=
  match values.lookup name.toList with
  | some (.statements items) => some items
  | _ => none

end FieldValues

/-- A kind of statement: its name, what it is called where it is read by position, its fields in
order, and how it is made of their values. Of a value that is missing the name is reported. -/
structure StatementKind where
  name : Text
  title : Text
  fields : List Field
  build : FieldValues → Option Statement

namespace StatementKind

def needed (shape : FieldShape) (name : String) : Field :=
  ⟨name.toList, shape, true⟩

def open? (shape : FieldShape) (name : String) : Field :=
  ⟨name.toList, shape, false⟩

def transfer (direction : Wording.Transfer) (title : String) : StatementKind where
  name := direction.keyword
  title := title.toList
  fields := [needed .text "unit", open? .text "label", open? .texts "formats",
    open? .texts "variables"]
  build values := do
    return .transfer direction (← values.text? "unit") (values.text? "label")
      (values.texts? "formats") ((values.texts? "variables").getD [])

def bare (name title : String) (statement : Statement) : StatementKind :=
  ⟨name.toList, title.toList, [], fun _ => some statement⟩

def all : List StatementKind :=
  [{ name := "call".toList
     title := "Call".toList
     fields := [needed .text "name", open? .texts "arguments"]
     build := fun values => do
       return .call (← values.text? "name") ((values.texts? "arguments").getD []) },
    { name := "assign".toList
      title := "Assign".toList
      fields := [needed .text "destination", needed .text "expression"]
      build := fun values => do
        return .assign (← values.text? "destination") (← values.text? "expression") },
    { name := "declare".toList
      title := "Declare".toList
      fields := [needed .text "type", needed .texts "names"]
      build := fun values => do
        return .declare (← values.text? "type") (← values.texts? "names") },
    { name := "common".toList
      title := "Common".toList
      fields := [needed .text "name", needed .texts "names"]
      build := fun values => do
        return .common (← values.text? "name") (← values.texts? "names") },
    { name := "parameter".toList
      title := "Parameter".toList
      fields := [needed .texts "assignments"]
      build := fun values => do return .parameter (← values.texts? "assignments") },
    bare "implicit_none" "ImplicitNone" .implicitNone,
    { name := "comment".toList
      title := "Comment".toList
      fields := [needed .text "text"]
      build := fun values => do return .comment (← values.text? "text") },
    { name := "continue".toList
      title := "Continue".toList
      fields := [needed .text "label"]
      build := fun values => do return .continueAt (← values.text? "label") },
    { name := "goto".toList
      title := "Goto".toList
      fields := [needed .text "label"]
      build := fun values => do return .goto (← values.text? "label") },
    { name := "if_goto".toList
      title := "IfGoto".toList
      fields := [needed .text "condition", needed .text "label"]
      build := fun values => do
        return .ifGoto (← values.text? "condition") (← values.text? "label") },
    bare "return" "Return" .returnLine,
    bare "stop" "Stop" .stop,
    { name := "text".toList
      title := "Text".toList
      fields := [needed .text "text"]
      build := fun values => do return .verbatim (← values.text? "text") },
    { name := "if".toList
      title := "If".toList
      fields := [needed .text "condition", open? .statements "then",
        open? .statements "otherwise"]
      build := fun values => do
        return .ifThen (← values.text? "condition") ((values.statements? "then").getD [])
          (values.statements? "otherwise") },
    { name := "do".toList
      title := "Do".toList
      fields := [needed .text "index", needed .bound "start", needed .bound "end",
        open? .bound "step", open? .statements "body"]
      build := fun values => do
        return .doLoop (← values.text? "index") (← values.bound? "start") (← values.bound? "end")
          (values.bound? "step") ((values.statements? "body").getD []) },
    { name := "program".toList
      title := "Program".toList
      fields := [needed .text "name", open? .statements "body"]
      build := fun values => do
        return .program (← values.text? "name") ((values.statements? "body").getD []) },
    { name := "subroutine".toList
      title := "Subroutine".toList
      fields := [needed .text "name", open? .texts "parameters", open? .statements "body"]
      build := fun values => do
        return .subroutine (← values.text? "name") ((values.texts? "parameters").getD [])
          ((values.statements? "body").getD []) },
    { name := "function".toList
      title := "Function".toList
      fields := [needed .text "type", needed .text "name", open? .texts "parameters",
        open? .statements "body"]
      build := fun values => do
        return .function (← values.text? "type") (← values.text? "name")
          ((values.texts? "parameters").getD []) ((values.statements? "body").getD []) },
    { name := "open".toList
      title := "Open".toList
      fields := [needed .text "unit", needed .text "file", open? .text "status",
        open? .statements "body"]
      build := fun values => do
        return .openFile (← values.text? "unit") (← values.text? "file") (values.text? "status")
          ((values.statements? "body").getD []) },
    { name := "close".toList
      title := "Close".toList
      fields := [needed .text "unit"]
      build := fun values => do return .closeFile (← values.text? "unit") },
    transfer .read "Read",
    transfer .write "Write",
    { name := "format".toList
      title := "Format".toList
      fields := [needed .text "label", needed .texts "descriptors"]
      build := fun values => do
        return .format (← values.text? "label") (← values.texts? "descriptors") }]

def ofNode (node : Node) : Except Misplaced StatementKind :=
  match node with
  | .scalar _ (.string name) =>
    match all.find? fun kind => kind.name == name with
    | some kind => .ok kind
    | none => unplaced (.unknownVariant name (all.map StatementKind.name))
  | _ => unplaced (.wrongType (found node) "variant identifier".toList)

/-- How a statement of the kind is called where one by position is too short. -/
def expectation (kind : StatementKind) : Text :=
  "struct variant Statement::".toList ++ kind.title ++ " with ".toList ++
    Decimal.ofNat kind.fields.length ++
    (if kind.fields.length = 1 then " element".toList else " elements".toList)

/-- Statement made of named values; the first field in order that is missing is reported. -/
def ofNamed (kind : StatementKind) (values : FieldValues) : Except Misplaced Statement :=
  match kind.fields.find? fun field => field.required && (values.lookup field.name).isNone with
  | some field => unplaced (.missingField field.name)
  | none =>
    match kind.build values with
    | some statement => .ok statement
    | none => unplaced (.missingField kind.name)

/-- Statement made of values by position, of which so many are there; the first field that is
missing is told by its place. -/
def ofPlaced (kind : StatementKind) (values : FieldValues) : Except Misplaced Statement :=
  match kind.fields.findIdx? fun field =>
      field.required && (values.lookup field.name).isNone with
  | some place => unplaced (.wrongLength place kind.expectation)
  | none => kind.ofNamed values

end StatementKind

def textOf (node : Node) : Except Misplaced Text :=
  match node with
  | .scalar _ (.string t) => .ok t
  | _ => unplaced (.wrongType (found node) "a string".toList)

def textsOf (node : Node) : Except Misplaced (List Text) :=
  match node with
  | .array _ items | .tables items => items.mapM textOf
  | _ => unplaced (.wrongType (found node) "a sequence".toList)

def boundOf (node : Node) : Except Misplaced Bound :=
  match node with
  | .scalar _ (.integer n) => .ok (.integer n)
  | .scalar _ (.string t) => .ok (.expression t)
  | _ => unplaced .noBound

def surplus (taken given : Nat) : Misfit :=
  .wrongLength given (Decimal.ofNat taken ++
    if taken = 1 then " element in sequence".toList else " elements in sequence".toList)

def kindField : Text :=
  "kind".toList

mutual

/-- A statement. A fault of its kind is put down to the kind, and the lack of one to the statement;
any other fault is put down to what the statement is in. -/
def statement : Node → Except Misplaced Statement
  | .table head entries =>
    match Toml.Entries.find? kindField entries with
    | none => placedAt head.start (unplaced (.missingField kindField))
    | some (key, node) => do
      let kind ← placedAt (placeOf key node) (StatementKind.ofNode node)
      let values ← namedFields kind entries
      kind.ofNamed values
  | .array start items => placedStatement (some start) items
  | .tables items => placedStatement none items
  | .scalar start .moment => placedAt (some start) (unplaced (.missingField kindField))
  | .scalar start value =>
    .error ⟨.wrongType (found (.scalar start value)) "internally tagged enum Statement".toList,
      start⟩

def placedStatement (start : Option Nat) : List Node → Except Misplaced Statement
  | [] => .error ⟨.missingField kindField, start⟩
  | node :: rest => do
    let kind ← placedAt node.start? (StatementKind.ofNode node)
    let values ← placedFields kind.fields rest
    let statement ← kind.ofPlaced values
    if kind.fields.length < rest.length then unplaced (surplus kind.fields.length rest.length)
    else return statement

/-- The value of a field. Faults in statements inside are not put down to any place of theirs. -/
def fieldValue (shape : FieldShape) : Node → Except Misplaced FieldValue
  | .array start items =>
    match shape with
    | .statements => do return .statements (← statementList items)
    | .text => .text <$> textOf (.array start items)
    | .texts => .texts <$> textsOf (.array start items)
    | .bound => .bound <$> boundOf (.array start items)
  | .tables items =>
    match shape with
    | .statements => do return .statements (← statementList items)
    | .text => .text <$> textOf (.tables items)
    | .texts => .texts <$> textsOf (.tables items)
    | .bound => .bound <$> boundOf (.tables items)
  | .table head entries =>
    match shape with
    | .statements => unplaced (.wrongType (found (.table head entries)) "a sequence".toList)
    | .text => .text <$> textOf (.table head entries)
    | .texts => .texts <$> textsOf (.table head entries)
    | .bound => .bound <$> boundOf (.table head entries)
  | .scalar start value =>
    match shape with
    | .statements => unplaced (.wrongType (found (.scalar start value)) "a sequence".toList)
    | .text => .text <$> textOf (.scalar start value)
    | .texts => .texts <$> textsOf (.scalar start value)
    | .bound => .bound <$> boundOf (.scalar start value)

/-- The values of the fields of a kind in the order in which they are given; other entries are
passed over. -/
def namedFields (kind : StatementKind) : List (Key × Node) → Except Misplaced FieldValues
  | [] => return []
  | (key, node) :: rest =>
    match kind.fields.find? fun field => field.name == key.text with
    | none => namedFields kind rest
    | some field => do
      let value ← fieldValue field.shape node
      return (field.name, value) :: (← namedFields kind rest)

/-- The values of fields in order, as far as there are both. -/
def placedFields (fields : List Field) : List Node → Except Misplaced FieldValues
  | [] => return []
  | node :: rest =>
    match fields with
    | [] => return []
    | field :: others => do
      let value ← fieldValue field.shape node
      return (field.name, value) :: (← placedFields others rest)

def statementList : List Node → Except Misplaced (List Statement)
  | [] => return []
  | node :: rest => do
    let first ← withoutPlace (statement node)
    return first :: (← statementList rest)

end

end FortranWriter.Descriptor
