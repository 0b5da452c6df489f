import FortranWriter.Proofs.Label
import FortranWriter.Proofs.Wording
import FortranWriter.Statement
/-! A printer that walks a tree once and puts every line at the depth it has reached, checking
nothing, and the nesting of what it prints. -/
namespace FortranWriter.OnePass
open Argument (join)

inductive Frame where
  | conditional
  | loop (label : Text)
  | program
  | subroutine
  | function (category : Text)
  | file (unit : Text)
deriving DecidableEq

namespace Frame

def heading : Frame → Text
  | conditional => "if (".toList
  | loop label => "do ".toList ++ label ++ " ".toList
  | program => "program ".toList
  | subroutine => "subroutine ".toList
  | function category => category ++ " function ".toList
  | file unit => "open(unit=".toList ++ unit ++ ", file=".toList

def closer : Frame → Text
  | conditional => "end if".toList
  | loop label => label ++ " continue".toList
  | program | subroutine | function _ => "end".toList
  | file unit => "close(unit=".toList ++ unit ++ ")".toList

end Frame

/-- What a line does to the constructs that are open. -/
inductive Role where
  | plain
  | opens (frame : Frame)
  | divides
  | closes (frame : Frame)

/-- A line that is put out, and its role. -/
structure Printed where
  role : Role
  line : Line

/-- The constructs that are open behind a line, the innermost first. A line stands as deep as there
are constructs around it, and only the innermost of them can be divided or closed. -/
def nest? : List Frame → Printed → Option (List Frame)
  | standing, ⟨.plain, line⟩ => if line.depth = standing.length then some standing else none
  | standing, ⟨.opens frame, line⟩ =>
    if line.depth = standing.length ∧ frame.heading <+: line.text then some (frame :: standing)
    else none
  | .conditional :: standing, ⟨.divides, line⟩ =>
    if line = ⟨standing.length, "else".toList⟩ then some (.conditional :: standing) else none
  | top :: standing, ⟨.closes frame, line⟩ =>
    if frame = top ∧ line = ⟨standing.length, frame.closer⟩ then some standing else none
  | _, _ => none

def numeral (label : Text) : Text :=
  Decimal.ofNat (Decimal.toNat label)

def nextLabel : StateM LabelSupply Text := fun supply =>
  (Decimal.ofNat supply.next, supply.advance)

def plain (depth : Nat) (text : Text) : Printed :=
  ⟨.plain, ⟨depth, text⟩⟩

/-- An opener, what stands between the two ends, and the closer. -/
def around (depth : Nat) (frame : Frame) (tail : Text) (inner : List Printed) : List Printed :=
  ⟨.opens frame, ⟨depth, frame.heading ++ tail⟩⟩ :: inner ++
    [⟨.closes frame, ⟨depth, frame.closer⟩⟩]

mutual

/-- The lines of a statement at a depth. Labels come from the supply in the order in
which constructs are met. -/
def print (depth : Nat) : Statement → StateM LabelSupply (List Printed)
  | .call name arguments =>
    return [plain depth ("call ".toList ++ name ++ "(".toList ++ join arguments ++ ")".toList)]
  | .assign destination expression =>
    return [plain depth (destination ++ " = ".toList ++ expression)]
  | .declare category names => return [plain depth (Wording.declaration category names)]
  | .common name names =>
    return [plain depth ("common /".toList ++ name ++ "/ ".toList ++ join names)]
  | .parameter assignments =>
    return [plain depth ("parameter (".toList ++ join assignments ++ ")".toList)]
  | .implicitNone => return [plain depth "implicit none".toList]
  | .comment text => return [plain depth (if text.isEmpty then "!".toList else "! ".toList ++ text)]
  | .continueAt label => return [plain depth (numeral label ++ " continue".toList)]
  | .goto label => return [plain depth ("goto ".toList ++ numeral label)]
  | .ifGoto condition label =>
    return [plain depth ("if (".toList ++ condition ++ ") goto ".toList ++ numeral label)]
  | .returnLine => return [plain depth "return".toList]
  | .stop => return [plain depth "stop".toList]
  | .closeFile unit => return [plain depth ("close(unit=".toList ++ unit ++ ")".toList)]
  | .format label descriptors =>
    return [plain depth (numeral label ++ " format(".toList ++ join descriptors ++ ")".toList)]
  | .transfer direction unit label none operands =>
    return [plain depth (direction.keyword ++ "(".toList ++ unit ++
      (label.elim [] fun label => ", ".toList ++ numeral label) ++ ")".toList ++
      Wording.operandText operands)]
  | .transfer direction unit _ (some formats) operands => do
    let label ← nextLabel
    return [plain depth (direction.keyword ++ "(".toList ++ unit ++ ", ".toList ++ label ++
        ")".toList ++ Wording.operandText operands),
      plain depth (label ++ " format(".toList ++ join formats ++ ")".toList)]
  | .verbatim text =>
    return (text.lines.filter fun line => !Text.isAllBlank line).map (plain depth)
  | .ifThen condition body none => do
    let inner ← printAll (depth + 1) body
    return around depth .conditional (condition ++ ") then".toList) inner
  | .ifThen condition body (some otherwise) => do
    let inner ← printAll (depth + 1) body
    let other ← printAll (depth + 1) otherwise
    return around depth .conditional (condition ++ ") then".toList)
      (inner ++ ⟨.divides, ⟨depth, "else".toList⟩⟩ :: other)
  | .doLoop index start finish step body => do
    let label ← nextLabel
    let inner ← printAll (depth + 1) body
    return around depth (.loop label) (index ++ " = ".toList ++ start.shown ++ ", ".toList ++
      finish.shown ++ Wording.stepText step) inner
  | .program name body => do
    let inner ← printAll (depth + 1) body
    return around depth .program name inner
  | .subroutine name parameters body => do
    let inner ← printAll (depth + 1) body
    return around depth .subroutine (name ++ "(".toList ++ join parameters ++ ")".toList) inner
  | .function category name parameters body => do
    let inner ← printAll (depth + 1) body
    return around depth (.function category)
      (name ++ "(".toList ++ join parameters ++ ")".toList) inner
  | .openFile unit file status body => do
    let inner ← printAll (depth + 1) body
    return around depth (.file unit) (Literal.quote file ++ ", status=".toList ++
      Literal.quote (status.getD Wording.defaultStatus) ++ ")".toList) inner

def printAll (depth : Nat) : List Statement → StateM LabelSupply (List Printed)
  | [] => return []
  | s :: rest => do
    let first ← print depth s
    let others ← printAll depth rest
    return first ++ others

end

/-- Lines that leave the constructs around them open and open no others. -/
def Nests (depth : Nat) (printed : List Printed) : Prop :=
  ∀ standing : List Frame, standing.length = depth → printed.foldlM nest? standing = some standing

theorem nests_nil (depth : Nat) : Nests depth [] :=
  fun _ _ => rfl

theorem Nests.append {depth : Nat} {front back : List Printed} (first : Nests depth front)
    (second : Nests depth back) : Nests depth (front ++ back) := by
  intro standing reached
  rw [List.foldlM_append, first standing reached]
  exact second standing reached

/-- Plain lines may stand wherever the depth is theirs. -/
theorem nests_plain (depth : Nat) (texts : List Text) : Nests depth (texts.map (plain depth)) := by
  induction texts with
  | nil => exact nests_nil depth
  | cons t texts ih =>
      intro standing reached
      have stays : nest? standing (plain depth t) = some standing := if_pos reached.symm
      rw [List.map_cons, List.foldlM_cons, stays]
      exact ih standing reached

theorem nest?_opens (standing : List Frame) (frame : Frame) (tail : Text) :
    nest? standing ⟨.opens frame, ⟨standing.length, frame.heading ++ tail⟩⟩ =
      some (frame :: standing) :=
  if_pos ⟨rfl, List.prefix_append _ _⟩

theorem nest?_closes (standing : List Frame) (frame : Frame) :
    nest? (frame :: standing) ⟨.closes frame, ⟨standing.length, frame.closer⟩⟩ = some standing := by
  cases frame with
  | conditional | loop | program | subroutine | function | file => exact if_pos ⟨rfl, rfl⟩

theorem nests_around {depth : Nat} {inner : List Printed} (frame : Frame) (tail : Text)
    (inside : ∀ standing : List Frame, standing.length = depth →
      inner.foldlM nest? (frame :: standing) = some (frame :: standing)) :
    Nests depth (around depth frame tail inner) := by
  rintro standing rfl
  -- the opener adds its frame, the inner lines leave it on top, and the closer finds it there
  rw [around, List.foldlM_append, List.foldlM_cons, nest?_opens]
  change (inner.foldlM nest? (frame :: standing) >>= _) = _
  rw [inside standing rfl]
  change (nest? (frame :: standing) _ >>= _) = _
  rw [nest?_closes]
  rfl

theorem Nests.around {depth : Nat} {inner : List Printed} (h : Nests (depth + 1) inner)
    (frame : Frame) (tail : Text) : Nests depth (around depth frame tail inner) :=
  nests_around frame tail fun standing reached => h (frame :: standing) (congrArg Nat.succ reached)

theorem Nests.divided {depth : Nat} {inner other : List Printed} (first : Nests (depth + 1) inner)
    (second : Nests (depth + 1) other) (tail : Text) :
    Nests depth (OnePass.around depth .conditional tail
      (inner ++ ⟨.divides, ⟨depth, "else".toList⟩⟩ :: other)) := by
  refine nests_around .conditional tail ?_
  rintro standing rfl
  have divides : nest? (.conditional :: standing) ⟨.divides, ⟨standing.length, "else".toList⟩⟩ =
      some (.conditional :: standing) := if_pos rfl
  rw [List.foldlM_append, first _ rfl]
  change (List.foldlM nest? _ (_ :: other)) = _
  rw [List.foldlM_cons, divides]
  exact second _ rfl

/-- Wherever printing is stopped, the constructs that are still open are properly nested. -/
theorem Nests.of_prefix {depth : Nat} {printed front : List Printed} (h : Nests depth printed)
    (cut : front <+: printed) {around : List Frame} (reached : around.length = depth) :
    ∃ standing, front.foldlM nest? around = some standing := by
  obtain ⟨back, rfl⟩ := cut
  have whole := h around reached
  rw [List.foldlM_append, Option.bind_eq_bind, Option.bind_eq_some_iff] at whole
  obtain ⟨standing, found, _⟩ := whole
  exact ⟨standing, found⟩

end FortranWriter.OnePass
