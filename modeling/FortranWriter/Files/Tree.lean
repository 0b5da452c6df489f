import FortranWriter.Files.Fault
import FortranWriter.Files.Path
/-! Directories and the files in them, and what each call does to them. -/
namespace FortranWriter

/-- The names that lead to a file or a directory, the innermost first and the root without any. -/
abbrev Place := List Text

/-- Something that has nothing to read. What is written to it is lost, or there is no room for it,
or it is shown on one of the two streams for text. -/
inductive Device where
  | idle
  | full
  | output
  | complaints
deriving DecidableEq, Repr

inductive Entry where
  | directory
  | file (content : ByteArray)
  | device (device : Device)

/-- What there is in each place, and the directory where relative paths begin. -/
structure FileTree where
  here : Place
  entries : List (Place × Entry)

namespace FileTree

/-- What is in a place. The root is a directory whatever else there is. -/
def entry? (tree : FileTree) (place : Place) : Option Entry :=
  if place = [] then some .directory else tree.entries.lookup place

def put (tree : FileTree) (place : Place) (entry : Entry) : FileTree :=
  { tree with entries := (place, entry) :: tree.entries }

/-- Names have 255 bytes at most. -/
def isTooLong (name : Text) : Bool :=
  255 < Text.byteCount name

/-- From a directory to what one part of a path leads to. -/
def step (tree : FileTree) (place : Place) (part : Text) : Except FileFault Place :=
  match tree.entry? place with
  | some .directory =>
    if Path.isIdle part then .ok place
    else if part = "..".toList then .ok place.tail
    else if isTooLong part then .error .nameTooLong
    else if (tree.entry? (part :: place)).isSome then .ok (part :: place)
    else .error .notFound
  | _ => .error .notADirectory

def walk (tree : FileTree) (place : Place) (parts : List Text) : Except FileFault Place :=
  parts.foldlM tree.step place

/-- Where a path begins and the parts that lead on from there. Paths have 4095 bytes at most. -/
def route (tree : FileTree) (path : Text) : Except FileFault (Place × List Text) :=
  if path.contains '\x00' then .error .nulInPath
  else if 4095 < Text.byteCount path then .error .nameTooLong
  else
    match Path.parts path with
    | [[]] => .error .notFound
    | [] :: rest => .ok ([], rest)
    | ps => .ok (tree.here, ps)

def find (tree : FileTree) (path : Text) : Except FileFault Place := do
  let (start, parts) ← tree.route path
  tree.walk start parts

def isPresent (tree : FileTree) (path : Text) : Bool :=
  (tree.find path).toBool

def isDirectory (tree : FileTree) (path : Text) : Bool :=
  match tree.find path with
  | .ok place =>
    match tree.entry? place with
    | some .directory => true
    | _ => false
  | .error _ => false

def read (tree : FileTree) (path : Text) : Except FileFault ByteArray := do
  let place ← tree.find path
  match tree.entry? place with
  | some (.file content) => .ok content
  | some (.device _) => .ok ByteArray.empty
  | some .directory => .error .isADirectory
  | none => .error .notFound

/-- A directory, the name in it that a path ends in, and whether a slash is behind the name. There
is no name if the path ends in dots or is the root. -/
structure Target where
  parent : Place
  name : Option Text
  closed : Bool

/-- Where a path would put something new. All that is in front of its last name has to be there. -/
def target (tree : FileTree) (path : Text) : Except FileFault Target := do
  let (start, parts) ← tree.route path
  let names := (parts.reverse.dropWhile List.isEmpty).reverse
  let parent ← tree.walk start names.dropLast
  let closed := names.length < parts.length
  match names.getLast? with
  | none => return ⟨parent, none, closed⟩
  | some name =>
    let _ ← tree.step parent ['.']
    return ⟨parent, if name = ['.'] || name = "..".toList then none else some name, closed⟩

/-- Makes a directory where there is nothing yet. -/
def makeDirectory (tree : FileTree) (path : Text) : Except FileFault FileTree := do
  let target ← tree.target path
  match target.name with
  | none => .error .alreadyThere
  | some name =>
    let place := name :: target.parent
    if isTooLong name then .error .nameTooLong
    else if (tree.entry? place).isSome then .error .alreadyThere
    else .ok (tree.put place .directory)

/-- Makes an empty file, or empties the one there is. A device stays as it is. -/
def createFile (tree : FileTree) (path : Text) : Except FileFault (Place × FileTree) := do
  let target ← tree.target path
  match target.name with
  | none => .error .isADirectory
  | some name =>
    let place := name :: target.parent
    if target.closed then .error .isADirectory
    else if isTooLong name then .error .nameTooLong
    else
      match tree.entry? place with
      | some .directory => .error .isADirectory
      | some (.device _) => .ok (place, tree)
      | _ => .ok (place, tree.put place (.file ByteArray.empty))

/-- Puts bytes into a file that was made before. -/
def fill (tree : FileTree) (place : Place) (content : ByteArray) : Except FileFault FileTree :=
  match tree.entry? place with
  | some (.device .full) => if content.isEmpty then .ok tree else .error .noSpace
  | some (.device _) => .ok tree
  | _ => .ok (tree.put place (.file content))

/-- Makes directories where there is nothing yet, the outer ones first. -/
def withDirectories (tree : FileTree) : Place → FileTree
  | [] => tree
  | name :: outer =>
    let tree := tree.withDirectories outer
    if (tree.entry? (name :: outer)).isSome then tree else tree.put (name :: outer) .directory

/-- Puts a file under a path from the current directory, with all directories that lead to it. -/
def plant (tree : FileTree) (path : Text) (content : ByteArray) : FileTree :=
  let place := ((Path.parts path).filter fun part => !Path.isIdle part).reverse ++ tree.here
  (tree.withDirectories place.tail).put place (.file content)

/-- An empty current directory, on a machine with the usual devices, some of them by several
names. -/
def empty : FileTree :=
  let here := ["work".toList]
  let dev := ["dev".toList]
  let numbered := "fd".toList :: dev
  let process := ["self".toList, "proc".toList]
  let own := "fd".toList :: process
  let directories := [here, ["tmp".toList], dev, numbered, ["proc".toList], process, own]
  let streams : List (String × String × Device) :=
    [("0", "stdin", .idle), ("1", "stdout", .output), ("2", "stderr", .complaints)]
  ⟨here, directories.map (·, .directory) ++
    [("null".toList :: dev, .device .idle), ("full".toList :: dev, .device .full)] ++
    streams.flatMap fun (number, name, device) =>
      [number.toList :: own, number.toList :: numbered, name.toList :: dev].map (·, .device device)⟩

/-- Whether there is a file with this content in a place. -/
def holds (tree : FileTree) (place : Place) (content : ByteArray) : Bool :=
  match tree.entry? place with
  | some (.file found) => found.data == content.data
  | _ => false

/-- The path from an outer place to a place. -/
def pathBetween (outer place : Place) : Text :=
  Text.joinWith ['/'] (place.take (place.length - outer.length)).reverse

/-- The files below the current directory that are not what they were, by their paths from there. -/
def changes (before after : FileTree) : List (Text × ByteArray) :=
  (newest after.entries).filterMap fun (place, entry) =>
    match entry with
    | .file content =>
      if before.holds place content || !after.here.isSuffixOf place then none
      else some (pathBetween after.here place, content)
    | _ => none
where
  newest : List (Place × Entry) → List (Place × Entry)
    | [] => []
    | (place, entry) :: older => (place, entry) :: (newest older).filter fun (p, _) => p ≠ place

end FileTree
end FortranWriter
