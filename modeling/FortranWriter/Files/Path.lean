import FortranWriter.Text.Basic
/-! Paths: names between slashes. A leading slash stands for the root; two slashes in a row and a
single dot name nothing, unless the dot is in front of all else. -/
namespace FortranWriter.Path

/-- The parts of a path: it is cut at each slash. -/
def parts (path : Text) : List Text :=
  Text.pieces '/' path

/-- The path with the given parts. One that is empty is the root. -/
def ofParts : List Text → Text
  | [[]] => ['/']
  | ps => Text.joinWith ['/'] ps

def isIdle (part : Text) : Bool :=
  part.isEmpty || part == ['.']

/-- Parts less those at the end that lead nowhere. The first one is kept. -/
def trimIdle : List Text → List Text
  | [] => []
  | first :: rest => first :: (rest.reverse.dropWhile isIdle).reverse

/-- The path of what contains a path. The empty path and the root have none. -/
def parent? (path : Text) : Option Text :=
  match trimIdle (parts path) with
  | [[]] => none
  | ps => some (ofParts (trimIdle ps.dropLast))

/-- The last name of a path, if it ends in one. -/
def fileName? (path : Text) : Option Text :=
  match (trimIdle (parts path)).getLast? with
  | some name => if isIdle name || name == "..".toList then none else some name
  | none => none

/-- The path and the parents of the first parts of it, from the inside out. -/
def ancestorsOf : Nat → Text → List Text
  | 0, path => [path]
  | depth + 1, path =>
    path ::
      match parent? path with
      | some parent => ancestorsOf depth parent
      | none => []

def ancestors (path : Text) : List Text :=
  ancestorsOf (parts path).length path

end FortranWriter.Path
