import LineBasic.Source

/-!
# Files and paths

The files below a working folder, and the way a path leads to one of them. Of
the folders outside nothing is known but that they are folders: no name is found
in them.
-/

namespace LineBasic

/-- The folders and files below a working folder, each with the names that lead
to it. -/
structure FileTree where
  folders : List (List String) := []
  files : List (List String × List UInt8) := []

namespace FileTree

/-- The names a path consists of. A slash at its start, at its end or beside
another leaves an empty name. -/
def names (path : String) : List String := path.splitOn "/"

/-- The names that lead from the working folder to where a path leads, if every
folder on the way exists. -/
def resolve (path : String) : List String :=
  (names path).foldl
    (fun place name =>
      if name = "" ∨ name = "." then place
      else if name = ".." then place.dropLast
      else place ++ [name])
    []

/-- A folder and the folders it lies in, below the working folder. -/
def lineage (place : List String) : List (List String) :=
  (List.range place.length).map fun depth => place.take (depth + 1)

/-- The tree in which some folders were made and then some files written, each
given by its path. The file written last at a place is the one that stays. -/
def ofPaths (folders : List String) (files : List (String × List UInt8)) : FileTree where
  folders := folders.flatMap (fun path => lineage (resolve path)) ++
    files.flatMap fun (path, _) => lineage (resolve path).dropLast
  files := (files.map fun (path, contents) => (resolve path, contents)).reverse

/-! ### Looking up -/

/-- The most bytes that a name in a path may have. -/
def longestName : Nat := 255

/-- The most bytes that a path may have. -/
def longestPath : Nat := 4095

/-- What stands at a point of a path. -/
inductive Place where
  | folder (names : List String)
  | file (contents : List UInt8)
  /-- A folder outside of the tree. -/
  | outside

/-- The place that one name of a path leads to. -/
def enter (tree : FileTree) (place : Place) (name : String) : Except ReadFault Place :=
  match place with
  | .file _ => .error .notFolder
  | .outside =>
    if name = "" ∨ name = "." ∨ name = ".." then .ok .outside
    else if longestName < name.utf8ByteSize then .error .nameTooLong
    else .error .notFound
  | .folder names =>
    if name = "" ∨ name = "." then .ok place
    else if name = ".." then .ok (if names = [] then .outside else .folder names.dropLast)
    else if longestName < name.utf8ByteSize then .error .nameTooLong
    else
      let inner := names ++ [name]
      match tree.files.lookup inner with
      | some contents => .ok (.file contents)
      | none => if inner ∈ tree.folders then .ok (.folder inner) else .error .notFound

/-- The contents of the file that a path leads to. -/
def read (tree : FileTree) (path : String) : Except ReadFault (List UInt8) := do
  if path.toList.contains '\x00' then throw .nulInName
  if path = "" then throw .notFound
  if longestPath < path.utf8ByteSize then throw .nameTooLong
  let start := if path.startsWith "/" then .outside else .folder []
  match ← (names path).foldlM tree.enter start with
  | .file contents => return contents
  | .folder _ | .outside => throw .isFolder

end FileTree

end LineBasic
