import TicketTrail.Files

/-!
# File trees

Files held in memory, by their paths. A path is a row of names; walking it, an empty name and `.`
stay where they are and `..` goes back up. A path may only go through directories, and there is a
directory wherever a file or a directory lies below.
-/

namespace TicketTrail

/-- A place in a tree, by the names on the way to it. -/
abbrev Location := List String

/-- Files in memory, and directories that are there even if nothing lies in them. -/
structure FileTree where
  directories : List Location := []
  files : List (Location × String) := []
deriving Repr, DecidableEq

namespace FileTree

/-- The longest name of a file, in bytes. -/
def longestName : Nat := 255

/-- The longest path, in bytes. -/
def longestPath : Nat := 4095

/-- The names in a path. -/
def names (path : String) : List String :=
  (path.toList.splitOn '/').map String.ofList

/-- The text of the file at a location. -/
def file? (tree : FileTree) (place : Location) : Option String :=
  tree.files.lookup place

/-- There is a directory at the location. -/
def isDirectory (tree : FileTree) (place : Location) : Bool :=
  tree.directories.any place.isPrefixOf ||
    tree.files.any fun (file, _) => place.isPrefixOf file && place != file

/-- Why a walk cannot go on from a location, unless there is a directory. -/
def checkDirectory (tree : FileTree) (place : Location) : Except FileFault Unit :=
  if tree.isDirectory place then .ok ()
  else if (tree.file? place).isSome then .error .notDirectory
  else .error .missing

/-- Follows names from a location. -/
def walk (tree : FileTree) (place : Location) : List String → Except FileFault Location
  | [] => .ok place
  | name :: rest => do
    tree.checkDirectory place
    if longestName < name.utf8ByteSize then throw .nameTooLong
    if name == "" || name == "." then tree.walk place rest
    else if name == ".." then tree.walk place.dropLast rest
    else tree.walk (place ++ [name]) rest

/-- Reads the file at a path. -/
def read (tree : FileTree) (path : String) : Except FileFault String := do
  if path.toList.contains '\x00' then throw .nulInName
  if path == "" then throw .missing
  if longestPath < path.utf8ByteSize then throw .nameTooLong
  let found ← tree.walk [] (names path)
  match tree.file? found with
  | some text => return text
  | none => throw (if tree.isDirectory found then .isDirectory else .missing)

/-- The tree of the given files, and of directories that are there in any case. -/
def ofPaths (directories : List String) (files : List (String × String)) : FileTree where
  directories := directories.map names
  files := files.map fun (path, text) => (names path, text)

/-- The files of the tree. -/
def toFiles (tree : FileTree) : Files := ⟨tree.read⟩

end FileTree

end TicketTrail
