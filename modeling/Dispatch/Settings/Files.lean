namespace Dispatch.Settings

/-!
# The file that settings come from

A directory tree is given by the files in it; a directory exists because a file
lies below it, or because the program works in it.  A path from the root counts
from there, any other from the directory that the program works in.  It names a
file if it leads to one.  Otherwise the names made by appending the known
extensions to its last component are tried in order, so that the extension may be
left out.
-/

/-- The formats of settings files. -/
inductive Format
  | toml
  | json
  | ini
deriving Repr, DecidableEq

namespace Format

/-- The formats in the order in which they are tried. -/
def all : List Format :=
  [toml, json, ini]

/-- The extension of files of the format. -/
def extension : Format → String
  | toml => "toml"
  | json => "json"
  | ini => "ini"

/-- The format of files with the given extension. -/
def ofExtension?
    (text : String) : Option Format :=
  all.find? fun format => format.extension = text

end Format

/-- The parts of a path between slashes; some may be empty. -/
def pathParts
    (path : String) : List String :=
  (path.toList.splitOn '/').map String.ofList

/-- The parts that are more than an empty one or a `.`. -/
def properParts
    (path : String) : List String :=
  (pathParts path).filter fun part => part != "" && part != "."

/-- A path that starts from the root. -/
def isRooted
    (path : String) : Bool :=
  path.toList.head? == some '/'

/-- The last part of a path, unless it is `..` or there is none. -/
def lastPart?
    (path : String) : Option String :=
  (properParts path).getLast?.filter (· != "..")

/-- What follows the last dot of a name, unless the name has no other part. -/
def extensionOf?
    (name : String) : Option String :=
  let reversed := name.toList.reverse
  match reversed.dropWhile (· != '.') with
  | '.' :: stem =>
      if stem.isEmpty then
        none
      else
        some (String.ofList (reversed.takeWhile (· != '.')).reverse)
  | _ =>
      none

/-- The path with an extension appended to its last part. -/
def extend?
    (path extension : String) : Option String :=
  (lastPart? path).map fun name =>
    let parts := (properParts path).dropLast ++ [name ++ "." ++ extension]
    (if isRooted path then "/" else "") ++ String.intercalate "/" parts

/-- The way from a directory to a place: up as far as they differ, then down. -/
def relativeTo : List String → List String → List String
  | [], place =>
      place
  | directory@(_ :: _), [] =>
      directory.map fun _ => ".."
  | directory@(name :: names), place@(part :: parts) =>
      if name = part then
        relativeTo names parts
      else
        (directory.map fun _ => "..") ++ place

/-- Files with their bytes, each under its path. -/
abbrev Files := List (String × ByteArray)

/-- A directory tree, seen from one of its directories. -/
structure FileTree where
  /--
  The names that lead from the root to the directory that the program works in.
  -/
  workingDirectory : List String
  /-- The files, under paths from the root or from this directory. -/
  files : Files

/-- Files without a tree around them lie below a directory of their own. -/
instance : Coe Files FileTree where
  coe files := ⟨["work"], files⟩

namespace FileTree

/-- A tree without files, seen from its root. -/
def empty : FileTree :=
  ⟨[], []⟩

/-- The place that a path starts from. -/
def start
    (tree : FileTree)
    (path : String) : List String :=
  if isRooted path then [] else tree.workingDirectory

/-- The proper parts of a path and of what it starts from. -/
def partsFromRoot
    (tree : FileTree)
    (path : String) : List String :=
  tree.start path ++ properParts path

/-- The bytes of the file at a place, which is given by its parts. -/
def contentAt?
    (tree : FileTree)
    (place : List String) : Option ByteArray :=
  (tree.files.find? fun file => tree.partsFromRoot file.1 == place).map Prod.snd

/--
A place is a directory if it is the working directory or above it, or if some file
lies below it.
-/
def isDirectory
    (tree : FileTree)
    (place : List String) : Bool :=
  place.isPrefixOf tree.workingDirectory ||
    tree.files.any fun file =>
      let parts := tree.partsFromRoot file.1
      place.isPrefixOf parts && parts.length != place.length

/--
Follows the parts of a path from a place.  Every part but the last must lead to
a directory, and nothing is above the root but the root.
-/
def follow
    (tree : FileTree)
    (place : List String) :
    List String → Option (List String)
  | [] =>
      some place
  | part :: rest =>
      if !tree.isDirectory place then
        none
      else if part = "" ∨ part = "." then
        follow tree place rest
      else if part = ".." then
        follow tree place.dropLast rest
      else
        follow tree (place ++ [part]) rest

/-- The bytes of the file that a path leads to. -/
def read?
    (tree : FileTree)
    (path : String) : Option ByteArray :=
  (tree.follow (tree.start path) (pathParts path)).bind tree.contentAt?

/--
A path that ends with a name, if it leads to the working directory without any.
-/
def named
    (tree : FileTree)
    (path : String) : String :=
  if isRooted path || !(properParts path).isEmpty then
    path
  else
    match tree.workingDirectory.getLast? with
    | some name => "../" ++ name
    | none => path

/-- The path with an extension appended to the name that it ends with. -/
def withExtension?
    (tree : FileTree)
    (path extension : String) : Option String :=
  extend? (tree.named path) extension

/-- A path as messages show it: the way from the working directory, without `.`. -/
def shownPath
    (tree : FileTree)
    (path : String) : String :=
  String.intercalate "/" (relativeTo tree.workingDirectory (tree.partsFromRoot path))

end FileTree

/-- A file that settings are read from. -/
structure Selected where
  path : String
  format : Format
  content : ByteArray

/--
The file that a path selects.  A path that leads to a file selects it only if
its extension is known, and then no other file is tried.
-/
def select?
    (tree : FileTree)
    (path : String) : Option Selected :=
  match tree.read? path with
  | some content =>
      ((lastPart? path).bind extensionOf?).bind fun extension =>
        (Format.ofExtension? extension).map fun format =>
          ⟨tree.shownPath path, format, content⟩
  | none =>
      Format.all.findSome? fun format => do
        let extended ← tree.withExtension? path format.extension
        let content ← tree.read? extended
        return ⟨tree.shownPath extended, format, content⟩

end Dispatch.Settings
