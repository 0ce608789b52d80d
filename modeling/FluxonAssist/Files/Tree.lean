import FluxonAssist.Files.Disk
import FluxonAssist.Files.Path

/-!
# Trees of files

A tree holds the files and directories below a working directory. A path is walked name by name, and
every name but the last must be a directory, so `a/../b` needs the directory `a`. Outside the
working directory there are the directories that hold it, up to the root, and the links below
`/proc` that lead to it and to the root.
-/
set_option autoImplicit false
namespace FluxonAssist

inductive FileItem where
  | text (content : String)
  /-- A file whose bytes are no Unicode text. -/
  | binary
  | directory
  deriving DecidableEq, Repr

def FileItem.ofBytes (bytes : ByteArray) : FileItem :=
  match String.fromUTF8? bytes with
  | some content => .text content
  | none => .binary

def FileItem.read : FileItem → Except ReadFailure String
  | .text content => .ok content
  | .binary => .error .notUnicode
  | .directory => .error .isDirectory

/-- The files and directories below the working directory, each by its names from there. -/
structure FileTree where
  entries : List (List String × FileItem) := []
  deriving DecidableEq, Repr

namespace FileTree

inductive Place where
  /-- Below the working directory, or the directory itself. -/
  | inside (names : List String)
  /-- The root, or a directory on the way from there to a link. -/
  | outside (names : List String)
  /-- A directory that holds the working directory, so many names below the root. -/
  | above (depth : Nat)
  deriving DecidableEq, Repr

/-- The number of names from the root to the working directory. The names themselves are unknown. -/
def workingDepth : Nat := 2

def links : List (List String × Place) :=
  [(["proc", "self", "cwd"], .inside []),
   (["proc", "self", "root"], .outside [])]

def itemAt? (tree : FileTree) : Place → Option FileItem
  | .inside [] => some .directory
  | .inside names => tree.entries.lookup names
  | .outside _ => some .directory
  | .above _ => some .directory

/-- The directory so many names below the root that holds the working directory. -/
def Place.holding (depth : Nat) : Place := if depth = 0 then .outside [] else .above depth

def Place.parent : Place → Place
  | .inside [] => .holding (workingDepth - 1)
  | .inside names => .inside names.dropLast
  | .outside names => .outside names.dropLast
  | .above depth => .holding (depth - 1)

/-- The place of a name in a directory, whether or not something stands there. -/
def Place.child? : Place → String → Option Place
  | .inside names, name => some (.inside (names ++ [name]))
  | .outside names, name =>
    let way := names ++ [name]
    match links.lookup way with
    | some place => some place
    | none =>
      if links.any fun link => way.isPrefixOf link.1 then some (.outside way) else none
  | .above _, _ => none

/-- One step of a walk; a name has at most 255 bytes. -/
def enter? (tree : FileTree) (place : Place) (name : String) : Option Place :=
  if tree.itemAt? place ≠ some .directory then none
  else if name = "." then some place
  else if name = ".." then some place.parent
  else if 255 < name.utf8ByteSize then none
  else
    match place.child? name with
    | some child => if (tree.itemAt? child).isSome then some child else none
    | none => none

def walk? (tree : FileTree) : Place → List String → Option Place
  | place, [] => some place
  | place, name :: rest =>
    match tree.enter? place name with
    | some next => tree.walk? next rest
    | none => none

def startOf (path : String) : Place :=
  if Path.isAbsolute path then .outside [] else .inside []

/-- The item that a path leads to. A trailing slash asks for a directory; the empty path, a path
with a NUL and a path of 4096 bytes or more lead nowhere. -/
def find? (tree : FileTree) (path : String) : Option FileItem :=
  let cs := path.toList
  if cs = [] ∨ cs.contains (Char.ofNat 0) ∨ 4096 ≤ path.utf8ByteSize then none
  else
    match tree.walk? (startOf path) (Path.names path) with
    | none => none
    | some place =>
      match tree.itemAt? place with
      | none => none
      | some item => if cs.getLast? = some '/' ∧ item ≠ .directory then none else some item

def disk (tree : FileTree) : Disk where
  has path := (tree.find? path).isSome
  read path :=
    match tree.find? path with
    | none => .error .missing
    | some item => item.read

def addDirectory? (tree : FileTree) (place : Place) (name : String) : Option FileTree :=
  match place with
  | .inside names =>
    if tree.itemAt? place = some .directory ∧ tree.entries.lookup (names ++ [name]) = none then
      some ⟨tree.entries ++ [(names ++ [name], .directory)]⟩
    else none
  | _ => none

/-- A walk along names that makes the directories that are missing on its way. -/
def walkMaking (tree : FileTree) (place : Place) : List String → FileTree × Option Place
  | [] => (tree, some place)
  | name :: rest =>
    match tree.enter? place name with
    | some next => tree.walkMaking next rest
    | none =>
      match tree.addDirectory? place name with
      | none => (tree, none)
      | some tree =>
        match tree.enter? place name with
        | some next => tree.walkMaking next rest
        | none => (tree, none)

/-- Puts a file at a place, unless a directory stands there. -/
def putFile (tree : FileTree) (names : List String) (item : FileItem) : FileTree :=
  if tree.entries.lookup names = some .directory then tree
  else ⟨tree.entries.filter (fun entry => entry.1 != names) ++ [(names, item)]⟩

def write (tree : FileTree) (path : String) (item : FileItem) : FileTree :=
  let names := Path.names path
  match item with
  | .directory => (tree.walkMaking (startOf path) names).1
  | item =>
    match tree.walkMaking (startOf path) names.dropLast, names.getLast? with
    | (tree, some (.inside parent)), some name => tree.putFile (parent ++ [name]) item
    | (tree, _), _ => tree

def remove (tree : FileTree) (path : String) : FileTree :=
  match tree.walk? (startOf path) (Path.names path) with
  | some (.inside names) =>
    ⟨tree.entries.filter fun entry => entry.1.take names.length != names⟩
  | _ => tree

def childNames (tree : FileTree) (names : List String) : List (String × FileItem) :=
  tree.entries.filterMap fun (key, item) =>
    match key.getLast? with
    | some name => if key = names ++ [name] then some (name, item) else none
    | none => none

end FileTree
end FluxonAssist
