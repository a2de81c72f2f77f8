import Typeset.Path

/-!
# Files

What programs do with files, and why it fails. `FileAccess` is the two operations in any monad;
`FileSystem` is a tree of folders and files as a value, with the operations of `FileAccess` on it.

On a `FileSystem` an operation fails for what stands at a path or on the way to it, and for nothing
else. Everybody may read and write, there is room for every text, every name can be one of a file,
and a text is written as a whole or not at all. What a machine may object to beyond that is
`FileError.other`, which occurs with the files of the machine only.
-/

namespace Typeset

/-- Why a file cannot be read or written. -/
inductive FileError where
  | notFound
  | notDirectory
  | isDirectory
  | notText
  /-- What only a machine objects to: a missing permission, a full disk, a name that it cannot have. -/
  | other (message : String)
  deriving DecidableEq, Repr

/-- The words for a failure. -/
def FileError.message : FileError → String
  | notFound => "No such file or directory (os error 2)"
  | notDirectory => "Not a directory (os error 20)"
  | isDirectory => "Is a directory (os error 21)"
  | notText => "stream did not contain valid UTF-8"
  | other message => message

/-- Reading and writing text files by their paths. -/
structure FileAccess (m : Type → Type) where
  read : String → m (Except FileError String)
  write : String → String → m (Except FileError Unit)

/-- What is found at a place in a file system. -/
inductive FileNode where
  | file (bytes : ByteArray)
  | folder

/-- Whether a folder is found. -/
def FileNode.isFolder : FileNode → Bool
  | file _ => false
  | folder => true

/-- Folders and files by their names from the root on, and the folder that relative paths start
from. -/
structure FileSystem where
  nodes : List (List String × FileNode)
  home : List String

namespace FileSystem

/-- What is found at a place. The root is a folder. -/
def node? (files : FileSystem) (place : List String) : Option FileNode :=
  if place.isEmpty then some .folder else files.nodes.lookup place

/-- Puts a file or folder at a place. -/
def put (files : FileSystem) (place : List String) (node : FileNode) : FileSystem :=
  { files with nodes := (place, node) :: files.nodes }

/-- Makes a folder of a place at which nothing stands. -/
def makeFolder (files : FileSystem) (place : List String) : FileSystem :=
  if (files.node? place).isSome then files else files.put place .folder

/-- Follows names from a place on, and makes a folder wherever nothing stands. The place at which
they end comes with it. -/
def makeWay (files : FileSystem) (place : List String) :
    List String → FileSystem × List String
  | [] => (files, place)
  | name :: names =>
    if name = "." then files.makeWay place names
    else if name = ".." then files.makeWay place.dropLast names
    else (files.makeFolder (place ++ [name])).makeWay (place ++ [name]) names

/-- The file system that holds nothing but its home folder. -/
def blank (home : List String) : FileSystem :=
  (makeWay ⟨[], home⟩ [] home).1

/-- Puts a file or folder at a path below the home folder, and makes the folders above it. -/
def install (files : FileSystem) (path : String) (node : FileNode) : FileSystem :=
  let names := Path.names path
  match node with
  | .folder => (files.makeWay files.home names).1
  | .file bytes =>
    let (files, folder) := files.makeWay files.home names.dropLast
    files.put (folder ++ names.drop (names.length - 1)) (.file bytes)

/-- The place that a path leads to, from a folder on. Only its last name may be missing there. -/
def walk (files : FileSystem) (place : List String) : List String → Except FileError (List String)
  | [] => .ok place
  | name :: names =>
    match files.node? place with
    | none => .error .notFound
    | some (.file _) => .error .notDirectory
    | some .folder =>
      if name = "." then files.walk place names
      else if name = ".." then files.walk place.dropLast names
      else files.walk (place ++ [name]) names

/-- Whether a path says that it leads to a folder. -/
def asksFolder (path : String) : Bool :=
  path.toList.getLast? == some '/'

/-- The place that a path leads to. -/
def resolve (files : FileSystem) (path : String) : Except FileError (List String) :=
  if path.isEmpty then .error .notFound
  else files.walk (if Path.isAbsolute path then [] else files.home) (Path.names path)

/-- Reads a text file. -/
def read (files : FileSystem) (path : String) : Except FileError String := do
  let place ← files.resolve path
  match files.node? place with
  | none => .error .notFound
  | some .folder => .error .isDirectory
  | some (.file bytes) =>
    if asksFolder path then .error .notDirectory
    else
      match String.fromUTF8? bytes with
      | some text => .ok text
      | none => .error .notText

/-- Writes a text file, in place of one that stands there. -/
def write (files : FileSystem) (path text : String) : Except FileError FileSystem := do
  let place ← files.resolve path
  if asksFolder path || (files.node? place).any FileNode.isFolder then .error .isDirectory
  else .ok (files.put place (.file text.toUTF8))

/-- The operations on a file system that is passed along. -/
def access : FileAccess (StateM FileSystem) where
  read path := do
    return (← get).read path
  write path text := do
    match (← get).write path text with
    | .error error => return .error error
    | .ok files =>
      set files
      return .ok ()

end FileSystem

end Typeset
