import ScreenKeyboard.Files.Basic

namespace ScreenKeyboard

inductive FileEntry
  | directory
  | file (content : ByteArray)

structure FileTree where
  /-- The names on the way from the root to the directory where relative paths start. -/
  start : List String := []
  /-- What is where; the root is a directory without an entry. -/
  entries : List (List String × FileEntry) := []

namespace Path

def names (path : String) : List String :=
  (path.toList.splitOn '/').map String.ofList

def nameLimit : Nat :=
  255

def limit : Nat :=
  4095

end Path

namespace FileTree

def entry? (tree : FileTree) (way : List String) : Option FileEntry :=
  if way.isEmpty then some .directory else tree.entries.lookup way

/-- Follows names from a place in the tree, to another place where something is. -/
def follow (tree : FileTree) (way : List String) :
    List String → Except FileFault (List String × FileEntry)
  | [] =>
    match tree.entry? way with
    | some entry => .ok (way, entry)
    | none => .error .notFound
  | name :: rest =>
    match tree.entry? way with
    | none => .error .notFound
    | some (.file _) => .error .notDirectory
    | some .directory =>
      if name.isEmpty ∨ name = "." then tree.follow way rest
      else if name = ".." then tree.follow way.dropLast rest
      else if Path.nameLimit < name.utf8ByteSize then .error .longName
      else tree.follow (way ++ [name]) rest

def find (tree : FileTree) (path : String) : Except FileFault (List String × FileEntry) :=
  if path.toList.contains '\x00' then .error .brokenPath
  else if path.isEmpty then .error .notFound
  else if Path.limit < path.utf8ByteSize then .error .longName
  else tree.follow (if Path.isAbsolute path then [] else tree.start) (Path.names path)

/-- Puts an entry at the end of a way, and directories where the way leads through nothing. -/
def insert (tree : FileTree) (way : List String) (entry : FileEntry) : FileTree :=
  let passed := (List.range way.length).map way.take
  let missing := passed.filter fun part => (tree.entry? part).isNone
  { tree with entries := (way, entry) :: missing.map (·, .directory) ++ tree.entries }

def readText (tree : FileTree) (path : String) : Except FileFault String :=
  match tree.find path with
  | .error fault => .error fault
  | .ok (_, .directory) => .error .isDirectory
  | .ok (_, .file content) =>
    match String.fromUTF8? content with
    | some text => .ok text
    | none => .error .notText

def isFile (tree : FileTree) (path : String) : Bool :=
  match tree.find path with
  | .ok (_, .file _) => true
  | _ => false

def namesUnder (tree : FileTree) (way : List String) : List String :=
  (tree.entries.filterMap fun (other, _) =>
    if other.dropLast = way then other.getLast? else none).eraseDups

def list (tree : FileTree) (path : String) : List String :=
  match tree.find path with
  | .ok (way, .directory) => tree.namesUnder way
  | _ => []

def files (tree : FileTree) : Files Id where
  readText path := tree.readText path
  isPresent path := (tree.find path).isOk
  isFile path := tree.isFile path
  list path := tree.list path

end FileTree

end ScreenKeyboard
