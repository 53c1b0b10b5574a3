namespace ScreenKeyboard

inductive FileFault
  | notFound
  | isDirectory
  | notDirectory
  | notText
  | longName
  | brokenPath
  | other (message : String)
  deriving DecidableEq, Repr

def FileFault.message : FileFault → String
  | notFound => "No such file or directory (os error 2)"
  | isDirectory => "Is a directory (os error 21)"
  | notDirectory => "Not a directory (os error 20)"
  | notText => "stream did not contain valid UTF-8"
  | longName => "File name too long (os error 36)"
  | brokenPath => "file name contained an unexpected NUL byte"
  | other message => message

/-- A file system, asked by paths. The answers come in a monad, so that a program runs on a disk and
on a tree in memory. -/
structure Files (m : Type → Type) where
  readText : String → m (Except FileFault String)
  isPresent : String → m Bool
  isFile : String → m Bool
  /-- The names in a directory, in any order; none if it cannot be listed. -/
  list : String → m (List String)

namespace Path

def isAbsolute (path : String) : Bool :=
  path.toList.head? == some '/'

/-- The path of something in a directory; an absolute path stays as it is. -/
def join (directory path : String) : String :=
  if isAbsolute path ∨ directory.isEmpty then path
  else if directory.toList.getLast? = some '/' then directory ++ path
  else directory ++ "/" ++ path

/-- The file name before its last dot, and the extension after it; a dot at the start is no such
dot. -/
def splitExtension (name : String) : String × Option String :=
  let backwards := name.toList.reverse
  let extension := backwards.takeWhile (· != '.')
  match backwards.dropWhile (· != '.') with
  | '.' :: stem =>
    if stem.isEmpty ∨ name = ".." then (name, none)
    else (String.ofList stem.reverse, some (String.ofList extension.reverse))
  | _ => (name, none)

end Path

end ScreenKeyboard
