import ScreenKeyboard.CommandLine.Program

namespace ScreenKeyboard.Machine

/-- The system's number for an error, which comes with either sign. -/
def errorNumber (code : UInt32) : Nat :=
  code.toInt32.toInt.natAbs

def faultOf : IO.Error → FileFault
  | .noFileOrDirectory .. => .notFound
  | .inappropriateType _ code _ => if errorNumber code = 20 then .notDirectory else .isDirectory
  | .invalidArgument _ code message =>
    if errorNumber code = 36 then .longName else .other message
  | error => .other (toString error)

def decode (bytes : ByteArray) : Except FileFault String :=
  match String.fromUTF8? bytes with
  | some text => .ok text
  | none => .error .notText

def readText (path : String) : IO (Except FileFault String) := do
  match ← (IO.FS.readBinFile path).toBaseIO with
  | .ok bytes => return decode bytes
  | .error error => return .error (faultOf error)

def entry (path : String) : IO.FS.DirEntry :=
  { root := path, fileName := "." }

def isFile (path : String) : IO Bool := do
  match ← (entry path).root.metadata.toBaseIO with
  | .ok metadata => return metadata.type == .file
  | .error _ => return false

def list (path : String) : IO (List String) := do
  match ← (entry path).root.readDir.toBaseIO with
  | .ok entries => return entries.toList.map (·.fileName)
  | .error _ => return []

def files : Files IO where
  readText := readText
  isPresent path := (entry path).root.pathExists
  isFile := isFile
  list := list

partial def readAll (stream : IO.FS.Stream) (before : ByteArray) : IO ByteArray := do
  let bytes ← stream.read 65536
  if bytes.isEmpty then return before else readAll stream (before ++ bytes)

def environment : IO Environment := do
  return {
    home := ← IO.getEnv "HOME"
    configHome := ← IO.getEnv "XDG_CONFIG_HOME" }

def host : IO (Host IO) := do
  return {
    files
    input := return decode (← readAll (← IO.getStdin) .empty)
    environment := ← environment }

end ScreenKeyboard.Machine

open ScreenKeyboard in
def main (arguments : List String) : IO UInt32 := do
  match ← Program.run (← Machine.host) arguments with
  | .ok lines =>
    for line in lines do IO.println line
    return 0
  | .error failure =>
    IO.eprintln (Program.name ++ ": " ++ failure.message DocumentError.message)
    return UInt32.ofNat failure.exitCode
