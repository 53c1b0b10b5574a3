import ScreenKeyboard.Document.Config
import ScreenKeyboard.Files.Basic

namespace ScreenKeyboard

structure Environment where
  home : Option String := none
  /-- The directory of the user's configs, if it is a place of its own. -/
  configHome : Option String := none
  deriving DecidableEq, Repr

inductive ConfigError
  | unreadable (fault : FileFault) (path : String)
  | unsuitable (error : DocumentError) (path : String)
  | noDirectory
  deriving Repr

namespace ConfigError

def hasCause : ConfigError → Bool
  | unreadable _ _ | unsuitable _ _ => true
  | noDirectory => false

def message (describe : DocumentError → String) : ConfigError → String
  | unreadable fault path => "Failed to read config file '" ++ path ++ "': " ++ fault.message
  | unsuitable error path => "Failed to parse config file '" ++ path ++ "': " ++ describe error
  | noDirectory => "Failed to determine config directory"

end ConfigError

namespace Config

def directoryName : String :=
  "io.github.softkey.Softkey"

def fileName : String :=
  "config.json"

/-- The directory of a user's configs. A relative path does not count as a place of their own, nor
an empty one as the user's directory. -/
def home? (environment : Environment) : Option String :=
  match environment.configHome.filter Path.isAbsolute with
  | some path => some path
  | none =>
    (environment.home.filter fun path => !path.isEmpty).map fun path => Path.join path ".config"

def directory (environment : Environment) : Except ConfigError String :=
  match home? environment with
  | some path => .ok (Path.join path directoryName)
  | none => .error .noDirectory

def file (environment : Environment) : Except ConfigError String :=
  (directory environment).map fun path => Path.join path fileName

variable {m : Type → Type} [Monad m]

def load (files : Files m) (path : String) : m (Except ConfigError Config) := do
  match ← files.readText path with
  | .error fault => return .error (.unreadable fault path)
  | .ok text => return (ofText text).mapError (.unsuitable · path)

def loadOrStandard (files : Files m) (path : String) : m (Except ConfigError Config) := do
  if ← files.isPresent path then load files path else return .ok standard

end Config

end ScreenKeyboard
