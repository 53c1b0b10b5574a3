import ScreenKeyboard.CommandLine.Options
import ScreenKeyboard.Config.Loading
import ScreenKeyboard.Document.Event
import ScreenKeyboard.Layout.Build
import ScreenKeyboard.Layout.Loading
import ScreenKeyboard.Script.Parser
import ScreenKeyboard.Script.Replay

namespace ScreenKeyboard

structure Host (m : Type → Type) where
  files : Files m
  input : m (Except FileFault String)
  environment : Environment

inductive Failure
  | usage (error : UsageError)
  | config (error : ConfigError)
  | layout (error : LoadError)
  | unreadableScript (fault : FileFault)
  | script (error : ScriptError)

namespace Failure

def exitCode : Failure → Nat
  | usage _ => 2
  | layout (.refusedKeysym _) => 101
  | config _ | layout _ | unreadableScript _ | script _ => 1

def message (describe : DocumentError → String) : Failure → String
  | usage error => error.message
  | config error => error.message describe
  | layout error => error.message describe
  | unreadableScript fault => fault.message
  | script error => error.message

end Failure

namespace Program

def name : String :=
  "softkey"

def version : String :=
  "0.1.0"

def help : List String :=
  ["Replay input scripts against an on-screen keyboard layout",
    "",
    "Usage: softkey [OPTIONS] [SCRIPT]",
    "",
    "Arguments:",
    "  [SCRIPT]  Script to replay, `-` for stdin",
    "",
    "Options:",
    "  -c, --config <CONFIG>            Config file (defaults to the user config directory)",
    "  -l, --layout <LAYOUT>            Layout name, looked up in the layout directory then the built-in set",
    "      --layout-file <LAYOUT_FILE>  Layout description file, cannot be combined with --layout",
    "  -b, --behavior <BEHAVIOR>        Initial modifier behavior: none, lock or latch",
    "      --list-layouts               List available layouts and exit",
    "  -h, --help                       Print help",
    "  -V, --version                    Print version"]

variable {m : Type → Type} [Monad m]

def config (host : Host m) (o : Options) : m (Except ConfigError Config) :=
  match o.config with
  | some path => Config.load host.files path
  | none =>
    match Config.file host.environment with
    | .ok path => Config.loadOrStandard host.files path
    | .error _ => return .ok .standard

def layoutNames (host : Host m) (config : Config) : m (List String) := do
  let inDirectory ←
    match config.layoutDirectory with
    | some path => (LayoutSource.directory path).available host.files
    | none => pure []
  return LayoutSource.sortNames (BuiltIn.names ++ inDirectory).eraseDups

def namedLayout (host : Host m) (o : Options) (config : Config) :
    m (Except LoadError LoadedLayout) :=
  LayoutSource.loadBest host.files (o.layout.getD config.layout) config.layoutDirectory

def layout (host : Host m) (o : Options) (config : Config) :
    m (Except LoadError LoadedLayout) := do
  match o.layoutFile with
  | none => namedLayout host o config
  | some path =>
    match ← Layout.loadFile host.files path with
    | .ok loaded => return .ok loaded
    | .error (.refusedKeysym keysym) => return .error (.refusedKeysym keysym)
    | .error _ => namedLayout host o config

def script (host : Host m) (o : Options) : m (Except FileFault String) :=
  match o.script with
  | none | some "-" => host.input
  | some path => host.files.readText path

def keyboard (o : Options) (config : Config) (layout : Layout) : Keyboard :=
  let k := config.apply (Keyboard.ofLayout layout)
  { k with behavior := o.behavior.getD k.behavior }

def line (event : Event) : String :=
  event.toJson.toText

/-- Loads a layout, replays the script, and gives the lines to print. -/
def replay (host : Host m) (o : Options) (config : Config) : m (Except Failure (List String)) := do
  match ← layout host o config with
  | .error error => return .error (.layout error)
  | .ok loaded =>
    match ← script host o with
    | .error fault => return .error (.unreadableScript fault)
    | .ok text =>
      match Script.parse text with
      | .error error => return .error (.script error)
      | .ok steps =>
        return .ok ((Replay.run 0 (keyboard o config loaded.layout) steps).events.map line)

def work (host : Host m) (o : Options) : m (Except Failure (List String)) := do
  match ← config host o with
  | .error error => return .error (.config error)
  | .ok config =>
    if o.listLayouts then return .ok (← layoutNames host config) else replay host o config

def run (host : Host m) (arguments : List String) : m (Except Failure (List String)) :=
  match Options.ofArguments arguments with
  | .error error => return .error (.usage error)
  | .ok .help => return .ok help
  | .ok .version => return .ok [name ++ " " ++ version]
  | .ok (.work o) => work host o

end Program

end ScreenKeyboard
