import ScreenKeyboard.Modifier.Basic

namespace ScreenKeyboard

inductive Setting
  | config | layout | layoutFile | behavior
  deriving DecidableEq, Repr

namespace Setting

def all : List Setting :=
  [config, layout, layoutFile, behavior]

def name : Setting → String
  | config => "config"
  | layout => "layout"
  | layoutFile => "layout-file"
  | behavior => "behavior"

def letter? : Setting → Option Char
  | config => some 'c'
  | layout => some 'l'
  | layoutFile => none
  | behavior => some 'b'

end Setting

inductive Switch
  | listLayouts | help | version
  deriving DecidableEq, Repr

namespace Switch

def all : List Switch :=
  [listLayouts, help, version]

def name : Switch → String
  | listLayouts => "list-layouts"
  | help => "help"
  | version => "version"

def letter? : Switch → Option Char
  | listLayouts => none
  | help => some 'h'
  | version => some 'V'

end Switch

inductive UsageError
  | unknownOption (option : String)
  | missingValue (option : String)
  | unexpectedValue (option value : String)
  | invalidValue (option value : String)
  | repeatedOption (option : String)
  | conflictingOptions (option other : String)
  | unexpectedArgument (argument : String)
  deriving DecidableEq, Repr

def UsageError.message : UsageError → String
  | unknownOption option => "unknown option '" ++ option ++ "'"
  | missingValue option => "'" ++ option ++ "' needs a value"
  | unexpectedValue option value => "'" ++ option ++ "' takes no value, but has '" ++ value ++ "'"
  | invalidValue option value => "invalid value '" ++ value ++ "' for '" ++ option ++ "'"
  | repeatedOption option => "'" ++ option ++ "' can be given only once"
  | conflictingOptions option other =>
    "'" ++ option ++ "' cannot be combined with '" ++ other ++ "'"
  | unexpectedArgument argument => "unexpected argument '" ++ argument ++ "'"

structure Options where
  script : Option String := none
  config : Option String := none
  layout : Option String := none
  layoutFile : Option String := none
  behavior : Option Behavior := none
  listLayouts : Bool := false
  deriving DecidableEq, Repr

inductive Request
  | work (options : Options)
  | help
  | version
  deriving DecidableEq, Repr

inductive Argument
  | plain (text : String)
  | named (name : String) (value : Option String)
  | lettered (letter : Char) (rest : List Char)
  | separator
  deriving DecidableEq, Repr

/-- A single hyphen is plain. -/
def Argument.ofText (text : String) : Argument :=
  match text.toList with
  | ['-', '-'] => separator
  | '-' :: '-' :: option =>
    let name := String.ofList (option.takeWhile (· != '='))
    match option.dropWhile (· != '=') with
    | [] => named name none
    | _ :: value => named name (some (String.ofList value))
  | '-' :: letter :: rest => lettered letter rest
  | _ => plain text

namespace Options

/-- Fills a place for a value, which is filled once at most. -/
def fill {α : Type} (option : String) (place : Option α) (value : Except UsageError α) :
    Except UsageError (Option α) :=
  match place with
  | none => value.map some
  | some _ => .error (.repeatedOption option)

def path (option value : String) : Except UsageError String :=
  if value.isEmpty then .error (.missingValue option) else .ok value

def set (o : Options) (setting : Setting) (value : String) : Except UsageError Options :=
  let option := "--" ++ setting.name
  match setting with
  | .config => return { o with config := ← fill option o.config (path option value) }
  | .layout => return { o with layout := ← fill option o.layout (.ok value) }
  | .layoutFile => return { o with layoutFile := ← fill option o.layoutFile (path option value) }
  | .behavior =>
    let behavior :=
      match Behavior.parse? value with
      | some behavior => .ok behavior
      | none => .error (.invalidValue option value)
    return { o with behavior := ← fill option o.behavior behavior }

def add (o : Options) (text : String) : Except UsageError Options :=
  match o.script with
  | none => return { o with script := ← path "script" text }
  | some _ => .error (.unexpectedArgument text)

def checked (o : Options) : Except UsageError Request :=
  if o.layout.isSome ∧ o.layoutFile.isSome then
    .error (.conflictingOptions "--layout" "--layout-file")
  else .ok (.work o)

inductive Meaning
  | setting (setting : Setting)
  | switch (switch : Switch)

def named? (name : String) : Option Meaning :=
  match Setting.all.find? fun setting => setting.name == name with
  | some s => some (.setting s)
  | none => (Switch.all.find? fun switch => switch.name == name).map .switch

def lettered? (letter : Char) : Option Meaning :=
  match Setting.all.find? fun setting => setting.letter? == some letter with
  | some s => some (.setting s)
  | none => (Switch.all.find? fun switch => switch.letter? == some letter).map .switch

/-- Reads arguments from left to right. An option without its value waits for the next argument,
which must be plain. Asking for help or for the version ends the reading. -/
def read (o : Options) : Option Setting → List String → Except UsageError Request
  | none, [] => o.checked
  | some s, [] => .error (.missingValue ("--" ++ s.name))
  | some s, arg :: rest =>
    match Argument.ofText arg with
    | .plain text => do (← o.set s text).read none rest
    | _ => .error (.missingValue ("--" ++ s.name))
  | none, arg :: rest =>
    match Argument.ofText arg with
    | .plain text => do (← o.add text).read none rest
    | .separator => do (← rest.foldlM add o).checked
    | .named name value =>
      match named? name, value with
      | none, _ => .error (.unknownOption arg)
      | some (.setting s), none => o.read (some s) rest
      | some (.setting s), some value => do (← o.set s value).read none rest
      | some (.switch _), some value => .error (.unexpectedValue ("--" ++ name) value)
      | some (.switch .help), none => .ok .help
      | some (.switch .version), none => .ok .version
      | some (.switch .listLayouts), none =>
        if o.listLayouts then .error (.repeatedOption arg)
        else { o with listLayouts := true }.read none rest
    | .lettered letter after =>
      match lettered? letter, after with
      | none, _ => .error (.unknownOption arg)
      | some (.setting s), [] => o.read (some s) rest
      | some (.setting s), '=' :: value => do (← o.set s (String.ofList value)).read none rest
      | some (.setting s), value => do (← o.set s (String.ofList value)).read none rest
      | some (.switch .help), _ => .ok .help
      | some (.switch .version), _ => .ok .version
      | some (.switch .listLayouts), _ => .error (.unknownOption arg)

def ofArguments (arguments : List String) : Except UsageError Request :=
  ({} : Options).read none arguments

end Options

end ScreenKeyboard
