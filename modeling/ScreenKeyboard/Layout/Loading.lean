import ScreenKeyboard.Document.Layout
import ScreenKeyboard.Layout.BuiltIn
import ScreenKeyboard.Layout.Error
import ScreenKeyboard.Layout.Validation

namespace ScreenKeyboard

structure LoadedLayout where
  layout : Layout
  warnings : List Issue := []
  deriving Repr

namespace LoadedLayout

def hasWarnings (l : LoadedLayout) : Bool :=
  !l.warnings.isEmpty

def warningCount (l : LoadedLayout) : Nat :=
  l.warnings.length

end LoadedLayout

namespace Layout

/-- Turns down a layout without sections, and sorts the findings about any other. -/
def validate (layout : Layout) : Except LoadError LoadedLayout :=
  if layout.sections.isEmpty then
    .error (.invalid [Finding.noSections.issue .error Place.sections.path] none)
  else
    match layout.slots.findSome? fun (_, slot) => slot.refusedKeysym? with
    | some keysym => .error (.refusedKeysym keysym)
    | none => .ok { layout, warnings := Issue.sort layout.warnings }

def load (text : String) : Except LoadError LoadedLayout :=
  match ofText text with
  | .ok layout => layout.validate
  | .error error => .error (.unsuitable error none)

def fileExtension : String :=
  "json"

def fileName (name : String) : String :=
  name ++ "." ++ fileExtension

variable {m : Type → Type} [Monad m]

def loadFile (files : Files m) (path : String) : m (Except LoadError LoadedLayout) := do
  match ← files.readText path with
  | .error fault => return .error (.unreadable fault (some path))
  | .ok text => return (load text).mapError (LoadError.withPath path)

end Layout

inductive LayoutSource
  | directory (path : String)
  | builtIn
  deriving DecidableEq, Repr

namespace LayoutSource

variable {m : Type → Type} [Monad m]

def layoutName? (fileName : String) : Option String :=
  match Path.splitExtension fileName with
  | (stem, some ext) => if ext = Layout.fileExtension then some stem else none
  | (_, none) => none

def sortNames (names : List String) : List String :=
  names.mergeSort fun a b => decide (a ≤ b)

def available (files : Files m) : LayoutSource → m (List String)
  | directory path => do return sortNames ((← files.list path).filterMap layoutName?)
  | builtIn => return BuiltIn.names

def load (files : Files m) (source : LayoutSource) (name : String) :
    m (Except LoadError LoadedLayout) := do
  match source with
  | directory path =>
    let file := Path.join path (Layout.fileName name)
    if ← files.isFile file then Layout.loadFile files file
    else return .error (.unknown name (← source.available files))
  | builtIn =>
    match BuiltIn.text? name with
    | some text => return (Layout.load text).mapError (LoadError.withPath ("builtin:" ++ name))
    | none => return .error (.unknown name BuiltIn.names)

def named (name : String) (directory? : Option String) : List (String × LayoutSource) :=
  match directory? with
  | some path => [(name, directory path), (name, builtIn)]
  | none => [(name, builtIn)]

/-- Where a layout may come from: first under its own name, then under that of the built-in one. -/
def candidates (name : String) (directory? : Option String) : List (String × LayoutSource) :=
  named name directory? ++ if name = BuiltIn.name then [] else named BuiltIn.name directory?

/-- The first layout that loads, or else the error of the last source. -/
def loadFirst (files : Files m) (error : LoadError) :
    List (String × LayoutSource) → m (Except LoadError LoadedLayout)
  | [] => return .error error
  | (name, source) :: rest => do
    match ← source.load files name with
    | .ok loaded => return .ok loaded
    | .error (.refusedKeysym keysym) => return .error (.refusedKeysym keysym)
    | .error error => loadFirst files error rest

def loadBest (files : Files m) (name : String) (directory? : Option String) :
    m (Except LoadError LoadedLayout) :=
  loadFirst files (.unknown name []) (candidates name directory?)

end LayoutSource

end ScreenKeyboard
