import ScreenKeyboard.Keyboard.Key
import ScreenKeyboard.Layout.Basic
import ScreenKeyboard.Text.Basic

namespace ScreenKeyboard

inductive Severity
  | error | warning
  deriving DecidableEq, Repr

structure Issue where
  severity : Severity
  message : String
  path : String
  suggestion : Option String
  deriving DecidableEq, Repr

namespace Issue

def tag : Severity → String
  | .error => "ERROR"
  | .warning => "WARNING"

def text (i : Issue) : String :=
  let hint :=
    match i.suggestion with
    | some s => "\n  Suggestion: " ++ s
    | none => ""
  "[" ++ tag i.severity ++ "] " ++ i.path ++ ": " ++ i.message ++ hint

def precedes (a b : Issue) : Bool :=
  match a.severity, b.severity with
  | .error, .warning => true
  | .warning, .error => false
  | _, _ => a.path ≤ b.path

/-- The issues in order; those with the same path stay as they were. -/
def sort (issues : List Issue) : List Issue :=
  issues.mergeSort precedes

end Issue

inductive Finding
  | noSections
  | unnamedLayout
  | unnamedSection
  | sectionWithoutKeys (name : String)
  | unnamedKey
  | repeatedKeyName (name : String)
  | noToggleKey
  | unknownOutline (outline : UInt32) (count : Nat)
  | unknownKeysym (keysym : String)
  | unnamedSymbol
  deriving DecidableEq, Repr

inductive Place
  | layoutName
  | sections
  | sectionName (sectionIndex : Nat)
  | sectionKeys (sectionIndex : Nat)
  | keyName (id : KeyId)
  | keyOutline (id : KeyId)
  | slot (id : KeyId) (group level : Nat)
  deriving DecidableEq, Repr

namespace Finding

def message : Finding → String
  | noSections => "Layout has no sections"
  | unnamedLayout => "Layout name is empty"
  | unnamedSection => "Section name is empty"
  | sectionWithoutKeys name => "Section '" ++ name ++ "' has no keys"
  | unnamedKey => "Key name is empty"
  | repeatedKeyName name => "Duplicate key name '" ++ name ++ "'"
  | noToggleKey => "No level toggle key"
  | unknownOutline outline count =>
    "Outline " ++ Text.decimal outline.toNat ++ " does not exist (layout has " ++
      Text.decimal count ++ ")"
  | unknownKeysym keysym => "Unknown keysym '" ++ keysym ++ "'"
  | unnamedSymbol => "Symbol name is empty"

def suggestion : Finding → Option String
  | noSections => some "Add at least one section with keys"
  | unnamedLayout => some "Provide a descriptive name for the layout"
  | unnamedSection => none
  | sectionWithoutKeys _ => none
  | unnamedKey => some "Name every key so it can be found by name"
  | repeatedKeyName _ => some "Lookups by name resolve to the last key with this name"
  | noToggleKey => some ("Add a key named '" ++ toggleKeyName ++ "' to reach the numbers level")
  | unknownOutline _ _ => none
  | unknownKeysym _ => some "Use an XKB keysym name or a U+XXXX codepoint"
  | unnamedSymbol => none

def issue (f : Finding) (severity : Severity) (path : String) : Issue :=
  ⟨severity, f.message, path, f.suggestion⟩

end Finding

namespace Place

def indexed (name : String) (i : Nat) : String :=
  name ++ "[" ++ Text.decimal i ++ "]"

def keyPath (id : KeyId) : String :=
  indexed "sections" id.sectionIndex ++ "." ++ indexed "keys" id.keyIndex

def path : Place → String
  | layoutName => "name"
  | sections => "sections"
  | sectionName i => indexed "sections" i ++ ".name"
  | sectionKeys i => indexed "sections" i ++ ".keys"
  | keyName id => keyPath id ++ ".name"
  | keyOutline id => keyPath id ++ ".oref"
  | slot id group level =>
    indexed (indexed (keyPath id ++ ".groups") group) level

end Place

end ScreenKeyboard
