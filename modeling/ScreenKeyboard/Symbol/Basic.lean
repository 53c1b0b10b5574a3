import ScreenKeyboard.Modifier.Basic

namespace ScreenKeyboard

inductive Category
  | letter
  | function
  /-- Anything else that is known by its name. -/
  | keyName
  | user0 | user1 | user2 | user3 | user4
  | unknown
  deriving DecidableEq, Repr, Inhabited

namespace Category

def all : List Category :=
  [letter, function, keyName, user0, user1, user2, user3, user4, unknown]

def name : Category → String
  | letter => "letter"
  | function => "function"
  | keyName => "keyname"
  | user0 => "user0"
  | user1 => "user1"
  | user2 => "user2"
  | user3 => "user3"
  | user4 => "user4"
  | unknown => "unknown"

def name? (c : Category) : Option String :=
  if c = unknown then none else some c.name

/-- The category with this name, and `unknown` if there is none. -/
def ofName (name : String) : Category :=
  (all.find? fun c => c.name? == some name).getD unknown

end Category

/-- The number of a symbol in the window system's table. -/
abbrev Keysym := UInt32

structure Symbol where
  name : String
  label : Option String := none
  icon : Option String := none
  tooltip : Option String := none
  category : Category := .unknown
  modifiers : Mask := .empty
  keysym : Option Keysym := none
  deriving DecidableEq, Repr

namespace Symbol

def isModifier (s : Symbol) : Bool :=
  !s.modifiers.isEmpty

def displayLabel (s : Symbol) : String :=
  s.label.getD s.name

end Symbol

end ScreenKeyboard
