import ScreenKeyboard.Keyboard.Level
import ScreenKeyboard.Modifier.Basic
import ScreenKeyboard.Modifier.Expression

namespace ScreenKeyboard

inductive KeyAction
  | press | release | tap
  deriving DecidableEq, Repr

namespace KeyAction

def all : List KeyAction :=
  [press, release, tap]

def name : KeyAction → String
  | press => "press"
  | release => "release"
  | tap => "tap"

def ofName? (name : String) : Option KeyAction :=
  all.find? fun action => action.name == name

end KeyAction

/-- A command of a script; times that are left out follow from the clock. -/
inductive Command
  | key (action : KeyAction) (name : String) (time : Option UInt32)
  | releaseAll (time : Option UInt32)
  | behavior (behavior : Behavior)
  | modifiers (modifiers : Mask)
  | level (level : Level)
  | group (group : Nat)
  | reset
  deriving DecidableEq, Repr

def Command.name : Command → String
  | key action _ _ => action.name
  | releaseAll _ => "release-all"
  | behavior _ => "behavior"
  | modifiers _ => "modifiers"
  | level _ => "level"
  | group _ => "group"
  | reset => "reset"

structure Step where
  line : Nat
  command : Command
  deriving DecidableEq, Repr

end ScreenKeyboard
