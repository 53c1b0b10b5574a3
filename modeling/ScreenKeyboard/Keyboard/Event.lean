import ScreenKeyboard.Keyboard.Key
import ScreenKeyboard.Keyboard.Level

namespace ScreenKeyboard

inductive KeyState
  | pressed | released
  deriving DecidableEq, Repr

def KeyState.name : KeyState → String
  | .pressed => "pressed"
  | .released => "released"

structure Activation where
  keycode : UInt32
  symbol : Symbol
  /-- The keyboard's modifiers after the event. -/
  modifiers : Mask
  state : KeyState
  timestamp : UInt32
  deriving DecidableEq, Repr

inductive Event
  | activated (activation : Activation)
  | locked (key : KeyId)
  | unlocked (key : KeyId)
  | shown (group : Nat) (level : Level)
  deriving DecidableEq, Repr

def Event.activation? : Event → Option Activation
  | .activated a => some a
  | _ => none

end ScreenKeyboard
