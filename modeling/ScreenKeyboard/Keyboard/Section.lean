import ScreenKeyboard.Keyboard.Key
import ScreenKeyboard.Modifier.Basic

namespace ScreenKeyboard

/-- A group of keys with modifiers of its own, which only serve to show its num-lock level. -/
structure Section where
  name : String
  angle : Int32 := 0
  keys : List Key := []
  modifiers : Mask := .empty
  /-- The section shows its num-lock level, whatever the keyboard's level. -/
  numLocked : Bool := false
  deriving DecidableEq, Repr

namespace Section

def numLockLevel : Nat :=
  1

def level? (s : Section) : Option Nat :=
  if s.numLocked then some numLockLevel else none

/-- Takes over new modifiers, and shows the num-lock level when one of them asks for it. -/
def withModifiers (s : Section) (modifiers numLockMask : Mask) : Section :=
  { s with modifiers, numLocked := modifiers.intersects numLockMask }

def press (s : Section) (m : Mask) (behavior : Behavior) (numLockMask : Mask) : Section :=
  match behavior with
  | .none => s.withModifiers (s.modifiers ||| m) numLockMask
  | .lock | .latch => s

def release (s : Section) (m : Mask) (behavior : Behavior) (numLockMask : Mask) : Section :=
  match behavior with
  | .none => s.withModifiers (s.modifiers &&& ~~~m) numLockMask
  | .lock => s.withModifiers (s.modifiers ^^^ m) numLockMask
  | .latch => s.withModifiers ((s.modifiers ^^^ m) &&& m) numLockMask

def reset (s : Section) : Section :=
  { s with modifiers := .empty, numLocked := false }

end Section

end ScreenKeyboard
