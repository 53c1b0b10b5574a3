import ScreenKeyboard.Keyboard.Input

namespace ScreenKeyboard

/-- What is known of the mouse button and the touch screen, where only the touch sequence that began
last is followed. -/
structure Pointer where
  buttonHeld : Bool := false
  sequence : Option Nat := none
  deriving DecidableEq, Repr, Inhabited

inductive Gesture
  | buttonPress (key : Option KeyId) (timestamp : UInt32)
  | motion (key : Option KeyId) (timestamp : UInt32)
  | buttonRelease (timestamp : UInt32)
  | touchBegin (sequence : Nat) (key : Option KeyId) (timestamp : UInt32)
  | touchUpdate (sequence : Nat) (key : Option KeyId) (timestamp : UInt32)
  | touchEnd (sequence : Nat) (timestamp : UInt32)
  | touchCancel (sequence : Nat) (timestamp : UInt32)
  deriving DecidableEq, Repr

namespace Keyboard

def pressAny (k : Keyboard) (key : Option KeyId) (timestamp : UInt32) : Outcome :=
  match key with
  | some id => k.press id timestamp
  | none => ⟨k, []⟩

/-- Moves the press onto a key, or off all keys; a key that is pressed already stays so. -/
def drag (k : Keyboard) (key : Option KeyId) (timestamp : UInt32) : Outcome :=
  if key.any fun id => k.pressed.contains id then ⟨k, []⟩
  else (k.releaseAll timestamp).andThen fun k => k.pressAny key timestamp

end Keyboard

namespace Pointer

/-- Ends the touch sequence that is followed, and lets go of all keys; any other is ignored. -/
def endTouch (p : Pointer) (k : Keyboard) (sequence : Nat) (timestamp : UInt32) :
    Pointer × Outcome :=
  if p.sequence = some sequence then ({ p with sequence := none }, k.releaseAll timestamp)
  else (p, ⟨k, []⟩)

def handle (p : Pointer) (k : Keyboard) : Gesture → Pointer × Outcome
  | .buttonPress key t => ({ p with buttonHeld := true }, k.pressAny key t)
  | .motion key t => (p, if p.buttonHeld then k.drag key t else ⟨k, []⟩)
  | .buttonRelease t => ({ p with buttonHeld := false }, k.releaseAll t)
  | .touchBegin sequence key t =>
    ({ p with sequence := some sequence },
      (k.releaseAll t).andThen fun k => k.pressAny key t)
  | .touchUpdate sequence key t =>
    (p, if p.sequence = some sequence then k.drag key t else ⟨k, []⟩)
  | .touchEnd sequence t => p.endTouch k sequence t
  | .touchCancel sequence t => p.endTouch k sequence t

end Pointer

end ScreenKeyboard
