import ScreenKeyboard.Keyboard.Transition

namespace ScreenKeyboard

namespace Keyboard

/-- Presses a key. Pressing a key again makes it the latest one. A key without a symbol is pressed
and nothing else happens. -/
def press (k : Keyboard) (id : KeyId) (timestamp : UInt32) : Outcome :=
  if (k.key? id).isNone then ⟨k, []⟩
  else
    let k := { k.setPressedFlag id true with pressed := id :: k.pressed.erase id }
    match k.resolve id with
    | none => ⟨k, []⟩
    | some symbol =>
      let m := symbol.modifiers
      let k := k.updateSection id.sectionIndex fun s => s.press m k.behavior k.numLockMask
      let changed :=
        match k.behavior with
        | .none =>
          (k.changeModifiers id (k.modifiers ||| m)).andThen fun k => k.refreshLevel (k.isToggle id)
        | .lock | .latch => ⟨k, []⟩
      changed.andThen fun k => k.report id symbol .pressed timestamp

def modifiersAfterRelease (modifiers m : Mask) : Behavior → Mask
  | .none => modifiers &&& ~~~m
  | .lock => modifiers ^^^ m
  | .latch => if m.isEmpty then .empty else modifiers ^^^ m

/-- Releases a key; one that is not pressed is left alone. -/
def release (k : Keyboard) (id : KeyId) (timestamp : UInt32) : Outcome :=
  if id ∉ k.pressed then ⟨k, []⟩
  else
    let k := { k.setPressedFlag id false with pressed := k.pressed.erase id }
    match k.resolve id with
    | none => ⟨k, []⟩
    | some symbol =>
      let m := symbol.modifiers
      let k := k.updateSection id.sectionIndex fun s => s.release m k.behavior k.numLockMask
      ((k.changeModifiers id (modifiersAfterRelease k.modifiers m k.behavior)).andThen fun k =>
        k.refreshLevel (k.isToggle id)).andThen fun k =>
          k.report id symbol .released timestamp

/-- Releases every pressed key, the latest first. -/
def releaseAll (k : Keyboard) (timestamp : UInt32) : Outcome :=
  Outcome.chain k k.pressed fun k id => k.release id timestamp

def setModifiers (k : Keyboard) (modifiers : Mask) : Outcome :=
  (k.unlock (k.modifiers &&& ~~~modifiers)).andThen fun k =>
    { k with modifiers }.refreshLevel false

def setGroup (k : Keyboard) (group : Nat) : Outcome :=
  if k.group = group then ⟨k, []⟩ else ⟨{ k with group }, [.shown group k.level]⟩

/-- Drops all modifiers, and goes back to the first level. Pressed keys stay pressed. -/
def reset (k : Keyboard) : Outcome :=
  (k.clear k.modifiers).andThen fun k =>
    { k with sections := k.sections.map Section.reset, behavior := .none }.showLevel .lettersLower

inductive Operation
  | press (id : KeyId) (timestamp : UInt32)
  | release (id : KeyId) (timestamp : UInt32)
  | releaseAll (timestamp : UInt32)
  | setModifiers (modifiers : Mask)
  | setLevel (level : Level)
  | setGroup (group : Nat)
  | setBehavior (behavior : Behavior)
  | setNumLockMask (mask : Mask)
  | setAltGrMask (mask : Mask)
  | reset
  deriving DecidableEq, Repr

def step (k : Keyboard) : Operation → Outcome
  | .press id t => k.press id t
  | .release id t => k.release id t
  | .releaseAll t => k.releaseAll t
  | .setModifiers m => k.setModifiers m
  | .setLevel level => k.showLevel level
  | .setGroup group => k.setGroup group
  | .setBehavior behavior => ⟨{ k with behavior }, []⟩
  | .setNumLockMask mask => ⟨{ k with numLockMask := mask }, []⟩
  | .setAltGrMask mask => ⟨{ k with altGrMask := mask }, []⟩
  | .reset => k.reset

def run (k : Keyboard) (operations : List Operation) : Outcome :=
  Outcome.chain k operations step

end Keyboard

end ScreenKeyboard
