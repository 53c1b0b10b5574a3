import ScreenKeyboard.Keyboard.Basic

namespace ScreenKeyboard

structure Outcome where
  keyboard : Keyboard
  events : List Event := []

namespace Outcome

/-- Goes on from an outcome; the new events come after those before. -/
def andThen (o : Outcome) (f : Keyboard → Outcome) : Outcome :=
  let next := f o.keyboard
  ⟨next.keyboard, o.events ++ next.events⟩

@[simp] theorem keyboard_andThen (o : Outcome) (f : Keyboard → Outcome) :
    (o.andThen f).keyboard = (f o.keyboard).keyboard := rfl

@[simp] theorem events_andThen (o : Outcome) (f : Keyboard → Outcome) :
    (o.andThen f).events = o.events ++ (f o.keyboard).events := rfl

def chain {α : Type} (k : Keyboard) (items : List α) (f : Keyboard → α → Outcome) : Outcome :=
  items.foldl (fun o item => o.andThen fun k => f k item) ⟨k, []⟩

end Outcome

namespace Keyboard

/-- Locks a key for some modifiers. A key that is locked already only takes over the modifiers. -/
def lock (k : Keyboard) (id : KeyId) (modifiers : Mask) : Outcome :=
  if k.locks.any fun entry => entry.key == id then
    ⟨{ k with
        locks := k.locks.map fun entry =>
          if entry.key = id then { entry with modifiers := entry.modifiers ||| modifiers }
          else entry }, []⟩
  else
    ⟨{ k.setLockedFlag id true with locks := ⟨modifiers, id⟩ :: k.locks }, [.locked id]⟩

def unlock (k : Keyboard) (modifiers : Mask) : Outcome :=
  let unlocked := k.locks.filter fun entry => entry.modifiers.intersects modifiers
  let kept := k.locks.filter fun entry => !entry.modifiers.intersects modifiers
  ⟨unlocked.foldl (fun k entry => k.setLockedFlag entry.key false) { k with locks := kept },
    unlocked.map fun entry => .unlocked entry.key⟩

def clear (k : Keyboard) (modifiers : Mask) : Outcome :=
  (k.unlock (k.modifiers &&& modifiers)).andThen fun k =>
    ⟨{ k with modifiers := k.modifiers &&& ~~~modifiers }, []⟩

/-- Replaces the modifiers on behalf of a key. Keys that are locked for a modifier that goes off are
unlocked; unless modifiers last only while held, the key is locked for those that go on. -/
def changeModifiers (k : Keyboard) (id : KeyId) (modifiers : Mask) : Outcome :=
  let changed := k.modifiers ^^^ modifiers
  let enabled := changed &&& modifiers
  let disabled := changed &&& k.modifiers
  let locked := if enabled.isEmpty ∨ k.behavior = .none then ⟨k, []⟩ else k.lock id enabled
  (locked.andThen fun k => k.unlock disabled).andThen fun k => ⟨{ k with modifiers }, []⟩

def showLevel (k : Keyboard) (level : Level) : Outcome :=
  if k.level = level then ⟨k, []⟩ else ⟨{ k with level }, [.shown k.group level]⟩

/-- The behavior that goes with a level: modifiers stick longer on the numbers axis. -/
def behaviorFor (level : Level) : Behavior :=
  if level.onNumbers then .lock else .latch

/-- Derives the level from the level before, the modifiers, and whether the toggle key asks for the
other axis. Between the two shifted levels there is no direct way: such a change ends at the
unshifted level and drops the shift. -/
def refreshLevel (k : Keyboard) (toggled : Bool) : Outcome :=
  let onNumbers := k.level.onNumbers ^^ toggled
  let shifted := k.modifiers.contains Flag.shift.mask
  let crosses := toggled && k.level.isShifted && shifted
  let settled := if crosses then k.clear Flag.shift.mask else ⟨k, []⟩
  let level := Level.ofAxes onNumbers (shifted && !crosses)
  settled.andThen fun k => { k with behavior := behaviorFor level }.showLevel level

def isToggle (k : Keyboard) (id : KeyId) : Bool :=
  (k.key? id).any Key.isToggle

/-- Reports that a key was pressed or released, with the symbol it stood for at the time. -/
def report (k : Keyboard) (id : KeyId) (symbol : Symbol) (state : KeyState) (timestamp : UInt32) :
    Outcome :=
  match k.key? id with
  | some key => ⟨k, [.activated ⟨key.keycode, symbol, k.modifiers, state, timestamp⟩]⟩
  | none => ⟨k, []⟩

end Keyboard

end ScreenKeyboard
