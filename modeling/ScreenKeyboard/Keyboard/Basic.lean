import ScreenKeyboard.Keyboard.Event
import ScreenKeyboard.Keyboard.Outline
import ScreenKeyboard.Keyboard.Section

namespace ScreenKeyboard

/-- A locked modifier key, with the modifiers that it turned on. -/
structure Lock where
  modifiers : Mask
  key : KeyId
  deriving DecidableEq, Repr

structure Keyboard where
  sections : List Section := []
  /-- The id of each key by its name, the newest key first. -/
  names : List (String × KeyId) := []
  outlines : List Outline := []
  behavior : Behavior := .none
  modifiers : Mask := .empty
  level : Level := .lettersLower
  group : Nat := 0
  /-- The pressed keys, the latest press first. -/
  pressed : List KeyId := []
  locks : List Lock := []
  /-- The modifiers that make a section show its num-lock level. -/
  numLockMask : Mask := .empty
  altGrMask : Mask := .empty

namespace Keyboard

def empty : Keyboard :=
  {}

instance : Inhabited Keyboard := ⟨empty⟩

def createSection (k : Keyboard) (name : String) (angle : Int32) : Keyboard :=
  { k with sections := k.sections ++ [{ name, angle }] }

def addOutline (k : Keyboard) (outline : Outline) : Keyboard :=
  { k with outlines := k.outlines ++ [outline] }

def section? (k : Keyboard) (i : Nat) : Option Section :=
  k.sections[i]?

def key? (k : Keyboard) (id : KeyId) : Option Key :=
  match k.section? id.sectionIndex with
  | some s => s.keys[id.keyIndex]?
  | none => none

def find? (k : Keyboard) (name : String) : Option KeyId :=
  k.names.lookup name

def outline? (k : Keyboard) (id : UInt32) : Option Outline :=
  k.outlines[id.toNat]?

def shownLevel (k : Keyboard) (s : Section) : Nat :=
  s.level?.getD k.level.index

def resolve (k : Keyboard) (id : KeyId) : Option Symbol :=
  match k.section? id.sectionIndex with
  | some s =>
    match s.keys[id.keyIndex]? with
    | some key => key.symbol k.group (k.shownLevel s)
    | none => none
  | none => none

def updateSection (k : Keyboard) (i : Nat) (f : Section → Section) : Keyboard :=
  { k with sections := k.sections.modify i f }

def updateKey (k : Keyboard) (id : KeyId) (f : Key → Key) : Keyboard :=
  k.updateSection id.sectionIndex fun s => { s with keys := s.keys.modify id.keyIndex f }

def setPressedFlag (k : Keyboard) (id : KeyId) (pressed : Bool) : Keyboard :=
  k.updateKey id fun key => { key with pressed }

def setLockedFlag (k : Keyboard) (id : KeyId) (locked : Bool) : Keyboard :=
  k.updateKey id fun key => { key with locked }

/-- Adds a key to a section, and gives it its name; a section that is not there takes no key. -/
def createKey (k : Keyboard) (i : Nat) (key : Key) : Option (KeyId × Keyboard) :=
  match k.section? i with
  | some s =>
    let id : KeyId := ⟨i, s.keys.length⟩
    some (id, { k.updateSection i fun s => { s with keys := s.keys ++ [key] } with
      names := (key.name, id) :: k.names })
  | none => none

end Keyboard

end ScreenKeyboard
