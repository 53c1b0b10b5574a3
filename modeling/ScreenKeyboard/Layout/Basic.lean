import ScreenKeyboard.Keyboard.Outline
import ScreenKeyboard.Symbol.Basic

namespace ScreenKeyboard

structure Face where
  label : Option String := none
  icon : Option String := none
  tooltip : Option String := none
  deriving DecidableEq, Repr

inductive Slot
  /-- A symbol made from a keysym; what is given here goes before what the keysym says. -/
  | keysym (keysym : String) (face : Face) (category : Option Category)
  | custom (name : String) (face : Face) (category : Category) (modifiers : Mask)
  deriving DecidableEq, Repr

def Slot.ofKeysym (keysym : String) : Slot :=
  .keysym keysym {} none

structure KeyLayout where
  name : String
  keycode : UInt32 := 0
  outline : UInt32 := 0
  /-- The slots by group and level; an empty slot is none. -/
  groups : List (List (Option Slot)) := []
  deriving DecidableEq, Repr

structure SectionLayout where
  name : String
  angle : Int32 := 0
  keys : List KeyLayout := []
  deriving DecidableEq, Repr

structure Layout where
  name : String
  numLockMask : Mask := .empty
  altGrMask : Mask := .empty
  outlines : List Outline := []
  sections : List SectionLayout := []
  deriving Repr

end ScreenKeyboard
