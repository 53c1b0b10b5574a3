import ScreenKeyboard.Keyboard.Basic

namespace ScreenKeyboard

structure Config where
  version : Nat := 1
  layout : String := "us"
  layoutDirectory : Option String := none
  behavior : Behavior := .latch
  /-- In place of the layout's mask. -/
  numLockMask : Option Mask := none
  /-- In place of the layout's mask. -/
  altGrMask : Option Mask := none
  deriving DecidableEq, Repr, Inhabited

namespace Config

def standard : Config :=
  {}

def apply (config : Config) (k : Keyboard) : Keyboard :=
  { k with
    behavior := config.behavior
    numLockMask := config.numLockMask.getD k.numLockMask
    altGrMask := config.altGrMask.getD k.altGrMask }

end Config

end ScreenKeyboard
