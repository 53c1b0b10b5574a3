import ScreenKeyboard.Keyboard.Basic
import ScreenKeyboard.Keysym.Basic
import ScreenKeyboard.Layout.Basic

namespace ScreenKeyboard

/-- The symbol of a slot; a keysym that is not known has none. -/
def Slot.symbol? : Slot → Option Symbol
  | .keysym text face category =>
    (Symbol.ofKeysym? text).map fun s =>
      { s with
        label := face.label.or s.label
        category := category.getD s.category
        icon := face.icon
        tooltip := face.tooltip }
  | .custom name face category modifiers =>
    some { name, label := face.label, icon := face.icon, tooltip := face.tooltip, category, modifiers }

def KeyLayout.key (key : KeyLayout) : Key where
  name := key.name
  keycode := key.keycode
  outline := key.outline
  symbols := .ofRows (key.groups.map fun row => row.map fun slot => slot.bind Slot.symbol?)

namespace Keyboard

def addKey (k : Keyboard) (i : Nat) (key : Key) : Keyboard :=
  match k.createKey i key with
  | some (_, k) => k
  | none => k

def addSection (k : Keyboard) (s : SectionLayout) : Keyboard :=
  let i := k.sections.length
  s.keys.foldl (fun k key => k.addKey i key.key) (k.createSection s.name s.angle)

def ofLayout (layout : Layout) : Keyboard :=
  layout.sections.foldl addSection
    { numLockMask := layout.numLockMask
      altGrMask := layout.altGrMask
      outlines := layout.outlines }

end Keyboard

end ScreenKeyboard
