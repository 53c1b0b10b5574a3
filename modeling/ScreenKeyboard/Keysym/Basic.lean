import ScreenKeyboard.Keysym.Character
import ScreenKeyboard.Keysym.Name
import ScreenKeyboard.Text.Alphabetic
import ScreenKeyboard.Text.Basic

namespace ScreenKeyboard

namespace Keysym

def hexPart? : List Char → Option (List Char)
  | 'U' :: '+' :: hex => some hex
  | 'u' :: '+' :: hex => some hex
  | _ => none

def ofHex? (hex : List Char) : Option Keysym :=
  match Text.readNumeral 16 0xFFFFFFFF hex with
  | some n => if n.isValidChar then some (ofCodePoint (Char.ofNat n)) else none
  | none => none

def ofSingle? : List Char → Option Keysym
  | [c] => ofChar? c
  | _ => none

/-- The keysym that a text names. A text with the mark of a code point is never looked up. -/
def parse? (text : String) : Option Keysym :=
  if text.isEmpty then none
  else
    match hexPart? text.toList with
    | some hex => ofHex? hex
    | none => ofName? text <|> ofSingle? text.toList <|> ofNameAnyCase? text

/-- Reading this text would look up a name that cannot be asked for. -/
def isRefused (text : String) : Bool :=
  (hexPart? text.toList).isNone && isUnaskable text

def modifiers (k : Keysym) : Mask :=
  match k.toNat with
  | 0xFFE1 | 0xFFE2 => Flag.shift.mask
  | 0xFFE5 | 0xFFE6 => Flag.lock.mask
  | 0xFFE3 | 0xFFE4 => Flag.control.mask
  | 0xFFE9 | 0xFFEA => Flag.mod1.mask
  | 0xFF7F => Flag.mod2.mask
  | 0xFE03 | 0xFF7E => Flag.mod5.mask
  | 0xFFEB | 0xFFEC => Flag.superKey.mask
  | 0xFFED | 0xFFEE => Flag.hyperKey.mask
  | 0xFFE7 | 0xFFE8 => Flag.metaKey.mask
  | _ => .empty

/-- The keysyms from `0xFF00` to `0xFFFF` are those of function keys. -/
def isFunction (k : Keysym) : Bool :=
  k.toNat / 0x100 == 0xFF

end Keysym

/-- The symbol that a keysym text names. Its label is the character that the keysym types, or else
the text itself. -/
def Symbol.ofKeysym? (text : String) : Option Symbol :=
  match Keysym.parse? text with
  | none => none
  | some k =>
    let (label, category) :=
      match Keysym.char? k with
      | some c =>
        (String.ofList [c], if Text.isAlphabetic c then Category.letter else Category.keyName)
      | none => (text, if Keysym.isFunction k then Category.function else Category.keyName)
    some
      { name := text
        label := some label
        category
        modifiers := Keysym.modifiers k
        keysym := some k }

end ScreenKeyboard
