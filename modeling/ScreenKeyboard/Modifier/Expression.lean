import ScreenKeyboard.Modifier.Basic
import ScreenKeyboard.Text.Basic

namespace ScreenKeyboard

def Flag.name : Flag → String
  | .shift => "SHIFT"
  | .lock => "LOCK"
  | .control => "CONTROL"
  | .mod1 => "MOD1"
  | .mod2 => "MOD2"
  | .mod3 => "MOD3"
  | .mod4 => "MOD4"
  | .mod5 => "MOD5"
  | .superKey => "SUPER"
  | .hyperKey => "HYPER"
  | .metaKey => "META"

def Flag.ofName? (name : String) : Option Flag :=
  Flag.all.find? fun flag => flag.name == name

inductive FlagFault
  | emptyFlag
  | invalidHex
  | unknownName
  deriving DecidableEq, Repr

def FlagFault.message : FlagFault → String
  | .emptyFlag => "encountered empty flag"
  | .invalidHex => "invalid hex flag"
  | .unknownName => "unrecognized named flag"

namespace Mask

/-- The parts of an expression: the flags that are set, then the other bits if there are any. -/
def parts (m : Mask) : List String :=
  let flags := Flag.all.filter fun flag => m.contains flag.mask
  let rest := m.bits &&& ~~~named.bits
  flags.map Flag.name ++
    if rest = 0 then [] else ["0x" ++ String.ofList (Text.digits 16 rest.toNat)]

def toText (m : Mask) : String :=
  " | ".intercalate m.parts

/-- The bits of one part, whose blanks are already trimmed. -/
def readPart : List Char → Except FlagFault Mask
  | [] => .error .emptyFlag
  | '0' :: 'x' :: hex =>
    match Text.readNumeral 16 0xFFFFFFFF hex with
    | some n => .ok (ofNat n)
    | none => .error .invalidHex
  | name =>
    match Flag.ofName? (String.ofList name) with
    | some flag => .ok flag.mask
    | none => .error .unknownName

def readParts (acc : Mask) : List (List Char) → Except FlagFault Mask
  | [] => .ok acc
  | part :: parts =>
    match readPart (Text.trim part) with
    | .ok m => readParts (acc ||| m) parts
    | .error fault => .error fault

/-- Reads a flag expression; a blank one is the empty mask. -/
def parse (text : String) : Except FlagFault Mask :=
  if (Text.trim text.toList).isEmpty then .ok empty
  else readParts empty (text.toList.splitOn '|')

end Mask

end ScreenKeyboard
