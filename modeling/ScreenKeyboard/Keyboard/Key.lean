import ScreenKeyboard.Symbol.Table

namespace ScreenKeyboard

/-- The place of a key: its section, and its index there. -/
structure KeyId where
  sectionIndex : Nat
  keyIndex : Nat
  deriving DecidableEq, Repr

structure Key where
  name : String
  keycode : UInt32
  outline : UInt32 := 0
  symbols : SymbolTable := .blank 0 0
  pressed : Bool := false
  locked : Bool := false
  deriving DecidableEq, Repr

/-- The symbol for a group and level, and failing that the key's first symbol. -/
def Key.symbol (key : Key) (group level : Nat) : Option Symbol :=
  key.symbols.getOr group level 0 0

/-- The key with this name switches between letters and numbers. -/
def toggleKeyName : String :=
  "ABC123"

def Key.isToggle (key : Key) : Bool :=
  key.name == toggleKeyName

end ScreenKeyboard
