namespace ScreenKeyboard

/-- A level is a point on two axes, letters or numbers, and plain or shifted. -/
inductive Level
  | lettersLower | lettersUpper | numbers | symbols
  deriving DecidableEq, Repr, Inhabited

namespace Level

def all : List Level :=
  [lettersLower, lettersUpper, numbers, symbols]

def ofAxes (onNumbers shifted : Bool) : Level :=
  match onNumbers, shifted with
  | false, false => lettersLower
  | false, true => lettersUpper
  | true, false => numbers
  | true, true => symbols

def onNumbers : Level → Bool
  | lettersLower | lettersUpper => false
  | numbers | symbols => true

def isShifted : Level → Bool
  | lettersLower | numbers => false
  | lettersUpper | symbols => true

def index : Level → Nat
  | lettersLower => 0
  | lettersUpper => 1
  | numbers => 2
  | symbols => 3

def ofIndex? (i : Nat) : Option Level :=
  all[i]?

def displayName : Level → String
  | lettersLower => "letters-lower"
  | lettersUpper => "letters-upper"
  | numbers => "numbers"
  | symbols => "symbols"

def name : Level → String
  | lettersLower => "letters_lower"
  | lettersUpper => "letters_upper"
  | numbers => "numbers"
  | symbols => "symbols"

end Level

end ScreenKeyboard
