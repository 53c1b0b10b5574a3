import ScreenKeyboard.Symbol.Basic

namespace ScreenKeyboard.Keysym

/-- The character controls: the Unicode category Cc. -/
def isControl (c : Char) : Bool :=
  c.toNat < 0x20 || (0x7F ≤ c.toNat && c.toNat < 0xA0)

/-- Keysyms of characters outside Latin-1 that do not carry the code point, with that code point. -/
def legacy : List (Nat × Nat) :=
  [(0x4B1, 0x30A2), (0x5C7, 0x627), (0x6C6, 0x444), (0x6E6, 0x424), (0x7D0, 0x3A0), (0x7F0, 0x3C0),
   (0x8D6, 0x221A), (0x8FB, 0x2190), (0xAE6, 0x2022), (0xCE0, 0x5D0), (0x13BC, 0x152),
   (0x13BD, 0x153), (0x20AC, 0x20AC)]

/-- The keysym with the code point of a character in its low 24 bits; they start at `0x01000000`. -/
def ofCodePoint (c : Char) : Keysym :=
  0x01000000 ||| c.val

/-- The keysym of a character; the noncharacters have none. -/
def ofChar? (c : Char) : Option Keysym :=
  let n := c.toNat
  if (0x20 ≤ n ∧ n ≤ 0x7E) ∨ (0xA0 ≤ n ∧ n ≤ 0xFF) then some c.val
  else if (8 ≤ n ∧ n ≤ 11) ∨ n = 13 ∨ n = 27 then some (0xFF00 ||| c.val)
  else if n = 0x7F then some 0xFFFF
  else if (0xFDD0 ≤ n ∧ n ≤ 0xFDEF) ∨ n % 0x10000 = 0xFFFE ∨ n % 0x10000 = 0xFFFF then none
  else
    match legacy.find? fun entry => entry.2 = n with
    | some entry => some (UInt32.ofNat entry.1)
    | none => some (ofCodePoint c)

/-- The code point that a keysym types, zero if it types none. -/
def codePoint (k : Keysym) : Nat :=
  let n := k.toNat
  if (0x20 ≤ n ∧ n ≤ 0x7E) ∨ (0xA0 ≤ n ∧ n ≤ 0xFF) then n
  else if n = 0xFF80 then 0x20
  else if (0xFF08 ≤ n ∧ n ≤ 0xFF0B) ∨ n = 0xFF0D ∨ n = 0xFF1B ∨ n = 0xFFFF ∨ n = 0xFF89 ∨
      n = 0xFF8D ∨ (0xFFAA ≤ n ∧ n ≤ 0xFFB9) ∨ n = 0xFFBD then n % 0x80
  else if 0x0100D800 ≤ n ∧ n ≤ 0x0100DFFF then 0
  else if 0x01000000 ≤ n ∧ n ≤ 0x0110FFFF then n - 0x01000000
  else ((legacy.find? fun entry => entry.1 = n).map Prod.snd).getD 0

def char? (k : Keysym) : Option Char :=
  let c := Char.ofNat (codePoint k)
  if c = '\x00' ∨ isControl c then none else some c

end ScreenKeyboard.Keysym
