import ScreenKeyboard.Decimal.Reading
import ScreenKeyboard.Document.Lexeme

namespace ScreenKeyboard.Lexeme

def isDigit (c : Char) : Bool :=
  '0' ≤ c && c ≤ '9'

def leadingDigits (cs : List Char) : List Nat :=
  (cs.takeWhile isDigit).map fun c => c.toNat - 48

def afterDigits (cs : List Char) : List Char :=
  cs.dropWhile isDigit

theorem length_afterDigits_le (cs : List Char) : (afterDigits cs).length ≤ cs.length :=
  (List.dropWhile_sublist _).length_le

def largestNegative : Nat :=
  0x8000000000000000

def numberOf (line : Nat) (w : Decimal.Written) : Except DocumentError Number :=
  let (s, e) := w.significand
  if w.fraction.isNone ∧ w.exponent.isNone ∧ e = 0 ∧ ¬ w.negative then .ok (.natural s)
  else if w.fraction.isNone ∧ w.exponent.isNone ∧ e = 0 ∧ 0 < s ∧ s ≤ largestNegative then
    .ok (.negative s)
  else
    match w.toFloat with
    | some x => .ok (.real x)
    | none => .error (.malformed line)

def numberLexeme (line : Nat) (w : Decimal.Written) : Lexeme Number :=
  ⟨numberOf line w, .ok ()⟩

/-- A number that lacks a digit before these characters. At the end of the document a number that is
kept is unfinished, and one that is passed over is malformed. -/
def digitMissing (line : Nat) (cs : List Char) : Lexeme Number :=
  let error := .malformed (lineAfterNext line cs)
  .broken (if cs.isEmpty then .unfinished line else error) error

def scanExponent (line : Nat) (w : Decimal.Written) (cs : List Char) : Lexeme Number × List Char :=
  match cs with
  | [] => (numberLexeme line w, [])
  | c :: rest =>
    if c = 'e' ∨ c = 'E' then
      let negative := rest.head? == some '-'
      let unsigned := if negative ∨ rest.head? = some '+' then rest.drop 1 else rest
      if leadingDigits unsigned = [] then (digitMissing line unsigned, [])
      else
        (numberLexeme line { w with exponent := some (negative, leadingDigits unsigned) },
          afterDigits unsigned)
    else (numberLexeme line w, c :: rest)

def scanFraction (line : Nat) (w : Decimal.Written) (cs : List Char) : Lexeme Number × List Char :=
  match cs with
  | '.' :: rest =>
    if leadingDigits rest = [] then (digitMissing line rest, [])
    else scanExponent line { w with fraction := some (leadingDigits rest) } (afterDigits rest)
  | cs => scanExponent line w cs

/-- Reads a number from its first digit; a zero at the start stands alone. -/
def scanNumber (line : Nat) (negative : Bool) (cs : List Char) : Lexeme Number × List Char :=
  match leadingDigits cs with
  | [] => (digitMissing line cs, [])
  | 0 :: _ :: _ => (.broken (.malformed line) (.malformed line), [])
  | whole => scanFraction line { negative, whole } (afterDigits cs)

theorem length_scanExponent_le (line : Nat) (w : Decimal.Written) (cs : List Char) :
    (scanExponent line w cs).2.length ≤ cs.length := by
  unfold scanExponent
  split
  · simp
  · next c rest =>
    have hdrop (ds : List Char) (h : ds = rest ∨ ds = rest.drop 1) :
        (afterDigits ds).length ≤ rest.length + 1 := by
      have := length_afterDigits_le ds
      rcases h with rfl | rfl <;> grind
    grind

theorem length_scanFraction_le (line : Nat) (w : Decimal.Written) (cs : List Char) :
    (scanFraction line w cs).2.length ≤ cs.length := by
  unfold scanFraction
  split
  · next rest =>
    have := length_afterDigits_le rest
    split
    · simp
    · exact Nat.le_trans (length_scanExponent_le ..) (by grind)
  · exact length_scanExponent_le ..

theorem length_scanNumber_le (line : Nat) (negative : Bool) (cs : List Char) :
    (scanNumber line negative cs).2.length ≤ (afterDigits cs).length := by
  unfold scanNumber
  split
  · simp
  · simp
  · exact length_scanFraction_le ..

end ScreenKeyboard.Lexeme
