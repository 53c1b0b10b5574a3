import ScreenKeyboard.Text.Basic

namespace ScreenKeyboard.Decimal

/-- A positive rational range around a number: all of it lies nearer to this number than to others.
-/
structure Neighbourhood where
  low : Nat
  middle : Nat
  high : Nat
  denominator : Nat
  closed : Bool
  deriving Repr

def signBit : Nat :=
  0x8000000000000000

def hiddenBit : Nat :=
  0x10000000000000

def Neighbourhood.ofBits (bits : UInt64) : Neighbourhood :=
  let n := bits.toNat % signBit
  let biased := n / hiddenBit
  let fraction := n % hiddenBit
  let m := if biased = 0 then fraction else fraction + hiddenBit
  let exponent : Int := (if biased = 0 then 1 else biased : Nat) - 1077
  let below := if fraction = 0 ∧ 1 < biased then 1 else 2
  let up := Nat.pow 2 exponent.toNat
  ⟨(4 * m - below) * up, 4 * m * up, (4 * m + 2) * up, Nat.pow 2 (-exponent).toNat, m % 2 = 0⟩

namespace Neighbourhood

def contains (r : Neighbourhood) (numerator unit : Nat) : Bool :=
  let value := numerator * r.denominator
  if r.closed then r.low * unit ≤ value && value ≤ r.high * unit
  else r.low * unit < value && value < r.high * unit

def decimalExponent (r : Neighbourhood) : Int :=
  if r.denominator ≤ r.middle then (Text.digits 10 (r.middle / r.denominator)).length
  else
    match (List.range 400).find? fun j => r.denominator ≤ r.middle * Nat.pow 10 (j + 1) with
    | some zeros => -(zeros : Int)
    | none => 0

/-- The multiple of `10 ^ exponent` nearest to the number, among its neighbours in the range. -/
def nearest? (r : Neighbourhood) (exponent : Int) : Option Nat :=
  let up := Nat.pow 10 (-exponent).toNat
  let unit := Nat.pow 10 exponent.toNat
  let floor := r.middle * up / (r.denominator * unit)
  let inRange c := r.contains (c * unit) up
  let fromFloor := r.middle * up - floor * unit * r.denominator
  let toCeiling := (floor + 1) * unit * r.denominator - r.middle * up
  let preferFloor := fromFloor < toCeiling ∨ (fromFloor = toCeiling ∧ floor % 2 = 0)
  if inRange floor ∧ (preferFloor ∨ ¬ inRange (floor + 1)) then some floor
  else if inRange (floor + 1) then some (floor + 1)
  else none

/-- The shortest decimal of the range, as an integer and a power of ten. -/
def shortest (r : Neighbourhood) : Nat × Int :=
  let exponents := (List.range 17).map fun i => r.decimalExponent - (i + 1 : Nat)
  (exponents.findSome? fun e => (r.nearest? e).map fun n => (n, e)).getD (0, 0)

end Neighbourhood

def dropZeros (digits : List Char) (exponent : Int) : List Char × Int :=
  let kept := (digits.reverse.dropWhile (· == '0')).reverse
  (kept, exponent + (digits.length - kept.length : Nat))

/-- Zeros are written out, rather than as an exponent, up to this many places before the point. -/
def positionalPlaces : Int :=
  16

/-- Zeros are written out, rather than as an exponent, from this many places after the point. -/
def leadingPlaces : Int :=
  -5

def layOut (digits : List Char) (exponent : Int) : List Char :=
  let places := digits.length + exponent
  if 0 ≤ exponent ∧ places ≤ positionalPlaces then
    digits ++ List.replicate exponent.toNat '0' ++ ['.', '0']
  else if 0 < places ∧ places ≤ positionalPlaces then
    digits.take places.toNat ++ '.' :: digits.drop places.toNat
  else if leadingPlaces < places ∧ places ≤ 0 then
    ['0', '.'] ++ List.replicate (-places).toNat '0' ++ digits
  else
    let fraction := if digits.length = 1 then [] else '.' :: digits.drop 1
    let sign := if places ≤ 0 then '-' else '+'
    digits.take 1 ++ fraction ++ 'e' :: sign :: Text.digits 10 (places - 1).natAbs

def toText (x : Float) : String :=
  let sign := if x.toBits.toNat < signBit then "" else "-"
  if x == 0 then sign ++ "0.0"
  else
    let (n, e) := (Neighbourhood.ofBits x.toBits).shortest
    let (digits, e) := dropZeros (Text.digits 10 n) e
    sign ++ String.ofList (layOut digits e)

end ScreenKeyboard.Decimal
