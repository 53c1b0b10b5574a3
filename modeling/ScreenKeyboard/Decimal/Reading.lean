namespace ScreenKeyboard.Decimal

def significandLimit : Nat :=
  0xFFFFFFFFFFFFFFFF

def exponentLimit : Nat :=
  0x7FFFFFFF

def powerLimit : Nat :=
  308

/-- Takes digits into a significand as long as it stays within the limit; gives the other ones. -/
def takeDigits (significand : Nat) : List Nat → Nat × List Nat
  | [] => (significand, [])
  | d :: ds =>
    if significand * 10 + d ≤ significandLimit then takeDigits (significand * 10 + d) ds
    else (significand, d :: ds)

def power (n : Nat) : Float :=
  Float.ofScientific 1 false n

def scale (x : Float) (exponent : Int) : Option Float :=
  if exponent.natAbs ≤ powerLimit then
    if 0 ≤ exponent then
      let y := x * power exponent.toNat
      if y.isInf then none else some y
    else some (x / power exponent.natAbs)
  else if x == 0 then some x
  else if _h : 0 ≤ exponent then none
  else scale (x / power powerLimit) (exponent + powerLimit)
termination_by exponent.natAbs
decreasing_by
  unfold powerLimit at *
  omega

def readExponent (digits : List Nat) : Option Nat :=
  digits.foldl
    (fun acc d =>
      match acc with
      | some e => if e * 10 + d ≤ exponentLimit then some (e * 10 + d) else none
      | none => none)
    (some 0)

structure Written where
  negative : Bool
  whole : List Nat
  fraction : Option (List Nat) := none
  exponent : Option (Bool × List Nat) := none
  deriving DecidableEq, Repr

namespace Written

def significand (w : Written) : Nat × Int :=
  let (s, dropped) := takeDigits 0 w.whole
  match w.fraction with
  | none => (s, dropped.length)
  | some ds =>
    let (s, rest) := takeDigits s ds
    (s, dropped.length - (ds.length - rest.length : Nat))

def magnitude (w : Written) : Option Float :=
  let (s, e) := w.significand
  let x := (UInt64.ofNat s).toFloat
  match w.exponent with
  | none => scale x e
  | some (negative, ds) =>
    match readExponent ds with
    | some n => scale x (if negative then e - n else e + n)
    | none => if negative ∨ s = 0 then some 0 else none

/-- The number, none if it is too large. Each operation on the way rounds, so it may be a neighbour
of the nearest one. -/
def toFloat (w : Written) : Option Float :=
  w.magnitude.map fun x => if w.negative then -x else x

end Written

end ScreenKeyboard.Decimal
