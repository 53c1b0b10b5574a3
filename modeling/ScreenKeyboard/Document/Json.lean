import ScreenKeyboard.Decimal.Shortest

namespace ScreenKeyboard

inductive Number
  | natural (n : Nat)
  | negative (n : Nat)
  | real (x : Float)
  deriving Repr

inductive Json
  | null
  | bool (b : Bool)
  | number (n : Number)
  | text (s : String)
  | array (items : List Json)
  | object (members : List (String × Json))
  deriving Repr, Inhabited

namespace Number

def ofInt (n : Int) : Number :=
  if 0 ≤ n then natural n.toNat else negative n.natAbs

def toText : Number → String
  | natural n => Text.decimal n
  | negative n => "-" ++ Text.decimal n
  | real x => Decimal.toText x

end Number

namespace Json

def natural (n : Nat) : Json :=
  number (.natural n)

def optional {α : Type} (f : α → Json) : Option α → Json
  | some a => f a
  | none => null

def field? {α : Type} (name : String) (f : α → Json) : Option α → List (String × Json)
  | some a => [(name, f a)]
  | none => []

def escaped (c : Char) : List Char :=
  match c with
  | '"' => ['\\', '"']
  | '\\' => ['\\', '\\']
  | '\x08' => ['\\', 'b']
  | '\x0c' => ['\\', 'f']
  | '\n' => ['\\', 'n']
  | '\r' => ['\\', 'r']
  | '\t' => ['\\', 't']
  | c =>
    if c.toNat < 0x20 then
      ['\\', 'u', '0', '0', Text.digitChar (c.toNat / 16), Text.digitChar (c.toNat % 16)]
    else [c]

def quote (s : String) : List Char :=
  '"' :: s.toList.flatMap escaped ++ ['"']

/-- A number; what is not finite has no number in documents. -/
def numeral : Number → List Char
  | .natural n => Text.digits 10 n
  | .negative n => '-' :: Text.digits 10 n
  | .real x => if x.isFinite then (Decimal.toText x).toList else ['n', 'u', 'l', 'l']

mutual

def render : Json → List Char
  | null => ['n', 'u', 'l', 'l']
  | bool true => ['t', 'r', 'u', 'e']
  | bool false => ['f', 'a', 'l', 's', 'e']
  | number n => numeral n
  | text s => quote s
  | array [] => ['[', ']']
  | array (item :: items) => '[' :: render item ++ renderItems items
  | object [] => ['\x7b', '\x7d']
  | object ((name, value) :: members) =>
    '\x7b' :: quote name ++ ':' :: render value ++ renderMembers members

def renderItems : List Json → List Char
  | [] => [']']
  | item :: items => ',' :: render item ++ renderItems items

def renderMembers : List (String × Json) → List Char
  | [] => ['\x7d']
  | (name, value) :: members =>
    ',' :: quote name ++ ':' :: render value ++ renderMembers members

end

def toText (j : Json) : String :=
  String.ofList j.render

end Json

end ScreenKeyboard
