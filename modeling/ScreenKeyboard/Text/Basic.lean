import ScreenKeyboard.Text.Hidden

namespace ScreenKeyboard.Text

/-- The characters with the Unicode property White_Space. -/
def isBlank (c : Char) : Bool :=
  let n := c.toNat
  (9 ≤ n && n ≤ 13) || n == 0x20 || n == 0x85 || n == 0xA0 || n == 0x1680 ||
    (0x2000 ≤ n && n ≤ 0x200A) || n == 0x2028 || n == 0x2029 || n == 0x202F || n == 0x205F ||
    n == 0x3000

def trimEnd (cs : List Char) : List Char :=
  (cs.reverse.dropWhile isBlank).reverse

def trim (cs : List Char) : List Char :=
  trimEnd (cs.dropWhile isBlank)

/-- The maximal runs of characters that are not blank. -/
def words (cs : List Char) : List (List Char) :=
  (cs.splitOnP isBlank).filter fun word => !word.isEmpty

def beforeBlank (cs : List Char) : List Char :=
  cs.takeWhile fun c => !isBlank c

def afterBlank (cs : List Char) : List Char :=
  (cs.dropWhile fun c => !isBlank c).drop 1

def dropReturn (line : List Char) : List Char :=
  if line.getLast? = some '\r' then line.dropLast else line

/-- The lines of a text, which end at a line feed, or at a carriage return with a line feed. What
follows the last line feed is a line only if it is not empty, and keeps its carriage return. -/
def lines (cs : List Char) : List (List Char) :=
  let parts := cs.splitOn '\n'
  parts.dropLast.map dropReturn ++ parts.getLast?.toList.filter fun line => !line.isEmpty

def digitChar (d : Nat) : Char :=
  if d < 10 then Char.ofNat (48 + d) else Char.ofNat (87 + d)

/-- The value of a digit below sixteen, in either case. -/
def digitValue? (c : Char) : Option Nat :=
  let n := c.toNat
  if 48 ≤ n ∧ n ≤ 57 then some (n - 48)
  else if 97 ≤ n ∧ n ≤ 102 then some (n - 87)
  else if 65 ≤ n ∧ n ≤ 70 then some (n - 55)
  else none

def digits (base n : Nat) : List Char :=
  if _h : 1 < base ∧ base ≤ n then digits base (n / base) ++ [digitChar (n % base)]
  else [digitChar n]
termination_by n
decreasing_by exact Nat.div_lt_self (by omega) (by omega)

def readDigits (base limit : Nat) (acc : Nat) : List Char → Option Nat
  | [] => some acc
  | c :: cs =>
    match digitValue? c with
    | some d =>
      if d < base ∧ acc * base + d ≤ limit then readDigits base limit (acc * base + d) cs else none
    | none => none

/-- The value of a numeral: at least one digit, after at most one plus sign. -/
def readNumeral (base limit : Nat) : List Char → Option Nat
  | [] => none
  | '+' :: [] => none
  | '+' :: c :: cs => readDigits base limit 0 (c :: cs)
  | c :: cs => readDigits base limit 0 (c :: cs)

def decimal (n : Nat) : String :=
  String.ofList (digits 10 n)

def shownChar (c : Char) : List Char :=
  match c with
  | '\x00' => ['\\', '0']
  | '\t' => ['\\', 't']
  | '\n' => ['\\', 'n']
  | '\r' => ['\\', 'r']
  | '"' => ['\\', '"']
  | '\\' => ['\\', '\\']
  | c => if isHidden c then ['\\', 'u', '\x7b'] ++ digits 16 c.toNat ++ ['\x7d'] else [c]

/-- The text as messages show it, with escapes for the characters that would not show. -/
def quoted (text : String) : String :=
  "\"" ++ String.ofList (text.toList.flatMap shownChar) ++ "\""

end ScreenKeyboard.Text
