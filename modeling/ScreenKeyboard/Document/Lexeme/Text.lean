import ScreenKeyboard.Document.Lexeme

namespace ScreenKeyboard.Lexeme

inductive Piece
  | char (c : Char)
  | half (unit : Nat)

inductive Ending
  | closed (rest : List Char)
  /-- Not at all; the errors are those for keeping the text and for passing over it. -/
  | broken (kept skipped : DocumentError)

def shortEscape? : Char → Option Char
  | '"' => some '"'
  | '\\' => some '\\'
  | '/' => some '/'
  | 'b' => some '\x08'
  | 'f' => some '\x0c'
  | 'n' => some '\n'
  | 'r' => some '\r'
  | 't' => some '\t'
  | _ => none

def fourDigits? (a b c d : Char) : Option Nat := do
  let a ← Text.digitValue? a
  let b ← Text.digitValue? b
  let c ← Text.digitValue? c
  let d ← Text.digitValue? d
  return ((a * 16 + b) * 16 + c) * 16 + d

def pieceOfUnit (unit : Nat) : Piece :=
  if 0xD800 ≤ unit ∧ unit ≤ 0xDFFF then .half unit else .char (Char.ofNat unit)

/-- The error for a long escape without four hexadecimal digits. Four bytes are taken before they
are looked at, so line feeds among them count. -/
def longEscapeError (line bytes : Nat) : List Char → DocumentError
  | [] => .unfinished line
  | c :: cs =>
    if c.utf8Size < bytes then longEscapeError (lineAfter line c) (bytes - c.utf8Size) cs
    else .malformed (lineAfter line c)

def scanText (line : Nat) : List Char → List Piece × Ending
  | [] => ([], .broken (.unfinished line) (.unfinished line))
  | '"' :: cs => ([], .closed cs)
  | '\\' :: 'u' :: a :: b :: c :: d :: cs =>
    match fourDigits? a b c d with
    | some unit =>
      let (pieces, ending) := scanText line cs
      (pieceOfUnit unit :: pieces, ending)
    | none =>
      let error := longEscapeError line 4 (a :: b :: c :: d :: cs)
      ([], .broken error error)
  | '\\' :: 'u' :: cs =>
    let error := longEscapeError line 4 cs
    ([], .broken error error)
  | '\\' :: c :: cs =>
    match shortEscape? c with
    | some e =>
      let (pieces, ending) := scanText line cs
      (.char e :: pieces, ending)
    | none =>
      let error := .malformed (lineAfter line c)
      ([], .broken error error)
  | ['\\'] => ([], .broken (.unfinished line) (.unfinished line))
  | c :: cs =>
    if c.toNat < 0x20 then
      ([], .broken (.malformed (lineAfter line c)) (.malformed line))
    else
      let (pieces, ending) := scanText line cs
      (.char c :: pieces, ending)

theorem length_lt_of_scanText {line : Nat} {cs rest : List Char}
    (h : (scanText line cs).2 = .closed rest) : rest.length < cs.length := by
  fun_induction scanText line cs <;> simp_all <;> omega

def pairChar (high low : Nat) : Char :=
  Char.ofNat ((high - 0xD800) * 0x400 + (low - 0xDC00) + 0x10000)

/-- Puts pieces together; `fault` is the error for a text that does not end. -/
def joinPieces (line : Nat) (fault : Option DocumentError) :
    List Piece → Except DocumentError (List Char)
  | [] =>
    match fault with
    | some error => .error error
    | none => .ok []
  | .char c :: pieces =>
    match joinPieces line fault pieces with
    | .ok cs => .ok (c :: cs)
    | .error error => .error error
  | .half high :: .half low :: pieces =>
    if high < 0xDC00 ∧ 0xDC00 ≤ low then
      match joinPieces line fault pieces with
      | .ok cs => .ok (pairChar high low :: cs)
      | .error error => .error error
    else .error (.malformed line)
  | [.half high] =>
    if high < 0xDC00 then .error (fault.getD (.malformed line)) else .error (.malformed line)
  | .half _ :: .char _ :: _ => .error (.malformed line)

def ofPieces (line : Nat) (pieces : List Piece) (broken : Option (DocumentError × DocumentError)) :
    Lexeme String where
  kept := (joinPieces line (broken.map Prod.fst) pieces).map String.ofList
  skipped :=
    match broken with
    | some (_, skipped) => .error skipped
    | none => .ok ()

end ScreenKeyboard.Lexeme
