import ScreenKeyboard.Document.Lexeme.Number
import ScreenKeyboard.Document.Lexeme.Text

namespace ScreenKeyboard

inductive TokenKind
  | openArray | closeArray | openObject | closeObject | comma | colon
  | null
  | bool (b : Bool)
  | number (lexeme : Lexeme Number)
  | text (lexeme : Lexeme String)
  /-- A character that starts no token, or a word that breaks off. -/
  | stray (error : DocumentError)
  | finish

structure Token where
  line : Nat
  kind : TokenKind

namespace Token

def scanWord (line : Nat) : List Char → List Char → Except DocumentError (List Char)
  | [], cs => .ok cs
  | _ :: _, [] => .error (.unfinished line)
  | w :: word, c :: cs =>
    if w = c then scanWord line word cs else .error (.malformed (Lexeme.lineAfter line c))

theorem length_le_of_scanWord {line : Nat} {word cs rest : List Char}
    (h : scanWord line word cs = .ok rest) : rest.length ≤ cs.length := by
  fun_induction scanWord line word cs <;> grind

def punctuation? : Char → Option TokenKind
  | '[' => some .openArray
  | ']' => some .closeArray
  | '\x7b' => some .openObject
  | '\x7d' => some .closeObject
  | ',' => some .comma
  | ':' => some .colon
  | _ => none

def word? : Char → Option (List Char × TokenKind)
  | 'n' => some (['u', 'l', 'l'], .null)
  | 't' => some (['r', 'u', 'e'], .bool true)
  | 'f' => some (['a', 'l', 's', 'e'], .bool false)
  | _ => none

def isSpace (c : Char) : Bool :=
  c == ' ' || c == '\n' || c == '\t' || c == '\r'

/-- The token that starts with a character, and the characters after it if reading goes on. -/
def next (line : Nat) (c : Char) (cs : List Char) : TokenKind × Option (List Char) :=
  match punctuation? c with
  | some kind => (kind, some cs)
  | none =>
    match word? c with
    | some (word, kind) =>
      match scanWord line word cs with
      | .ok rest => (kind, some rest)
      | .error error => (.stray error, none)
    | none =>
      if c = '"' then
        match Lexeme.scanText line cs with
        | (pieces, .closed rest) => (.text (Lexeme.ofPieces line pieces none), some rest)
        | (pieces, .broken kept skipped) =>
          (.text (Lexeme.ofPieces line pieces (some (kept, skipped))), none)
      else if c = '-' then
        let (lexeme, rest) := Lexeme.scanNumber line true cs
        (.number lexeme, some rest)
      else if Lexeme.isDigit c then
        let (lexeme, rest) := Lexeme.scanNumber line false (c :: cs)
        (.number lexeme, some rest)
      else (.stray (.malformed line), none)

theorem length_le_of_next {line : Nat} {c : Char} {cs rest : List Char}
    (h : (next line c cs).2 = some rest) : rest.length ≤ cs.length := by
  unfold next at h
  split at h
  · simp_all
  · split at h
    · split at h
      · next hw => exact Option.some.inj h ▸ length_le_of_scanWord hw
      · simp at h
    · split at h
      · split at h
        · next ht =>
          have := Lexeme.length_lt_of_scanText (congrArg Prod.snd ht)
          simp_all
          omega
        · simp at h
      · split at h
        · cases Option.some.inj h
          exact Nat.le_trans (Lexeme.length_scanNumber_le ..) (Lexeme.length_afterDigits_le cs)
        · split at h
          · next hd =>
            cases Option.some.inj h
            have hn := Lexeme.length_scanNumber_le line false (c :: cs)
            have hc : Lexeme.afterDigits (c :: cs) = Lexeme.afterDigits cs := by
              simp [Lexeme.afterDigits, hd]
            exact Nat.le_trans (hc ▸ hn) (Lexeme.length_afterDigits_le cs)
          · simp at h

def scan (line : Nat) : List Char → List Token
  | [] => [⟨line, .finish⟩]
  | c :: cs =>
    if isSpace c then scan (Lexeme.lineAfter line c) cs
    else
      match _h : next line c cs with
      | (kind, some rest) => ⟨line, kind⟩ :: scan line rest
      | (kind, none) => [⟨line, kind⟩]
termination_by cs => cs.length
decreasing_by
  · simp
  · have := length_le_of_next (congrArg Prod.snd _h)
    simp
    omega

def ofText (text : String) : List Token :=
  scan 1 text.toList

end Token

end ScreenKeyboard
