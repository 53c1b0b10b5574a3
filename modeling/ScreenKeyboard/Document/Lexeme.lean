import ScreenKeyboard.Document.Error

namespace ScreenKeyboard

/-- A text or a number as it stands in a document. Where values are only passed over, half of a
surrogate pair and a number too large to hold are in order, though they cannot be kept. -/
structure Lexeme (α : Type) where
  kept : Except DocumentError α
  skipped : Except DocumentError Unit

namespace Lexeme

def ok {α : Type} (a : α) : Lexeme α :=
  ⟨.ok a, .ok ()⟩

def broken {α : Type} (kept skipped : DocumentError) : Lexeme α :=
  ⟨.error kept, .error skipped⟩

def lineAfter (line : Nat) (c : Char) : Nat :=
  if c = '\n' then line + 1 else line

def lineAfterNext (line : Nat) : List Char → Nat
  | [] => line
  | c :: _ => lineAfter line c

end Lexeme

end ScreenKeyboard
