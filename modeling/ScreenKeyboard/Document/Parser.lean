import ScreenKeyboard.Document.Node

namespace ScreenKeyboard

namespace Token

def headLine : List Token → Nat
  | [] => 0
  | t :: _ => t.line

def misplaced : List Token → DocumentError
  | [] => .unfinished 0
  | ⟨line, .finish⟩ :: _ => .unfinished line
  | ⟨line, _⟩ :: _ => .malformed line

end Token

mutual

/-- Reads a value; a container inside it uses up two of `fuel`, and so does a further item. After a
broken node there are no tokens left. -/
def Node.read : (fuel : Nat) → List Token → Node × List Token
  | 0, ts => (.broken 0 (Token.misplaced ts), [])
  | fuel + 1, ts =>
    match ts with
    | ⟨line, .null⟩ :: ts => (.null line, ts)
    | ⟨line, .bool b⟩ :: ts => (.bool line b, ts)
    | ⟨line, .number lexeme⟩ :: ts => (.number line lexeme, ts)
    | ⟨line, .text lexeme⟩ :: ts => (.text line lexeme, ts)
    | ⟨line, .stray error⟩ :: _ => (.stray line error, [])
    | ⟨line, .openArray⟩ :: ⟨line', .closeArray⟩ :: ts => (.array line (.close line'), ts)
    | ⟨line, .openArray⟩ :: ⟨line', .finish⟩ :: _ =>
      (.array line (.broken (.unfinished line')), [])
    | ⟨line, .openArray⟩ :: ts =>
      let (items, ts) := Items.read fuel ts
      (.array line items, ts)
    | ⟨line, .openObject⟩ :: ⟨line', .closeObject⟩ :: ts => (.object line (.close line'), ts)
    | ⟨line, .openObject⟩ :: ts =>
      let (members, ts) := Members.read fuel ts
      (.object line members, ts)
    | ts => (.broken (Token.headLine ts) (Token.misplaced ts), [])

def Items.read : (fuel : Nat) → List Token → Items × List Token
  | 0, ts => (.broken (Token.misplaced ts), [])
  | fuel + 1, ts =>
    let (item, ts) := Node.read fuel ts
    match ts with
    | ⟨line, .closeArray⟩ :: ts => (.cons item (.close line), ts)
    | ⟨_, .comma⟩ :: ts =>
      let (rest, ts) := Items.read fuel ts
      (.cons item rest, ts)
    | ts => (.cons item (.broken (Token.misplaced ts)), [])

def Members.read : (fuel : Nat) → List Token → Members × List Token
  | 0, ts => (.broken (Token.misplaced ts), [])
  | fuel + 1, ts =>
    let (key, ts) := Node.read fuel ts
    match ts with
    | ⟨keyEnd, .colon⟩ :: ts =>
      let (value, ts) := Node.read fuel ts
      let valueEnd := Token.headLine ts
      match ts with
      | ⟨line, .closeObject⟩ :: ts => (.cons key keyEnd value valueEnd (.close line), ts)
      | ⟨_, .comma⟩ :: ts =>
        let (rest, ts) := Members.read fuel ts
        (.cons key keyEnd value valueEnd rest, ts)
      | ts => (.cons key keyEnd value valueEnd (.broken (Token.misplaced ts)), [])
    | ts =>
      let error := Token.misplaced ts
      (.cons key (Token.headLine ts) (.broken error.line error) error.line (.broken error), [])

end

/-- A document: its value, and the line of what follows the value if anything does. -/
structure Document where
  root : Node
  trailing : Option Nat

def Document.ofText (text : String) : Document :=
  let tokens := Token.ofText text
  match Node.read (2 * tokens.length + 2) tokens with
  | (root, []) => ⟨root, none⟩
  | (root, ⟨_, .finish⟩ :: _) => ⟨root, none⟩
  | (root, ⟨line, _⟩ :: _) => ⟨root, some line⟩

def Document.decode {α : Type} (d : Document) (decoder : Node → Except DocumentError α) :
    Except DocumentError α :=
  match decoder d.root with
  | .ok a =>
    match d.trailing with
    | none => .ok a
    | some line => .error (.malformed line)
  | .error error => .error error

end ScreenKeyboard
