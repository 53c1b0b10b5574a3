import ScreenKeyboard.Document.Token

namespace ScreenKeyboard

mutual

/-- A value in a document, with the line on which it starts. Where the text goes wrong the tree ends
in a broken node, so of several errors the first in the text is met. -/
inductive Node
  | null (line : Nat)
  | bool (line : Nat) (b : Bool)
  | number (line : Nat) (lexeme : Lexeme Number)
  | text (line : Nat) (lexeme : Lexeme String)
  | array (line : Nat) (items : Items)
  | object (line : Nat) (members : Members)
  /-- What stands at this place starts like no value, or like a word that it does not finish. -/
  | stray (line : Nat) (error : DocumentError)
  | broken (line : Nat) (error : DocumentError)

inductive Items
  | close (line : Nat)
  | broken (error : DocumentError)
  | cons (item : Node) (rest : Items)

/-- The members of an object from some member on. The lines `keyEnd` and `valueEnd` are those of the
tokens after the key and after the value. -/
inductive Members
  | close (line : Nat)
  | broken (error : DocumentError)
  | cons (key : Node) (keyEnd : Nat) (value : Node) (valueEnd : Nat) (rest : Members)

end

instance : Inhabited Node := ⟨.null 0⟩

namespace Node

def line : Node → Nat
  | null line | bool line _ | number line _ | text line _ | array line _ | object line _
  | stray line _ | broken line _ => line

def name : Node → Except DocumentError String
  | text _ lexeme => lexeme.kept
  | broken _ error => .error error
  | node => .error (.malformed node.line)

def skipName : Node → Except DocumentError Unit
  | text _ lexeme => lexeme.skipped
  | broken _ error => .error error
  | node => .error (.malformed node.line)

end Node

def Items.line : Items → Nat
  | .close line => line
  | .broken error => error.line
  | .cons item _ => item.line

mutual

def Node.skip : Node → Except DocumentError Unit
  | .null _ => .ok ()
  | .bool _ _ => .ok ()
  | .number _ lexeme => lexeme.skipped
  | .text _ lexeme => lexeme.skipped
  | .array _ items => items.skip
  | .object _ members => members.skip
  | .stray _ error | .broken _ error => .error error

def Items.skip : Items → Except DocumentError Unit
  | .close _ => .ok ()
  | .broken error => .error error
  | .cons item rest =>
    match item.skip with
    | .ok () => rest.skip
    | .error error => .error error

def Members.skip : Members → Except DocumentError Unit
  | .close _ => .ok ()
  | .broken error => .error error
  | .cons key _ value _ rest =>
    match key.skipName with
    | .ok () =>
      match value.skip with
      | .ok () => rest.skip
      | .error error => .error error
    | .error error => .error error

end

mutual

def Node.keep (depth : Nat) : Node → Except DocumentError Unit
  | .null _ => .ok ()
  | .bool _ _ => .ok ()
  | .number _ lexeme => lexeme.kept.map fun _ => ()
  | .text _ lexeme => lexeme.kept.map fun _ => ()
  | .array line items => if depth = 0 then .error (.malformed line) else items.keep (depth - 1)
  | .object line members =>
    if depth = 0 then .error (.malformed line) else members.keep (depth - 1)
  | .stray _ error | .broken _ error => .error error

def Items.keep (depth : Nat) : Items → Except DocumentError Unit
  | .close _ => .ok ()
  | .broken error => .error error
  | .cons item rest =>
    match item.keep depth with
    | .ok () => rest.keep depth
    | .error error => .error error

def Members.keep (depth : Nat) : Members → Except DocumentError Unit
  | .close _ => .ok ()
  | .broken error => .error error
  | .cons key _ value _ rest =>
    match key.name with
    | .ok _ =>
      match value.keep depth with
      | .ok () => rest.keep depth
      | .error error => .error error
    | .error error => .error error

end

mutual

def Json.node (line : Nat) : Json → Node
  | .null => .null line
  | .bool b => .bool line b
  | .number n => .number line (.ok n)
  | .text s => .text line (.ok s)
  | .array items => .array line (Json.itemNodes line items)
  | .object members => .object line (Json.memberNodes line members)

def Json.itemNodes (line : Nat) : List Json → Items
  | [] => .close line
  | item :: items => .cons (item.node line) (Json.itemNodes line items)

def Json.memberNodes (line : Nat) : List (String × Json) → Members
  | [] => .close line
  | (name, value) :: members =>
    .cons (.text line (.ok name)) line (value.node line) line (Json.memberNodes line members)

end

mutual

def Node.value : Node → Except DocumentError Json
  | .null _ => .ok .null
  | .bool _ b => .ok (.bool b)
  | .number _ lexeme => lexeme.kept.map .number
  | .text _ lexeme => lexeme.kept.map .text
  | .array _ items => items.values.map .array
  | .object _ members => members.values.map .object
  | .stray _ error | .broken _ error => .error error

def Items.values : Items → Except DocumentError (List Json)
  | .close _ => .ok []
  | .broken error => .error error
  | .cons item rest =>
    match item.value with
    | .ok j => rest.values.map (j :: ·)
    | .error error => .error error

def Members.values : Members → Except DocumentError (List (String × Json))
  | .close _ => .ok []
  | .broken error => .error error
  | .cons key _ value _ rest =>
    match key.name with
    | .ok name =>
      match value.value with
      | .ok j => rest.values.map ((name, j) :: ·)
      | .error error => .error error
    | .error error => .error error

end

end ScreenKeyboard
