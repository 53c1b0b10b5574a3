import ScreenKeyboard.Document.Decoder

namespace ScreenKeyboard

/-- A field of a record that is gathered in a draft of type `δ`. The fields are gathered as they are
met, so that errors come in the order of the text. -/
structure Field (δ : Type) where
  name : String
  isSet : δ → Bool
  set : Reading → δ → Node → Except DocumentError δ

def Field.of {δ α : Type} (name : String) (get : δ → Option α) (put : δ → α → δ)
    (decoder : Decoder α) : Field δ where
  name
  isSet draft := (get draft).isSome
  set r draft node := (decoder r node).map (put draft)

structure Record (δ α : Type) where
  title : String
  blank : δ
  fields : List (Field δ)
  /-- The value of a draft, or the index of the first field that is missing and must not be. -/
  finish : δ → Except Nat α

namespace Record

variable {δ α : Type}

def gatherMembers (fields : List (Field δ)) (r : Reading) (draft : δ) :
    Members → Except DocumentError (δ × Nat)
  | .close line => .ok (draft, line)
  | .broken error => .error error
  | .cons key keyEnd value valueEnd rest =>
    match key.name with
    | .error error => .error error
    | .ok name =>
      match fields.find? fun field => field.name == name with
      | none =>
        match value.skip with
        | .error error => .error error
        | .ok () => gatherMembers fields r draft rest
      | some field =>
        if field.isSet draft then .error (r.mismatch keyEnd (.duplicateField name))
        else
          match field.set r draft value with
          | .error error => .error (r.locate valueEnd error)
          | .ok draft => gatherMembers fields r draft rest

def countItems : Items → Nat
  | .close _ => 0
  | .broken _ => 0
  | .cons _ rest => countItems rest + 1

def elements (n : Nat) : String :=
  Text.decimal n ++ if n = 1 then " element" else " elements"

def surplus (r : Reading) (count : Nat) (item : Node) (rest : Items) : DocumentError :=
  match r with
  | .direct => .malformed item.line
  | .kept | .tried =>
    r.mismatch 0 (.wrongLength (count + 1 + countItems rest) (elements count ++ " in sequence"))
  | .fromValue =>
    r.mismatch 0 (.wrongLength (count + 1 + countItems rest) "fewer elements in array")

def gatherItems (r : Reading) (count : Nat) :
    List (Field δ) → δ → Items → Except DocumentError (δ × Nat)
  | _, draft, .close line => .ok (draft, line)
  | _, _, .broken error => .error error
  | [], _, .cons item rest => .error (surplus r count item rest)
  | field :: fields, draft, .cons item rest =>
    match field.set r draft item with
    | .error error => .error (r.locate rest.line error)
    | .ok draft => gatherItems r (count + 1) fields draft rest

def fieldName (record : Record δ α) (i : Nat) : String :=
  (record.fields[i]?.map Field.name).getD ""

def decodeMembers (record : Record δ α) (r : Reading) (members : Members) :
    Except DocumentError α :=
  match gatherMembers record.fields r record.blank members with
  | .error error => .error error
  | .ok (draft, line) =>
    match record.finish draft with
    | .ok a => .ok a
    | .error i => .error (r.mismatch line (.missingField (record.fieldName i)))

def decodeItems (record : Record δ α) (r : Reading) (items : Items) : Except DocumentError α :=
  match gatherItems r 0 record.fields record.blank items with
  | .error error => .error error
  | .ok (draft, line) =>
    match record.finish draft with
    | .ok a => .ok a
    | .error i =>
      .error (r.mismatch line
        (.wrongLength i (record.title ++ " with " ++ elements record.fields.length)))

def decoder (record : Record δ α) : Decoder α :=
  fun r node =>
    match node with
    | .object _ members => record.decodeMembers r members
    | .array _ items => record.decodeItems r items
    | node => .error (node.unexpected r record.title)

end Record

end ScreenKeyboard
