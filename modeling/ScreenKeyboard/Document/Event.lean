import ScreenKeyboard.Document.Symbol
import ScreenKeyboard.Keyboard.Basic

namespace ScreenKeyboard

def Level.toJson (level : Level) : Json :=
  .text level.name

def Level.decoder : Decoder Level :=
  Decoder.variant (Level.all.map fun level => (level.name, level))

def KeyState.toJson (state : KeyState) : Json :=
  .text state.name

def KeyState.decoder : Decoder KeyState :=
  Decoder.variant ([KeyState.pressed, KeyState.released].map fun state => (state.name, state))

namespace KeyId

structure Draft where
  sectionIndex : Option Nat := none
  keyIndex : Option Nat := none

def record : Record Draft KeyId where
  title := "struct KeyId"
  blank := {}
  fields := [
    .of "section" (·.sectionIndex) (fun d a => { d with sectionIndex := some a }) .index,
    .of "index" (·.keyIndex) (fun d a => { d with keyIndex := some a }) .index]
  finish d :=
    match d.sectionIndex, d.keyIndex with
    | none, _ => .error 0
    | _, none => .error 1
    | some sectionIndex, some keyIndex => .ok { sectionIndex, keyIndex }

def decoder : Decoder KeyId :=
  record.decoder

def toJson (id : KeyId) : Json :=
  .object [("section", .natural id.sectionIndex), ("index", .natural id.keyIndex)]

end KeyId

namespace Lock

structure Draft where
  modifiers : Option Mask := none
  key : Option KeyId := none

def record : Record Draft Lock where
  title := "struct ModifierKey"
  blank := {}
  fields := [
    .of "modifiers" (·.modifiers) (fun d a => { d with modifiers := some a }) .mask,
    .of "key" (·.key) (fun d a => { d with key := some a }) KeyId.decoder]
  finish d :=
    match d.modifiers, d.key with
    | none, _ => .error 0
    | _, none => .error 1
    | some modifiers, some key => .ok { modifiers, key }

def decoder : Decoder Lock :=
  record.decoder

def toJson (lock : Lock) : Json :=
  .object [("modifiers", lock.modifiers.toJson), ("key", lock.key.toJson)]

end Lock

namespace Activation

structure Draft where
  keycode : Option UInt32 := none
  symbol : Option Symbol := none
  modifiers : Option Mask := none
  state : Option KeyState := none
  timestamp : Option UInt32 := none

def record : Record Draft Activation where
  title := "struct Activation"
  blank := {}
  fields := [
    .of "keycode" (·.keycode) (fun d a => { d with keycode := some a }) .uint32,
    .of "symbol" (·.symbol) (fun d a => { d with symbol := some a }) Symbol.decoder,
    .of "modifiers" (·.modifiers) (fun d a => { d with modifiers := some a }) .mask,
    .of "state" (·.state) (fun d a => { d with state := some a }) KeyState.decoder,
    .of "timestamp" (·.timestamp) (fun d a => { d with timestamp := some a }) .uint32]
  finish d :=
    match d.keycode, d.symbol, d.modifiers, d.state, d.timestamp with
    | none, _, _, _, _ => .error 0
    | _, none, _, _, _ => .error 1
    | _, _, none, _, _ => .error 2
    | _, _, _, none, _ => .error 3
    | _, _, _, _, none => .error 4
    | some keycode, some symbol, some modifiers, some state, some timestamp =>
      .ok { keycode, symbol, modifiers, state, timestamp }

def decoder : Decoder Activation :=
  record.decoder

def members (a : Activation) : List (String × Json) :=
  [("keycode", .natural a.keycode.toNat), ("symbol", a.symbol.toJson),
    ("modifiers", a.modifiers.toJson), ("state", a.state.toJson),
    ("timestamp", .natural a.timestamp.toNat)]

end Activation

namespace Event

inductive Kind
  | activated | locked | unlocked | shown
  deriving DecidableEq, Repr

namespace Kind

def name : Kind → String
  | activated => "activated"
  | locked => "locked"
  | unlocked => "unlocked"
  | shown => "symbol_index_changed"

def all : List Kind :=
  [activated, locked, unlocked, shown]

/-- The kind is a plain name, never an object. -/
def decoder : Decoder Kind :=
  Decoder.variantName (all.map fun kind => (kind.name, kind))

end Kind

def kindKey : String :=
  "event"

def title : String :=
  "internally tagged enum KeyboardEvent"

def nesting : Nat :=
  126

def keyRecord (title : String) (make : KeyId → Event) : Record (Option KeyId) Event where
  title
  blank := none
  fields := [.of "key" id (fun _ a => some a) KeyId.decoder]
  finish d :=
    match d with
    | none => .error 0
    | some key => .ok (make key)

structure ShownDraft where
  group : Option Nat := none
  level : Option Level := none

def shownRecord : Record ShownDraft Event where
  title := "struct variant KeyboardEvent::SymbolIndexChanged"
  blank := {}
  fields := [
    .of "group" (·.group) (fun d a => { d with group := some a }) .index,
    .of "level" (·.level) (fun d a => { d with level := some a }) Level.decoder]
  finish d :=
    match d.group, d.level with
    | none, _ => .error 0
    | _, none => .error 1
    | some group, some level => .ok (.shown group level)

def decodeBody : Kind → Node → Except DocumentError Event
  | .activated, node => (Activation.decoder .kept node).map .activated
  | .locked, node =>
    (keyRecord "struct variant KeyboardEvent::Locked" .locked).decoder .kept node
  | .unlocked, node =>
    (keyRecord "struct variant KeyboardEvent::Unlocked" .unlocked).decoder .kept node
  | .shown, node => shownRecord.decoder .kept node

def takeKind (kind : Option Kind) : Members → Except DocumentError (Kind × Members)
  | .close line =>
    match kind with
    | some kind => .ok (kind, .close line)
    | none => .error (Reading.direct.mismatch line (.missingField kindKey))
  | .broken error => .error error
  | .cons key keyEnd value valueEnd rest =>
    match key.name with
    | .error error => .error error
    | .ok name =>
      if name = kindKey then
        if kind.isSome then .error (Reading.direct.mismatch keyEnd (.duplicateField kindKey))
        else
          match Kind.decoder .direct value with
          | .error error => .error error
          | .ok kind => takeKind (some kind) rest
      else
        match value.keep nesting with
        | .error error => .error error
        | .ok () =>
          match takeKind kind rest with
          | .error error => .error error
          | .ok (kind, rest) => .ok (kind, .cons key keyEnd value valueEnd rest)

/-- Decodes an event from its text. As an array, an event has its kind first. -/
def decode (node : Node) : Except DocumentError Event :=
  match node with
  | .object line members =>
    match takeKind none members with
    | .error error => .error error
    | .ok (kind, members) => decodeBody kind (.object line members)
  | .array _ (.close line) => .error (Reading.direct.mismatch line (.missingField kindKey))
  | .array _ (.broken error) => .error error
  | .array line (.cons item rest) =>
    match Kind.decoder .direct item with
    | .error error => .error error
    | .ok kind =>
      match rest.keep nesting with
      | .error error => .error error
      | .ok () => decodeBody kind (.array line rest)
  | node => .error (node.unexpected .direct title)

def toJson : Event → Json
  | activated a => .object ((kindKey, .text Kind.activated.name) :: a.members)
  | locked key => .object [(kindKey, .text Kind.locked.name), ("key", key.toJson)]
  | unlocked key => .object [(kindKey, .text Kind.unlocked.name), ("key", key.toJson)]
  | shown group level =>
    .object [(kindKey, .text Kind.shown.name), ("group", .natural group), ("level", level.toJson)]

end Event

end ScreenKeyboard
