import ScreenKeyboard.Document.Record
import ScreenKeyboard.Modifier.Basic
import ScreenKeyboard.Symbol.Basic

namespace ScreenKeyboard

def Mask.toJson (m : Mask) : Json :=
  .text m.toText

def Behavior.toJson (b : Behavior) : Json :=
  .text b.name

def Behavior.decoder : Decoder Behavior :=
  Decoder.variant (Behavior.all.map fun b => (b.name, b))

def Category.toJson (c : Category) : Json :=
  .text c.name

def Category.decoder : Decoder Category :=
  Decoder.variant (Category.all.map fun c => (c.name, c))

namespace Symbol

structure Draft where
  name : Option String := none
  label : Option (Option String) := none
  icon : Option (Option String) := none
  tooltip : Option (Option String) := none
  category : Option Category := none
  modifiers : Option Mask := none
  keysym : Option (Option Keysym) := none

def record : Record Draft Symbol where
  title := "struct Symbol"
  blank := {}
  fields := [
    .of "name" (·.name) (fun d a => { d with name := some a }) .text,
    .of "label" (·.label) (fun d a => { d with label := some a }) (.optional .text),
    .of "icon_name" (·.icon) (fun d a => { d with icon := some a }) (.optional .text),
    .of "tooltip" (·.tooltip) (fun d a => { d with tooltip := some a }) (.optional .text),
    .of "category" (·.category) (fun d a => { d with category := some a }) Category.decoder,
    .of "modifier_mask" (·.modifiers) (fun d a => { d with modifiers := some a }) .mask,
    .of "keysym" (·.keysym) (fun d a => { d with keysym := some a }) (.optional .uint32)]
  finish d :=
    match d.name with
    | none => .error 0
    | some name =>
      .ok
        { name
          label := d.label.join
          icon := d.icon.join
          tooltip := d.tooltip.join
          category := d.category.getD .unknown
          modifiers := d.modifiers.getD .empty
          keysym := d.keysym.join }

def decoder : Decoder Symbol :=
  record.decoder

def toJson (s : Symbol) : Json :=
  .object (
    [("name", .text s.name)] ++
    Json.field? "label" .text s.label ++
    Json.field? "icon_name" .text s.icon ++
    Json.field? "tooltip" .text s.tooltip ++
    [("category", s.category.toJson), ("modifier_mask", s.modifiers.toJson)] ++
    Json.field? "keysym" (fun k => .natural k.toNat) s.keysym)

end Symbol

end ScreenKeyboard
