import ScreenKeyboard.Document.Symbol
import ScreenKeyboard.Layout.Basic

namespace ScreenKeyboard

namespace Point

structure Draft where
  x : Option Float := none
  y : Option Float := none

def record : Record Draft Point where
  title := "struct Point"
  blank := {}
  fields := [
    .of "x" (·.x) (fun d a => { d with x := some a }) .float,
    .of "y" (·.y) (fun d a => { d with y := some a }) .float]
  finish d :=
    match d.x, d.y with
    | none, _ => .error 0
    | _, none => .error 1
    | some x, some y => .ok { x, y }

def decoder : Decoder Point :=
  record.decoder

def toJson (p : Point) : Json :=
  .object [("x", .number (.real p.x)), ("y", .number (.real p.y))]

end Point

namespace Bounds

structure Draft where
  x : Option Float := none
  y : Option Float := none
  width : Option Float := none
  height : Option Float := none

def record : Record Draft Bounds where
  title := "struct Bounds"
  blank := {}
  fields := [
    .of "x" (·.x) (fun d a => { d with x := some a }) .float,
    .of "y" (·.y) (fun d a => { d with y := some a }) .float,
    .of "width" (·.width) (fun d a => { d with width := some a }) .float,
    .of "height" (·.height) (fun d a => { d with height := some a }) .float]
  finish d :=
    match d.x, d.y, d.width, d.height with
    | none, _, _, _ => .error 0
    | _, none, _, _ => .error 1
    | _, _, none, _ => .error 2
    | _, _, _, none => .error 3
    | some x, some y, some width, some height => .ok { x, y, width, height }

def decoder : Decoder Bounds :=
  record.decoder

def toJson (b : Bounds) : Json :=
  .object
    [("x", .number (.real b.x)), ("y", .number (.real b.y)), ("width", .number (.real b.width)),
      ("height", .number (.real b.height))]

end Bounds

namespace Outline

structure Draft where
  radius : Option Float := none
  points : Option (List Point) := none

def record : Record Draft Outline where
  title := "struct Outline"
  blank := {}
  fields := [
    .of "corner_radius" (·.radius) (fun d a => { d with radius := some a }) .float,
    .of "points" (·.points) (fun d a => { d with points := some a }) (.list Point.decoder)]
  finish d := .ok { radius := d.radius.getD 0, points := d.points.getD [] }

def decoder : Decoder Outline :=
  record.decoder

def toJson (o : Outline) : Json :=
  .object [("corner_radius", .number (.real o.radius)), ("points", .array (o.points.map Point.toJson))]

end Outline

namespace Slot

structure Draft where
  name : Option String := none
  label : Option (Option String) := none
  icon : Option (Option String) := none
  tooltip : Option (Option String) := none

def Draft.face (d : Draft) : Face :=
  ⟨d.label.join, d.icon.join, d.tooltip.join⟩

structure KeysymDraft extends Draft where
  category : Option (Option Category) := none

structure CustomDraft extends Draft where
  category : Option Category := none
  modifiers : Option Mask := none

def keysymRecord : Record KeysymDraft Slot where
  title := "struct variant SymbolDef::Keysym"
  blank := {}
  fields := [
    .of "keysym" (·.name) (fun d a => { d with name := some a }) .text,
    .of "label" (·.label) (fun d a => { d with label := some a }) (.optional .text),
    .of "icon" (·.icon) (fun d a => { d with icon := some a }) (.optional .text),
    .of "tooltip" (·.tooltip) (fun d a => { d with tooltip := some a }) (.optional .text),
    .of "category" (·.category) (fun d a => { d with category := some a })
      (.optional Category.decoder)]
  finish d :=
    match d.name with
    | none => .error 0
    | some name => .ok (.keysym name d.face d.category.join)

def customRecord : Record CustomDraft Slot where
  title := "struct variant SymbolDef::Custom"
  blank := {}
  fields := [
    .of "name" (·.name) (fun d a => { d with name := some a }) .text,
    .of "label" (·.label) (fun d a => { d with label := some a }) (.optional .text),
    .of "icon" (·.icon) (fun d a => { d with icon := some a }) (.optional .text),
    .of "tooltip" (·.tooltip) (fun d a => { d with tooltip := some a }) (.optional .text),
    .of "category" (·.category) (fun d a => { d with category := some a }) Category.decoder,
    .of "modifiers" (·.modifiers) (fun d a => { d with modifiers := some a }) .mask]
  finish d :=
    match d.name with
    | none => .error 0
    | some name =>
      .ok (.custom name d.face (d.category.getD .unknown) (d.modifiers.getD .empty))

/-- The first kind of slot that these members fit. -/
def ofMembers? (members : Members) : Option Slot :=
  match keysymRecord.decodeMembers .tried members with
  | .ok slot => some slot
  | .error _ =>
    match customRecord.decodeMembers .tried members with
    | .ok slot => some slot
    | .error _ => none

def decoder (depth : Nat) : Decoder Slot :=
  fun _ node =>
    match node.keep depth with
    | .error error => .error error
    | .ok () =>
      let slot :=
        match node with
        | .object _ members => ofMembers? members
        | _ => none
      match slot with
      | some slot => .ok slot
      | none => .error ⟨.unsuitable (.noVariant "SymbolDef"), 0⟩

def nestingAlone : Nat :=
  127

def nestingInLayout : Nat :=
  120

def toJson : Slot → Json
  | keysym name face category =>
    .object (
      [("keysym", .text name)] ++
      Json.field? "label" .text face.label ++
      Json.field? "icon" .text face.icon ++
      Json.field? "tooltip" .text face.tooltip ++
      Json.field? "category" Category.toJson category)
  | custom name face category modifiers =>
    .object (
      [("name", .text name)] ++
      Json.field? "label" .text face.label ++
      Json.field? "icon" .text face.icon ++
      Json.field? "tooltip" .text face.tooltip ++
      [("category", category.toJson), ("modifiers", modifiers.toJson)])

end Slot

namespace KeyLayout

structure Draft where
  name : Option String := none
  keycode : Option UInt32 := none
  outline : Option UInt32 := none
  groups : Option (List (List (Option Slot))) := none

def record : Record Draft KeyLayout where
  title := "struct KeyDef"
  blank := {}
  fields := [
    .of "name" (·.name) (fun d a => { d with name := some a }) .text,
    .of "keycode" (·.keycode) (fun d a => { d with keycode := some a }) .uint32,
    .of "oref" (·.outline) (fun d a => { d with outline := some a }) .uint32,
    .of "groups" (·.groups) (fun d a => { d with groups := some a })
      (.list (.list (.optional (Slot.decoder Slot.nestingInLayout))))]
  finish d :=
    match d.name with
    | none => .error 0
    | some name =>
      .ok
        { name
          keycode := d.keycode.getD 0
          outline := d.outline.getD 0
          groups := d.groups.getD [] }

def decoder : Decoder KeyLayout :=
  record.decoder

def toJson (key : KeyLayout) : Json :=
  .object
    [("name", .text key.name), ("keycode", .natural key.keycode.toNat),
      ("oref", .natural key.outline.toNat),
      ("groups", .array (key.groups.map fun row => .array (row.map (Json.optional Slot.toJson))))]

end KeyLayout

namespace SectionLayout

structure Draft where
  name : Option String := none
  angle : Option Int32 := none
  keys : Option (List KeyLayout) := none

def record : Record Draft SectionLayout where
  title := "struct SectionDef"
  blank := {}
  fields := [
    .of "name" (·.name) (fun d a => { d with name := some a }) .text,
    .of "angle" (·.angle) (fun d a => { d with angle := some a }) .int32,
    .of "keys" (·.keys) (fun d a => { d with keys := some a }) (.list KeyLayout.decoder)]
  finish d :=
    match d.name with
    | none => .error 0
    | some name => .ok { name, angle := d.angle.getD 0, keys := d.keys.getD [] }

def decoder : Decoder SectionLayout :=
  record.decoder

def toJson (s : SectionLayout) : Json :=
  .object
    [("name", .text s.name), ("angle", .number (.ofInt s.angle.toInt)),
      ("keys", .array (s.keys.map KeyLayout.toJson))]

end SectionLayout

namespace Layout

structure Draft where
  name : Option String := none
  numLockMask : Option Mask := none
  altGrMask : Option Mask := none
  outlines : Option (List Outline) := none
  sections : Option (List SectionLayout) := none

def record : Record Draft Layout where
  title := "struct LayoutDef"
  blank := {}
  fields := [
    .of "name" (·.name) (fun d a => { d with name := some a }) .text,
    .of "num_lock_mask" (·.numLockMask) (fun d a => { d with numLockMask := some a }) .mask,
    .of "alt_gr_mask" (·.altGrMask) (fun d a => { d with altGrMask := some a }) .mask,
    .of "outlines" (·.outlines) (fun d a => { d with outlines := some a }) (.list Outline.decoder),
    .of "sections" (·.sections) (fun d a => { d with sections := some a })
      (.list SectionLayout.decoder)]
  finish d :=
    match d.name with
    | none => .error 0
    | some name =>
      .ok
        { name
          numLockMask := d.numLockMask.getD .empty
          altGrMask := d.altGrMask.getD .empty
          outlines := d.outlines.getD []
          sections := d.sections.getD [] }

def decoder : Decoder Layout :=
  record.decoder

def toJson (layout : Layout) : Json :=
  .object
    [("name", .text layout.name), ("num_lock_mask", layout.numLockMask.toJson),
      ("alt_gr_mask", layout.altGrMask.toJson),
      ("outlines", .array (layout.outlines.map Outline.toJson)),
      ("sections", .array (layout.sections.map SectionLayout.toJson))]

def ofText (text : String) : Except DocumentError Layout :=
  (Document.ofText text).decode (decoder .direct)

end Layout

end ScreenKeyboard
