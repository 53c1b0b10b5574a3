import ScreenKeyboard.Config.Basic
import ScreenKeyboard.Document.Symbol

namespace ScreenKeyboard.Config

structure Draft where
  version : Option Nat := none
  layout : Option String := none
  layoutDirectory : Option (Option String) := none
  behavior : Option Behavior := none
  numLockMask : Option (Option Mask) := none
  altGrMask : Option (Option Mask) := none

def record : Record Draft Config where
  title := "struct Config"
  blank := {}
  fields := [
    .of "version" (·.version) (fun d a => { d with version := some a }) (.natural "u64"),
    .of "layout" (·.layout) (fun d a => { d with layout := some a }) .text,
    .of "layout_dir" (·.layoutDirectory) (fun d a => { d with layoutDirectory := some a })
      (.optional .path),
    .of "modifier_behavior" (·.behavior) (fun d a => { d with behavior := some a })
      Behavior.decoder,
    .of "num_lock_mask" (·.numLockMask) (fun d a => { d with numLockMask := some a })
      (.optional .mask),
    .of "alt_gr_mask" (·.altGrMask) (fun d a => { d with altGrMask := some a }) (.optional .mask)]
  finish d :=
    .ok
      { version := d.version.getD standard.version
        layout := d.layout.getD standard.layout
        layoutDirectory := d.layoutDirectory.getD standard.layoutDirectory
        behavior := d.behavior.getD standard.behavior
        numLockMask := d.numLockMask.getD standard.numLockMask
        altGrMask := d.altGrMask.getD standard.altGrMask }

def decoder : Decoder Config :=
  record.decoder

def toJson (config : Config) : Json :=
  .object (
    [("version", .natural config.version), ("layout", .text config.layout)] ++
    Json.field? "layout_dir" .text config.layoutDirectory ++
    [("modifier_behavior", config.behavior.toJson)] ++
    Json.field? "num_lock_mask" Mask.toJson config.numLockMask ++
    Json.field? "alt_gr_mask" Mask.toJson config.altGrMask)

def ofText (text : String) : Except DocumentError Config :=
  (Document.ofText text).decode (decoder .direct)

end ScreenKeyboard.Config
