import ScreenKeyboard.Keysym.Basic
import ScreenKeyboard.Layout.Issue

namespace ScreenKeyboard

def Slot.finding? : Slot → Option Finding
  | .keysym text _ _ => if (Keysym.parse? text).isNone then some (.unknownKeysym text) else none
  | .custom name _ _ _ => if name.isEmpty then some .unnamedSymbol else none

def Slot.refusedKeysym? : Slot → Option String
  | .keysym text _ _ => if Keysym.isRefused text then some text else none
  | .custom .. => none

namespace Layout

def keys (layout : Layout) : List (KeyId × KeyLayout) :=
  layout.sections.zipIdx.flatMap fun (s, i) => s.keys.zipIdx.map fun (key, j) => (⟨i, j⟩, key)

def slots (layout : Layout) : List (Place × Slot) :=
  layout.keys.flatMap fun (id, key) =>
    key.groups.zipIdx.flatMap fun (row, group) =>
      row.zipIdx.filterMap fun (slot, level) => slot.map fun slot => (.slot id group level, slot)

def nameFindings (layout : Layout) : List (Finding × Place) :=
  (if layout.name.isEmpty then [(.unnamedLayout, .layoutName)] else []) ++
    layout.sections.zipIdx.flatMap fun (s, i) =>
      (if s.name.isEmpty then [(.unnamedSection, .sectionName i)] else []) ++
      (if s.keys.isEmpty then [(.sectionWithoutKeys s.name, .sectionKeys i)] else [])

/-- Findings about the names of keys, given the names seen before. -/
def keyFindings (seen : List String) : List (KeyId × KeyLayout) → List (Finding × Place)
  | [] => []
  | (id, key) :: rest =>
    if key.name.isEmpty then (.unnamedKey, .keyName id) :: keyFindings seen rest
    else if seen.contains key.name then
      (.repeatedKeyName key.name, .keyName id) :: keyFindings seen rest
    else keyFindings (key.name :: seen) rest

def toggleFindings (layout : Layout) : List (Finding × Place) :=
  if layout.keys.any fun (_, key) => key.name == toggleKeyName then [] else [(.noToggleKey, .sections)]

/-- Findings about outlines; a layout without any need not say which ones its keys have. -/
def outlineFindings (layout : Layout) : List (Finding × Place) :=
  let count := layout.outlines.length
  if count = 0 then []
  else
    layout.keys.filterMap fun (id, key) =>
      if key.outline.toNat < count then none
      else some (.unknownOutline key.outline count, .keyOutline id)

def slotFindings (layout : Layout) : List (Finding × Place) :=
  layout.slots.filterMap fun (place, slot) => slot.finding?.map fun finding => (finding, place)

def findings (layout : Layout) : List (Finding × Place) :=
  layout.nameFindings ++ keyFindings [] layout.keys ++ layout.toggleFindings ++
    layout.outlineFindings ++ layout.slotFindings

def warnings (layout : Layout) : List Issue :=
  layout.findings.map fun (finding, place) => finding.issue .warning place.path

end Layout

end ScreenKeyboard
