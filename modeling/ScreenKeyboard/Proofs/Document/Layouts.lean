import ScreenKeyboard.Document.Layout
import ScreenKeyboard.Proofs.Document.Records

namespace ScreenKeyboard

namespace Slot

def members : Slot → List (String × Json)
  | keysym name face category =>
    [("keysym", .text name)] ++ Json.field? "label" .text face.label ++
      Json.field? "icon" .text face.icon ++ Json.field? "tooltip" .text face.tooltip ++
      Json.field? "category" Category.toJson category
  | custom name face category modifiers =>
    [("name", .text name)] ++ Json.field? "label" .text face.label ++
      Json.field? "icon" .text face.icon ++ Json.field? "tooltip" .text face.tooltip ++
      [("category", category.toJson), ("modifiers", modifiers.toJson)]

theorem toJson_eq (slot : Slot) : slot.toJson = .object slot.members := by
  cases slot <;> rfl

theorem decodeMembers_keysym (name : String) (face : Face) (category : Option Category) (r : Reading)
    (line : Nat) :
    keysymRecord.decodeMembers r (Json.memberNodes line (keysym name face category).members) =
      .ok (.keysym name face category) := by
  have hcategory : ∀ c : Category, (Category.decoder.optional).Reads (some c) c.toJson := fun c =>
    c.reads.optional nofun
  -- The draft as one member after the other fills it.
  let d₁ : KeysymDraft := { name := some name }
  let d₂ : KeysymDraft := { d₁ with label := face.label.map some }
  let d₃ : KeysymDraft := { d₂ with icon := face.icon.map some }
  let d₄ : KeysymDraft := { d₃ with tooltip := face.tooltip.map some }
  let d₅ : KeysymDraft := { d₄ with category := category.map some }
  have h₁ : Gathers keysymRecord.fields {} [("keysym", .text name)] d₁ :=
    .field rfl rfl (Decoder.reads_text _) rfl
  have h₂ : Gathers keysymRecord.fields d₁ (Json.field? "label" .text face.label) d₂ :=
    .field? (fun o => { d₁ with label := o.map some }) _ rfl rfl Decoder.reads_optional_text
      (by rintro ⟨⟩ <;> rfl)
  have h₃ : Gathers keysymRecord.fields d₂ (Json.field? "icon" .text face.icon) d₃ :=
    .field? (fun o => { d₂ with icon := o.map some }) _ rfl rfl Decoder.reads_optional_text
      (by rintro ⟨⟩ <;> rfl)
  have h₄ : Gathers keysymRecord.fields d₃ (Json.field? "tooltip" .text face.tooltip) d₄ :=
    .field? (fun o => { d₃ with tooltip := o.map some }) _ rfl rfl Decoder.reads_optional_text
      (by rintro ⟨⟩ <;> rfl)
  have h₅ : Gathers keysymRecord.fields d₄ (Json.field? "category" Category.toJson category) d₅ :=
    .field? (fun o => { d₄ with category := o.map some }) _ rfl rfl hcategory (by rintro ⟨⟩ <;> rfl)
  have hfinish : keysymRecord.finish d₅ = .ok (.keysym name face category) := by
    simp [keysymRecord, Draft.face, d₅, d₄, d₃, d₂, d₁]
  exact Record.decodeMembers_eq ((((h₁.append h₂).append h₃).append h₄).append h₅) hfinish r line

theorem name_eq_of_set {field : Field KeysymDraft} (hfield : field ∈ keysymRecord.fields)
    (hname : field.name ≠ "keysym") {r : Reading} {draft next : KeysymDraft} {node : Node}
    (h : field.set r draft node = .ok next) : next.name = draft.name := by
  simp only [keysymRecord, List.mem_cons, List.not_mem_nil, or_false] at hfield
  rcases hfield with rfl | rfl | rfl | rfl | rfl
  · exact absurd rfl hname
  all_goals
    obtain ⟨_, rfl⟩ := Field.exists_eq_put h
    rfl

/-- Without a member for the keysym, no members are those of a slot of the first kind. -/
theorem decodeMembers_keysym_ne_ok {members : List (String × Json)}
    (h : ∀ member ∈ members, member.1 ≠ "keysym") (r : Reading) (line : Nat) (slot : Slot) :
    keysymRecord.decodeMembers r (Json.memberNodes line members) ≠ .ok slot := by
  intro hread
  rw [Record.decodeMembers] at hread
  split at hread
  next => cases hread
  next last stop hlast =>
    have hname : last.name = none := by
      refine Record.of_gatherMembers (P := fun d => d.name = none) ?_ hlast rfl
      intro member hmember field hfield hsame draft node next hdraft hset
      exact (name_eq_of_set hfield (hsame ▸ h member hmember) hset).trans hdraft
    simp [keysymRecord, hname] at hread

theorem decodeMembers_custom (name : String) (face : Face) (category : Category) (modifiers : Mask)
    (r : Reading) (line : Nat) :
    customRecord.decodeMembers r (Json.memberNodes line (custom name face category modifiers).members) =
      .ok (.custom name face category modifiers) := by
  let d₁ : CustomDraft := { name := some name }
  let d₂ : CustomDraft := { d₁ with label := face.label.map some }
  let d₃ : CustomDraft := { d₂ with icon := face.icon.map some }
  let d₄ : CustomDraft := { d₃ with tooltip := face.tooltip.map some }
  let d₅ : CustomDraft := { d₄ with category := some category }
  let d₆ : CustomDraft := { d₅ with modifiers := some modifiers }
  have h₁ : Gathers customRecord.fields {} [("name", .text name)] d₁ :=
    .field rfl rfl (Decoder.reads_text _) rfl
  have h₂ : Gathers customRecord.fields d₁ (Json.field? "label" .text face.label) d₂ :=
    .field? (fun o => { d₁ with label := o.map some }) _ rfl rfl Decoder.reads_optional_text
      (by rintro ⟨⟩ <;> rfl)
  have h₃ : Gathers customRecord.fields d₂ (Json.field? "icon" .text face.icon) d₃ :=
    .field? (fun o => { d₂ with icon := o.map some }) _ rfl rfl Decoder.reads_optional_text
      (by rintro ⟨⟩ <;> rfl)
  have h₄ : Gathers customRecord.fields d₃ (Json.field? "tooltip" .text face.tooltip) d₄ :=
    .field? (fun o => { d₃ with tooltip := o.map some }) _ rfl rfl Decoder.reads_optional_text
      (by rintro ⟨⟩ <;> rfl)
  have h₅ : Gathers customRecord.fields d₄ [("category", category.toJson)] d₅ :=
    .field rfl rfl category.reads rfl
  have h₆ : Gathers customRecord.fields d₅ [("modifiers", modifiers.toJson)] d₆ :=
    .field rfl rfl (Decoder.reads_mask _) rfl
  have hfinish : customRecord.finish d₆ = .ok (.custom name face category modifiers) := by
    simp [customRecord, Draft.face, d₆, d₅, d₄, d₃, d₂, d₁]
  exact Record.decodeMembers_eq ((((h₁.append h₂).append h₃).append h₄).append (h₅.append h₆)) hfinish
    r line

/-- The first kind that the members of a slot fit is the kind of the slot. -/
theorem ofMembers?_members (slot : Slot) (line : Nat) :
    ofMembers? (Json.memberNodes line slot.members) = some slot := by
  cases slot with
  | keysym name face category => simp only [ofMembers?, decodeMembers_keysym]
  | custom name face category modifiers =>
    have hno : ∀ member ∈ (custom name face category modifiers).members, member.1 ≠ "keysym" := by
      simp only [members, List.forall_mem_append, Json.forall_mem_field?, List.forall_mem_cons]
      simp
    unfold ofMembers?
    split
    next hslot => exact absurd hslot (decodeMembers_keysym_ne_ok hno _ _ _)
    next => simp only [decodeMembers_custom]

theorem isFlat_toJson (slot : Slot) : slot.toJson.IsFlat := by
  have htext : ∀ a, (Json.text a).depth = 0 ∧ (Json.text a).IsWhole := fun a =>
    ⟨by rw [Json.depth], Json.isWhole_text a⟩
  refine ⟨slot.members, slot.toJson_eq, ?_⟩
  cases slot with
  | keysym name face category =>
    simp only [members, List.forall_mem_append, Json.forall_mem_field?, List.forall_mem_singleton]
    exact ⟨⟨⟨⟨htext _, fun a _ => htext a⟩, fun a _ => htext a⟩, fun a _ => htext a⟩,
      fun _ _ => htext _⟩
  | custom name face category modifiers =>
    simp only [members, List.forall_mem_append, Json.forall_mem_field?, List.forall_mem_singleton,
      List.forall_mem_cons]
    exact ⟨⟨⟨⟨htext _, fun a _ => htext a⟩, fun a _ => htext a⟩, fun a _ => htext a⟩, htext _,
      htext _⟩

theorem reads {depth : Nat} (h : 1 ≤ depth) (slot : Slot) : (decoder depth).Reads slot slot.toJson := by
  intro r line
  have hkeep := Json.keep_node line slot.toJson depth (Nat.le_trans slot.isFlat_toJson.depth_le h)
  rw [toJson_eq, Json.node] at hkeep ⊢
  simp only [decoder, hkeep, ofMembers?_members]

end Slot

theorem KeyLayout.reads (key : KeyLayout) : KeyLayout.decoder.Reads key key.toJson := by
  have hnull : ∀ slot : Slot, slot.toJson ≠ .null := fun slot => by
    rw [slot.toJson_eq]
    exact nofun
  have hslot := Decoder.reads_optional hnull (Slot.reads (show 1 ≤ Slot.nestingInLayout by decide))
  have hgroups := Decoder.reads_list (Decoder.reads_list hslot) key.groups
  let d₁ : Draft := { name := some key.name }
  let d₂ : Draft := { d₁ with keycode := some key.keycode }
  let d₃ : Draft := { d₂ with outline := some key.outline }
  let d₄ : Draft := { d₃ with groups := some key.groups }
  have h₁ : Gathers record.fields {} [("name", .text key.name)] d₁ :=
    .field rfl rfl (Decoder.reads_text _) rfl
  have h₂ : Gathers record.fields d₁ [("keycode", .natural key.keycode.toNat)] d₂ :=
    .field rfl rfl (Decoder.reads_uint32 _) rfl
  have h₃ : Gathers record.fields d₂ [("oref", .natural key.outline.toNat)] d₃ :=
    .field rfl rfl (Decoder.reads_uint32 _) rfl
  have h₄ : Gathers record.fields d₃ [("groups", .array (key.groups.map fun row =>
      .array (row.map (Json.optional Slot.toJson))))] d₄ := .field rfl rfl hgroups rfl
  exact Record.reads (((h₁.append h₂).append h₃).append h₄) rfl

theorem SectionLayout.reads (s : SectionLayout) : SectionLayout.decoder.Reads s s.toJson := by
  let d₁ : Draft := { name := some s.name }
  let d₂ : Draft := { d₁ with angle := some s.angle }
  let d₃ : Draft := { d₂ with keys := some s.keys }
  have h₁ : Gathers record.fields {} [("name", .text s.name)] d₁ :=
    .field rfl rfl (Decoder.reads_text _) rfl
  have h₂ : Gathers record.fields d₁ [("angle", .number (.ofInt s.angle.toInt))] d₂ :=
    .field rfl rfl (Decoder.reads_int32 _) rfl
  have h₃ : Gathers record.fields d₂ [("keys", .array (s.keys.map KeyLayout.toJson))] d₃ :=
    .field rfl rfl (Decoder.reads_list KeyLayout.reads _) rfl
  exact Record.reads ((h₁.append h₂).append h₃) rfl

theorem KeyLayout.isWhole_toJson (key : KeyLayout) : key.toJson.IsWhole := by
  have hslot := fun slot : Slot => slot.isFlat_toJson.isWhole
  have hgroups := Json.isWhole_array_map (Json.isWhole_array_map (Json.isWhole_optional hslot))
    key.groups
  rw [toJson, Json.IsWhole, Json.membersAreWhole_iff]
  simp [Json.isWhole_text, Json.isWhole_uint32, hgroups]

theorem SectionLayout.isWhole_toJson (s : SectionLayout) : s.toJson.IsWhole := by
  have hkeys := Json.isWhole_array_map KeyLayout.isWhole_toJson s.keys
  rw [toJson, Json.IsWhole, Json.membersAreWhole_iff]
  simp [Json.isWhole_text, Json.isWhole_int32, hkeys]

end ScreenKeyboard
