import ScreenKeyboard.Document.Config
import ScreenKeyboard.Proofs.Document.Layouts

namespace ScreenKeyboard

theorem Behavior.reads (b : Behavior) : Behavior.decoder.Reads b b.toJson :=
  Decoder.reads_variant (by cases b <;> decide)

namespace Config

def IsWordSized (config : Config) : Prop :=
  config.version ≤ Decoder.wordLimit

instance (config : Config) : Decidable config.IsWordSized :=
  inferInstanceAs (Decidable (_ ≤ _))

theorem reads {config : Config} (h : config.IsWordSized) : decoder.Reads config config.toJson := by
  have hpath : ∀ a, (Decoder.path.optional).Reads (some a) (.text a) := fun a =>
    (Decoder.reads_parsed rfl).optional nofun
  have hmask : ∀ m : Mask, (Decoder.mask.optional).Reads (some m) m.toJson := fun m =>
    (Decoder.reads_mask m).optional nofun
  let d₁ : Draft := { version := some config.version }
  let d₂ : Draft := { d₁ with layout := some config.layout }
  let d₃ : Draft := { d₂ with layoutDirectory := config.layoutDirectory.map some }
  let d₄ : Draft := { d₃ with behavior := some config.behavior }
  let d₅ : Draft := { d₄ with numLockMask := config.numLockMask.map some }
  let d₆ : Draft := { d₅ with altGrMask := config.altGrMask.map some }
  have h₁ : Gathers record.fields {} [("version", .natural config.version)] d₁ :=
    .field rfl rfl (Decoder.reads_natural h) rfl
  have h₂ : Gathers record.fields d₁ [("layout", .text config.layout)] d₂ :=
    .field rfl rfl (Decoder.reads_text _) rfl
  have h₃ : Gathers record.fields d₂ (Json.field? "layout_dir" .text config.layoutDirectory) d₃ :=
    .field? (fun o => { d₂ with layoutDirectory := o.map some }) _ rfl rfl hpath (by rintro ⟨⟩ <;> rfl)
  have h₄ : Gathers record.fields d₃ [("modifier_behavior", config.behavior.toJson)] d₄ :=
    .field rfl rfl config.behavior.reads rfl
  have h₅ : Gathers record.fields d₄ (Json.field? "num_lock_mask" Mask.toJson config.numLockMask) d₅ :=
    .field? (fun o => { d₄ with numLockMask := o.map some }) _ rfl rfl hmask (by rintro ⟨⟩ <;> rfl)
  have h₆ : Gathers record.fields d₅ (Json.field? "alt_gr_mask" Mask.toJson config.altGrMask) d₆ :=
    .field? (fun o => { d₅ with altGrMask := o.map some }) _ rfl rfl hmask (by rintro ⟨⟩ <;> rfl)
  apply Record.reads (((((h₁.append h₂).append h₃).append h₄).append h₅).append h₆)
  -- A config that leaves something unset gets it from the standard config, where it is unset too.
  have hnone : ∀ {α : Type} (o : Option α), (o.map some).getD none = o := fun o => by cases o <;> rfl
  simp [record, standard, d₆, d₅, d₄, d₃, d₂, d₁, hnone]

theorem isWhole_toJson {config : Config} (h : config.IsWordSized) : config.toJson.IsWhole := by
  have htext : ∀ a, (Json.text a).IsWhole := Json.isWhole_text
  rw [toJson, Json.IsWhole, Json.membersAreWhole_iff]
  simp only [List.forall_mem_append, Json.forall_mem_field?, List.forall_mem_cons]
  exact ⟨⟨⟨⟨⟨Json.isWhole_natural h, htext _, List.forall_mem_nil _⟩, fun a _ => htext a⟩, htext _,
    List.forall_mem_nil _⟩, fun m _ => htext m.toText⟩, fun m _ => htext m.toText⟩

end Config

namespace Document

/-- What a decoder reads back from the value of a document it reads back from its text. -/
theorem decode_ofText_toText {α : Type} {decoder : Decoder α} {a : α} {j : Json}
    (h : decoder.Reads a j) (hj : j.IsWhole) (r : Reading) :
    (ofText j.toText).decode (decoder r) = .ok a := by
  rw [ofText_toText hj, decode]
  simp only [h r 1]

/-- Sections and configs are read back from their text: empty slots stay empty, slots of either kind
keep their kind, and what a config leaves unset stays unset. -/
theorem written_documents_are_read_back :
    (∀ s : SectionLayout, (ofText s.toJson.toText).decode (SectionLayout.decoder .direct) = .ok s) ∧
    ∀ config : Config, config.IsWordSized → Config.ofText config.toJson.toText = .ok config :=
  ⟨fun s => decode_ofText_toText s.reads s.isWhole_toJson .direct,
    fun _ h => decode_ofText_toText (Config.reads h) (Config.isWhole_toJson h) .direct⟩

def sampleSection : SectionLayout where
  name := "\"\\\n"
  angle := -0x80000000
  keys := [
    { name := "", keycode := 0xFFFFFFFF },
    { name := "AC01"
      outline := 7
      groups := [
        [none, some (.keysym "" { label := some "\x01", tooltip := some "" } (some .unknown))],
        [],
        [some (.custom "keysym" { label := some "é", icon := some "|" } .user4 ⟨0x80000201⟩), none,
          some (.ofKeysym "a")]] }]

def sampleConfig : Config where
  version := Decoder.wordLimit
  layout := ""
  layoutDirectory := some "/tmp/\t"
  behavior := .none
  numLockMask := some ⟨0xFFFFFFFF⟩
  altGrMask := some .empty

theorem samples_are_read_back :
    (ofText sampleSection.toJson.toText).decode (SectionLayout.decoder .direct) = .ok sampleSection ∧
    sampleConfig.IsWordSized ∧ Config.ofText sampleConfig.toJson.toText = .ok sampleConfig ∧
    Config.standard.IsWordSized ∧
      Config.ofText Config.standard.toJson.toText = .ok Config.standard := by
  obtain ⟨hsection, hconfig⟩ := written_documents_are_read_back
  have hsample : sampleConfig.IsWordSized := by decide
  have hstandard : Config.standard.IsWordSized := by decide
  exact ⟨hsection _, hsample, hconfig _ hsample, hstandard, hconfig _ hstandard⟩

end Document

end ScreenKeyboard
