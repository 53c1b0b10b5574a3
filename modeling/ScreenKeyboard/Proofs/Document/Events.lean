import ScreenKeyboard.CommandLine.Program
import ScreenKeyboard.Proofs.Document.Records

namespace ScreenKeyboard

theorem Level.reads (level : Level) : Level.decoder.Reads level level.toJson :=
  Decoder.reads_variant (by cases level <;> decide)

theorem KeyState.reads (state : KeyState) : KeyState.decoder.Reads state state.toJson :=
  Decoder.reads_variant (by cases state <;> decide)

theorem Symbol.reads (s : Symbol) : Symbol.decoder.Reads s s.toJson := by
  have hkeysym : ∀ k : Keysym, (Decoder.uint32.optional).Reads (some k) (.natural k.toNat) := fun k =>
    (Decoder.reads_uint32 k).optional nofun
  -- The draft as one member after the other fills it.
  let d₁ : Draft := { name := some s.name }
  let d₂ : Draft := { d₁ with label := s.label.map some }
  let d₃ : Draft := { d₂ with icon := s.icon.map some }
  let d₄ : Draft := { d₃ with tooltip := s.tooltip.map some }
  let d₅ : Draft := { d₄ with category := some s.category }
  let d₆ : Draft := { d₅ with modifiers := some s.modifiers }
  let d₇ : Draft := { d₆ with keysym := s.keysym.map some }
  have h₁ : Gathers record.fields {} [("name", .text s.name)] d₁ :=
    .field rfl rfl (Decoder.reads_text _) rfl
  have h₂ : Gathers record.fields d₁ (Json.field? "label" .text s.label) d₂ :=
    .field? (fun o => { d₁ with label := o.map some }) _ rfl rfl Decoder.reads_optional_text
      (by rintro ⟨⟩ <;> rfl)
  have h₃ : Gathers record.fields d₂ (Json.field? "icon_name" .text s.icon) d₃ :=
    .field? (fun o => { d₂ with icon := o.map some }) _ rfl rfl Decoder.reads_optional_text
      (by rintro ⟨⟩ <;> rfl)
  have h₄ : Gathers record.fields d₃ (Json.field? "tooltip" .text s.tooltip) d₄ :=
    .field? (fun o => { d₃ with tooltip := o.map some }) _ rfl rfl Decoder.reads_optional_text
      (by rintro ⟨⟩ <;> rfl)
  have h₅ : Gathers record.fields d₄ [("category", s.category.toJson)] d₅ :=
    .field rfl rfl s.category.reads rfl
  have h₆ : Gathers record.fields d₅ [("modifier_mask", s.modifiers.toJson)] d₆ :=
    .field rfl rfl (Decoder.reads_mask _) rfl
  have h₇ : Gathers record.fields d₆ (Json.field? "keysym" (fun k => .natural k.toNat) s.keysym) d₇ :=
    .field? (fun o => { d₆ with keysym := o.map some }) _ rfl rfl hkeysym (by rintro ⟨⟩ <;> rfl)
  apply Record.reads (((((h₁.append h₂).append h₃).append h₄).append (h₅.append h₆)).append h₇)
  simp [record, d₇, d₆, d₅, d₄, d₃, d₂, d₁]

def KeyId.IsWordSized (id : KeyId) : Prop :=
  id.sectionIndex ≤ Decoder.wordLimit ∧ id.keyIndex ≤ Decoder.wordLimit

instance (id : KeyId) : Decidable id.IsWordSized :=
  inferInstanceAs (Decidable (_ ∧ _))

theorem KeyId.reads {id : KeyId} (h : id.IsWordSized) : KeyId.decoder.Reads id id.toJson := by
  have hsection : Gathers record.fields {} [("section", .natural id.sectionIndex)]
      { sectionIndex := some id.sectionIndex } := .field rfl rfl (Decoder.reads_index h.1) rfl
  have hkey : Gathers record.fields { sectionIndex := some id.sectionIndex }
      [("index", .natural id.keyIndex)]
      { sectionIndex := some id.sectionIndex, keyIndex := some id.keyIndex } :=
    .field rfl rfl (Decoder.reads_index h.2) rfl
  exact Record.reads (hsection.append hkey) rfl

theorem Activation.reads (a : Activation) : Activation.decoder.Reads a (.object a.members) := by
  let d₁ : Draft := { keycode := some a.keycode }
  let d₂ : Draft := { d₁ with symbol := some a.symbol }
  let d₃ : Draft := { d₂ with modifiers := some a.modifiers }
  let d₄ : Draft := { d₃ with state := some a.state }
  let d₅ : Draft := { d₄ with timestamp := some a.timestamp }
  have h₁ : Gathers record.fields {} [("keycode", .natural a.keycode.toNat)] d₁ :=
    .field rfl rfl (Decoder.reads_uint32 _) rfl
  have h₂ : Gathers record.fields d₁ [("symbol", a.symbol.toJson)] d₂ :=
    .field rfl rfl a.symbol.reads rfl
  have h₃ : Gathers record.fields d₂ [("modifiers", a.modifiers.toJson)] d₃ :=
    .field rfl rfl (Decoder.reads_mask _) rfl
  have h₄ : Gathers record.fields d₃ [("state", a.state.toJson)] d₄ :=
    .field rfl rfl a.state.reads rfl
  have h₅ : Gathers record.fields d₄ [("timestamp", .natural a.timestamp.toNat)] d₅ :=
    .field rfl rfl (Decoder.reads_uint32 _) rfl
  exact Record.reads ((((h₁.append h₂).append h₃).append h₄).append h₅) rfl

/-- The numbers of the event, where they are not those of words, are numbers of 64 bits. -/
def Event.IsWordSized : Event → Prop
  | .activated _ => True
  | .locked key | .unlocked key => key.IsWordSized
  | .shown group _ => group ≤ Decoder.wordLimit

instance (e : Event) : Decidable e.IsWordSized :=
  match e with
  | .activated _ => isTrue trivial
  | .locked key | .unlocked key => inferInstanceAs (Decidable key.IsWordSized)
  | .shown group _ => inferInstanceAs (Decidable (group ≤ Decoder.wordLimit))

theorem Symbol.isFlat_toJson (s : Symbol) : s.toJson.IsFlat := by
  have htext : ∀ a, (Json.text a).depth = 0 ∧ (Json.text a).IsWhole := fun a =>
    ⟨by rw [Json.depth], Json.isWhole_text a⟩
  have hkeysym : ∀ k : Keysym, (Json.natural k.toNat).depth = 0 ∧ (Json.natural k.toNat).IsWhole :=
    fun k => ⟨by simp [Json.natural, Json.depth], Json.isWhole_uint32 k⟩
  refine ⟨_, rfl, ?_⟩
  simp only [List.forall_mem_append, Json.forall_mem_field?, List.forall_mem_cons]
  exact ⟨⟨⟨⟨⟨⟨htext _, List.forall_mem_nil _⟩, fun a _ => htext a⟩, fun a _ => htext a⟩,
    fun a _ => htext a⟩, htext _, htext _, List.forall_mem_nil _⟩, fun k _ => hkeysym k⟩

theorem KeyId.isWhole_toJson {id : KeyId} (h : id.IsWordSized) : id.toJson.IsWhole := by
  rw [toJson, Json.IsWhole, Json.membersAreWhole_iff]
  simp [Json.isWhole_natural h.1, Json.isWhole_natural h.2]

namespace Event

theorem Kind.reads (kind : Kind) : Kind.decoder.Reads kind (.text kind.name) :=
  Decoder.reads_parsed (by cases kind <;> rfl)

/-- All members but the kind are kept as they are. -/
theorem takeKind_memberNodes (kind : Kind) (line : Nat) {members : List (String × Json)}
    (hname : ∀ member ∈ members, member.1 ≠ kindKey)
    (hdepth : ∀ member ∈ members, member.2.depth ≤ nesting) :
    takeKind (some kind) (Json.memberNodes line members) =
      .ok (kind, Json.memberNodes line members) := by
  induction members with
  | nil => rfl
  | cons member members ih =>
    obtain ⟨name, value⟩ := member
    rw [List.forall_mem_cons] at hname hdepth
    have hvalue := Json.keep_node line value nesting hdepth.1
    simp only [Json.memberNodes, takeKind, Node.name, Lexeme.kept_ok, if_neg hname.1, hvalue,
      ih hname.2 hdepth.2]

theorem decode_object (kind : Kind) (line : Nat) {members : List (String × Json)}
    (hname : ∀ member ∈ members, member.1 ≠ kindKey)
    (hdepth : ∀ member ∈ members, member.2.depth ≤ nesting) :
    decode ((Json.object ((kindKey, .text kind.name) :: members)).node line) =
      decodeBody kind ((Json.object members).node line) := by
  have hkind : Kind.decoder .direct (.text line (.ok kind.name)) = .ok kind := kind.reads .direct line
  have hrest := takeKind_memberNodes kind line hname hdepth
  simp only [Json.node, Json.memberNodes, decode, takeKind, Node.name, Lexeme.kept_ok,
    Option.isSome_none, Bool.false_eq_true, ↓reduceIte, hkind, hrest]

theorem reads_keyRecord (title : String) (make : KeyId → Event) {id : KeyId} (h : id.IsWordSized) :
    (keyRecord title make).decoder.Reads (make id) (.object [("key", id.toJson)]) := by
  have hkey : Gathers (keyRecord title make).fields none [("key", id.toJson)] (some id) :=
    .field rfl rfl (KeyId.reads h) rfl
  exact Record.reads hkey rfl

theorem reads_shownRecord {group : Nat} (h : group ≤ Decoder.wordLimit) (level : Level) :
    shownRecord.decoder.Reads (.shown group level)
      (.object [("group", .natural group), ("level", level.toJson)]) := by
  have hgroup : Gathers shownRecord.fields {} [("group", .natural group)] { group := some group } :=
    .field rfl rfl (Decoder.reads_index h) rfl
  have hlevel : Gathers shownRecord.fields { group := some group } [("level", level.toJson)]
      { group := some group, level := some level } := .field rfl rfl level.reads rfl
  exact Record.reads (hgroup.append hlevel) rfl

theorem decode_keyEvent {kind : Kind} {title : String} {make : KeyId → Event}
    (hbody : ∀ node, decodeBody kind node = (keyRecord title make).decoder .kept node) {id : KeyId}
    (h : id.IsWordSized) (line : Nat) :
    decode ((Json.object [(kindKey, .text kind.name), ("key", id.toJson)]).node line) =
      .ok (make id) := by
  rw [decode_object, hbody]
  · exact reads_keyRecord title make h .kept line
  · simp [kindKey]
  · simp [KeyId.toJson, Json.depth, Json.membersDepth, Json.natural, nesting]

theorem decode_node_toJson {e : Event} (h : e.IsWordSized) (line : Nat) :
    decode (e.toJson.node line) = .ok e := by
  cases e with
  | activated a =>
    -- Nothing in an activation nests but its symbol.
    have hs := a.symbol.isFlat_toJson.depth_le
    rw [toJson, decode_object]
    · simp only [decodeBody, a.reads .kept line]
      rfl
    · simp [Activation.members, kindKey]
    · simp [Activation.members, Json.natural, Mask.toJson, KeyState.toJson, Json.depth, nesting]
      omega
  | locked key => exact decode_keyEvent (fun _ => rfl) h line
  | unlocked key => exact decode_keyEvent (fun _ => rfl) h line
  | shown group level =>
    rw [toJson, decode_object]
    · exact reads_shownRecord h level .kept line
    · simp [kindKey]
    · simp [Level.toJson, Json.depth, Json.natural]

theorem isWhole_toJson {e : Event} (h : e.IsWordSized) : e.toJson.IsWhole := by
  have htext : ∀ s, (Json.text s).IsWhole := fun s => by simp [Json.IsWhole]
  cases e with
  | activated a =>
    rw [toJson, Json.IsWhole, Json.membersAreWhole_iff]
    simp [Activation.members, htext, Json.isWhole_uint32, a.symbol.isFlat_toJson.isWhole, Mask.toJson,
      KeyState.toJson]
  | locked key | unlocked key =>
    rw [toJson, Json.IsWhole, Json.membersAreWhole_iff]
    simp [htext, KeyId.isWhole_toJson h]
  | shown group level =>
    rw [toJson, Json.IsWhole, Json.membersAreWhole_iff]
    simp [htext, Json.isWhole_natural h, Level.toJson]

end Event

namespace Program

def printed (lines : List String) : String :=
  String.join (lines.map fun line => line ++ "\n")

theorem splitOn_printed {lines : List String} (h : ∀ line ∈ lines, '\n' ∉ line.toList) :
    (printed lines).toList.splitOn '\n' = lines.map String.toList ++ [[]] := by
  induction lines with
  | nil => simp [printed]
  | cons line lines ih =>
    rw [List.forall_mem_cons] at h
    have hl : (printed (line :: lines)).toList = line.toList ++ '\n' :: (printed lines).toList := by
      simp [printed]
    rw [hl, List.splitOn_append_cons_self_of_not_mem h.1, ih h.2]
    rfl

theorem lineFeed_not_mem_line {e : Event} (h : e.IsWordSized) : '\n' ∉ (line e).toList := by
  rw [line, Json.toText, String.toList_ofList]
  exact Json.lineFeed_not_mem_render _ (Event.isWhole_toJson h)

theorem mapM_eq_ok {α ε : Type} {l : List α} {f : α → Except ε α} (h : ∀ a ∈ l, f a = .ok a) :
    l.mapM f = .ok l := by
  induction l with
  | nil => rfl
  | cons a l ih =>
    rw [List.forall_mem_cons] at h
    rw [List.mapM_cons, h.1, ih h.2]
    rfl

theorem decode_line {e : Event} (h : e.IsWordSized) :
    (Document.ofText (line e)).decode Event.decode = .ok e := by
  rw [line, Document.ofText_toText (Event.isWhole_toJson h), Document.decode]
  simp only [Event.decode_node_toJson h]

/-- The text that is printed for events has a line for each event and nothing after these lines, and
the events are read back from their lines, whatever characters and modifiers are in them. -/
theorem printed_events_are_read_back {events : List Event} (h : ∀ e ∈ events, e.IsWordSized) :
    let parts := (printed (events.map line)).toList.splitOn '\n'
    parts.length = events.length + 1 ∧ parts.getLast? = some [] ∧
      (parts.dropLast.mapM fun part => (Document.ofText (String.ofList part)).decode Event.decode) =
        .ok events := by
  intro parts
  have hlines : ∀ text ∈ events.map line, '\n' ∉ text.toList := by
    rw [List.forall_mem_map]
    exact fun e he => lineFeed_not_mem_line (h e he)
  have hparts : parts = (events.map line).map String.toList ++ [[]] := splitOn_printed hlines
  rw [hparts]
  refine ⟨by simp, by simp, ?_⟩
  rw [List.dropLast_concat, List.map_map, List.mapM_map]
  apply mapM_eq_ok
  intro e he
  simpa using decode_line (h e he)

def sampleEvents : List Event :=
  [.activated {
      keycode := 38
      symbol := {
        name := "\"\\\n\x01\t"
        label := some ""
        tooltip := some "é\r"
        keysym := some 0x10000E9 }
      modifiers := ⟨0x80000201⟩
      state := .pressed
      timestamp := 0xFFFFFFFF },
    .locked ⟨0, Decoder.wordLimit⟩,
    .shown 3 .symbols]

theorem sampleEvents_are_read_back :
    (∀ e ∈ sampleEvents, e.IsWordSized) ∧
      ((printed (sampleEvents.map line)).toList.splitOn '\n').length = 4 ∧
      (((printed (sampleEvents.map line)).toList.splitOn '\n').dropLast.mapM fun part =>
        (Document.ofText (String.ofList part)).decode Event.decode) = .ok sampleEvents := by
  have hsize : ∀ e ∈ sampleEvents, e.IsWordSized := by decide
  obtain ⟨hlength, _, hread⟩ := printed_events_are_read_back hsize
  exact ⟨hsize, hlength, hread⟩

end Program

end ScreenKeyboard
