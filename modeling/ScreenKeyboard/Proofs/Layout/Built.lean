import ScreenKeyboard.Layout.Build
import ScreenKeyboard.Layout.Validation
import ScreenKeyboard.Proofs.Keyboard.Keys
import ScreenKeyboard.Proofs.Modifier.Bits
import ScreenKeyboard.Proofs.Symbol.Table

namespace ScreenKeyboard

def SectionLayout.section (s : SectionLayout) : Section where
  name := s.name
  angle := s.angle
  keys := s.keys.map KeyLayout.key

def Slot.UsesNamedFlags : Slot → Prop
  | .keysym _ _ _ => True
  | .custom _ _ _ modifiers => modifiers.IsNamed

def Layout.UsesNamedFlags (layout : Layout) : Prop :=
  ∀ slot ∈ layout.slots, slot.2.UsesNamedFlags

instance (slot : Slot) : Decidable slot.UsesNamedFlags :=
  match slot with
  | .keysym _ _ _ => isTrue trivial
  | .custom _ _ _ modifiers => inferInstanceAs (Decidable modifiers.IsNamed)

instance (layout : Layout) : Decidable layout.UsesNamedFlags :=
  inferInstanceAs (Decidable (∀ slot ∈ layout.slots, slot.2.UsesNamedFlags))

theorem isNamed_modifiers (keysym : Keysym) : keysym.modifiers.IsNamed := by
  unfold Keysym.modifiers
  split
  all_goals first | exact Mask.isNamed_mask _ | exact Mask.isNamed_empty

/-- The modifiers of a symbol come from its keysym, or else the slot gives them. -/
theorem Slot.modifiers_cases {slot : Slot} {symbol : Symbol} (h : slot.symbol? = some symbol) :
    (∃ keysym : Keysym, symbol.modifiers = keysym.modifiers) ∨
      ∃ name face category, slot = .custom name face category symbol.modifiers := by
  cases slot with
  | keysym text face category =>
    obtain ⟨s, ht, rfl⟩ := Option.map_eq_some_iff.mp h
    unfold Symbol.ofKeysym? at ht
    split at ht
    next => simp at ht
    next keysym _ =>
      cases Option.some.inj ht
      exact Or.inl ⟨keysym, rfl⟩
  | custom name face category modifiers =>
    cases Option.some.inj h
    exact Or.inr ⟨name, face, category, rfl⟩

theorem Slot.UsesNamedFlags.isNamed {slot : Slot} {symbol : Symbol} (h : slot.UsesNamedFlags)
    (hs : slot.symbol? = some symbol) : symbol.modifiers.IsNamed := by
  rcases modifiers_cases hs with ⟨keysym, he⟩ | ⟨_, _, _, rfl⟩
  · rw [he]
    exact isNamed_modifiers keysym
  · exact h

theorem KeyLayout.mem_symbols_key {key : KeyLayout} {symbol : Symbol} :
    symbol ∈ key.key.symbols.symbols ↔
      ∃ row ∈ key.groups, ∃ slot, some slot ∈ row ∧ slot.symbol? = some symbol := by
  simp only [KeyLayout.key, SymbolTable.mem_symbols_ofRows, List.mem_map, exists_exists_and_eq_and,
    Option.bind_eq_some_iff]
  constructor
  · rintro ⟨row, hr, _, hc, slot, rfl, hs⟩
    exact ⟨row, hr, slot, hc, hs⟩
  · rintro ⟨row, hr, slot, hc, hs⟩
    exact ⟨row, hr, some slot, hc, slot, rfl, hs⟩

def KeyLayout.ofMask (name : String) (modifiers : Mask) : KeyLayout where
  name
  groups := [[some (.custom name {} .keyName modifiers)]]

namespace Layout

def small : Layout where
  name := "small"
  sections := [{
    name := "main"
    keys := [.ofMask "LFSH" Flag.shift.mask, .ofMask "LCTL" Flag.control.mask,
      .ofMask "AC01" .empty, .ofMask toggleKeyName .empty] }]

theorem mem_keys {layout : Layout} {id : KeyId} {key : KeyLayout} :
    (id, key) ∈ layout.keys ↔
      ∃ s, layout.sections[id.sectionIndex]? = some s ∧ s.keys[id.keyIndex]? = some key := by
  obtain ⟨i, j⟩ := id
  simp only [keys, List.mem_flatMap, Prod.exists, List.mem_map, Prod.mk.injEq, KeyId.mk.injEq,
    List.mk_mem_zipIdx_iff_getElem?]
  constructor
  · rintro ⟨s, _, hs, _, _, hk, ⟨rfl, rfl⟩, rfl⟩
    exact ⟨s, hs, hk⟩
  · rintro ⟨s, hs, hk⟩
    exact ⟨s, i, hs, key, j, hk, ⟨rfl, rfl⟩, rfl⟩

def key? (layout : Layout) (id : KeyId) : Option KeyLayout :=
  (layout.sections[id.sectionIndex]?).bind fun s => s.keys[id.keyIndex]?

theorem key?_eq_some {layout : Layout} {id : KeyId} {d : KeyLayout} :
    layout.key? id = some d ↔ (id, d) ∈ layout.keys := by
  rw [mem_keys, key?, Option.bind_eq_some_iff]

theorem exists_mem_slots {layout : Layout} {id : KeyId} {key : KeyLayout} {symbol : Symbol}
    (hk : (id, key) ∈ layout.keys) (hs : symbol ∈ key.key.symbols.symbols) :
    ∃ place slot, (place, slot) ∈ layout.slots ∧ slot.symbol? = some symbol := by
  obtain ⟨row, hr, slot, hm, hs⟩ := KeyLayout.mem_symbols_key.mp hs
  obtain ⟨group, hg⟩ := List.mem_iff_getElem?.mp hr
  obtain ⟨level, hl⟩ := List.mem_iff_getElem?.mp hm
  refine ⟨.slot id group level, slot, ?_, hs⟩
  simp only [slots, List.mem_flatMap, Prod.exists, List.mem_filterMap, List.mk_mem_zipIdx_iff_getElem?]
  exact ⟨id, key, hk, row, group, hg, some slot, level, hl, rfl⟩

theorem UsesNamedFlags.isNamed {layout : Layout} (h : layout.UsesNamedFlags) {id : KeyId}
    {key : KeyLayout} (hk : (id, key) ∈ layout.keys) {symbol : Symbol}
    (hs : symbol ∈ key.key.symbols.symbols) : symbol.modifiers.IsNamed := by
  obtain ⟨place, slot, hp, hm⟩ := exists_mem_slots hk hs
  exact (h _ hp).isNamed hm

end Layout

namespace Keyboard

/-- The keyboard is as it was built, whatever its masks. -/
def Fresh (k : Keyboard) : Prop :=
  k = { k.body with numLockMask := k.numLockMask, altGrMask := k.altGrMask }

theorem modify_append_singleton {α : Type} (l : List α) (a : α) (f : α → α) :
    (l ++ [a]).modify l.length f = l ++ [f a] := by
  induction l with
  | nil => rfl
  | cons b l ih => simpa using ih

theorem addKey_eq {k : Keyboard} {pre : List Section} {s : Section} (h : k.sections = pre ++ [s])
    (key : Key) :
    k.addKey pre.length key =
      { k with
        sections := pre ++ [{ s with keys := s.keys ++ [key] }]
        names := (key.name, ⟨pre.length, s.keys.length⟩) :: k.names } := by
  have hs : k.section? pre.length = some s := by simp [section?, h]
  simp [addKey, createKey, hs, updateSection, h, modify_append_singleton]

theorem foldl_addKey_eq {k : Keyboard} {pre : List Section} {s : Section}
    (h : k.sections = pre ++ [s]) (keys : List KeyLayout) :
    keys.foldl (fun k key => k.addKey pre.length key.key) k =
      { k with
        sections := pre ++ [{ s with keys := s.keys ++ keys.map KeyLayout.key }]
        names := (keys.foldl (fun k key => k.addKey pre.length key.key) k).names } := by
  induction keys generalizing k s with
  | nil => simp [← h]
  | cons key keys ih =>
    have hk := addKey_eq h key.key
    have hs : (k.addKey pre.length key.key).sections =
        pre ++ [{ s with keys := s.keys ++ [key.key] }] := by rw [hk]
    rw [List.foldl_cons, ih hs, hk]
    simp

theorem addSection_eq (k : Keyboard) (s : SectionLayout) :
    k.addSection s =
      { k with sections := k.sections ++ [s.section], names := (k.addSection s).names } := by
  have h : (k.createSection s.name s.angle).sections =
      k.sections ++ [{ name := s.name, angle := s.angle }] := rfl
  rw [addSection, foldl_addKey_eq h]
  simp [SectionLayout.section, createSection]

theorem foldl_addSection_eq (k : Keyboard) (sections : List SectionLayout) :
    sections.foldl addSection k =
      { k with
        sections := k.sections ++ sections.map SectionLayout.section
        names := (sections.foldl addSection k).names } := by
  induction sections generalizing k with
  | nil => simp
  | cons s sections ih =>
    rw [List.foldl_cons, ih, addSection_eq k s]
    simp

variable (layout : Layout)

theorem ofLayout_eq :
    ofLayout layout =
      { sections := layout.sections.map SectionLayout.section
        names := (ofLayout layout).names
        outlines := layout.outlines
        numLockMask := layout.numLockMask
        altGrMask := layout.altGrMask } := by
  rw [ofLayout, foldl_addSection_eq]
  simp

theorem fresh_ofLayout : (ofLayout layout).Fresh := by
  rw [ofLayout_eq, Fresh]
  simp [body, SectionLayout.section, Section.idle, Section.reset, KeyLayout.key, Key.idle,
    Function.comp_def]

theorem key?_ofLayout {id : KeyId} {key : Key} :
    (ofLayout layout).key? id = some key ↔ ∃ d, (id, d) ∈ layout.keys ∧ d.key = key := by
  rw [ofLayout_eq, key?_eq_bind]
  simp only [section?, List.getElem?_map, Layout.mem_keys]
  cases hs : layout.sections[id.sectionIndex]? <;> simp [SectionLayout.section]

theorem key?_ofLayout_eq (id : KeyId) :
    (ofLayout layout).key? id = (layout.key? id).map KeyLayout.key := by
  apply Option.ext
  intro key
  rw [key?_ofLayout, Option.map_eq_some_iff]
  simp only [Layout.key?_eq_some]

end Keyboard

end ScreenKeyboard
