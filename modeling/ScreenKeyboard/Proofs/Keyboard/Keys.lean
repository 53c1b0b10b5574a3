import Mathlib.Tactic.Common
import ScreenKeyboard.Keyboard.Basic

namespace ScreenKeyboard

theorem map_modify {α β : Type} (i : Nat) (l : List α) {f : α → α} {g : α → β} {e : β → β}
    (h : ∀ a, g (f a) = e (g a)) : (l.modify i f).map g = (l.map g).modify i e := by
  apply List.ext_getElem?
  intro j
  simp only [List.getElem?_map, List.getElem?_modify]
  by_cases hj : i = j
  · cases l[j]? <;> simp [hj, h]
  · simp [hj]

def Key.unlit (key : Key) : Key :=
  { key with locked := false }

def Section.unlit (s : Section) : Section :=
  { s with keys := s.keys.map Key.unlit }

def Key.idle (key : Key) : Key :=
  { key with pressed := false, locked := false }

def Section.idle (s : Section) : Section :=
  { s.reset with keys := s.keys.map Key.idle }

namespace Keyboard

/-- All of a keyboard but its locks. -/
def unlit (k : Keyboard) : Keyboard :=
  { k with sections := k.sections.map Section.unlit, locks := [] }

/-- All of a keyboard that no operation changes. -/
def body (k : Keyboard) : Keyboard :=
  { sections := k.sections.map Section.idle, names := k.names, outlines := k.outlines }

variable (k : Keyboard)

theorem key?_eq_bind (id : KeyId) :
    k.key? id = (k.section? id.sectionIndex).bind fun s => s.keys[id.keyIndex]? := by
  unfold key?
  cases k.section? id.sectionIndex <;> rfl

theorem resolve_eq_bind (id : KeyId) :
    k.resolve id = (k.section? id.sectionIndex).bind fun s =>
      (s.keys[id.keyIndex]?).bind fun key => key.symbol k.group (k.shownLevel s) := by
  unfold resolve
  cases k.section? id.sectionIndex with
  | none => rfl
  | some s => simp only [Option.bind_some]; cases s.keys[id.keyIndex]? <;> rfl

theorem section?_updateSection (i j : Nat) (f : Section → Section) :
    (k.updateSection i f).section? j =
      if i = j then (k.section? j).map f else k.section? j := by
  simp only [section?, updateSection, List.getElem?_modify]
  by_cases h : i = j <;> simp [h]

theorem key?_updateSection (i : Nat) {f : Section → Section} (hf : ∀ s, (f s).keys = s.keys)
    (id : KeyId) : (k.updateSection i f).key? id = k.key? id := by
  rw [key?_eq_bind, key?_eq_bind, section?_updateSection]
  by_cases h : i = id.sectionIndex
  · cases k.section? id.sectionIndex <;> simp [h, hf]
  · simp [h]

theorem key?_updateKey (id id' : KeyId) (f : Key → Key) :
    (k.updateKey id f).key? id' = if id = id' then (k.key? id').map f else k.key? id' := by
  rw [key?_eq_bind, key?_eq_bind, updateKey, section?_updateSection]
  obtain ⟨i, j⟩ := id
  obtain ⟨i', j'⟩ := id'
  by_cases hi : i = i'
  · subst i'
    cases k.section? i with
    | none => simp
    | some s =>
      simp only [↓reduceIte, Option.map_some, Option.bind_some, List.getElem?_modify,
        KeyId.mk.injEq, true_and]
      by_cases hj : j = j' <;> simp [hj]
  · simp [hi]

theorem updateSection_self (i : Nat) : k.updateSection i (fun s => s) = k := by
  have h : k.sections.modify i (fun s => s) = k.sections := List.modify_id i _
  simp [updateSection, h]

theorem updateKey_self (id : KeyId) : k.updateKey id (fun key => key) = k := by
  have h : ∀ s : Section, { s with keys := s.keys.modify id.keyIndex fun key => key } = s := by
    intro s
    have hs : s.keys.modify id.keyIndex (fun key => key) = s.keys := List.modify_id _ _
    rw [hs]
  simp only [updateKey, h]
  exact k.updateSection_self id.sectionIndex

theorem resolve_updateKey (id id' : KeyId) {f : Key → Key}
    (hf : ∀ key, (f key).symbols = key.symbols) :
    (k.updateKey id f).resolve id' = k.resolve id' := by
  rw [resolve_eq_bind, resolve_eq_bind, updateKey, section?_updateSection]
  obtain ⟨i, j⟩ := id
  obtain ⟨i', j'⟩ := id'
  by_cases hi : i = i'
  · subst i'
    cases k.section? i with
    | none => simp
    | some s =>
      simp only [↓reduceIte, Option.map_some, Option.bind_some, List.getElem?_modify]
      cases s.keys[j']? with
      | none => simp
      | some key =>
        by_cases hj : j = j' <;> simp [hj, Key.symbol, hf, updateSection, shownLevel, Section.level?]
  · simp [hi, updateSection, shownLevel]

theorem resolve_isSome_key? {id : KeyId} {symbol : Symbol} (h : k.resolve id = some symbol) :
    (k.key? id).isSome = true := by
  rw [resolve_eq_bind] at h
  rw [key?_eq_bind]
  obtain ⟨s, hs, h⟩ := Option.bind_eq_some_iff.mp h
  obtain ⟨key, hk, _⟩ := Option.bind_eq_some_iff.mp h
  simp [hs, hk]

theorem section?_unlit (i : Nat) : k.unlit.section? i = (k.section? i).map Section.unlit := by
  simp [unlit, section?]

theorem key?_unlit (id : KeyId) : k.unlit.key? id = (k.key? id).map Key.unlit := by
  rw [key?_eq_bind, key?_eq_bind, section?_unlit]
  cases k.section? id.sectionIndex <;> simp [Section.unlit]

theorem unlit_updateSection (i : Nat) {f e : Section → Section}
    (hf : ∀ s, (f s).unlit = e s.unlit) :
    (k.updateSection i f).unlit = k.unlit.updateSection i e := by
  simp only [unlit, updateSection, mk.injEq, and_true]
  exact map_modify i _ hf

theorem unlit_updateKey (id : KeyId) {f e : Key → Key} (hf : ∀ key, (f key).unlit = e key.unlit) :
    (k.updateKey id f).unlit = k.unlit.updateKey id e := by
  apply unlit_updateSection
  intro s
  simp only [Section.unlit, Section.mk.injEq, true_and, and_true]
  exact map_modify id.keyIndex _ hf

theorem unlit_setLockedFlag (id : KeyId) (locked : Bool) :
    (k.setLockedFlag id locked).unlit = k.unlit := by
  have h := k.unlit_updateKey id (f := fun key => { key with locked }) (e := fun key => key)
    fun _ => rfl
  exact h.trans (updateKey_self k.unlit id)

theorem section?_body (i : Nat) : k.body.section? i = (k.section? i).map Section.idle := by
  simp [body, section?]

theorem key?_body (id : KeyId) : k.body.key? id = (k.key? id).map Key.idle := by
  rw [key?_eq_bind, key?_eq_bind, section?_body]
  cases k.section? id.sectionIndex <;> simp [Section.idle]

theorem body_updateSection (i : Nat) {f : Section → Section} (hf : ∀ s, (f s).idle = s.idle) :
    (k.updateSection i f).body = k.body := by
  simp only [body, updateSection, mk.injEq, and_true]
  exact (map_modify i k.sections hf).trans (List.modify_id i _)

theorem body_setPressedFlag (id : KeyId) (pressed : Bool) :
    (k.setPressedFlag id pressed).body = k.body := by
  apply body_updateSection
  intro s
  simp only [Section.idle, Section.reset, Section.mk.injEq, true_and, and_true]
  have hk : ∀ key : Key, ({ key with pressed } : Key).idle = key.idle := fun _ => rfl
  exact (map_modify id.keyIndex s.keys (e := fun key => key) hk).trans (List.modify_id _ _)

theorem body_unlit : k.unlit.body = k.body := by
  simp [body, unlit, Section.unlit, Section.idle, Section.reset, Key.unlit, Key.idle,
    Function.comp_def]

end Keyboard

end ScreenKeyboard
