import ScreenKeyboard.Proofs.Keyboard.Releases
import ScreenKeyboard.Proofs.Keyboard.Symbols

namespace ScreenKeyboard

namespace Section

def modifiersAfterRelease (own m : Mask) : Behavior → Mask
  | .none => own &&& ~~~m
  | .lock => own ^^^ m
  | .latch => (own ^^^ m) &&& m

def numLock (s : Section) : Mask × Bool :=
  (s.modifiers, s.numLocked)

theorem release_eq (s : Section) (m : Mask) (behavior : Behavior) (numLockMask : Mask) :
    s.release m behavior numLockMask =
      s.withModifiers (modifiersAfterRelease s.modifiers m behavior) numLockMask := by
  cases behavior <;> rfl

theorem level?_eq_some_iff (s : Section) : s.level? = some numLockLevel ↔ s.numLocked = true := by
  unfold level?
  cases s.numLocked <;> simp

end Section

def Layout.ConfinesNumLock (layout : Layout) (i : Nat) : Prop :=
  ∀ d ∈ layout.keys, ∀ symbol ∈ d.2.key.symbols.symbols,
    symbol.modifiers.intersects layout.numLockMask = true → d.1.sectionIndex = i

instance (layout : Layout) (i : Nat) : Decidable (layout.ConfinesNumLock i) :=
  inferInstanceAs (Decidable (∀ d ∈ layout.keys, ∀ symbol ∈ d.2.key.symbols.symbols,
    symbol.modifiers.intersects layout.numLockMask = true → d.1.sectionIndex = i))

def Layout.keypad : Layout where
  name := "keypad"
  sections := [
    { name := "main", keys := [.ofMask "AC01" .empty, .ofMask "LFSH" Flag.shift.mask] },
    { name := "numpad", keys := [.ofMask "NMLK" Flag.mod2.mask] }]
  numLockMask := Flag.mod2.mask

namespace Keyboard

def TellsNumLock (k : Keyboard) (s : Section) : Prop :=
  s.level? = some Section.numLockLevel ↔ k.modifiers.intersects k.numLockMask = true

/-- Under latch, a plain key takes all modifiers from the keyboard but not from other sections, and
a modifier key leaves its own section no modifiers but its own. -/
def latchParts (k : Keyboard) (i : Nat) (id : KeyId) (m : Mask) : Bool :=
  k.behavior == .latch &&
    if id.sectionIndex = i then !m.isEmpty && !m.contains (k.modifiers &&& k.numLockMask)
    else m.isEmpty && k.modifiers.intersects k.numLockMask

/-- The toggle key drops num-lock modifiers on its way across. -/
def crossingParts (k : Keyboard) (id : KeyId) (m : Mask) : Bool :=
  let after := modifiersAfterRelease k.modifiers m k.behavior
  (after.without (k.level.nextModifiers after (k.isToggle id))).intersects k.numLockMask

/-- The release of this key changes num-lock modifiers of the keyboard or of the section alone. -/
def partsNumLock (k : Keyboard) (i : Nat) (id : KeyId) : Bool :=
  k.pressed.contains id && (k.resolve id).any fun symbol =>
    k.latchParts i id symbol.modifiers || k.crossingParts id symbol.modifiers

def numLock? (k : Keyboard) (i : Nat) : Option (Mask × Bool) :=
  (k.section? i).map Section.numLock

def ownAfterRelease (k : Keyboard) (i : Nat) (id : KeyId) (m own : Mask) : Mask :=
  if id.sectionIndex = i then Section.modifiersAfterRelease own m k.behavior else own

structure Agrees (k : Keyboard) (layout : Layout) (i : Nat) : Prop where
  body : k.body = (ofLayout layout).body
  mask : k.numLockMask = layout.numLockMask
  own : ∃ own, k.numLock? i = some (own, own.intersects k.numLockMask) ∧
    ∀ j, k.numLockMask.has j = true → own.has j = k.modifiers.has j
  idle : k.behavior = .none → k.modifiers = .empty ∧ k.level = .lettersLower

variable (k : Keyboard)

theorem numLock?_updateSection (i j : Nat) (f : Section → Section) :
    (k.updateSection i f).numLock? j =
      if i = j then (k.section? j).map fun s => (f s).numLock else k.numLock? j := by
  rw [numLock?, section?_updateSection]
  by_cases h : i = j
  · simp [h, Function.comp_def]
  · simp [h, numLock?]

theorem numLock?_updateKey (id : KeyId) (f : Key → Key) (i : Nat) :
    (k.updateKey id f).numLock? i = k.numLock? i := by
  rw [updateKey, numLock?_updateSection]
  exact ite_self _

theorem numLock?_of_unlit {k' : Keyboard} (h : k'.unlit.sections = k.unlit.sections) (i : Nat) :
    k'.numLock? i = k.numLock? i := by
  have hs : ∀ k : Keyboard, k.numLock? i = (k.unlit.sections[i]?).map Section.numLock := by
    intro k
    have he : Section.numLock ∘ Section.unlit = Section.numLock := rfl
    rw [unlit, List.getElem?_map, Option.map_map, he]
    rfl
  rw [hs, hs, h]

theorem numLock?_settle (id : KeyId) (m : Mask) (i : Nat) :
    (k.settle id m).keyboard.numLock? i = k.numLock? i := by
  have hu := congrArg sections (k.unlit_settle id m)
  exact k.numLock?_of_unlit hu i

theorem numLock?_sectionPress (id : KeyId) (m : Mask) (hb : k.behavior = .none) (i : Nat) :
    (k.sectionPress id m).numLock? i =
      if id.sectionIndex = i then
        (k.numLock? i).map fun own => (own.1 ||| m, (own.1 ||| m).intersects k.numLockMask)
      else k.numLock? i := by
  rw [sectionPress, numLock?_updateSection, hb, numLock?, Option.map_map]
  rfl

theorem numLock?_sectionRelease (id : KeyId) (m : Mask) (i : Nat) :
    (k.sectionRelease id m).numLock? i =
      if id.sectionIndex = i then
        (k.numLock? i).map fun own =>
          (Section.modifiersAfterRelease own.1 m k.behavior,
            (Section.modifiersAfterRelease own.1 m k.behavior).intersects k.numLockMask)
      else k.numLock? i := by
  rw [sectionRelease, numLock?_updateSection, numLock?, Option.map_map]
  simp only [Section.release_eq]
  rfl

theorem numLock?_press {id : KeyId} {symbol : Symbol} (hb : k.behavior = .none)
    (hr : k.resolve id = some symbol) (t : UInt32) (i : Nat) :
    (k.press id t).keyboard.numLock? i =
      if id.sectionIndex = i then
        (k.numLock? i).map fun own => (own.1 ||| symbol.modifiers,
          (own.1 ||| symbol.modifiers).intersects k.numLockMask)
      else k.numLock? i := by
  have hh : (k.hold id).numLock? i = k.numLock? i := k.numLock?_updateKey id _ i
  have hs := (k.hold id).numLock?_sectionPress id symbol.modifiers hb i
  rw [k.press_of_none hb hr t, Outcome.keyboard_andThen, keyboard_report, numLock?_settle, hs, hh]
  rfl

theorem numLockMask_press (id : KeyId) (t : UInt32) :
    (k.press id t).keyboard.numLockMask = k.numLockMask := by
  have hm := congrArg Prod.fst (k.masks_press id t)
  exact hm

theorem numLockMask_release (id : KeyId) (t : UInt32) :
    (k.release id t).keyboard.numLockMask = k.numLockMask := by
  have hm := congrArg Prod.fst (k.masks_release id t)
  exact hm

variable {k} {layout : Layout} {i : Nat}

theorem numLock?_release {id : KeyId} {symbol : Symbol} (hi : id ∈ k.pressed)
    (hr : k.resolve id = some symbol) (t : UInt32) {own new : Mask}
    (ho : k.numLock? i = some (own, own.intersects k.numLockMask))
    (hn : k.ownAfterRelease i id symbol.modifiers own = new) :
    (k.release id t).keyboard.numLock? i =
      some (new, new.intersects (k.release id t).keyboard.numLockMask) := by
  have hh : (k.letGo id).numLock? i = k.numLock? i := k.numLock?_updateKey id _ i
  have hs := (k.letGo id).numLock?_sectionRelease id symbol.modifiers i
  rw [hh, ho] at hs
  rw [numLockMask_release, k.release_of_resolve_eq_some hi hr t, Outcome.keyboard_andThen,
    keyboard_report, numLock?_settle, hs, ← hn, ownAfterRelease]
  split
  next => rfl
  next => rfl

theorem has_nextModifiers_of_crossingParts {id : KeyId} {m : Mask}
    (h : k.crossingParts id m = false) {j : Nat} (hj : k.numLockMask.has j = true) :
    (modifiersAfterRelease k.modifiers m k.behavior).has j =
      (k.level.nextModifiers (modifiersAfterRelease k.modifiers m k.behavior) (k.isToggle id)).has j := by
  rw [crossingParts, Mask.intersects_comm] at h
  have hdrop := Mask.intersects_eq_false_iff.mp h j hj
  rw [Mask.has_without] at hdrop
  unfold Level.nextModifiers at hdrop ⊢
  split
  next hc =>
    rw [if_pos hc] at hdrop
    cases ha : (modifiersAfterRelease k.modifiers m k.behavior).has j with
    | false => simp [ha]
    | true => simpa [ha] using hdrop
  next => rfl

theorem crossingParts_eq_false {f : Flag} (hn : k.numLockMask = f.mask) (hf : f ≠ .shift)
    (id : KeyId) (m : Mask) : k.crossingParts id m = false := by
  have hnamed : Mask.named.has f.position = true := by cases f <;> decide
  have hne : f.position ≠ Flag.shift.position := by
    cases f <;> first | exact absurd rfl hf | decide
  rw [crossingParts, hn, Mask.intersects_mask, Mask.has_without, Level.nextModifiers]
  split
  next => simp [Mask.has_mask, hne, hnamed]
  next => simp

theorem not_intersects_of_confines (hb : k.body = (ofLayout layout).body)
    (hc : layout.ConfinesNumLock i) {id : KeyId} {symbol : Symbol}
    (hr : k.resolve id = some symbol) (hn : id.sectionIndex ≠ i) :
    symbol.modifiers.intersects layout.numLockMask = false := by
  obtain ⟨key, hk, hs⟩ := exists_key_of_resolve hr
  obtain ⟨old, ho, _, he⟩ := exists_key_of_body hb hk
  obtain ⟨d, hd, rfl⟩ := (key?_ofLayout layout).mp ho
  by_contra hi
  exact hn (hc _ hd symbol (he ▸ hs) (by simpa using hi))

theorem exists_section_of_numLock? {own : Mask}
    (h : k.numLock? i = some (own, own.intersects k.numLockMask)) :
    ∃ s, k.section? i = some s ∧ (k.TellsNumLock s ↔
      own.intersects k.numLockMask = k.modifiers.intersects k.numLockMask) := by
  obtain ⟨s, hs, he⟩ := Option.map_eq_some_iff.mp h
  have hl : s.numLocked = own.intersects k.numLockMask := congrArg Prod.snd he
  refine ⟨s, hs, ?_⟩
  rw [TellsNumLock, Section.level?_eq_some_iff, hl]
  exact Bool.eq_iff_iff.symm

theorem has_ne_of_latchParts {f : Flag} (hn : k.numLockMask = f.mask) {id : KeyId} {m : Mask}
    (hl : k.latchParts i id m = true) {own : Mask}
    (hown : own.has f.position = k.modifiers.has f.position) :
    (k.ownAfterRelease i id m own).has f.position ≠
      (modifiersAfterRelease k.modifiers m k.behavior).has f.position := by
  rw [latchParts, hn, Bool.and_eq_true, beq_iff_eq] at hl
  obtain ⟨hb, hl⟩ := hl
  by_cases hi : id.sectionIndex = i
  · rw [if_pos hi, Bool.and_eq_true, Bool.not_eq_true', Bool.not_eq_true'] at hl
    obtain ⟨he, hc⟩ := hl
    have hbit : k.modifiers.has f.position = true ∧ m.has f.position = false := by
      by_contra hbit
      rw [← Bool.not_eq_true, Mask.contains_iff] at hc
      apply hc
      intro j hj
      rw [Mask.has_and, Mask.has_mask, Bool.and_eq_true, decide_eq_true_eq] at hj
      obtain ⟨hj, rfl⟩ := hj
      simpa [hj] using hbit
    rw [ownAfterRelease, if_pos hi, hb]
    simp [Section.modifiersAfterRelease, modifiersAfterRelease, he, hbit]
  · rw [if_neg hi, Bool.and_eq_true, Mask.intersects_mask] at hl
    obtain ⟨he, hk⟩ := hl
    rw [ownAfterRelease, if_neg hi, hown, hk, hb]
    simp [modifiersAfterRelease, he]

namespace Agrees

theorem tells (h : k.Agrees layout i) : ∃ s, k.section? i = some s ∧ k.TellsNumLock s := by
  obtain ⟨own, hown, hbits⟩ := h.own
  obtain ⟨s, hs, hiff⟩ := exists_section_of_numLock? hown
  exact ⟨s, hs, hiff.mpr (Mask.intersects_congr hbits)⟩

theorem of_eq {k' : Keyboard} (h : k.Agrees layout i) (hb : k'.body = k.body)
    (hn : k'.numLockMask = k.numLockMask) (ho : k'.numLock? i = k.numLock? i)
    (hm : k'.modifiers = k.modifiers) (hl : k'.level = k.level)
    (hv : k'.behavior = k.behavior) : k'.Agrees layout i := by
  refine ⟨hb.trans h.body, hn.trans h.mask, ?_, ?_⟩
  · rw [ho, hn, hm]
    exact h.own
  · rw [hv, hm, hl]
    exact h.idle

theorem hold (h : k.Agrees layout i) (id : KeyId) : (k.hold id).Agrees layout i :=
  h.of_eq (k.body_setPressedFlag id true) rfl (k.numLock?_updateKey id _ i) rfl rfl rfl

theorem letGo (h : k.Agrees layout i) (id : KeyId) : (k.letGo id).Agrees layout i :=
  h.of_eq (k.body_setPressedFlag id false) rfl (k.numLock?_updateKey id _ i) rfl rfl rfl

theorem press_of_none (h : k.Agrees layout i) (hc : layout.ConfinesNumLock i) {id : KeyId}
    {symbol : Symbol} (hb : k.behavior = .none) (hr : k.resolve id = some symbol) (t : UInt32) :
    (k.press id t).keyboard.Agrees layout i := by
  obtain ⟨hm, hl⟩ := h.idle hb
  obtain ⟨own, hown, hbits⟩ := h.own
  have ht := k.turns_press hb hr t
  have ho := k.numLock?_press hb hr t i
  have hn := k.numLockMask_press id t
  -- Nothing was on before, and from the lower letters no way leads across.
  have hlower : ∀ toggled, Level.lettersLower.nextModifiers symbol.modifiers toggled =
      symbol.modifiers := by
    intro toggled
    simp [Level.nextModifiers, Level.crosses, Level.isShifted]
  have hor : Mask.empty ||| symbol.modifiers = symbol.modifiers := by
    apply Mask.ext_has
    simp
  have hmod : (k.press id t).keyboard.modifiers = symbol.modifiers := by
    rw [ht.modifiers, hl, hm, hor, hlower]
  refine ⟨(k.body_press id t).trans h.body, hn.trans h.mask, ?_, ?_⟩
  · rw [ho, hn, hmod, hown]
    by_cases hi : id.sectionIndex = i
    · refine ⟨own ||| symbol.modifiers, by rw [if_pos hi]; rfl, ?_⟩
      intro j hj
      have hoff : own.has j = false := by rw [hbits j hj, hm, Mask.has_empty]
      rw [Mask.has_or, hoff, Bool.false_or]
    · refine ⟨own, by rw [if_neg hi], ?_⟩
      intro j hj
      have hoff : own.has j = false := by rw [hbits j hj, hm, Mask.has_empty]
      have hx := not_intersects_of_confines h.body hc hr hi
      rw [← h.mask, Mask.intersects_comm] at hx
      rw [hoff, Mask.intersects_eq_false_iff.mp hx j hj]
  · intro hnone
    rw [ht.behavior] at hnone
    exact absurd hnone (behaviorFor_ne_none _)

theorem press (h : k.Agrees layout i) (hc : layout.ConfinesNumLock i) (id : KeyId) (t : UInt32) :
    (k.press id t).keyboard.Agrees layout i := by
  rcases k.press_cases id t with ⟨_, he⟩ | ⟨_, _, he⟩ | ⟨_, _, _, _, he⟩ | ⟨_, _, hr, hb, _⟩
  · rw [he]
    exact h
  · rw [he]
    exact h.hold id
  · rw [he, keyboard_report]
    exact h.hold id
  · exact h.press_of_none hc hb hr t

/-- A release that parts nothing does the same to the num-lock modifiers here and there. -/
theorem has_ownAfterRelease (h : k.Agrees layout i) (hc : layout.ConfinesNumLock i) {id : KeyId}
    {symbol : Symbol} (hr : k.resolve id = some symbol)
    (hl : k.latchParts i id symbol.modifiers = false) {own : Mask} {j : Nat}
    (hj : k.numLockMask.has j = true) (hown : own.has j = k.modifiers.has j) :
    (k.ownAfterRelease i id symbol.modifiers own).has j =
      (modifiersAfterRelease k.modifiers symbol.modifiers k.behavior).has j := by
  by_cases hi : id.sectionIndex = i
  · rw [ownAfterRelease, if_pos hi]
    cases hb : k.behavior with
    | none =>
      have hm := (h.idle hb).1
      simp [Section.modifiersAfterRelease, modifiersAfterRelease, hown, hm]
    | lock => simp [Section.modifiersAfterRelease, modifiersAfterRelease, hown]
    | latch =>
      cases he : symbol.modifiers.isEmpty with
      | true =>
        have hm : symbol.modifiers.has j = false := by rw [Mask.isEmpty_iff.mp he, Mask.has_empty]
        simp [Section.modifiersAfterRelease, modifiersAfterRelease, he, hm]
      | false =>
        have hin : symbol.modifiers.contains (k.modifiers &&& k.numLockMask) = true := by
          simpa [latchParts, hb, hi, he] using hl
        have hsub := Mask.contains_iff.mp hin j
        rw [Mask.has_and, hj, Bool.and_true] at hsub
        cases hk : k.modifiers.has j with
        | true =>
          simp [Section.modifiersAfterRelease, modifiersAfterRelease, he, hown, hk, hsub hk]
        | false => simp [Section.modifiersAfterRelease, modifiersAfterRelease, he, hown, hk]
  · rw [ownAfterRelease, if_neg hi, hown]
    -- Such a key has no num-lock modifiers, so only the end of a latch can matter.
    have hx := not_intersects_of_confines h.body hc hr hi
    rw [← h.mask, Mask.intersects_comm] at hx
    have hoff := Mask.intersects_eq_false_iff.mp hx j hj
    cases hb : k.behavior with
    | none => simp [modifiersAfterRelease, (h.idle hb).1]
    | lock => simp [modifiersAfterRelease, hoff]
    | latch =>
      cases he : symbol.modifiers.isEmpty with
      | true =>
        have hout : k.modifiers.intersects k.numLockMask = false := by
          simpa [latchParts, hb, hi, he] using hl
        rw [Mask.intersects_comm] at hout
        have hk := Mask.intersects_eq_false_iff.mp hout j hj
        simp [modifiersAfterRelease, he, hk]
      | false => simp [modifiersAfterRelease, he, hoff]

theorem release (h : k.Agrees layout i) (hc : layout.ConfinesNumLock i) {id : KeyId}
    (hp : k.partsNumLock i id = false) (t : UInt32) :
    (k.release id t).keyboard.Agrees layout i := by
  rcases k.release_cases id t with ⟨_, he⟩ | ⟨_, _, he⟩ | ⟨symbol, hid, hr, _⟩
  · rw [he]
    exact h
  · rw [he]
    exact h.letGo id
  · obtain ⟨hl, hx⟩ : k.latchParts i id symbol.modifiers = false ∧
        k.crossingParts id symbol.modifiers = false := by
      simpa [partsNumLock, hid, hr] using hp
    obtain ⟨own, hown, hbits⟩ := h.own
    have ht := k.turns_release hid hr t
    have hn := k.numLockMask_release id t
    refine ⟨(k.body_release id t).trans h.body, hn.trans h.mask,
      ⟨_, numLock?_release hid hr t hown rfl, ?_⟩, ?_⟩
    · intro j hj
      rw [hn] at hj
      rw [h.has_ownAfterRelease hc hr hl hj (hbits j hj), ht.modifiers]
      exact has_nextModifiers_of_crossingParts hx hj
    · intro hnone
      rw [ht.behavior] at hnone
      exact absurd hnone (behaviorFor_ne_none _)

/-- The first release that parts the only num-lock modifier makes the section's level wrong. -/
theorem not_tells_release (h : k.Agrees layout i) {f : Flag} (hn : layout.numLockMask = f.mask)
    (hf : f ≠ .shift) {id : KeyId} (hp : k.partsNumLock i id = true) (t : UInt32) :
    ∃ s, (k.release id t).keyboard.section? i = some s ∧
      ¬(k.release id t).keyboard.TellsNumLock s := by
  obtain ⟨hid, symbol, hr, hparts⟩ : id ∈ k.pressed ∧ ∃ symbol, k.resolve id = some symbol ∧
      (k.latchParts i id symbol.modifiers = true ∨ k.crossingParts id symbol.modifiers = true) := by
    simpa [partsNumLock, Option.any_eq_true] using hp
  have hk : k.numLockMask = f.mask := h.mask.trans hn
  have hx := crossingParts_eq_false hk hf id symbol.modifiers
  have hl : k.latchParts i id symbol.modifiers = true := by simpa [hx] using hparts
  obtain ⟨own, hown, hbits⟩ := h.own
  have hbit : k.numLockMask.has f.position = true := by simp [hk, Mask.has_mask]
  have hmod : (k.release id t).keyboard.modifiers.has f.position =
      (modifiersAfterRelease k.modifiers symbol.modifiers k.behavior).has f.position := by
    rw [(k.turns_release hid hr t).modifiers]
    exact (has_nextModifiers_of_crossingParts hx hbit).symm
  obtain ⟨s, hs, hiff⟩ := exists_section_of_numLock? (numLock?_release hid hr t hown rfl)
  refine ⟨s, hs, ?_⟩
  rw [hiff, numLockMask_release, hk, Mask.intersects_mask, Mask.intersects_mask, hmod]
  exact has_ne_of_latchParts hk hl (hbits _ hbit)

end Agrees

theorem agrees_ofLayout (layout : Layout) {i : Nat} (hi : i < layout.sections.length)
    (behavior : Behavior) : { ofLayout layout with behavior }.Agrees layout i := by
  have hf := fresh_ofLayout layout
  have hm : (ofLayout layout).modifiers = .empty := congrArg modifiers hf
  have hl : (ofLayout layout).level = .lettersLower := congrArg level hf
  have hn : (ofLayout layout).numLockMask = layout.numLockMask :=
    congrArg numLockMask (ofLayout_eq layout)
  have hs : (ofLayout layout).sections = layout.sections.map SectionLayout.section :=
    congrArg sections (ofLayout_eq layout)
  have hno : Mask.empty.intersects (ofLayout layout).numLockMask = false := by
    apply Mask.intersects_eq_false_iff.mpr
    simp
  have hown : (ofLayout layout).numLock? i = some (.empty, false) := by
    rw [numLock?, section?, hs, List.getElem?_map, List.getElem?_eq_getElem hi]
    rfl
  refine ⟨rfl, hn, ⟨.empty, ?_, ?_⟩, fun _ => ⟨hm, hl⟩⟩
  · exact hown.trans (by rw [← hno])
  · intro j _
    exact congrArg (Mask.has · j) hm.symm

/-- Where only keys of one section raise num-lock modifiers, the section shows its num-lock level
just when one is on, until a key is released that parts the modifiers of the two. If there is one
num-lock modifier, and it is not the shift, the section is wrong after the first such release. -/
theorem num_lock_tells_until_parted (layout : Layout) (i : Nat) (hi : i < layout.sections.length)
    (hc : layout.ConfinesNumLock i) (behavior : Behavior) (ops : List Operation)
    (ho : ∀ op ∈ ops, op.isKeyEvent = true)
    (hq : ∀ r ∈ ((ofLayout layout).run [.setBehavior behavior]).keyboard.releases ops,
      r.1.partsNumLock i r.2 = false) :
    let k := ((ofLayout layout).run (.setBehavior behavior :: ops)).keyboard
    (∃ s, k.section? i = some s ∧ k.TellsNumLock s) ∧
      ∀ f : Flag, layout.numLockMask = f.mask → f ≠ .shift →
        ∀ id t, k.partsNumLock i id = true →
          ∃ s, (k.release id t).keyboard.section? i = some s ∧
            ¬(k.release id t).keyboard.TellsNumLock s := by
  intro k
  have hk : k.Agrees layout i := by
    have hstart := agrees_ofLayout layout hi behavior
    have hrun := run_of_releases (P := fun k => k.Agrees layout i)
      (Q := fun k id => k.partsNumLock i id = false)
      (fun _ id t h => h.press hc id t) (fun _ _ t h hp => h.release hc hp t) hstart ho hq
    exact hrun
  exact ⟨hk.tells, fun f hn hf id t hp => hk.not_tells_release hn hf hp t⟩

theorem num_lock_tells_keypad :
    let ops : List Operation := [.press ⟨1, 0⟩ 1, .release ⟨1, 0⟩ 2, .press ⟨0, 1⟩ 3,
      .release ⟨0, 1⟩ 4, .press ⟨0, 0⟩ 5]
    let k := ((ofLayout .keypad).run (.setBehavior .latch :: ops)).keyboard
    k.modifiers = Flag.mod2.mask ||| Flag.shift.mask ∧
      (∃ s, k.section? 1 = some s ∧ k.TellsNumLock s) ∧
      ∃ s, (k.release ⟨0, 0⟩ 6).keyboard.section? 1 = some s ∧
        ¬(k.release ⟨0, 0⟩ 6).keyboard.TellsNumLock s := by
  obtain ⟨ht, hn⟩ := num_lock_tells_until_parted .keypad 1 (by decide) (by decide) .latch
    [.press ⟨1, 0⟩ 1, .release ⟨1, 0⟩ 2, .press ⟨0, 1⟩ 3, .release ⟨0, 1⟩ 4, .press ⟨0, 0⟩ 5]
    (by decide) (by decide)
  exact ⟨by decide, ht, hn .mod2 rfl (by decide) ⟨0, 0⟩ 6 (by decide)⟩

/-- A letter that ends the latch takes num lock from the keyboard, and the keypad keeps it. -/
theorem num_lock_outlasts_latch :
    let ops : List Operation := [.press ⟨1, 0⟩ 1, .release ⟨1, 0⟩ 2, .press ⟨0, 0⟩ 3,
      .release ⟨0, 0⟩ 4]
    let k := ((ofLayout .keypad).run (.setBehavior .latch :: ops)).keyboard
    Layout.keypad.ConfinesNumLock 1 ∧ (∀ op ∈ ops, op.isKeyEvent = true) ∧
      (k.section? 1).bind Section.level? = some Section.numLockLevel ∧
      k.modifiers.intersects Layout.keypad.numLockMask = false := by
  decide

end Keyboard

end ScreenKeyboard
