import ScreenKeyboard.Proofs.Keyboard.Moves
import ScreenKeyboard.Proofs.Modifier.Bits

namespace ScreenKeyboard

def Event.level? : Event → Option Level
  | .shown _ level => some level
  | _ => none

namespace Outcome

def levels (o : Outcome) : List Level :=
  o.events.filterMap Event.level?

/-- The outcome has the level, modifiers and behavior of the keyboard, and reports no level. -/
structure Rests (o : Outcome) (k : Keyboard) : Prop where
  level : o.keyboard.level = k.level
  modifiers : o.keyboard.modifiers = k.modifiers
  behavior : o.keyboard.behavior = k.behavior
  levels : o.levels = []

/-- The keyboard was given modifiers, and the level and the behavior have followed. -/
structure Turns (o : Outcome) (k : Keyboard) (modifiers : Mask) (toggled : Bool) : Prop where
  level : o.keyboard.level = k.level.next modifiers toggled
  modifiers : o.keyboard.modifiers = k.level.nextModifiers modifiers toggled
  behavior : o.keyboard.behavior = Keyboard.behaviorFor o.keyboard.level
  levels : o.levels = if k.level = o.keyboard.level then [] else [o.keyboard.level]

theorem levels_andThen (o : Outcome) (f : Keyboard → Outcome) :
    (o.andThen f).levels = o.levels ++ (f o.keyboard).levels :=
  List.filterMap_append

variable {o : Outcome} {k k' : Keyboard} {m : Mask} {toggled : Bool}

def Lights (o : Outcome) : Prop :=
  ∀ event ∈ o.events, event.level? = none ∧ event.activation? = none

theorem Lights.still (k : Keyboard) : (⟨k, []⟩ : Outcome).Lights := by
  simp [Lights]

theorem Lights.andThen {f : Keyboard → Outcome} (h : o.Lights) (hf : (f o.keyboard).Lights) :
    (o.andThen f).Lights := by
  intro event he
  rcases List.mem_append.mp he with he | he
  · exact h event he
  · exact hf event he

theorem Lights.levels_eq_nil (h : o.Lights) : o.levels = [] :=
  List.filterMap_eq_nil_iff.mpr fun event he => (h event he).1

theorem Rests.of_unlit (h : o.keyboard.unlit = k.unlit) (hl : o.levels = []) : o.Rests k := by
  simp only [Keyboard.unlit, Keyboard.mk.injEq] at h
  obtain ⟨_, _, _, hb, hm, hv, _⟩ := h
  exact ⟨hv, hm, hb, hl⟩

/-- Of the keyboard before a turn only the level matters. -/
theorem Turns.of_level (h : o.Turns k m toggled) (hl : k.level = k'.level) :
    o.Turns k' m toggled :=
  ⟨hl ▸ h.level, hl ▸ h.modifiers, h.behavior, hl ▸ h.levels⟩

theorem Rests.andThen {f : Keyboard → Outcome} (h : o.Rests k)
    (hf : (f o.keyboard).Rests o.keyboard) : (o.andThen f).Rests k := by
  refine ⟨hf.level.trans h.level, hf.modifiers.trans h.modifiers, hf.behavior.trans h.behavior, ?_⟩
  rw [levels_andThen, h.levels, hf.levels]
  rfl

theorem Turns.after {f : Keyboard → Outcome} (hl : o.keyboard.level = k.level)
    (he : o.levels = []) (hf : (f o.keyboard).Turns o.keyboard m toggled) :
    (o.andThen f).Turns k m toggled := by
  refine ⟨hl ▸ hf.level, hl ▸ hf.modifiers, hf.behavior, ?_⟩
  rw [levels_andThen, he, List.nil_append, ← hl]
  exact hf.levels

theorem Turns.andThen {f : Keyboard → Outcome} (h : o.Turns k m toggled)
    (hf : (f o.keyboard).Rests o.keyboard) : (o.andThen f).Turns k m toggled := by
  have hb : (f o.keyboard).keyboard.behavior =
      Keyboard.behaviorFor (f o.keyboard).keyboard.level := by
    rw [hf.behavior, hf.level]
    exact h.behavior
  refine ⟨hf.level.trans h.level, hf.modifiers.trans h.modifiers, hb, ?_⟩
  rw [levels_andThen, hf.levels, List.append_nil, keyboard_andThen, hf.level]
  exact h.levels

end Outcome

namespace Keyboard

def masks (k : Keyboard) : Mask × Mask :=
  (k.numLockMask, k.altGrMask)

variable (k : Keyboard)

theorem lights_lock (id : KeyId) (m : Mask) : (k.lock id m).Lights := by
  unfold lock
  split
  next => exact .still _
  next =>
    intro event he
    cases List.mem_singleton.mp he
    exact ⟨rfl, rfl⟩

theorem lights_unlock (m : Mask) : (k.unlock m).Lights := by
  intro event he
  obtain ⟨entry, _, rfl⟩ := List.mem_map.mp he
  exact ⟨rfl, rfl⟩

theorem lights_clear (m : Mask) : (k.clear m).Lights :=
  (k.lights_unlock _).andThen (.still _)

theorem lights_changeModifiers (id : KeyId) (m : Mask) : (k.changeModifiers id m).Lights := by
  have hl : (k.lockFor id m).Lights := by
    unfold lockFor
    split
    next => exact .still k
    next => exact k.lights_lock id _
  rw [changeModifiers_eq]
  exact (hl.andThen (lights_unlock _ _)).andThen (.still _)

theorem events_showLevel (level : Level) :
    (k.showLevel level).events = if k.level = level then [] else [.shown k.group level] := by
  unfold showLevel
  split
  next => rfl
  next => rfl

theorem levels_showLevel (level : Level) :
    (k.showLevel level).levels = if k.level = level then [] else [level] := by
  unfold showLevel
  split
  next => rfl
  next => rfl

theorem levels_report (id : KeyId) (symbol : Symbol) (state : KeyState) (t : UInt32) :
    (k.report id symbol state t).levels = [] := by
  unfold report
  split
  next => rfl
  next => rfl

theorem behaviorFor_ne_none (level : Level) : behaviorFor level ≠ .none := by
  cases level <;> decide

theorem turns_refreshLevel (toggled : Bool) : (k.refreshLevel toggled).Turns k k.modifiers toggled := by
  have hu := k.unlit_refreshLevel toggled
  simp only [unlit, mk.injEq] at hu
  obtain ⟨_, _, _, hb, hm, hv, _⟩ := hu
  refine ⟨hv, hm, by rw [hb, hv], ?_⟩
  rw [hv, refreshLevel_eq, Outcome.levels_andThen, levels_showLevel]
  split
  next =>
    rw [(k.lights_clear _).levels_eq_nil, List.nil_append, level_clear]
  next => rfl

theorem turns_settle (id : KeyId) (m : Mask) : (k.settle id m).Turns k m (k.isToggle id) := by
  have hm : (k.changeModifiers id m).keyboard.modifiers = m := rfl
  have h := (k.changeModifiers id m).keyboard.turns_refreshLevel
    ((k.changeModifiers id m).keyboard.isToggle id)
  rw [settle]
  apply Outcome.Turns.after (k.level_changeModifiers id m) (k.lights_changeModifiers id m).levels_eq_nil
  rw [hm, isToggle_changeModifiers] at h
  rw [isToggle_changeModifiers]
  exact h

theorem rests_report (id : KeyId) (symbol : Symbol) (state : KeyState) (t : UInt32) :
    (k.report id symbol state t).Rests k :=
  .of_unlit (congrArg unlit (k.keyboard_report id symbol state t)) (k.levels_report id symbol state t)

theorem rests_press (hb : k.behavior ≠ .none) (id : KeyId) (t : UInt32) :
    (k.press id t).Rests k := by
  rcases k.press_cases id t with ⟨_, he⟩ | ⟨_, _, he⟩ | ⟨_, _, _, _, he⟩ | ⟨_, _, _, hn, _⟩
  · rw [he]
    exact ⟨rfl, rfl, rfl, rfl⟩
  · rw [he]
    exact ⟨rfl, rfl, rfl, rfl⟩
  · rw [he]
    have h : (⟨k.hold id, []⟩ : Outcome).Rests k := ⟨rfl, rfl, rfl, rfl⟩
    rw [← Outcome.still_andThen (k.hold id) fun k => k.report id _ .pressed t]
    exact h.andThen (rests_report _ _ _ _ _)
  · exact absurd hn hb

theorem turns_press {id : KeyId} {symbol : Symbol} (hb : k.behavior = .none)
    (hr : k.resolve id = some symbol) (t : UInt32) :
    (k.press id t).Turns k (k.modifiers ||| symbol.modifiers) (k.isToggle id) := by
  have ht : ((k.hold id).sectionPress id symbol.modifiers).isToggle id = k.isToggle id := by
    rw [isToggle, isToggle, key?_sectionPress, key?_hold]
    cases k.key? id <;> simp [Key.isToggle]
  have h := ((k.hold id).sectionPress id symbol.modifiers).turns_settle id
    (k.modifiers ||| symbol.modifiers)
  rw [ht] at h
  have hk := h.of_level (show _ = k.level from rfl)
  rw [k.press_of_none hb hr t]
  exact hk.andThen (rests_report _ _ _ _ _)

theorem rests_or_turns_press (id : KeyId) (t : UInt32) :
    (k.press id t).Rests k ∨ ∃ m toggled, (k.press id t).Turns k m toggled := by
  by_cases hb : k.behavior = .none
  · rcases k.press_cases id t with ⟨_, he⟩ | ⟨_, _, he⟩ | ⟨_, _, _, hn, _⟩ | ⟨s, _, hr, _, _⟩
    · rw [he]
      exact Or.inl ⟨rfl, rfl, rfl, rfl⟩
    · rw [he]
      exact Or.inl ⟨rfl, rfl, rfl, rfl⟩
    · exact absurd hb hn
    · exact Or.inr ⟨_, _, k.turns_press hb hr t⟩
  · exact Or.inl (k.rests_press hb id t)

theorem rests_release (id : KeyId) (t : UInt32) (h : id ∈ k.pressed → k.resolve id = none) :
    (k.release id t).Rests k := by
  rcases k.release_cases id t with ⟨_, he⟩ | ⟨_, _, he⟩ | ⟨_, hm, hr, _⟩
  · rw [he]
    exact ⟨rfl, rfl, rfl, rfl⟩
  · rw [he]
    exact ⟨rfl, rfl, rfl, rfl⟩
  · rw [h hm] at hr
    simp at hr

theorem isToggle_sectionRelease (id : KeyId) (m : Mask) :
    ((k.letGo id).sectionRelease id m).isToggle id = k.isToggle id := by
  rw [isToggle, isToggle, key?_sectionRelease, key?_letGo]
  cases k.key? id <;> simp [Key.isToggle]

theorem turns_release {id : KeyId} {symbol : Symbol} (hi : id ∈ k.pressed)
    (hr : k.resolve id = some symbol) (t : UInt32) :
    (k.release id t).Turns k (modifiersAfterRelease k.modifiers symbol.modifiers k.behavior)
      (k.isToggle id) := by
  have h := ((k.letGo id).sectionRelease id symbol.modifiers).turns_settle id
    (modifiersAfterRelease k.modifiers symbol.modifiers k.behavior)
  rw [isToggle_sectionRelease] at h
  have hk := h.of_level (show _ = k.level from rfl)
  rw [k.release_of_resolve_eq_some hi hr t]
  exact hk.andThen (rests_report _ _ _ _ _)

theorem pressed_settle (id : KeyId) (m : Mask) : (k.settle id m).keyboard.pressed = k.pressed := by
  have hu := k.unlit_settle id m
  simp only [unlit, mk.injEq] at hu
  obtain ⟨_, _, _, _, _, _, _, hp, _⟩ := hu
  exact hp

theorem pressed_press (id : KeyId) (t : UInt32) : (k.press id t).keyboard.pressed =
    if (k.key? id).isSome then id :: k.pressed.erase id else k.pressed := by
  rcases k.press_cases id t with ⟨hk, he⟩ | ⟨hk, _, he⟩ | ⟨_, hk, _, _, he⟩ | ⟨_, hk, _, _, he⟩
  · rw [hk, he]
    rfl
  · rw [hk, he]
    rfl
  · rw [hk, he, keyboard_report]
    rfl
  · rw [hk, he, Outcome.keyboard_andThen, keyboard_report, pressed_settle]
    rfl

theorem pressed_release (id : KeyId) (t : UInt32) :
    (k.release id t).keyboard.pressed = k.pressed.erase id := by
  rcases k.release_cases id t with ⟨hn, he⟩ | ⟨_, _, he⟩ | ⟨_, _, _, he⟩
  · rw [he]
    exact (List.erase_of_not_mem hn).symm
  · rw [he]
    rfl
  · rw [he, Outcome.keyboard_andThen, keyboard_report, pressed_settle]
    rfl

theorem masks_settle (id : KeyId) (m : Mask) :
    (k.settle id m).keyboard.masks = k.masks := by
  have hu := congrArg masks (k.unlit_settle id m)
  exact hu

theorem masks_press (id : KeyId) (t : UInt32) :
    (k.press id t).keyboard.masks = k.masks := by
  rcases k.press_cases id t with ⟨_, he⟩ | ⟨_, _, he⟩ | ⟨_, _, _, _, he⟩ | ⟨_, _, _, _, he⟩
  · rw [he]
  · rw [he]
    rfl
  · rw [he, keyboard_report]
    rfl
  · rw [he, Outcome.keyboard_andThen, keyboard_report, masks_settle]
    rfl

theorem masks_release (id : KeyId) (t : UInt32) :
    (k.release id t).keyboard.masks = k.masks := by
  rcases k.release_cases id t with ⟨_, he⟩ | ⟨_, _, he⟩ | ⟨_, _, _, he⟩
  · rw [he]
  · rw [he]
    rfl
  · rw [he, Outcome.keyboard_andThen, keyboard_report, masks_settle]
    rfl

theorem rests_or_turns_release (id : KeyId) (t : UInt32) :
    (k.release id t).Rests k ∨ ∃ m toggled, (k.release id t).Turns k m toggled := by
  by_cases hi : id ∈ k.pressed
  · cases hr : k.resolve id with
    | none => exact Or.inl (k.rests_release id t fun _ => hr)
    | some symbol => exact Or.inr ⟨_, _, k.turns_release hi hr t⟩
  · exact Or.inl (k.rests_release id t fun h => absurd h hi)

theorem turns_setModifiers (m : Mask) : (k.setModifiers m).Turns k m false := by
  have hl := k.level_unlock (k.modifiers &&& ~~~m)
  have h := turns_refreshLevel { (k.unlock (k.modifiers &&& ~~~m)).keyboard with modifiers := m } false
  exact Outcome.Turns.after hl (k.lights_unlock _).levels_eq_nil (h.of_level rfl)

theorem reset_eq :
    k.reset.keyboard.level = .lettersLower ∧ k.reset.keyboard.modifiers = .empty ∧
      k.reset.keyboard.behavior = .none ∧
      ((k.reset.levels = [] ∧ .lettersLower = k.level) ∨ k.reset.levels = [.lettersLower]) := by
  have hk : k.reset.keyboard =
      { (k.clear k.modifiers).keyboard with
        sections := (k.clear k.modifiers).keyboard.sections.map Section.reset
        behavior := .none
        level := .lettersLower } := by
    rw [reset, Outcome.keyboard_andThen, keyboard_showLevel]
  have hm : k.reset.keyboard.modifiers = .empty := by
    rw [hk, ← k.modifiers.and_complement_self]
    exact k.modifiers_clear _
  refine ⟨congrArg level hk, hm, congrArg behavior hk, ?_⟩
  rw [reset, Outcome.levels_andThen, (k.lights_clear _).levels_eq_nil, levels_showLevel, List.nil_append]
  split
  next h => exact Or.inl ⟨rfl, h.symm.trans (k.level_clear _)⟩
  next => exact Or.inr rfl

end Keyboard

end ScreenKeyboard
