import ScreenKeyboard.Proofs.Keyboard.History
import ScreenKeyboard.Proofs.Keyboard.Keys

namespace ScreenKeyboard

namespace Level

/-- The way to the next level would lead from one shifted level to the other. -/
def crosses (level : Level) (modifiers : Mask) (toggled : Bool) : Bool :=
  toggled && level.isShifted && modifiers.contains Flag.shift.mask

def next (level : Level) (modifiers : Mask) (toggled : Bool) : Level :=
  .ofAxes (level.onNumbers ^^ toggled)
    (modifiers.contains Flag.shift.mask && !level.crosses modifiers toggled)

def nextModifiers (level : Level) (modifiers : Mask) (toggled : Bool) : Mask :=
  if level.crosses modifiers toggled then modifiers &&& ~~~Flag.shift.mask else modifiers

theorem onNumbers_ofAxes (onNumbers shifted : Bool) :
    (ofAxes onNumbers shifted).onNumbers = onNumbers := by
  cases onNumbers <;> cases shifted <;> rfl

theorem isShifted_ofAxes (onNumbers shifted : Bool) : (ofAxes onNumbers shifted).isShifted = shifted := by
  cases onNumbers <;> cases shifted <;> rfl

theorem nextModifiers_empty (level : Level) (toggled : Bool) :
    level.nextModifiers .empty toggled = .empty := by
  unfold nextModifiers
  split
  next => rfl
  next => rfl

theorem nextModifiers_of_not_toggled (level : Level) (m : Mask) : level.nextModifiers m false = m := by
  simp [nextModifiers, crosses]

theorem next_of_not_toggled (level : Level) (m : Mask) :
    level.next m false = .ofAxes level.onNumbers (m.contains Flag.shift.mask) := by
  simp [next, crosses]

end Level

namespace Keyboard

def hold (k : Keyboard) (id : KeyId) : Keyboard :=
  { k.setPressedFlag id true with pressed := id :: k.pressed.erase id }

def letGo (k : Keyboard) (id : KeyId) : Keyboard :=
  { k.setPressedFlag id false with pressed := k.pressed.erase id }

def sectionPress (k : Keyboard) (id : KeyId) (m : Mask) : Keyboard :=
  k.updateSection id.sectionIndex fun s => s.press m k.behavior k.numLockMask

def sectionRelease (k : Keyboard) (id : KeyId) (m : Mask) : Keyboard :=
  k.updateSection id.sectionIndex fun s => s.release m k.behavior k.numLockMask

def lockFor (k : Keyboard) (id : KeyId) (m : Mask) : Outcome :=
  if ((k.modifiers ^^^ m) &&& m).isEmpty ∨ k.behavior = .none then ⟨k, []⟩
  else k.lock id ((k.modifiers ^^^ m) &&& m)

/-- Takes over modifiers on behalf of a key, and derives the level from them. -/
def settle (k : Keyboard) (id : KeyId) (modifiers : Mask) : Outcome :=
  (k.changeModifiers id modifiers).andThen fun k => k.refreshLevel (k.isToggle id)

def raise (k : Keyboard) (id : KeyId) (m : Mask) : Outcome :=
  match k.behavior with
  | .none => k.settle id (k.modifiers ||| m)
  | .lock | .latch => ⟨k, []⟩

variable (k : Keyboard)

theorem resolve_hold (id id' : KeyId) : (k.hold id).resolve id' = k.resolve id' :=
  k.resolve_updateKey id id' fun _ => rfl

theorem resolve_letGo (id id' : KeyId) : (k.letGo id).resolve id' = k.resolve id' :=
  k.resolve_updateKey id id' fun _ => rfl

theorem key?_hold (id id' : KeyId) : (k.hold id).key? id' =
    if id = id' then (k.key? id').map fun key => { key with pressed := true } else k.key? id' :=
  k.key?_updateKey id id' _

theorem key?_letGo (id id' : KeyId) : (k.letGo id).key? id' =
    if id = id' then (k.key? id').map fun key => { key with pressed := false } else k.key? id' :=
  k.key?_updateKey id id' _

theorem keys_sectionPress (s : Section) (m : Mask) (behavior : Behavior) (numLockMask : Mask) :
    (s.press m behavior numLockMask).keys = s.keys := by
  cases behavior <;> rfl

theorem keys_sectionRelease (s : Section) (m : Mask) (behavior : Behavior) (numLockMask : Mask) :
    (s.release m behavior numLockMask).keys = s.keys := by
  cases behavior <;> rfl

theorem key?_sectionPress (id id' : KeyId) (m : Mask) : (k.sectionPress id m).key? id' = k.key? id' :=
  k.key?_updateSection _ (fun s => keys_sectionPress s m _ _) id'

theorem key?_sectionRelease (id id' : KeyId) (m : Mask) :
    (k.sectionRelease id m).key? id' = k.key? id' :=
  k.key?_updateSection _ (fun s => keys_sectionRelease s m _ _) id'

/-- Only where modifiers last while held do sections learn of presses. -/
theorem sectionPress_eq_self (id : KeyId) (m : Mask) (h : k.behavior ≠ .none) :
    k.sectionPress id m = k := by
  have hs : (fun s : Section => s.press m k.behavior k.numLockMask) = fun s => s := by
    funext s
    cases hb : k.behavior with
    | none => exact absurd hb h
    | lock => rfl
    | latch => rfl
  rw [sectionPress, hs, updateSection_self]

theorem raise_of_none (h : k.behavior = .none) (id : KeyId) (m : Mask) :
    k.raise id m = k.settle id (k.modifiers ||| m) := by
  rw [raise, h]

theorem raise_of_ne_none (h : k.behavior ≠ .none) (id : KeyId) (m : Mask) :
    k.raise id m = ⟨k, []⟩ := by
  cases hb : k.behavior with
  | none => exact absurd hb h
  | lock => rw [raise, hb]
  | latch => rw [raise, hb]

theorem press_of_resolve_eq_none {id : KeyId} (hk : (k.key? id).isSome = true)
    (hr : k.resolve id = none) (t : UInt32) : k.press id t = ⟨k.hold id, []⟩ := by
  have hh : (k.hold id).resolve id = none := (k.resolve_hold id id).trans hr
  have hn : (k.key? id).isNone = false := by simpa using hk
  unfold hold at hh
  simp only [press, hn, hh]
  rfl

theorem press_of_resolve_eq_some {id : KeyId} {symbol : Symbol} (hr : k.resolve id = some symbol)
    (t : UInt32) : k.press id t =
      (((k.hold id).sectionPress id symbol.modifiers).raise id symbol.modifiers).andThen
        fun k => k.report id symbol .pressed t := by
  have hh : (k.hold id).resolve id = some symbol := (k.resolve_hold id id).trans hr
  have hn : (k.key? id).isNone = false := by simpa using k.resolve_isSome_key? hr
  unfold hold at hh
  simp only [press, hn, hh]
  rfl

theorem press_of_none {id : KeyId} {symbol : Symbol} (hb : k.behavior = .none)
    (hr : k.resolve id = some symbol) (t : UInt32) : k.press id t =
      (((k.hold id).sectionPress id symbol.modifiers).settle id
        (k.modifiers ||| symbol.modifiers)).andThen fun k => k.report id symbol .pressed t := by
  have hs := raise_of_none ((k.hold id).sectionPress id symbol.modifiers) hb id symbol.modifiers
  rw [k.press_of_resolve_eq_some hr t, hs]
  rfl

theorem press_of_ne_none {id : KeyId} {symbol : Symbol} (hb : k.behavior ≠ .none)
    (hr : k.resolve id = some symbol) (t : UInt32) :
    k.press id t = (k.hold id).report id symbol .pressed t := by
  have hn : (k.hold id).sectionPress id symbol.modifiers = k.hold id :=
    (k.hold id).sectionPress_eq_self id _ hb
  have hs := (k.hold id).raise_of_ne_none hb id symbol.modifiers
  rw [k.press_of_resolve_eq_some hr t, hn, hs, Outcome.still_andThen]

theorem press_cases (id : KeyId) (t : UInt32) :
    (k.key? id = none ∧ k.press id t = ⟨k, []⟩) ∨
    ((k.key? id).isSome = true ∧ k.resolve id = none ∧ k.press id t = ⟨k.hold id, []⟩) ∨
    (∃ symbol, (k.key? id).isSome = true ∧ k.resolve id = some symbol ∧ k.behavior ≠ .none ∧
      k.press id t = (k.hold id).report id symbol .pressed t) ∨
    ∃ symbol, (k.key? id).isSome = true ∧ k.resolve id = some symbol ∧ k.behavior = .none ∧
      k.press id t = (((k.hold id).sectionPress id symbol.modifiers).settle id
        (k.modifiers ||| symbol.modifiers)).andThen fun k => k.report id symbol .pressed t := by
  cases hk : k.key? id with
  | none => exact Or.inl ⟨rfl, by simp [press, hk]⟩
  | some key =>
    have hs : (k.key? id).isSome = true := by simp [hk]
    right
    cases hr : k.resolve id with
    | none => exact Or.inl ⟨rfl, rfl, k.press_of_resolve_eq_none hs hr t⟩
    | some symbol =>
      right
      by_cases hb : k.behavior = .none
      · exact Or.inr ⟨symbol, rfl, rfl, hb, k.press_of_none hb hr t⟩
      · exact Or.inl ⟨symbol, rfl, rfl, hb, k.press_of_ne_none hb hr t⟩

theorem release_of_resolve_eq_none {id : KeyId} (hi : id ∈ k.pressed) (hr : k.resolve id = none)
    (t : UInt32) : k.release id t = ⟨k.letGo id, []⟩ := by
  have hl : (k.letGo id).resolve id = none := (k.resolve_letGo id id).trans hr
  unfold letGo at hl
  simp only [release, hi, hl]
  rfl

theorem release_of_resolve_eq_some {id : KeyId} {symbol : Symbol} (hi : id ∈ k.pressed)
    (hr : k.resolve id = some symbol) (t : UInt32) : k.release id t =
      (((k.letGo id).sectionRelease id symbol.modifiers).settle id
        (modifiersAfterRelease k.modifiers symbol.modifiers k.behavior)).andThen
          fun k => k.report id symbol .released t := by
  have hl : (k.letGo id).resolve id = some symbol := (k.resolve_letGo id id).trans hr
  unfold letGo at hl
  simp only [release, hi, hl]
  rfl

theorem release_cases (id : KeyId) (t : UInt32) :
    (id ∉ k.pressed ∧ k.release id t = ⟨k, []⟩) ∨
    (id ∈ k.pressed ∧ k.resolve id = none ∧ k.release id t = ⟨k.letGo id, []⟩) ∨
    ∃ symbol, id ∈ k.pressed ∧ k.resolve id = some symbol ∧
      k.release id t = (((k.letGo id).sectionRelease id symbol.modifiers).settle id
        (modifiersAfterRelease k.modifiers symbol.modifiers k.behavior)).andThen
          fun k => k.report id symbol .released t := by
  by_cases hm : id ∈ k.pressed
  · right
    cases hr : k.resolve id with
    | none => exact Or.inl ⟨hm, rfl, k.release_of_resolve_eq_none hm hr t⟩
    | some symbol => exact Or.inr ⟨symbol, hm, rfl, k.release_of_resolve_eq_some hm hr t⟩
  · exact Or.inl ⟨hm, by simp [release, hm]⟩

theorem unlit_foldl_setLockedFlag (entries : List Lock) :
    (entries.foldl (fun k entry => k.setLockedFlag entry.key false) k).unlit = k.unlit := by
  induction entries generalizing k with
  | nil => rfl
  | cons entry entries ih => rw [List.foldl_cons, ih, unlit_setLockedFlag]

theorem unlit_lock (id : KeyId) (m : Mask) : (k.lock id m).keyboard.unlit = k.unlit := by
  unfold lock
  split
  next => rfl
  next =>
    have h := k.unlit_setLockedFlag id true
    simp only [unlit, mk.injEq] at h ⊢
    exact h

theorem unlit_unlock (m : Mask) : (k.unlock m).keyboard.unlit = k.unlit :=
  unlit_foldl_setLockedFlag _ _

theorem unlit_clear (m : Mask) :
    (k.clear m).keyboard.unlit = { k.unlit with modifiers := k.modifiers &&& ~~~m } :=
  congrArg (fun k : Keyboard => { k with modifiers := k.modifiers &&& ~~~m })
    (k.unlit_unlock (k.modifiers &&& m))

theorem unlit_lockFor (id : KeyId) (m : Mask) : (k.lockFor id m).keyboard.unlit = k.unlit := by
  unfold lockFor
  split
  next => rfl
  next => exact k.unlit_lock id _

theorem changeModifiers_eq (id : KeyId) (m : Mask) :
    k.changeModifiers id m =
      ((k.lockFor id m).andThen fun k' => k'.unlock ((k.modifiers ^^^ m) &&& k.modifiers)).andThen
        fun k => ⟨{ k with modifiers := m }, []⟩ :=
  rfl

theorem unlit_changeModifiers (id : KeyId) (m : Mask) :
    (k.changeModifiers id m).keyboard.unlit = { k.unlit with modifiers := m } :=
  congrArg (fun k : Keyboard => { k with modifiers := m })
    ((unlit_unlock _ _).trans (k.unlit_lockFor id m))

theorem keyboard_showLevel (level : Level) : (k.showLevel level).keyboard = { k with level } := by
  unfold showLevel
  split
  next h => rw [← h]
  next => rfl

theorem unlit_showLevel (level : Level) :
    (k.showLevel level).keyboard.unlit = { k.unlit with level } := by
  rw [keyboard_showLevel]
  rfl

theorem refreshLevel_eq (toggled : Bool) :
    k.refreshLevel toggled =
      (if k.level.crosses k.modifiers toggled then k.clear Flag.shift.mask else ⟨k, []⟩).andThen
        fun k' => { k' with behavior := behaviorFor (k.level.next k.modifiers toggled) }.showLevel
          (k.level.next k.modifiers toggled) :=
  rfl

theorem unlit_refreshLevel (toggled : Bool) :
    (k.refreshLevel toggled).keyboard.unlit =
      { k.unlit with
        modifiers := k.level.nextModifiers k.modifiers toggled
        level := k.level.next k.modifiers toggled
        behavior := behaviorFor (k.level.next k.modifiers toggled) } := by
  rw [refreshLevel_eq, Outcome.keyboard_andThen, unlit_showLevel, Level.nextModifiers]
  split
  next =>
    have h := k.unlit_clear Flag.shift.mask
    simp only [unlit, mk.injEq] at h ⊢
    simp [h]
  next => rfl

theorem refreshLevel_of_not_toggled : k.refreshLevel false =
    { k with behavior := behaviorFor (k.level.next k.modifiers false) }.showLevel
      (k.level.next k.modifiers false) := by
  have hc : k.level.crosses k.modifiers false = false := rfl
  rw [refreshLevel_eq, hc, if_neg Bool.false_ne_true, Outcome.still_andThen]

theorem isToggle_unlit (id : KeyId) : k.unlit.isToggle id = k.isToggle id := by
  rw [isToggle, isToggle, key?_unlit]
  cases k.key? id <;> rfl

theorem isToggle_changeModifiers (id id' : KeyId) (m : Mask) :
    (k.changeModifiers id m).keyboard.isToggle id' = k.isToggle id' := by
  rw [← isToggle_unlit, unlit_changeModifiers]
  exact k.isToggle_unlit id'

/-- What settling does, as if the modifiers were replaced first and the level followed. -/
theorem unlit_settle (id : KeyId) (m : Mask) :
    (k.settle id m).keyboard.unlit =
      { k.unlit with
        modifiers := k.level.nextModifiers m (k.isToggle id)
        level := k.level.next m (k.isToggle id)
        behavior := behaviorFor (k.level.next m (k.isToggle id)) } := by
  have hu := k.unlit_changeModifiers id m
  have hl : (k.changeModifiers id m).keyboard.unlit.level = k.level := by rw [hu]; rfl
  have hm : (k.changeModifiers id m).keyboard.unlit.modifiers = m := by rw [hu]
  simp only [unlit] at hl hm
  rw [settle, Outcome.keyboard_andThen, unlit_refreshLevel, hu, isToggle_changeModifiers, hl, hm]

theorem modifiers_clear (m : Mask) : (k.clear m).keyboard.modifiers = k.modifiers &&& ~~~m :=
  (congrArg modifiers (k.unlit_clear m) :)

theorem level_unlock (m : Mask) : (k.unlock m).keyboard.level = k.level :=
  (congrArg level (k.unlit_unlock m) :)

theorem group_unlock (m : Mask) : (k.unlock m).keyboard.group = k.group :=
  (congrArg group (k.unlit_unlock m) :)

theorem level_clear (m : Mask) : (k.clear m).keyboard.level = k.level :=
  k.level_unlock _

theorem group_clear (m : Mask) : (k.clear m).keyboard.group = k.group :=
  k.group_unlock _

theorem level_changeModifiers (id : KeyId) (m : Mask) :
    (k.changeModifiers id m).keyboard.level = k.level :=
  (congrArg level (k.unlit_changeModifiers id m) :)

theorem group_changeModifiers (id : KeyId) (m : Mask) :
    (k.changeModifiers id m).keyboard.group = k.group :=
  (congrArg group (k.unlit_changeModifiers id m) :)

theorem keyboard_report (id : KeyId) (symbol : Symbol) (state : KeyState) (t : UInt32) :
    (k.report id symbol state t).keyboard = k := by
  unfold report
  split <;> rfl

end Keyboard

end ScreenKeyboard
