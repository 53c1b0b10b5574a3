import ScreenKeyboard.Proofs.Keyboard.Cover
import ScreenKeyboard.Proofs.Keyboard.Presses

namespace ScreenKeyboard

namespace Keyboard

def Operation.setsMask : Operation → Bool
  | .setNumLockMask _ | .setAltGrMask _ => true
  | _ => false

def teardown (t : UInt32) : List Operation :=
  [.releaseAll t, .reset, .setGroup 0]

/-- Nothing is pressed, locked or turned on. -/
structure Rested (k : Keyboard) : Prop where
  sections : ∀ s ∈ k.sections, s.reset = s
  keys : ∀ id key, k.key? id = some key → key.pressed = false ∧ key.locked = false
  behavior : k.behavior = .none
  modifiers : k.modifiers = .empty
  level : k.level = .lettersLower
  group : k.group = 0
  pressed : k.pressed = []
  locks : k.locks = []

variable {k : Keyboard}

theorem masks_setModifiers (k : Keyboard) (m : Mask) :
    (k.setModifiers m).keyboard.masks = k.masks := by
  have hl := congrArg masks (k.unlit_unlock (k.modifiers &&& ~~~m))
  have hu := congrArg masks (unlit_refreshLevel
    { (k.unlock (k.modifiers &&& ~~~m)).keyboard with modifiers := m } false)
  exact hu.trans hl

theorem masks_reset (k : Keyboard) : k.reset.keyboard.masks = k.masks := by
  have hu := congrArg masks (k.unlit_clear k.modifiers)
  rw [reset, Outcome.keyboard_andThen, keyboard_showLevel]
  exact hu

theorem masks_step (k : Keyboard) {op : Operation} (ho : op.setsMask = false) :
    (k.step op).keyboard.masks = k.masks := by
  cases op with
  | press id t => exact k.masks_press id t
  | release id t => exact k.masks_release id t
  | releaseAll t =>
    have hr : ∀ (k' : Keyboard) id, Outcome.Keeps (fun o => o.keyboard.masks = k.masks) k'
        (k'.release id t) := fun k' id _ h => (k'.masks_release id t).trans h
    have hc : Outcome.Keeps (fun o => o.keyboard.masks = k.masks) k (k.releaseAll t) :=
      Outcome.Keeps.chain (fun k' id _ => hr k' id) k
    exact hc.holds rfl
  | setModifiers m => exact k.masks_setModifiers m
  | setLevel level =>
    rw [step, keyboard_showLevel]
    rfl
  | setGroup group =>
    rw [step, keyboard_setGroup]
    rfl
  | setBehavior _ => rfl
  | setNumLockMask _ | setAltGrMask _ => exact Bool.noConfusion ho
  | reset => exact k.masks_reset

theorem masks_run {ops : List Operation} (ho : ∀ op ∈ ops, op.setsMask = false) (k : Keyboard) :
    (k.run ops).keyboard.masks = k.masks := by
  have hs : ∀ k', ∀ op ∈ ops, Outcome.Keeps (fun o => o.keyboard.masks = k.masks) k' (k'.step op) :=
    fun k' op hm _ h => (k'.masks_step (ho op hm)).trans h
  exact (run_keeps hs k).holds rfl

/-- No lock is for modifiers that are off, so all of them go with the modifiers. -/
theorem unlockedIds_modifiers (h : k.Sound) (ht : k.Tidy) :
    k.unlockedIds (k.modifiers &&& k.modifiers) = k.lockedIds := by
  have hall : ∀ entry ∈ k.locks,
      entry.modifiers.intersects (k.modifiers &&& k.modifiers) = true := by
    intro entry he
    obtain ⟨i, hi⟩ : ∃ i, entry.modifiers.has i = true := by
      by_contra hn
      apply ht.nonempty entry he
      apply Mask.eq_empty_iff.mpr
      simpa using hn
    have hon := Mask.contains_iff.mp (h.covers entry he) i hi
    exact Mask.intersects_iff.mpr ⟨i, hi, by simp [hon]⟩
  rw [unlockedIds, List.filter_eq_self.mpr hall, lockedIds]

theorem events_reset (h : k.Sound) (ht : k.Tidy) :
    k.reset.events = k.lockedIds.map Event.unlocked ++
      if k.level = .lettersLower then [] else [.shown k.group .lettersLower] := by
  have hc : (k.clear k.modifiers).events = k.lockedIds.map Event.unlocked := by
    rw [clear, Outcome.events_andThen, events_unlock, unlockedIds_modifiers h ht, List.append_nil]
  rw [reset, Outcome.events_andThen, hc, events_showLevel, level_clear, group_clear]

theorem exists_key?_eq {s : Section} (hs : s ∈ k.sections) {key : Key} (hk : key ∈ s.keys) :
    ∃ id, k.key? id = some key := by
  obtain ⟨i, hi⟩ := List.mem_iff_getElem?.mp hs
  obtain ⟨j, hj⟩ := List.mem_iff_getElem?.mp hk
  refine ⟨⟨i, j⟩, ?_⟩
  rw [key?_eq_bind, section?, hi]
  exact hj

theorem Rested.idle (h : k.Rested) {s : Section} (hs : s ∈ k.sections) : s.idle = s := by
  have hkey : ∀ key ∈ s.keys, key.idle = key := by
    intro key hk
    obtain ⟨id, hi⟩ := exists_key?_eq hs hk
    obtain ⟨hp, hl⟩ := h.keys id key hi
    cases key
    subst hp hl
    rfl
  have hkeys : s.keys.map Key.idle = s.keys := (List.map_congr_left hkey).trans (List.map_id _)
  rw [Section.idle, h.sections s hs, hkeys]

theorem Rested.fresh (h : k.Rested) : k.Fresh := by
  have hs : k.sections.map Section.idle = k.sections :=
    (List.map_congr_left fun _ hs => h.idle hs).trans (List.map_id _)
  obtain ⟨_, _, hb, hm, hl, hg, hp, hn⟩ := h
  cases k
  subst hb hm hl hg hp hn
  simp only [Fresh, body] at hs ⊢
  rw [hs]

theorem Fresh.eq_of_body {k' : Keyboard} (h : k.Fresh) (h' : k'.Fresh) (hb : k'.body = k.body)
    (hm : k'.masks = k.masks) : k' = k := by
  obtain ⟨hn, ha⟩ := Prod.mk.inj hm
  calc
    k' = { k'.body with numLockMask := k'.numLockMask, altGrMask := k'.altGrMask } := h'
    _ = { k.body with numLockMask := k.numLockMask, altGrMask := k.altGrMask } := by rw [hb, hn, ha]
    _ = k := h.symm

theorem resetSections_of_reset (k : Keyboard) : ∀ s ∈ k.reset.keyboard.sections, s.reset = s := by
  intro s hs
  rw [reset, Outcome.keyboard_andThen, keyboard_showLevel] at hs
  obtain ⟨_, _, rfl⟩ := List.mem_map.mp hs
  rfl

theorem keyboard_teardown (k : Keyboard) (t : UInt32) :
    (k.run (teardown t)).keyboard = { (k.releaseAll t).keyboard.reset.keyboard with group := 0 } := by
  have hg := keyboard_setGroup (k.releaseAll t).keyboard.reset.keyboard 0
  exact hg

theorem rested_teardown (h : k.Sound) (hs : k.NamedSymbols) (hm : k.Marked) (ht : k.Tidy)
    (t : UInt32) : (k.run (teardown t)).keyboard.Rested := by
  have hsound : (k.releaseAll t).keyboard.reset.keyboard.Sound := (h.releaseAll hs t).reset
  have hmarked : (k.releaseAll t).keyboard.reset.keyboard.Marked :=
    (marked_keptByMoves.reset _).holds ((marked_keptByMoves.step k (.releaseAll t)).holds hm)
  have htidy : (k.releaseAll t).keyboard.reset.keyboard.Tidy :=
    (tidy_keptByMoves.reset _).holds ((tidy_keptByMoves.step k (.releaseAll t)).holds ht)
  have hpressed : (k.releaseAll t).keyboard.reset.keyboard.pressed = [] :=
    (quiet_reset _).pressed.trans (k.pressed_releaseAll t)
  obtain ⟨hlevel, hmodifiers, hbehavior, _⟩ := (k.releaseAll t).keyboard.reset_eq
  -- With the modifiers all locks are gone, and with the pressed keys all marks.
  obtain ⟨hlocks, hunlit⟩ := hsound.unlocked_of_empty htidy hmodifiers
  rw [keyboard_teardown]
  exact ⟨resetSections_of_reset _,
    fun id key hk => ⟨hmarked.not_flagged_of_nil hpressed hk, hunlit id key hk⟩,
    hbehavior, hmodifiers, hlevel, rfl, hpressed, hlocks⟩

/-- While all masks have flags, a teardown after any operations gives back the keyboard as it was
built. A reset on the way reports each locked key as unlocked, once and in the order of the locks,
and then the first level if it was not shown already. -/
theorem teardown_restores_every_run (layout : Layout) (ops : List Operation) (t : UInt32)
    (hl : layout.UsesNamedFlags) (ho : ∀ op ∈ ops, op.UsesNamedFlags)
    (hm : ∀ op ∈ ops, op.setsMask = false) :
    ((ofLayout layout).run (ops ++ teardown t)).keyboard = ofLayout layout ∧
    (∀ later, (ofLayout layout).run (ops ++ teardown t ++ later) =
      ((ofLayout layout).run (ops ++ teardown t)).andThen fun _ => (ofLayout layout).run later) ∧
    let k := ((ofLayout layout).run ops).keyboard
    k.reset.events = k.locks.map (fun entry => .unlocked entry.key) ++
      (if k.level = .lettersLower then [] else [.shown k.group .lettersLower]) ∧
    (k.locks.map Lock.key).Nodup ∧
    ∀ id, (∃ key, k.key? id = some key ∧ key.locked = true) ↔ id ∈ k.locks.map Lock.key := by
  have hfresh := fresh_ofLayout layout
  have hnamed := namedSymbols_ofLayout hl
  have hbody := (ofLayout layout).body_run ops
  have hsound := hfresh.sound.run hnamed ho
  have hmarked := marked_run hfresh.marked ops
  have htidy := tidy_run hfresh.tidy ops
  have hback : ((ofLayout layout).run (ops ++ teardown t)).keyboard = ofLayout layout := by
    have hrested := rested_teardown hsound (hnamed.of_body hbody) hmarked htidy t
    have hmasks : ((ofLayout layout).run (ops ++ teardown t)).keyboard.masks =
        (ofLayout layout).masks := by
      have hlast : ∀ op ∈ teardown t, op.setsMask = false := by simp [teardown, Operation.setsMask]
      apply masks_run
      intro op hop
      rcases List.mem_append.mp hop with hop | hop
      · exact hm op hop
      · exact hlast op hop
    refine hfresh.eq_of_body ?_ ((ofLayout layout).body_run _) hmasks
    rw [run_append, Outcome.keyboard_andThen]
    exact hrested.fresh
  refine ⟨hback, ?_, ?_, htidy.nodup, ?_⟩
  · intro later
    rw [run_append, Outcome.andThen, hback]
    rfl
  · have he := events_reset hsound htidy
    rw [lockedIds, List.map_map] at he
    exact he
  · intro id
    have hi := htidy.lit id
    rw [lamp, Option.map_eq_some_iff] at hi
    exact hi

def unfinished : List Operation :=
  [.setBehavior .latch, .press ⟨0, 0⟩ 1, .release ⟨0, 0⟩ 2, .press ⟨0, 1⟩ 3, .release ⟨0, 1⟩ 4,
    .press ⟨0, 2⟩ 5, .setGroup 1]

theorem teardown_restores_unfinished :
    let k := ((ofLayout .small).run unfinished).keyboard
    k.pressed = [⟨0, 2⟩] ∧
    k.reset.events = [.unlocked ⟨0, 1⟩, .unlocked ⟨0, 0⟩, .shown 1 .lettersLower] ∧
    ((ofLayout .small).run (unfinished ++ teardown 6)).keyboard = ofLayout .small := by
  obtain ⟨hback, _, he, _⟩ := teardown_restores_every_run .small unfinished 6 (by decide) (by decide)
    (by decide)
  have hk : ((ofLayout .small).run unfinished).keyboard.locks =
        [⟨Flag.control.mask, ⟨0, 1⟩⟩, ⟨Flag.shift.mask, ⟨0, 0⟩⟩] ∧
      ((ofLayout .small).run unfinished).keyboard.level = .lettersUpper ∧
      ((ofLayout .small).run unfinished).keyboard.group = 1 := by decide
  rw [hk.1, hk.2.1, hk.2.2] at he
  exact ⟨by decide, he, hback⟩

end Keyboard

end ScreenKeyboard
