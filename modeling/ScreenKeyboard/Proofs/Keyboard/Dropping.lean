import ScreenKeyboard.Proofs.Keyboard.Cover
import ScreenKeyboard.Proofs.Keyboard.Turns

namespace ScreenKeyboard

def Layout.unnamed : Layout where
  name := "unnamed"
  sections := [{ name := "main", keys := [.ofMask "XTRA" (.ofNat 0x200)] }]

namespace Keyboard

/-- With the modifiers that go off, the locks for them are gone, and no others; the keys are
reported as unlocked, each once and in the order of the locks, and then the level if it is another
one. -/
def UnlocksDropped (k : Keyboard) (m : Mask) : Prop :=
  (k.setModifiers m).keyboard.locks =
      k.locks.filter (fun entry => !entry.modifiers.intersects (k.modifiers.without m)) ∧
    (k.setModifiers m).events = (k.unlockedIds (k.modifiers.without m)).map .unlocked ++
      if k.level = (k.setModifiers m).keyboard.level then []
      else [.shown k.group (k.setModifiers m).keyboard.level]

instance (k : Keyboard) (m : Mask) : Decidable (k.UnlocksDropped m) :=
  inferInstanceAs (Decidable (_ ∧ _))

variable {k : Keyboard}

theorem keyboard_setModifiers (k : Keyboard) (m : Mask) :
    (k.setModifiers m).keyboard =
      { (k.unlock (k.modifiers.without m &&& .named)).keyboard with
        modifiers := m
        level := k.level.next m false
        behavior := behaviorFor (k.level.next m false) } := by
  rw [setModifiers, Outcome.keyboard_andThen, refreshLevel_of_not_toggled, keyboard_showLevel,
    level_unlock, Mask.and_complement]

theorem locks_setModifiers (k : Keyboard) (m : Mask) :
    (k.setModifiers m).keyboard.locks =
      k.locks.filter fun entry => !entry.modifiers.intersects (k.modifiers.without m &&& .named) := by
  rw [keyboard_setModifiers]
  exact k.locks_unlock _

theorem events_setModifiers (k : Keyboard) (m : Mask) :
    (k.setModifiers m).events =
      (k.unlockedIds (k.modifiers.without m &&& .named)).map .unlocked ++
        if k.level = (k.setModifiers m).keyboard.level then []
        else [.shown k.group (k.setModifiers m).keyboard.level] := by
  rw [keyboard_setModifiers, setModifiers, Outcome.events_andThen, events_unlock,
    refreshLevel_of_not_toggled, events_showLevel, level_unlock, group_unlock, Mask.and_complement]

theorem setModifiers_self (hl : k.level.next k.modifiers false = k.level)
    (hb : k.behavior = behaviorFor k.level) : k.setModifiers k.modifiers = ⟨k, []⟩ := by
  have hk : ({ k with behavior := behaviorFor k.level } : Keyboard) = k := by rw [← hb]
  rw [setModifiers, Mask.and_complement_self, unlock_empty, Outcome.still_andThen,
    refreshLevel_of_not_toggled, hl, hk, showLevel, if_pos rfl]

theorem setModifiers_setModifiers (k : Keyboard) (m : Mask) :
    (k.setModifiers m).keyboard.setModifiers m = ⟨(k.setModifiers m).keyboard, []⟩ := by
  have hk := k.keyboard_setModifiers m
  have hm : (k.setModifiers m).keyboard.modifiers = m := congrArg modifiers hk
  have hv : (k.setModifiers m).keyboard.level = k.level.next m false := congrArg level hk
  have hb : (k.setModifiers m).keyboard.behavior =
      behaviorFor (k.setModifiers m).keyboard.level := by
    rw [hv]
    exact congrArg behavior hk
  have hl : (k.setModifiers m).keyboard.level.next m false = (k.setModifiers m).keyboard.level := by
    simp only [hv, Level.next_of_not_toggled, Level.onNumbers_ofAxes]
  generalize (k.setModifiers m).keyboard = k' at hm hb hl ⊢
  subst hm
  exact setModifiers_self hl hb

/-- What is unlocked is right just if each lock for bits that go off has one with a flag among them.
-/
theorem unlocksDropped_iff (k : Keyboard) (m : Mask) :
    k.UnlocksDropped m ↔ ∀ entry ∈ k.locks,
      entry.modifiers.intersects (k.modifiers.without m) = true →
        entry.modifiers.intersects (k.modifiers.without m &&& .named) = true := by
  constructor
  · rintro ⟨hl, _⟩ entry he hx
    by_contra hn
    have hkept : entry ∈ (k.setModifiers m).keyboard.locks := by
      rw [locks_setModifiers]
      exact List.mem_filter.mpr ⟨he, by simpa using hn⟩
    rw [hl] at hkept
    simp [hx] at hkept
  · intro h
    have hsame : ∀ entry ∈ k.locks,
        entry.modifiers.intersects (k.modifiers.without m &&& .named) =
          entry.modifiers.intersects (k.modifiers.without m) := by
      intro entry he
      cases hx : entry.modifiers.intersects (k.modifiers.without m) with
      | true => exact h entry he hx
      | false =>
        apply Mask.intersects_eq_false_iff.mpr
        intro i hi
        rw [Mask.has_and, Mask.intersects_eq_false_iff.mp hx i hi, Bool.false_and]
    refine ⟨?_, ?_⟩
    · rw [locks_setModifiers]
      exact List.filter_congr fun entry he => congrArg not (hsame entry he)
    · rw [events_setModifiers, unlockedIds, unlockedIds, List.filter_congr hsame]

theorem unlocksDropped_every_run (layout : Layout) (ops : List Operation)
    (hl : layout.UsesNamedFlags) (ho : ∀ op ∈ ops, op.UsesNamedFlags) (m : Mask) :
    ((ofLayout layout).run ops).keyboard.UnlocksDropped m := by
  have hsound := (fresh_ofLayout layout).sound.run (namedSymbols_ofLayout hl) ho
  apply (unlocksDropped_iff _ m).mpr
  intro entry _ hx
  rw [← Mask.and_complement, hsound.named.and_complement]
  exact hx

/-- Whatever modifiers a host asks for, the keyboard has just these, stays on its axis and has the
shift of them. The locks that go are all locks for modifiers that go off, just if each of those has
a modifier with a flag among them. -/
theorem setModifiers_drops (k : Keyboard) (m : Mask) :
    let o := k.setModifiers m
    let off := k.modifiers.without m
    o.keyboard.modifiers = m ∧
    o.keyboard.level = .ofAxes k.level.onNumbers (m.contains Flag.shift.mask) ∧
    o.keyboard.locks =
      k.locks.filter (fun entry => !entry.modifiers.intersects (off &&& .named)) ∧
    o.events = (k.unlockedIds (off &&& .named)).map .unlocked ++
      (if k.level = o.keyboard.level then [] else [.shown k.group o.keyboard.level]) ∧
    o.keyboard.setModifiers m = ⟨o.keyboard, []⟩ ∧
    (k.UnlocksDropped m ↔ ∀ entry ∈ k.locks, entry.modifiers.intersects off = true →
      entry.modifiers.intersects (off &&& .named) = true) := by
  have hk := k.keyboard_setModifiers m
  have hm : (k.setModifiers m).keyboard.modifiers = m := congrArg modifiers hk
  have hv : (k.setModifiers m).keyboard.level = k.level.next m false := congrArg level hk
  rw [Level.next_of_not_toggled] at hv
  exact ⟨hm, hv, k.locks_setModifiers m, k.events_setModifiers m, k.setModifiers_setModifiers m,
    k.unlocksDropped_iff m⟩

/-- A key sticks for a modifier without a flag, and stays locked when the host drops all modifiers.
-/
theorem unnamed_stays_locked :
    let k := ((ofLayout .unnamed).run [.setBehavior .latch, .press ⟨0, 0⟩ 1,
      .release ⟨0, 0⟩ 2]).keyboard
    let o := k.setModifiers .empty
    k.modifiers = .ofNat 0x200 ∧ k.locks = [⟨.ofNat 0x200, ⟨0, 0⟩⟩] ∧
    o.keyboard.modifiers = .empty ∧ o.keyboard.locks = k.locks ∧ o.events = [] ∧
    ¬k.UnlocksDropped .empty := by
  decide

end Keyboard

end ScreenKeyboard
