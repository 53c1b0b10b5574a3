import Mathlib.Data.List.Chain
import ScreenKeyboard.Proofs.Keyboard.Turns
import ScreenKeyboard.Proofs.Layout.Built

namespace ScreenKeyboard

namespace Level

def Opposed (a b : Level) : Prop :=
  (a = lettersUpper ∧ b = symbols) ∨ (a = symbols ∧ b = lettersUpper)

instance (a b : Level) : Decidable (a.Opposed b) :=
  inferInstanceAs (Decidable (_ ∨ _))

theorem not_opposed_self (a : Level) : ¬a.Opposed a := by
  cases a <;> decide

theorem not_opposed_lettersLower (a : Level) : ¬a.Opposed lettersLower := by
  cases a <;> decide

/-- The level and the modifiers that follow agree, whatever the level was. -/
theorem isShifted_next (level : Level) (m : Mask) (toggled : Bool) :
    (level.next m toggled).isShifted =
      (level.nextModifiers m toggled).contains Flag.shift.mask := by
  rw [next, isShifted_ofAxes, nextModifiers]
  cases hc : level.crosses m toggled with
  | false => simp
  | true => simp [Mask.contains_and_complement_mask]

theorem not_opposed_next (level : Level) (m : Mask) (toggled : Bool) :
    ¬level.Opposed (level.next m toggled) := by
  unfold next crosses
  cases m.contains Flag.shift.mask <;> cases toggled <;> cases level <;> decide

end Level

namespace Keyboard

def Operation.setsLevel : Operation → Bool
  | .setLevel _ => true
  | _ => false

def Operation.setsBehavior : Operation → Bool
  | .setBehavior _ => true
  | _ => false

/-- The behavior is the one for the level, or the one that a keyboard starts with. -/
def Fits (k : Keyboard) : Prop :=
  k.behavior = behaviorFor k.level ∨
    (k.behavior = .none ∧ k.modifiers = .empty ∧ k.level = .lettersLower)

variable {k : Keyboard}

theorem Fits.of_eq {k' : Keyboard} (h : k.Fits) (hl : k'.level = k.level)
    (hm : k'.modifiers = k.modifiers) (hb : k'.behavior = k.behavior) : k'.Fits := by
  unfold Fits
  rw [hl, hm, hb]
  exact h

theorem Fits.lock_iff (h : k.Fits) : k.behavior = .lock ↔ k.level.onNumbers = true := by
  rcases h with h | ⟨hb, _, hl⟩
  · rw [h, behaviorFor]
    cases k.level.onNumbers <;> simp
  · rw [hb, hl]
    decide

theorem Fits.of_letters (h : k.Fits) (hn : k.level.onNumbers = false) : k.behavior = .latch ∨
    (k.behavior = .none ∧ k.modifiers = .empty ∧ k.level = .lettersLower) := by
  rcases h with h | h
  · left
    rw [h, behaviorFor, hn]
    rfl
  · exact Or.inr h

end Keyboard

namespace Outcome

structure KeptByTurns (P : Outcome → Prop) : Prop where
  rests : ∀ {k o}, o.Rests k → Keeps P k o
  turns : ∀ {k o m toggled}, o.Turns k m toggled → Keeps P k o
  setGroup : ∀ k group, Keeps P k (k.setGroup group)
  reset : ∀ k, Keeps P k k.reset

namespace KeptByTurns

variable {P : Outcome → Prop} (h : KeptByTurns P)

include h

theorem release (k : Keyboard) (id : KeyId) (t : UInt32) : Keeps P k (k.release id t) := by
  rcases k.rests_or_turns_release id t with hr | ⟨_, _, ht⟩
  · exact h.rests hr
  · exact h.turns ht

theorem press (k : Keyboard) (id : KeyId) (t : UInt32) : Keeps P k (k.press id t) := by
  rcases k.rests_or_turns_press id t with hr | ⟨_, _, ht⟩
  · exact h.rests hr
  · exact h.turns ht

theorem releaseAll (k : Keyboard) (t : UInt32) : Keeps P k (k.releaseAll t) :=
  Keeps.chain (fun k id _ => h.release k id t) k

theorem step {op : Keyboard.Operation} (hl : op.setsLevel = false)
    (hb : op.setsBehavior = false ∨
      ∀ k behavior past, P ⟨k, past⟩ → P ⟨{ k with behavior }, past⟩) (k : Keyboard) :
    Keeps P k (k.step op) := by
  cases op with
  | press id t => exact h.press k id t
  | release id t => exact h.release k id t
  | releaseAll t => exact h.releaseAll k t
  | setModifiers m => exact h.turns (k.turns_setModifiers m)
  | setLevel level => exact Bool.noConfusion hl
  | setGroup group => exact h.setGroup k group
  | setBehavior behavior =>
    rcases hb with hb | hb
    · exact Bool.noConfusion hb
    · exact .silent fun past => hb k behavior past
  | setNumLockMask mask => exact h.rests ⟨rfl, rfl, rfl, rfl⟩
  | setAltGrMask mask => exact h.rests ⟨rfl, rfl, rfl, rfl⟩
  | reset => exact h.reset k

end KeptByTurns

/-- Level and shift agree, and the reported levels lead to the level with no step across. -/
structure Steady (o : Outcome) : Prop where
  agrees : o.keyboard.level.isShifted = o.keyboard.modifiers.contains Flag.shift.mask
  path : List.IsChain (fun a b => ¬a.Opposed b) (.lettersLower :: o.levels)
  last : (.lettersLower :: o.levels).getLast? = some o.keyboard.level

theorem Steady.extend {k : Keyboard} {past : List Event} {o : Outcome} (h : Steady ⟨k, past⟩)
    (ha : o.keyboard.level.isShifted = o.keyboard.modifiers.contains Flag.shift.mask)
    (hn : ¬k.level.Opposed o.keyboard.level)
    (hl : (o.levels = [] ∧ o.keyboard.level = k.level) ∨ o.levels = [o.keyboard.level]) :
    Steady ⟨o.keyboard, past ++ o.events⟩ := by
  have hs : Level.lettersLower :: (⟨o.keyboard, past ++ o.events⟩ : Outcome).levels =
      (.lettersLower :: (⟨k, past⟩ : Outcome).levels) ++ o.levels := by
    simp [levels]
  refine ⟨ha, ?_, ?_⟩
  · rw [hs, List.isChain_append, h.last]
    rcases hl with ⟨he, _⟩ | he
    · rw [he]
      exact ⟨h.path, List.isChain_nil, by simp⟩
    · rw [he]
      exact ⟨h.path, List.isChain_singleton _, by simpa using hn⟩
  · rw [hs]
    rcases hl with ⟨he, hv⟩ | he
    · rw [he, List.append_nil, hv]
      exact h.last
    · rw [he]
      exact List.getLast?_concat

theorem keptByTurns_steady : KeptByTurns Steady where
  rests hr past h := by
    apply h.extend
    · rw [hr.level, hr.modifiers]
      exact h.agrees
    · rw [hr.level]
      exact Level.not_opposed_self _
    · exact Or.inl ⟨hr.levels, hr.level⟩
  turns {k o m toggled} ht past h := by
    apply h.extend
    · rw [ht.level, ht.modifiers]
      exact Level.isShifted_next _ _ _
    · rw [ht.level]
      exact Level.not_opposed_next _ _ _
    · have hl := ht.levels
      split at hl
      next he => exact Or.inl ⟨hl, he.symm⟩
      next => exact Or.inr hl
  setGroup k group past h := by
    apply h.extend
    · unfold Keyboard.setGroup
      split <;> exact h.agrees
    · unfold Keyboard.setGroup
      split <;> exact Level.not_opposed_self _
    · unfold Keyboard.setGroup
      split
      next => exact Or.inl ⟨rfl, rfl⟩
      next => exact Or.inr rfl
  reset k past h := by
    obtain ⟨hl, hm, _, hs⟩ := k.reset_eq
    apply h.extend
    · rw [hl, hm]
      rfl
    · rw [hl]
      exact Level.not_opposed_lettersLower _
    · rw [hl]
      exact hs

theorem keptByTurns_fits : KeptByTurns fun o => o.keyboard.Fits where
  rests hr _ h := Keyboard.Fits.of_eq h hr.level hr.modifiers hr.behavior
  turns ht _ _ := Or.inl ht.behavior
  setGroup k group past h := by
    unfold Keyboard.setGroup
    split <;> exact h
  reset k past _ := by
    obtain ⟨hl, hm, hb, _⟩ := k.reset_eq
    exact Or.inr ⟨hb, hm, hl⟩

end Outcome

namespace Keyboard

/-- Without levels that are set by the host: the level is shifted just when the shift is on, and no
level that is reported comes right after the one that it is opposed to. If the host sets no behavior
either, it is lock on the numbers axis and latch on the letters axis, up to the start and to resets.
-/
theorem level_agrees_every_run (layout : Layout) (ops : List Operation)
    (h : ∀ op ∈ ops, op.setsLevel = false) :
    let o := (ofLayout layout).run ops
    (o.keyboard.level.isShifted = true ↔ o.keyboard.modifiers.contains Flag.shift.mask = true) ∧
    List.IsChain (fun a b => ¬a.Opposed b) (.lettersLower :: o.levels) ∧
    (.lettersLower :: o.levels).getLast? = some o.keyboard.level ∧
    ((∀ op ∈ ops, op.setsBehavior = false) →
      (o.keyboard.behavior = .lock ↔ o.keyboard.level.onNumbers = true) ∧
      (o.keyboard.level.onNumbers = false → o.keyboard.behavior = .latch ∨
        (o.keyboard.behavior = .none ∧ o.keyboard.modifiers = .empty ∧
          o.keyboard.level = .lettersLower))) := by
  have hf := fresh_ofLayout layout
  have hl : (ofLayout layout).level = .lettersLower := congrArg level hf
  have hm : (ofLayout layout).modifiers = .empty := congrArg modifiers hf
  have hb : (ofLayout layout).behavior = .none := congrArg behavior hf
  have hs : Outcome.Steady ((ofLayout layout).run ops) := by
    have hk := run_keeps (P := Outcome.Steady)
      (fun k op ho => Outcome.keptByTurns_steady.step (h op ho)
        (Or.inr fun _ _ _ hp => ⟨hp.agrees, hp.path, hp.last⟩) k) (ofLayout layout)
    apply hk.holds
    exact ⟨by rw [hl, hm]; rfl, List.isChain_singleton _, congrArg some hl.symm⟩
  refine ⟨by rw [hs.agrees], hs.path, hs.last, ?_⟩
  intro hn
  have hk := run_keeps
    (fun k op ho => Outcome.keptByTurns_fits.step (h op ho) (Or.inl (hn op ho)) k) (ofLayout layout)
  have ht := hk.holds (Or.inr ⟨hb, hm, hl⟩)
  exact ⟨ht.lock_iff, ht.of_letters⟩

def roundTrip : List Operation :=
  [.press ⟨0, 0⟩ 1, .press ⟨0, 3⟩ 2, .release ⟨0, 3⟩ 3, .release ⟨0, 0⟩ 4, .press ⟨0, 3⟩ 5,
    .release ⟨0, 3⟩ 6]

theorem level_agrees_roundTrip :
    let o := (ofLayout .small).run roundTrip
    o.levels = [.lettersUpper, .numbers, .symbols, .lettersLower] ∧
    List.IsChain (fun a b => ¬a.Opposed b) (.lettersLower :: o.levels) ∧
    o.keyboard.modifiers.contains Flag.shift.mask = false ∧ o.keyboard.behavior = .latch := by
  obtain ⟨ha, hp, _, hf⟩ := level_agrees_every_run .small roundTrip (by decide)
  have hl : ((ofLayout .small).run roundTrip).keyboard.level = .lettersLower := by decide
  have hb := (hf (by decide)).2 (by rw [hl]; rfl)
  rw [hl] at ha hb
  refine ⟨by decide, hp, ?_, ?_⟩
  · simpa [Level.isShifted] using ha
  · rcases hb with hb | ⟨hb, _⟩
    · exact hb
    · exact absurd hb (by decide)

end Keyboard

end ScreenKeyboard
