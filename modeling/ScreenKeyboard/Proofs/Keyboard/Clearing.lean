import ScreenKeyboard.Proofs.Keyboard.Turns
import ScreenKeyboard.Proofs.Layout.Built

namespace ScreenKeyboard

namespace Mask

def LeavesOthers (m : Mask) (dropsShift : Bool) (before after : Mask) : Prop :=
  ∀ i, m.has i = false → after.has i ≠ before.has i →
    dropsShift = true ∧ i = Flag.shift.position ∧ after.has i = false

/-- The bits of `before` outside `m` are kept, apart from a shift that is dropped, and, unless
`keepsUnnamed`, from those without a flag. -/
def Clears (m : Mask) (dropsShift keepsUnnamed : Bool) (before after : Mask) : Prop :=
  ∀ i, m.has i = false → after.has i = (before.has i && (named.has i || keepsUnnamed) &&
    !(dropsShift && decide (i = Flag.shift.position)))

theorem isNamed_without_empty (m : Mask) : (m.without empty).IsNamed ↔ m.IsNamed := by
  simp [isNamed_iff]

/-- Others are left alone just if no bit of theirs goes off for want of a flag. -/
theorem Clears.leavesOthers_iff {m before after : Mask} {dropsShift keepsUnnamed : Bool}
    (h : m.Clears dropsShift keepsUnnamed before after) :
    m.LeavesOthers dropsShift before after ↔
      keepsUnnamed = true ∨ (before.without m).IsNamed := by
  constructor
  · intro hleaves
    cases hkeep : keepsUnnamed with
    | true => exact Or.inl rfl
    | false =>
      right
      apply isNamed_iff.mpr
      intro i hi
      rw [has_without, Bool.and_eq_true, Bool.not_eq_true'] at hi
      obtain ⟨hbefore, hm⟩ := hi
      by_contra hnamed
      have hoff : after.has i = false := by simp [h i hm, hkeep, hnamed]
      obtain ⟨_, rfl, _⟩ := hleaves i hm (by simp [hoff, hbefore])
      exact hnamed rfl
  · intro hkept i hm hne
    have hafter := h i hm
    cases hbefore : before.has i with
    | false => simp [hafter, hbefore] at hne
    | true =>
      have hpast : (named.has i || keepsUnnamed) = true := by
        rcases hkept with hkeep | hnamed
        · simp [hkeep]
        · simp [isNamed_iff.mp hnamed i (by simp [hbefore, hm])]
      rw [hbefore, hpast, Bool.true_and, Bool.true_and] at hafter
      have hdrop : (dropsShift && decide (i = Flag.shift.position)) = true := by
        simpa [hafter, hbefore] using hne
      rw [hdrop] at hafter
      rw [Bool.and_eq_true, decide_eq_true_eq] at hdrop
      exact ⟨hdrop.1, hdrop.2, hafter⟩

end Mask

theorem Level.clears_nextModifiers (level : Level) (m : Mask) (toggled : Bool) :
    Mask.empty.Clears (level.crosses m toggled) (!level.crosses m toggled) m
      (level.nextModifiers m toggled) := by
  intro i _
  unfold nextModifiers
  cases level.crosses m toggled with
  | true => simp [Mask.has_mask, Bool.and_left_comm, Bool.and_comm]
  | false => simp

theorem Level.next_of_crosses {level : Level} {m : Mask} {toggled : Bool}
    (h : level.crosses m toggled = true) : toggled = true ∧
      (level = lettersUpper ∧ level.next m toggled = numbers ∨
        level = symbols ∧ level.next m toggled = lettersLower) := by
  have hparts := h
  rw [crosses, Bool.and_eq_true, Bool.and_eq_true] at hparts
  obtain ⟨⟨rfl, hshifted⟩, _⟩ := hparts
  refine ⟨rfl, ?_⟩
  rw [next, h, Bool.not_true, Bool.and_false]
  cases level with
  | lettersUpper => exact Or.inl ⟨rfl, rfl⟩
  | symbols => exact Or.inr ⟨rfl, rfl⟩
  | lettersLower | numbers => exact Bool.noConfusion hshifted

namespace Keyboard

def releaseCrosses (k : Keyboard) (id : KeyId) (m : Mask) : Bool :=
  k.level.crosses (modifiersAfterRelease k.modifiers m k.behavior) (k.isToggle id)

theorem clears_modifiersAfterRelease {behavior : Behavior} (hb : behavior ≠ .latch)
    (modifiers m : Mask) :
    m.Clears false (behavior == .lock) modifiers (modifiersAfterRelease modifiers m behavior) := by
  intro i hm
  cases behavior with
  | none =>
    have hn : (Behavior.none == .lock) = false := rfl
    simp [modifiersAfterRelease, hm, hn]
  | lock => simp [modifiersAfterRelease, hm]
  | latch => exact absurd rfl hb

variable {k : Keyboard}

theorem clears_release (hb : k.behavior ≠ .latch) {id : KeyId} (hi : id ∈ k.pressed)
    {symbol : Symbol} (hr : k.resolve id = some symbol) (t : UInt32) :
    symbol.modifiers.Clears (k.releaseCrosses id symbol.modifiers)
      (k.behavior == .lock && !k.releaseCrosses id symbol.modifiers) k.modifiers
      (k.release id t).keyboard.modifiers := by
  intro i hm
  have hfirst := clears_modifiersAfterRelease hb k.modifiers symbol.modifiers i hm
  have hnext := k.level.clears_nextModifiers
    (modifiersAfterRelease k.modifiers symbol.modifiers k.behavior) (k.isToggle id) i
    (Mask.has_empty i)
  rw [(k.turns_release hi hr t).modifiers, hnext, hfirst, releaseCrosses]
  generalize k.level.crosses _ _ = crosses
  cases Mask.named.has i <;> cases crosses <;> simp

/-- Under the behaviors none and lock, the release of a key leaves the modifiers of others alone,
but for the shift on the way across, just if nothing is cleared or all modifiers of others have a
flag. -/
theorem release_leaves_others_iff (k : Keyboard) (id : KeyId) (symbol : Symbol) (t : UInt32)
    (hb : k.behavior ≠ .latch) (hi : id ∈ k.pressed) (hr : k.resolve id = some symbol) :
    let m := symbol.modifiers
    let crosses := k.releaseCrosses id m
    let after := (k.release id t).keyboard
    m.Clears crosses (k.behavior == .lock && !crosses) k.modifiers after.modifiers ∧
    (crosses = true → k.isToggle id = true ∧
      (k.level = .lettersUpper ∧ after.level = .numbers ∨
        k.level = .symbols ∧ after.level = .lettersLower)) ∧
    (m.LeavesOthers crosses k.modifiers after.modifiers ↔
      (k.behavior = .lock ∧ crosses = false) ∨ (k.modifiers.without m).IsNamed) ∧
    ∀ toggled,
      (Mask.empty.LeavesOthers (k.level.crosses k.modifiers toggled) k.modifiers
          (k.refreshLevel toggled).keyboard.modifiers ↔
        k.level.crosses k.modifiers toggled = false ∨ k.modifiers.IsNamed) := by
  intro m crosses after
  have hclears := clears_release hb hi hr t
  refine ⟨hclears, ?_, ?_, ?_⟩
  · intro hc
    have hnext := Level.next_of_crosses hc
    rwa [← (k.turns_release hi hr t).level] at hnext
  · rw [hclears.leavesOthers_iff, Bool.and_eq_true, Bool.not_eq_true', beq_iff_eq]
  · intro toggled
    rw [(k.turns_refreshLevel toggled).modifiers,
      (k.level.clears_nextModifiers k.modifiers toggled).leavesOthers_iff, Bool.not_eq_true',
      Mask.isNamed_without_empty]

def shiftedNumbers : List Operation :=
  [.setLevel .numbers, .setModifiers (Flag.shift.mask ||| Flag.control.mask), .press ⟨0, 3⟩ 1]

theorem release_leaves_others_shiftedNumbers :
    let k := ((ofLayout .small).run shiftedNumbers).keyboard
    let after := (k.release ⟨0, 3⟩ 2).keyboard
    k.behavior = .lock ∧ k.level = .symbols ∧ after.level = .lettersLower ∧
    after.modifiers = Flag.control.mask ∧
      Mask.empty.LeavesOthers true k.modifiers after.modifiers := by
  have h := release_leaves_others_iff ((ofLayout .small).run shiftedNumbers).keyboard ⟨0, 3⟩
    { name := toggleKeyName, category := .keyName } 2 (by decide) (by decide) (by decide)
  exact ⟨by decide, by decide, by decide, by decide, h.2.2.1.mpr (Or.inr (by decide))⟩

/-- A modifier without a flag is on, and the release of a letter takes it away, and so does the way
across. -/
theorem unnamed_goes_with_others :
    let k := ((ofLayout .small).run [.setModifiers (.ofNat 0x200), .press ⟨0, 2⟩ 1,
      .setBehavior .none]).keyboard
    let after := (k.release ⟨0, 2⟩ 2).keyboard
    let shifted := ((ofLayout .small).run [.setLevel .numbers, .setModifiers (.ofNat 0x201),
      .press ⟨0, 3⟩ 1]).keyboard
    k.resolve ⟨0, 2⟩ = some { name := "AC01", category := .keyName } ∧
    k.modifiers = .ofNat 0x200 ∧ after.modifiers = .empty ∧
    ¬Mask.empty.LeavesOthers (k.releaseCrosses ⟨0, 2⟩ .empty) k.modifiers after.modifiers ∧
    shifted.behavior = .lock ∧ shifted.level = .symbols ∧
    (shifted.release ⟨0, 3⟩ 2).keyboard.modifiers = .empty := by
  refine ⟨by decide, by decide, by decide, ?_, by decide, by decide, by decide⟩
  intro h
  obtain ⟨_, hshift, _⟩ := h 9 (by decide) (by decide)
  exact absurd hshift (by decide)

end Keyboard

end ScreenKeyboard
