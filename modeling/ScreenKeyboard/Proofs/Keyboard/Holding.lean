import ScreenKeyboard.Proofs.Keyboard.Releases
import ScreenKeyboard.Proofs.Keyboard.Symbols

namespace ScreenKeyboard

structure Key.Raises (key : Key) (m : Mask) : Prop where
  first : (key.symbols.get 0 0).isSome = true
  same : ∀ symbol ∈ key.symbols.symbols, symbol.modifiers = m
  plain : key.isToggle = false

def Key.spares (m : Mask) (key : Key) : Bool :=
  !key.isToggle && key.symbols.symbols.all fun symbol => !symbol.modifiers.intersects m

namespace Keyboard

def usesUpLatch (k : Keyboard) (id : KeyId) : Bool :=
  k.pressed.contains id && k.behavior == .latch &&
    (k.resolve id).any fun symbol => symbol.modifiers.isEmpty

def Operation.spares (k : Keyboard) (id : KeyId) (m : Mask) : Operation → Bool
  | .press other _ | .release other _ => other != id && (k.key? other).all (Key.spares m)
  | _ => false

/-- A key with modifiers is held, and they are on just if they have not been used up. -/
structure Holds (k : Keyboard) (id : KeyId) (m : Mask) (used : Bool) : Prop where
  sticky : k.behavior ≠ .none
  pressed : id ∈ k.pressed
  raises : ∃ key, k.key? id = some key ∧ key.Raises m
  bits : ∀ i, m.has i = true → k.modifiers.has i = !used

variable {k : Keyboard} {id : KeyId} {m : Mask}

theorem exists_raises_of_body {k' : Keyboard} (h : ∃ key, k.key? id = some key ∧ key.Raises m)
    (hb : k'.body = k.body) : ∃ key, k'.key? id = some key ∧ key.Raises m := by
  obtain ⟨key, hk, hf, hs, ht⟩ := h
  obtain ⟨new, hn, hname, hsym⟩ := exists_key_of_body hb.symm hk
  refine ⟨new, hn, hsym ▸ hf, hsym ▸ hs, ?_⟩
  rw [Key.isToggle, hname]
  exact ht

theorem resolve_of_raises (h : ∃ key, k.key? id = some key ∧ key.Raises m) :
    k.isToggle id = false ∧ ∃ symbol, k.resolve id = some symbol ∧ symbol.modifiers = m := by
  obtain ⟨key, hk, hf, hs, ht⟩ := h
  obtain ⟨level, hv⟩ := exists_resolve_eq hk
  obtain ⟨symbol, hm, hr⟩ := Key.exists_symbol hf k.group level.index
  refine ⟨?_, symbol, hv.trans hr, hs symbol hm⟩
  rw [isToggle, hk]
  exact ht

theorem spares_of_body {k' : Keyboard} (hb : k'.body = k.body) (op : Operation) :
    op.spares k' id m = op.spares k id m := by
  have hall : ∀ other, (k'.key? other).all (Key.spares m) = (k.key? other).all (Key.spares m) :=
    read_key?_of_body hb fun key => by cases key <;> rfl
  cases op with
  | press other t => exact congrArg (other != id && ·) (hall other)
  | release other t => exact congrArg (other != id && ·) (hall other)
  | releaseAll _ | setModifiers _ | setLevel _ | setGroup _ | setBehavior _ | setNumLockMask _
  | setAltGrMask _ | reset => rfl

theorem not_intersects_of_spares {other : KeyId} (hs : (k.key? other).all (Key.spares m) = true)
    {symbol : Symbol} (hr : k.resolve other = some symbol) :
    k.isToggle other = false ∧ symbol.modifiers.intersects m = false := by
  obtain ⟨key, hk, hm⟩ := exists_key_of_resolve hr
  rw [hk, Option.all_some, Key.spares, Bool.and_eq_true, Bool.not_eq_true', List.all_eq_true] at hs
  rw [isToggle, hk]
  exact ⟨hs.1, by simpa using hs.2 symbol hm⟩

/-- The behavior changes with the press itself, so from here on modifiers stick. -/
theorem holds_press (hb : k.behavior = .none) (hr : ∃ key, k.key? id = some key ∧ key.Raises m)
    (t : UInt32) : (k.press id t).keyboard.Holds id m false := by
  obtain ⟨ht, symbol, hs, rfl⟩ := resolve_of_raises hr
  have hk := k.turns_press hb hs t
  rw [ht] at hk
  refine ⟨?_, ?_, exists_raises_of_body hr (k.body_press id t), ?_⟩
  · rw [hk.behavior]
    exact behaviorFor_ne_none _
  · rw [pressed_press, k.resolve_isSome_key? hs]
    exact List.mem_cons_self
  · intro i hi
    rw [hk.modifiers, Level.nextModifiers_of_not_toggled, Mask.has_or, hi]
    simp

namespace Holds

variable {used : Bool}

theorem of_rests (h : k.Holds id m used) {o : Outcome} (ho : o.Rests k)
    (hb : o.keyboard.body = k.body) (hp : id ∈ o.keyboard.pressed) : o.keyboard.Holds id m used := by
  refine ⟨?_, hp, exists_raises_of_body h.raises hb, ?_⟩
  · rw [ho.behavior]
    exact h.sticky
  · rw [ho.modifiers]
    exact h.bits

theorem press (h : k.Holds id m used) (other : KeyId) (hn : other ≠ id) (t : UInt32) :
    (k.press other t).keyboard.Holds id m used := by
  have hm : id ∈ k.pressed.erase other := (List.mem_erase_of_ne hn.symm).mpr h.pressed
  apply h.of_rests (k.rests_press h.sticky other t) (k.body_press other t)
  rw [pressed_press]
  split
  next => exact List.mem_cons_of_mem _ hm
  next => exact h.pressed

theorem release (h : k.Holds id m used) {other : KeyId} (hn : other ≠ id)
    (hs : (k.key? other).all (Key.spares m) = true) (t : UInt32) :
    (k.release other t).keyboard.Holds id m (used || k.usesUpLatch other) := by
  have hb := k.body_release other t
  have hp : id ∈ (k.release other t).keyboard.pressed := by
    rw [pressed_release]
    exact (List.mem_erase_of_ne hn.symm).mpr h.pressed
  by_cases hi : other ∈ k.pressed
  · cases hsym : k.resolve other with
    | none =>
      have hu : k.usesUpLatch other = false := by simp [usesUpLatch, hsym]
      rw [hu, Bool.or_false]
      exact h.of_rests (k.rests_release other t fun _ => hsym) hb hp
    | some symbol =>
      obtain ⟨ht, hx⟩ := not_intersects_of_spares hs hsym
      have hk := k.turns_release hi hsym t
      rw [ht] at hk
      have hm := hk.modifiers
      rw [Level.nextModifiers_of_not_toggled] at hm
      refine ⟨?_, hp, exists_raises_of_body h.raises hb, ?_⟩
      · rw [hk.behavior]
        exact behaviorFor_ne_none _
      · intro i hmi
        have hold := h.bits i hmi
        rw [Mask.intersects_comm] at hx
        have hsi := Mask.intersects_eq_false_iff.mp hx i hmi
        rw [hm]
        cases hbeh : k.behavior with
        | none => exact absurd hbeh h.sticky
        | lock => simp [usesUpLatch, hbeh, modifiersAfterRelease, hold, hsi]
        | latch =>
          cases he : symbol.modifiers.isEmpty with
          | false => simp [usesUpLatch, hsym, modifiersAfterRelease, he, hold, hsi]
          | true => simp [usesUpLatch, hi, hbeh, hsym, modifiersAfterRelease, he]
  · have hu : k.usesUpLatch other = false := by simp [usesUpLatch, hi]
    rw [hu, Bool.or_false]
    exact h.of_rests (k.rests_release other t fun hm => absurd hm hi) hb hp

theorem run (h : k.Holds id m used) {ops : List Operation}
    (ho : ∀ op ∈ ops, op.spares k id m = true) :
    (k.run ops).keyboard.Holds id m (used || (k.releases ops).any fun r => r.1.usesUpLatch r.2) := by
  induction ops generalizing k used with
  | nil =>
    rw [releases, List.any_nil, Bool.or_false]
    exact h
  | cons op ops ih =>
    have hs := ho op List.mem_cons_self
    have hrest : ∀ op' ∈ ops, op'.spares (k.step op).keyboard id m = true := by
      intro op' hm
      rw [spares_of_body (k.body_step op)]
      exact ho op' (List.mem_cons_of_mem _ hm)
    rw [run_cons, Outcome.keyboard_andThen]
    cases op with
    | press other t =>
      have hn : other ≠ id := by simpa using (Bool.and_eq_true_iff.mp hs).1
      exact ih (h.press other hn t) hrest
    | release other t =>
      obtain ⟨hn, hs⟩ := Bool.and_eq_true_iff.mp hs
      have hk := ih (h.release (by simpa using hn) hs t) hrest
      rw [releases, List.any_cons, ← Bool.or_assoc]
      exact hk
    | releaseAll _ | setModifiers _ | setLevel _ | setGroup _ | setBehavior _ | setNumLockMask _
    | setAltGrMask _ | reset => exact Bool.noConfusion hs

/-- The release toggles the modifiers, so it turns on again what was used up. -/
theorem release_self (h : k.Holds id m used) (t : UInt32) {i : Nat} (hi : m.has i = true) :
    (k.release id t).keyboard.modifiers.has i = used := by
  obtain ⟨ht, symbol, hs, rfl⟩ := resolve_of_raises h.raises
  have hk := k.turns_release h.pressed hs t
  rw [ht] at hk
  have hne : symbol.modifiers ≠ .empty := by
    intro he
    rw [he, Mask.has_empty] at hi
    exact Bool.noConfusion hi
  have hx := modifiersAfterRelease_of_ne_none h.sticky hne k.modifiers
  rw [hk.modifiers, Level.nextModifiers_of_not_toggled, hx, Mask.has_xor, h.bits i hi, hi]
  simp

end Holds

/-- A key is pressed under the behavior none, other keys come and go that leave its modifiers alone,
and it is released. Then its modifiers are off, but for one case: if a plain key was released under
latch in between, all of them are on. -/
theorem held_modifier_ends_iff (layout : Layout) (before : List Operation) (id : KeyId) (m : Mask)
    (hb : ((ofLayout layout).run before).keyboard.behavior = .none)
    (hr : ∃ key, ((ofLayout layout).run before).keyboard.key? id = some key ∧ key.Raises m)
    (hm : m ≠ .empty) (between : List Operation)
    (ho : ∀ op ∈ between, op.spares ((ofLayout layout).run before).keyboard id m = true)
    (t t' : UInt32) :
    let k := ((ofLayout layout).run before).keyboard
    let used := ((k.press id t).keyboard.releases between).any fun r => r.1.usesUpLatch r.2
    let o := k.run (.press id t :: between ++ [.release id t'])
    (o.keyboard.modifiers.intersects m = false ↔ used = false) ∧
      (used = true → o.keyboard.modifiers.contains m = true) := by
  intro k used o
  have hpress : (k.press id t).keyboard.Holds id m false := holds_press hb hr t
  have hspare : ∀ op ∈ between, op.spares (k.press id t).keyboard id m = true := by
    intro op hop
    exact (spares_of_body (k.body_press id t) op).trans (ho op hop)
  have hheld : ((k.press id t).keyboard.run between).keyboard.Holds id m used := by
    have hrun := hpress.run hspare
    rw [Bool.false_or] at hrun
    exact hrun
  have hrun : o.keyboard =
      (((k.press id t).keyboard.run between).keyboard.release id t').keyboard := by
    have happ : o = k.run ((.press id t :: between) ++ [.release id t']) := rfl
    rw [happ, run_append, run_cons, Outcome.keyboard_andThen, Outcome.keyboard_andThen]
    rfl
  have hbits : ∀ i, m.has i = true → o.keyboard.modifiers.has i = used := by
    intro i hi
    rw [hrun]
    exact hheld.release_self t' hi
  refine ⟨⟨?_, ?_⟩, ?_⟩
  · intro hoff
    obtain ⟨i, hi⟩ : ∃ i, m.has i = true := by
      by_contra hn
      apply hm
      apply Mask.eq_empty_iff.mpr
      simpa using hn
    rw [Mask.intersects_comm] at hoff
    exact (hbits i hi).symm.trans (Mask.intersects_eq_false_iff.mp hoff i hi)
  · intro hused
    rw [Mask.intersects_comm]
    apply Mask.intersects_eq_false_iff.mpr
    intro i hi
    exact (hbits i hi).trans hused
  · intro hused
    apply Mask.contains_iff.mpr
    intro i hi
    exact (hbits i hi).trans hused

theorem held_modifier_ends_control :
    let k := ((ofLayout .small).run [.setLevel .numbers, .setBehavior .none]).keyboard
    let o := k.run (.press ⟨0, 0⟩ 1 :: [.press ⟨0, 1⟩ 2, .release ⟨0, 1⟩ 3] ++ [.release ⟨0, 0⟩ 4])
    o.keyboard.modifiers.intersects Flag.shift.mask = false ∧
      o.keyboard.modifiers = Flag.control.mask := by
  have h := held_modifier_ends_iff .small [.setLevel .numbers, .setBehavior .none] ⟨0, 0⟩
    Flag.shift.mask (by decide) ⟨_, rfl, by decide, by decide, by decide⟩ (by decide)
    [.press ⟨0, 1⟩ 2, .release ⟨0, 1⟩ 3] (by decide) 1 4
  exact ⟨h.1.mpr (by decide), by decide⟩

/-- A letter that is typed while the shift is held leaves the shift on for good. -/
theorem shift_outlasts_key :
    let k := ofLayout .small
    let between : List Operation := [.press ⟨0, 2⟩ 2, .release ⟨0, 2⟩ 3]
    k.behavior = .none ∧ ⟨0, 0⟩ ∉ k.pressed ∧
    (∃ key, k.key? ⟨0, 0⟩ = some key ∧ key.Raises Flag.shift.mask) ∧
    k.modifiers.intersects Flag.shift.mask = false ∧
    (∀ op ∈ between, op.spares k ⟨0, 0⟩ Flag.shift.mask = true) ∧
    (k.run (.press ⟨0, 0⟩ 1 :: between ++ [.release ⟨0, 0⟩ 4])).keyboard.modifiers =
      Flag.shift.mask :=
  ⟨by decide, by decide, ⟨_, rfl, by decide, by decide, by decide⟩, by decide, by decide, by decide⟩

end Keyboard

end ScreenKeyboard
