import Mathlib.Data.List.Pairwise
import ScreenKeyboard.Proofs.Keyboard.Locks
import ScreenKeyboard.Proofs.Keyboard.Symbols
import ScreenKeyboard.Proofs.Keyboard.Turns

namespace ScreenKeyboard

def Slot.UsesOneFlag : Slot → Prop
  | .keysym _ _ _ => True
  | .custom _ _ _ modifiers => modifiers.IsSingle

instance (slot : Slot) : Decidable slot.UsesOneFlag :=
  match slot with
  | .keysym _ _ _ => isTrue trivial
  | .custom _ _ _ modifiers => inferInstanceAs (Decidable modifiers.IsSingle)

/-- The key has symbols, and each of them raises just these modifiers. -/
def Key.Carries (key : Key) (m : Mask) : Prop :=
  key.symbols.symbols ≠ [] ∧ ∀ symbol ∈ key.symbols.symbols, symbol.modifiers = m

theorem isSingle_modifiers (keysym : Keysym) : keysym.modifiers.IsSingle := by
  unfold Keysym.modifiers
  split
  all_goals first | exact Mask.isSingle_mask _ | exact Mask.isSingle_empty

theorem Slot.UsesOneFlag.isSingle {slot : Slot} {symbol : Symbol} (h : slot.UsesOneFlag)
    (hs : slot.symbol? = some symbol) : symbol.modifiers.IsSingle := by
  rcases modifiers_cases hs with ⟨keysym, he⟩ | ⟨_, _, _, rfl⟩
  · rw [he]
    exact isSingle_modifiers keysym
  · exact h

namespace Layout

def UsesOneFlag (layout : Layout) : Prop :=
  ∀ slot ∈ layout.slots, slot.2.UsesOneFlag

def IsUniform (layout : Layout) : Prop :=
  ∀ d ∈ layout.keys, ∀ s ∈ d.2.key.symbols.symbols, ∀ s' ∈ d.2.key.symbols.symbols,
    s'.modifiers = s.modifiers

instance (layout : Layout) : Decidable layout.UsesOneFlag :=
  inferInstanceAs (Decidable (∀ slot ∈ layout.slots, slot.2.UsesOneFlag))

instance (layout : Layout) : Decidable layout.IsUniform :=
  inferInstanceAs (Decidable (∀ d ∈ layout.keys, ∀ s ∈ d.2.key.symbols.symbols,
    ∀ s' ∈ d.2.key.symbols.symbols, s'.modifiers = s.modifiers))

theorem UsesOneFlag.isSingle {layout : Layout} (h : layout.UsesOneFlag) {id : KeyId}
    {key : KeyLayout} (hk : (id, key) ∈ layout.keys) {symbol : Symbol}
    (hs : symbol ∈ key.key.symbols.symbols) : symbol.modifiers.IsSingle := by
  obtain ⟨place, slot, hp, hm⟩ := exists_mem_slots hk hs
  exact (h _ hp).isSingle hm

end Layout

namespace Keyboard

def Carries (k : Keyboard) (id : KeyId) (m : Mask) : Prop :=
  ∃ key, k.key? id = some key ∧ key.Carries m

def SingleSymbols (k : Keyboard) : Prop :=
  ∀ id symbol, k.resolve id = some symbol →
    symbol.modifiers.IsSingle ∧ k.Carries id symbol.modifiers

def lockedModifiers (k : Keyboard) : Mask :=
  k.locks.foldr (fun entry m => entry.modifiers ||| m) .empty

/-- Each lock is for the modifiers of its key, and the locks share out the modifiers that are on. -/
structure Owned (k : Keyboard) : Prop where
  sticky : k.behavior ≠ .none
  single : ∀ entry ∈ k.locks, entry.modifiers.IsSingle
  carried : ∀ entry ∈ k.locks, k.Carries entry.key entry.modifiers
  disjoint : k.locks.Pairwise fun a b => a.modifiers.intersects b.modifiers = false
  union : ∀ i, k.modifiers.has i = true ↔ ∃ entry ∈ k.locks, entry.modifiers.has i = true

variable {k : Keyboard}

theorem has_lockedModifiers (k : Keyboard) (i : Nat) :
    k.lockedModifiers.has i = k.locks.any fun entry => entry.modifiers.has i := by
  unfold lockedModifiers
  induction k.locks with
  | nil => simp
  | cons entry locks ih => rw [List.foldr_cons, Mask.has_or, ih, List.any_cons]

theorem Carries.unique {id : KeyId} {m m' : Mask} (h : k.Carries id m) (h' : k.Carries id m') :
    m = m' := by
  obtain ⟨key, hk, hn, hm⟩ := h
  obtain ⟨key', hk', _, hm'⟩ := h'
  cases Option.some.inj (hk.symm.trans hk')
  obtain ⟨symbol, hs⟩ := List.exists_mem_of_ne_nil _ hn
  exact (hm symbol hs).symm.trans (hm' symbol hs)

theorem Carries.of_body {k' : Keyboard} {id : KeyId} {m : Mask} (h : k.Carries id m)
    (hb : k'.body = k.body) : k'.Carries id m := by
  obtain ⟨key, hk, hc⟩ := h
  obtain ⟨new, hn, _, hs⟩ := exists_key_of_body hb.symm hk
  refine ⟨new, hn, ?_⟩
  rw [Key.Carries, hs]
  exact hc

theorem singleSymbols_of_keys (h : ∀ id key, k.key? id = some key →
    ∀ s ∈ key.symbols.symbols, s.modifiers.IsSingle ∧
      ∀ s' ∈ key.symbols.symbols, s'.modifiers = s.modifiers) : k.SingleSymbols := by
  intro id symbol hr
  obtain ⟨key, hk, hs⟩ := exists_key_of_resolve hr
  obtain ⟨h1, h2⟩ := h id key hk symbol hs
  exact ⟨h1, key, hk, List.ne_nil_of_mem hs, h2⟩

theorem singleSymbols_of_body {layout : Layout} (hf : layout.UsesOneFlag) (hu : layout.IsUniform)
    (hb : k.body = (ofLayout layout).body) : k.SingleSymbols := by
  apply singleSymbols_of_keys
  intro id key hk s hs
  obtain ⟨old, ho, _, he⟩ := exists_key_of_body hb hk
  obtain ⟨d, hd, rfl⟩ := (key?_ofLayout layout).mp ho
  rw [← he] at hs ⊢
  exact ⟨hf.isSingle hd hs, hu _ hd s hs⟩

namespace Owned

theorem of_eq {k' : Keyboard} (h : k.Owned) (hs : k'.behavior ≠ .none) (hb : k'.body = k.body)
    (hl : k'.locks = k.locks) (hm : k'.modifiers = k.modifiers) : k'.Owned := by
  refine ⟨hs, hl ▸ h.single, ?_, hl ▸ h.disjoint, ?_⟩
  · rw [hl]
    exact fun entry he => (h.carried entry he).of_body hb
  · rw [hl, hm]
    exact h.union

theorem isNamed (h : k.Owned) : k.modifiers.IsNamed := by
  apply Mask.isNamed_iff.mpr
  intro i hi
  obtain ⟨entry, he, hi⟩ := (h.union i).mp hi
  exact Mask.isNamed_iff.mp (h.single entry he).isNamed i hi

theorem unlock (h : k.Owned) (off m : Mask)
    (hm : ∀ i, m.has i = (k.modifiers.has i && !off.has i)) :
    ({ (k.unlock off).keyboard with modifiers := m } : Keyboard).Owned := by
  have hu := k.unlit_unlock off
  have hb := congrArg Keyboard.behavior hu
  have hbody : (k.unlock off).keyboard.body = k.body := body_eq_of_unlit hu
  have hl := k.locks_unlock off
  refine ⟨?_, ?_, ?_, ?_, ?_⟩
  · exact hb.trans_ne h.sticky
  · intro entry he
    rw [hl] at he
    exact h.single entry (List.mem_of_mem_filter he)
  · intro entry he
    rw [hl] at he
    exact (h.carried entry (List.mem_of_mem_filter he)).of_body hbody
  · rw [hl]
    exact h.disjoint.sublist List.filter_sublist
  · intro i
    have hold := h.union i
    simp only [hm, hl, List.mem_filter, Bool.and_eq_true, Bool.not_eq_true', hold]
    constructor
    · rintro ⟨⟨entry, he, hi⟩, hoff⟩
      refine ⟨entry, ⟨he, ?_⟩, hi⟩
      by_contra hx
      have hc := (h.single entry he).contains_of_intersects (by simpa using hx)
      rw [Mask.contains_iff.mp hc i hi] at hoff
      exact Bool.noConfusion hoff
    · rintro ⟨entry, ⟨he, hx⟩, hi⟩
      exact ⟨⟨entry, he, hi⟩, Mask.intersects_eq_false_iff.mp hx i hi⟩

/-- A key whose modifier was off has no lock yet, and becomes its owner. -/
theorem lock (h : k.Owned) {id : KeyId} {m more : Mask} (hc : k.Carries id more)
    (hs : more.IsSingle) (hn : more ≠ .empty) (hoff : k.modifiers.intersects more = false)
    (hm : m = k.modifiers ||| more) :
    ({ (k.lock id more).keyboard with modifiers := m } : Keyboard).Owned := by
  have hd : ∀ entry ∈ k.locks, more.intersects entry.modifiers = false := by
    intro entry he
    apply Mask.intersects_eq_false_iff.mpr
    intro i hi
    rw [Mask.intersects_comm] at hoff
    have hk := Mask.intersects_eq_false_iff.mp hoff i hi
    by_contra hx
    rw [(h.union i).mpr ⟨entry, he, by simpa using hx⟩] at hk
    exact Bool.noConfusion hk
  -- A lock that the key had already would be for the same modifiers, and these are off.
  have hi : id ∉ k.lockedIds := by
    intro hi
    obtain ⟨entry, he, rfl⟩ := List.mem_map.mp hi
    have hx := hd entry he
    rw [(h.carried entry he).unique hc] at hx
    have hz : ∀ i, more.has i = false := by
      intro i
      by_contra hb
      rw [Bool.not_eq_false] at hb
      rw [Mask.intersects_eq_false_iff.mp hx i hb] at hb
      exact Bool.noConfusion hb
    exact hn (Mask.eq_empty_iff.mpr hz)
  have hb := body_eq_of_unlit (k.unlit_lock id more)
  rw [lock_of_not_mem hi] at hb ⊢
  refine ⟨h.sticky, ?_, ?_, List.pairwise_cons.mpr ⟨hd, h.disjoint⟩, ?_⟩
  · intro entry he
    rcases List.mem_cons.mp he with rfl | he
    · exact hs
    · exact h.single entry he
  · intro entry he
    rcases List.mem_cons.mp he with rfl | he
    · exact hc.of_body hb
    · exact (h.carried entry he).of_body hb
  · intro i
    have hold := h.union i
    simp only [hm, Mask.has_or, Bool.or_eq_true, hold, List.mem_cons]
    constructor
    · rintro (⟨entry, he, hi⟩ | hi)
      · exact ⟨entry, Or.inr he, hi⟩
      · exact ⟨_, Or.inl rfl, hi⟩
    · rintro ⟨entry, rfl | he, hi⟩
      · exact Or.inr hi
      · exact Or.inl ⟨entry, he, hi⟩

theorem changeModifiers_of_contains (h : k.Owned) (id : KeyId) {m : Mask}
    (hm : k.modifiers.contains m = true) : (k.changeModifiers id m).keyboard.Owned := by
  have hon : ∀ i, m.has i = true → k.modifiers.has i = true := Mask.contains_iff.mp hm
  have he : ((k.modifiers ^^^ m) &&& m).isEmpty = true := by
    apply Mask.isEmpty_iff.mpr
    apply Mask.eq_empty_iff.mpr
    intro i
    cases hi : m.has i with
    | false => simp [hi]
    | true => simp [hi, hon i hi]
  have hl : k.lockFor id m = ⟨k, []⟩ := if_pos (Or.inl he)
  rw [changeModifiers_eq, hl, Outcome.still_andThen]
  apply h.unlock
  intro i
  cases hi : m.has i with
  | false => simp [hi]
  | true => simp [hi, hon i hi]

theorem changeModifiers_of_disjoint (h : k.Owned) {id : KeyId} {more : Mask}
    (hc : k.Carries id more) (hs : more.IsSingle) (hn : more ≠ .empty)
    (hoff : k.modifiers.intersects more = false) :
    (k.changeModifiers id (k.modifiers ^^^ more)).keyboard.Owned := by
  rw [k.changeModifiers_raise h.sticky hn hoff, Outcome.keyboard_andThen]
  exact h.lock hc hs hn hoff (Mask.xor_eq_or_of_disjoint hoff)

theorem changeModifiers_release (h : k.Owned) {id : KeyId} {m : Mask} (hc : k.Carries id m)
    (hs : m.IsSingle) :
    (k.changeModifiers id (modifiersAfterRelease k.modifiers m k.behavior)).keyboard.Owned := by
  by_cases hn : m = .empty
  · apply h.changeModifiers_of_contains
    apply Mask.contains_iff.mpr
    intro i hi
    cases hb : k.behavior with
    | none => exact absurd hb h.sticky
    | lock => simpa [modifiersAfterRelease, hb, hn] using hi
    | latch => simp [modifiersAfterRelease, hb, Mask.isEmpty_iff.mpr hn] at hi
  · rw [modifiersAfterRelease_of_ne_none h.sticky hn]
    -- A single flag cannot be met in part: the change takes it away, or adds it.
    cases hi : k.modifiers.intersects m with
    | true =>
      rw [Mask.intersects_comm] at hi
      have hm := Mask.contains_iff.mp (hs.contains_of_intersects hi)
      apply h.changeModifiers_of_contains
      apply Mask.contains_iff.mpr
      intro i hi
      cases hb : k.modifiers.has i with
      | true => rfl
      | false =>
        have hmi : m.has i = true := by simpa [hb] using hi
        exact absurd (hm i hmi) (by simp [hb])
    | false => exact h.changeModifiers_of_disjoint hc hs hn hi

theorem clear (h : k.Owned) (m : Mask) : (k.clear m).keyboard.Owned := by
  have hm := k.modifiers_clear m
  have hoff : ∀ i, (k.modifiers &&& ~~~m).has i =
      (k.modifiers.has i && !(k.modifiers &&& m).has i) := by
    intro i
    rw [h.isNamed.and_complement]
    cases hi : k.modifiers.has i <;> simp [hi]
  have hk := h.unlock _ _ hoff
  exact hk.of_eq hk.sticky rfl rfl hm

theorem showLevel (h : k.Owned) (level : Level) : (k.showLevel level).keyboard.Owned := by
  unfold Keyboard.showLevel
  split
  next => exact h
  next => exact h.of_eq h.sticky rfl rfl rfl

theorem refreshLevel (h : k.Owned) (toggled : Bool) : (k.refreshLevel toggled).keyboard.Owned := by
  rw [refreshLevel_eq, Outcome.keyboard_andThen]
  apply showLevel
  split
  next => exact (h.clear _).of_eq (behaviorFor_ne_none _) rfl rfl rfl
  next => exact h.of_eq (behaviorFor_ne_none _) rfl rfl rfl

theorem settle (h : k.Owned) {id : KeyId} {m : Mask} (hc : k.Carries id m) (hs : m.IsSingle) :
    (k.settle id (modifiersAfterRelease k.modifiers m k.behavior)).keyboard.Owned :=
  (h.changeModifiers_release hc hs).refreshLevel _

theorem press (h : k.Owned) (id : KeyId) (t : UInt32) : (k.press id t).keyboard.Owned := by
  have hhold : (k.hold id).Owned :=
    h.of_eq h.sticky (k.body_setPressedFlag id true) rfl rfl
  rcases k.press_cases id t with ⟨_, he⟩ | ⟨_, _, he⟩ | ⟨_, _, _, _, he⟩ | ⟨_, _, _, hb, _⟩
  · rw [he]
    exact h
  · rw [he]
    exact hhold
  · rw [he, keyboard_report]
    exact hhold
  · exact absurd hb h.sticky

theorem release (h : k.Owned) (hs : k.SingleSymbols) (id : KeyId) (t : UInt32) :
    (k.release id t).keyboard.Owned := by
  have hl : (k.letGo id).Owned := h.of_eq h.sticky (k.body_setPressedFlag id false) rfl rfl
  rcases k.release_cases id t with ⟨_, he⟩ | ⟨_, _, he⟩ | ⟨symbol, _, hr, he⟩
  · rw [he]
    exact h
  · rw [he]
    exact hl
  · obtain ⟨hm, hc⟩ := hs id symbol hr
    have hb : ((k.letGo id).sectionRelease id symbol.modifiers).body = k.body :=
      ((k.letGo id).body_sectionRelease id _).trans (k.body_setPressedFlag id false)
    have hk : ((k.letGo id).sectionRelease id symbol.modifiers).Owned :=
      h.of_eq h.sticky hb rfl rfl
    rw [he, Outcome.keyboard_andThen, keyboard_report]
    exact hk.settle (hc.of_body hb) hm

end Owned

def Operation.isSticky : Operation → Bool
  | .press _ _ | .release _ _ | .releaseAll _ | .setGroup _ | .setLevel _ => true
  | .setBehavior behavior => behavior != .none
  | _ => false

namespace Owned

variable {layout : Layout}

theorem step (h : k.Owned) (hf : layout.UsesOneFlag) (hu : layout.IsUniform)
    (hb : k.body = (ofLayout layout).body) {op : Operation} (ho : op.isSticky = true) :
    (k.step op).keyboard.Owned := by
  cases op with
  | press id t => exact h.press id t
  | release id t => exact h.release (singleSymbols_of_body hf hu hb) id t
  | releaseAll t =>
    let P : Outcome → Prop := fun o => o.keyboard.body = (ofLayout layout).body ∧ o.keyboard.Owned
    have hr : ∀ (k : Keyboard) id, Outcome.Keeps P k (k.release id t) := by
      intro k id past hp
      exact ⟨(k.body_release id t).trans hp.1, hp.2.release (singleSymbols_of_body hf hu hp.1) id t⟩
    have hc : Outcome.Keeps P k (k.releaseAll t) := Outcome.Keeps.chain (fun k id _ => hr k id) k
    exact (hc.holds ⟨hb, h⟩).2
  | setLevel level => exact h.showLevel level
  | setGroup group =>
    have hg : (k.setGroup group).keyboard.Owned := by
      unfold Keyboard.setGroup
      split
      next => exact h
      next => exact h.of_eq h.sticky rfl rfl rfl
    exact hg
  | setBehavior behavior =>
    have hn : behavior ≠ .none := by simpa [Operation.isSticky] using ho
    exact h.of_eq hn rfl rfl rfl
  | setModifiers _ | setNumLockMask _ | setAltGrMask _ | reset => exact Bool.noConfusion ho

theorem run (h : k.Owned) (hf : layout.UsesOneFlag) (hu : layout.IsUniform)
    (hb : k.body = (ofLayout layout).body) {ops : List Operation}
    (ho : ∀ op ∈ ops, op.isSticky = true) : (k.run ops).keyboard.Owned := by
  induction ops generalizing k with
  | nil => exact h
  | cons op ops ih =>
    have hk := h.step hf hu hb (ho op List.mem_cons_self)
    rw [run_cons, Outcome.keyboard_andThen]
    exact ih hk ((k.body_step op).trans hb) fun op' hm => ho op' (List.mem_cons_of_mem _ hm)

theorem lockedModifiers_eq (h : k.Owned) : k.lockedModifiers = k.modifiers := by
  apply Mask.ext_has
  intro i
  rw [has_lockedModifiers, Bool.eq_iff_iff, List.any_eq_true]
  exact (h.union i).symm

theorem eq_of_has (h : k.Owned) {entry other : Lock} (he : entry ∈ k.locks) (ho : other ∈ k.locks)
    {i : Nat} (hi : entry.modifiers.has i = true) (hi' : other.modifiers.has i = true) :
    entry = other := by
  have hsymm : Std.Symm fun a b : Lock => a.modifiers.intersects b.modifiers = false :=
    ⟨fun _ _ hx => (Mask.intersects_comm _ _).trans hx⟩
  by_contra hne
  have hx := h.disjoint.forall he ho hne
  rw [Mask.intersects_eq_false_iff.mp hx i hi] at hi'
  exact Bool.noConfusion hi'

theorem existsUnique_lit (h : k.Owned) (ht : k.Tidy) {i : Nat} (hi : k.modifiers.has i = true) :
    ∃! id, k.lamp id = some true ∧ ∃ m, k.Carries id m ∧ m.has i = true := by
  obtain ⟨entry, he, hb⟩ := (h.union i).mp hi
  refine ⟨entry.key, ⟨?_, _, h.carried entry he, hb⟩, ?_⟩
  · exact (ht.lit _).mpr (List.mem_map_of_mem he)
  · rintro id ⟨hl, m, hc, hm⟩
    obtain ⟨other, ho, rfl⟩ := List.mem_map.mp ((ht.lit id).mp hl)
    have hsame := (h.carried other ho).unique hc
    rw [← hsame] at hm
    exact congrArg Lock.key (h.eq_of_has ho he hm hb)

end Owned

theorem Fresh.owned (h : k.Fresh) {behavior : Behavior} (hb : behavior ≠ .none) :
    ({ k with behavior } : Keyboard).Owned := by
  have hl : k.locks = [] := congrArg locks h
  have hm : k.modifiers = .empty := congrArg modifiers h
  refine ⟨hb, ?_, ?_, ?_, ?_⟩
  all_goals simp [hl, hm]

/-- Where each key has one mask of at most one flag, and modifiers stick from the start, the locks
share out the modifiers that are on, so each of these has just one key that is lit as locked and
raises it. -/
theorem owner_unique_every_run (layout : Layout) (hf : layout.UsesOneFlag) (hu : layout.IsUniform)
    (behavior : Behavior) (hb : behavior ≠ .none) (ops : List Operation)
    (ho : ∀ op ∈ ops, op.isSticky = true) :
    let k := ((ofLayout layout).run (.setBehavior behavior :: ops)).keyboard
    (k.locks.Pairwise fun a b => a.modifiers.intersects b.modifiers = false) ∧
    (∀ entry ∈ k.locks, ∃ key, k.key? entry.key = some key ∧ key.Carries entry.modifiers) ∧
    k.lockedModifiers = k.modifiers ∧
    (∀ i, k.modifiers.has i = true → ∃! entry, entry ∈ k.locks ∧ entry.modifiers.has i = true) ∧
    ∀ i, k.modifiers.has i = true →
      ∃! id, k.lamp id = some true ∧ ∃ m, k.Carries id m ∧ m.has i = true := by
  have hfresh := fresh_ofLayout layout
  have hk : ((ofLayout layout).run (.setBehavior behavior :: ops)).keyboard.Owned := by
    rw [run_cons, Outcome.keyboard_andThen]
    exact (hfresh.owned hb).run hf hu rfl ho
  have ht := tidy_run hfresh.tidy (.setBehavior behavior :: ops)
  refine ⟨hk.disjoint, hk.carried, hk.lockedModifiers_eq, ?_, fun i hi => hk.existsUnique_lit ht hi⟩
  intro i hi
  obtain ⟨entry, he, hb⟩ := (hk.union i).mp hi
  exact ⟨entry, ⟨he, hb⟩, fun other hother => hk.eq_of_has hother.1 he hother.2 hb⟩

def twoSticky : List Operation :=
  [.press ⟨0, 0⟩ 1, .press ⟨0, 1⟩ 2, .release ⟨0, 0⟩ 3, .release ⟨0, 1⟩ 4]

theorem owner_unique_twoSticky :
    let k := ((ofLayout .small).run (.setBehavior .latch :: twoSticky)).keyboard
    k.modifiers = Flag.shift.mask ||| Flag.control.mask ∧
    k.locks = [⟨Flag.control.mask, ⟨0, 1⟩⟩, ⟨Flag.shift.mask, ⟨0, 0⟩⟩] ∧
    (∃! entry, entry ∈ k.locks ∧ entry.modifiers.has Flag.control.position = true) ∧
    ∃! id, k.lamp id = some true ∧ ∃ m, k.Carries id m ∧ m.has Flag.shift.position = true := by
  obtain ⟨_, _, _, he, hi⟩ := owner_unique_every_run .small (by decide) (by decide) .latch (by decide)
    twoSticky (by decide)
  exact ⟨by decide, by decide, he _ (by decide), hi _ (by decide)⟩

end Keyboard

end ScreenKeyboard
