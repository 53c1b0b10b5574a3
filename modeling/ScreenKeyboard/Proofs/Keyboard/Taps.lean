import ScreenKeyboard.Proofs.Keyboard.Cover
import ScreenKeyboard.Proofs.Keyboard.Dropping
import ScreenKeyboard.Proofs.Keyboard.Holding
import ScreenKeyboard.Proofs.Keyboard.Recording

namespace ScreenKeyboard

def Event.isLocking : Event → Bool
  | .locked _ | .unlocked _ => true
  | .activated _ | .shown _ _ => false

def Outcome.lockings (o : Outcome) : List Event :=
  o.events.filter Event.isLocking

namespace Keyboard

def canRaise (k : Keyboard) (id : KeyId) (i : Nat) : Bool :=
  (k.key? id).any fun key => key.symbols.symbols.any fun symbol => symbol.modifiers.has i

/-- The keys are locked only for what is their own. -/
def LocksWithin (k : Keyboard) (own : KeyId → Nat → Bool) : Prop :=
  ∀ entry ∈ k.locks, ∀ i, entry.modifiers.has i = true → own entry.key i = true

variable {k : Keyboard} {own : KeyId → Nat → Bool}

theorem canRaise_of_body {k' : Keyboard} (h : k'.body = k.body) (id : KeyId) (i : Nat) :
    k'.canRaise id i = k.canRaise id i :=
  read_key?_of_body h (fun key => by cases key <;> rfl) id

theorem canRaise_of_resolve {id : KeyId} {symbol : Symbol} (hr : k.resolve id = some symbol) {i : Nat}
    (hi : symbol.modifiers.has i = true) : k.canRaise id i = true := by
  obtain ⟨key, hk, hs⟩ := exists_key_of_resolve hr
  rw [canRaise, hk, Option.any_some, List.any_eq_true]
  exact ⟨symbol, hs, hi⟩

theorem LocksWithin.of_subset (h : k.LocksWithin own) {k' : Keyboard} (hs : k'.locks ⊆ k.locks) :
    k'.LocksWithin own :=
  fun entry he => h entry (hs he)

theorem LocksWithin.lock (h : k.LocksWithin own) {id : KeyId} {more : Mask}
    (hm : ∀ i, more.has i = true → own id i = true) : (k.lock id more).keyboard.LocksWithin own := by
  intro entry he i hi
  by_cases hk : id ∈ k.lockedIds
  · rw [lock_of_mem hk] at he
    obtain ⟨old, ho, rfl⟩ := List.mem_map.mp he
    by_cases hc : old.key = id
    · simp only [hc, ↓reduceIte, Mask.has_or, Bool.or_eq_true] at hi ⊢
      rcases hi with hi | hi
      · exact hc ▸ h old ho i hi
      · exact hm i hi
    · simp only [hc, ↓reduceIte] at hi ⊢
      exact h old ho i hi
  · rw [lock_of_not_mem hk] at he
    rcases List.mem_cons.mp he with rfl | he
    · exact hm i hi
    · exact h entry he i hi

theorem locks_unlock_subset (k : Keyboard) (m : Mask) : (k.unlock m).keyboard.locks ⊆ k.locks := by
  rw [locks_unlock]
  exact List.filter_subset_self _

theorem locks_clear_subset (k : Keyboard) (m : Mask) : (k.clear m).keyboard.locks ⊆ k.locks :=
  k.locks_unlock_subset _

theorem locks_showLevel (k : Keyboard) (level : Level) :
    (k.showLevel level).keyboard.locks = k.locks := by
  rw [keyboard_showLevel]

theorem locks_refreshLevel_subset (k : Keyboard) (toggled : Bool) :
    (k.refreshLevel toggled).keyboard.locks ⊆ k.locks := by
  rw [refreshLevel_eq, Outcome.keyboard_andThen, locks_showLevel]
  split
  next => exact k.locks_clear_subset _
  next => exact List.Subset.refl _

theorem locks_settle_subset (k : Keyboard) (id : KeyId) (m : Mask) :
    (k.settle id m).keyboard.locks ⊆ (k.lockFor id m).keyboard.locks := by
  have hc : (k.changeModifiers id m).keyboard.locks ⊆ (k.lockFor id m).keyboard.locks := by
    rw [locks_changeModifiers]
    exact List.filter_subset_self _
  exact List.Subset.trans (locks_refreshLevel_subset _ _) hc

theorem lockFor_of_none (hb : k.behavior = .none) (id : KeyId) (m : Mask) :
    k.lockFor id m = ⟨k, []⟩ :=
  if_pos (Or.inr hb)

theorem locks_press_subset (k : Keyboard) (id : KeyId) (t : UInt32) :
    (k.press id t).keyboard.locks ⊆ k.locks := by
  rcases k.press_cases id t with ⟨_, he⟩ | ⟨_, _, he⟩ | ⟨_, _, _, _, he⟩ | ⟨symbol, _, _, hb, he⟩
  · rw [he]
    exact List.Subset.refl _
  · rw [he]
    exact List.Subset.refl _
  · rw [he, keyboard_report]
    exact List.Subset.refl _
  · have hn : ((k.hold id).sectionPress id symbol.modifiers).behavior = .none := hb
    have hs := ((k.hold id).sectionPress id symbol.modifiers).locks_settle_subset id
      (k.modifiers ||| symbol.modifiers)
    rw [lockFor_of_none hn] at hs
    rw [he, Outcome.keyboard_andThen, keyboard_report]
    exact hs

theorem has_of_modifiersAfterRelease {modifiers m : Mask} {behavior : Behavior} {i : Nat}
    (hon : (modifiersAfterRelease modifiers m behavior).has i = true)
    (hoff : modifiers.has i = false) : m.has i = true := by
  unfold modifiersAfterRelease at hon
  split at hon
  next => simp [hoff] at hon
  next => simpa [hoff] using hon
  next =>
    split at hon
    next => simp at hon
    next => simpa [hoff] using hon

theorem locks_reset_subset (k : Keyboard) : k.reset.keyboard.locks ⊆ k.locks := by
  rw [reset, Outcome.keyboard_andThen, locks_showLevel]
  exact k.locks_clear_subset _

theorem locks_setModifiers_subset (k : Keyboard) (m : Mask) :
    (k.setModifiers m).keyboard.locks ⊆ k.locks := by
  rw [locks_setModifiers]
  exact List.filter_subset_self _

theorem locks_setGroup (k : Keyboard) (group : Nat) : (k.setGroup group).keyboard.locks = k.locks := by
  unfold setGroup
  split <;> rfl

theorem LocksWithin.release (h : k.LocksWithin k.canRaise) (id : KeyId) (t : UInt32) :
    (k.release id t).keyboard.LocksWithin k.canRaise := by
  rcases k.release_cases id t with ⟨_, he⟩ | ⟨_, _, he⟩ | ⟨symbol, _, hr, he⟩
  · rw [he]
    exact h
  · rw [he]
    exact h
  · rw [he, Outcome.keyboard_andThen, keyboard_report]
    apply LocksWithin.of_subset _ (locks_settle_subset _ _ _)
    unfold lockFor
    split
    next => exact h
    next =>
      apply LocksWithin.lock
      · exact h
      · intro i hi
        simp only [Mask.has_and, Mask.has_xor, Bool.and_eq_true] at hi
        have hoff : k.modifiers.has i = false := by
          have hx := hi.1
          rw [hi.2, Bool.xor_true, Bool.not_eq_true'] at hx
          exact hx
        exact canRaise_of_resolve hr (has_of_modifiersAfterRelease hi.2 hoff)

/-- One step: only releases lock keys, and each for what its key raises. -/
theorem LocksWithin.step (h : k.LocksWithin k.canRaise) (op : Operation) :
    (k.step op).keyboard.LocksWithin k.canRaise := by
  cases op with
  | press id t => exact h.of_subset (k.locks_press_subset id t)
  | release id t => exact h.release id t
  | releaseAll t =>
    let P : Outcome → Prop := fun o =>
      o.keyboard.body = k.body ∧ o.keyboard.LocksWithin o.keyboard.canRaise
    have hr : ∀ (k : Keyboard) id, Outcome.Keeps P k (k.release id t) := by
      intro k' id past hp
      have hb := k'.body_release id t
      refine ⟨hb.trans hp.1, ?_⟩
      intro entry he i hi
      exact (canRaise_of_body hb entry.key i).trans (hp.2.release id t entry he i hi)
    have hc : Outcome.Keeps P k (k.releaseAll t) := Outcome.Keeps.chain (fun k id _ => hr k id) k
    intro entry he i hi
    obtain ⟨hb, hw⟩ := hc.holds ⟨rfl, h⟩
    exact (canRaise_of_body hb entry.key i).symm.trans (hw entry he i hi)
  | setModifiers m => exact h.of_subset (k.locks_setModifiers_subset m)
  | setLevel level =>
    apply h.of_subset
    rw [Keyboard.step, locks_showLevel]
    exact List.Subset.refl _
  | setGroup group =>
    apply h.of_subset
    rw [Keyboard.step, locks_setGroup]
    exact List.Subset.refl _
  | setBehavior _ | setNumLockMask _ | setAltGrMask _ => exact h
  | reset => exact h.of_subset k.locks_reset_subset

theorem LocksWithin.run (h : k.LocksWithin k.canRaise) (ops : List Operation) :
    (k.run ops).keyboard.LocksWithin k.canRaise := by
  induction ops generalizing k with
  | nil => exact h
  | cons op ops ih =>
    have hb := k.body_step op
    have hc : (k.step op).keyboard.canRaise = k.canRaise := by
      funext id i
      exact canRaise_of_body hb id i
    have hs := h.step op
    rw [← hc] at hs ⊢
    rw [run_cons, Outcome.keyboard_andThen]
    exact ih hs

theorem LocksWithin.of_layout (layout : Layout) (ops : List Operation) :
    ((ofLayout layout).run ops).keyboard.LocksWithin
      ((ofLayout layout).run ops).keyboard.canRaise := by
  have hnone : (ofLayout layout).locks = [] := congrArg locks (fresh_ofLayout layout)
  have hstart : (ofLayout layout).LocksWithin (ofLayout layout).canRaise := by
    simp [LocksWithin, hnone]
  have hsame : ((ofLayout layout).run ops).keyboard.canRaise = (ofLayout layout).canRaise := by
    funext id i
    exact canRaise_of_body ((ofLayout layout).body_run ops) id i
  rw [hsame]
  exact hstart.run ops

theorem lockings_of_lights {o : Outcome} (h : o.Lights) : o.lockings = o.events := by
  apply List.filter_eq_self.mpr
  intro event he
  obtain ⟨hl, ha⟩ := h event he
  cases event with
  | activated _ => exact nomatch ha
  | shown _ _ => exact nomatch hl
  | locked _ | unlocked _ => rfl

theorem lockings_andThen (o : Outcome) (f : Keyboard → Outcome) :
    (o.andThen f).lockings = o.lockings ++ (f o.keyboard).lockings :=
  List.filter_append _ _

theorem lockings_showLevel (k : Keyboard) (level : Level) : (k.showLevel level).lockings = [] := by
  unfold showLevel
  split <;> rfl

theorem lockings_report (k : Keyboard) (id : KeyId) (symbol : Symbol) (state : KeyState)
    (t : UInt32) : (k.report id symbol state t).lockings = [] := by
  unfold report
  split <;> rfl

def tapped (k : Keyboard) (id : KeyId) (m : Mask) : Keyboard :=
  ((k.hold id).letGo id).sectionRelease id m

theorem isToggle_tapped (k : Keyboard) (id : KeyId) (m : Mask) :
    (k.tapped id m).isToggle id = k.isToggle id := by
  rw [tapped, isToggle_sectionRelease, isToggle, isToggle, key?_hold, if_pos rfl, Option.any_map]
  rfl

theorem locks_settle_of_not_toggle {id : KeyId} (ht : k.isToggle id = false) (m : Mask) :
    (k.settle id m).keyboard.locks = (k.changeModifiers id m).keyboard.locks ∧
      (k.settle id m).lockings = (k.changeModifiers id m).events := by
  rw [settle, Outcome.keyboard_andThen, lockings_andThen, isToggle_changeModifiers, ht,
    refreshLevel_of_not_toggled, locks_showLevel, lockings_showLevel, List.append_nil,
    lockings_of_lights (k.lights_changeModifiers id m)]
  exact ⟨rfl, rfl⟩

theorem run_tap (hb : k.behavior ≠ .none) {id : KeyId} {symbol : Symbol}
    (hr : k.resolve id = some symbol) (hm : symbol.modifiers ≠ .empty) (t t' : UInt32) :
    k.run [.press id t, .release id t'] =
      ((k.hold id).report id symbol .pressed t).andThen fun _ =>
        ((k.tapped id symbol.modifiers).settle id (k.modifiers ^^^ symbol.modifiers)).andThen
          fun k => k.report id symbol .released t' := by
  have hi : id ∈ (k.hold id).pressed := List.mem_cons_self
  have hheld : (k.hold id).resolve id = some symbol := (k.resolve_hold id id).trans hr
  have hflip : modifiersAfterRelease k.modifiers symbol.modifiers k.behavior =
      k.modifiers ^^^ symbol.modifiers := modifiersAfterRelease_of_ne_none hb hm k.modifiers
  have hrelease := (k.hold id).release_of_resolve_eq_some hi hheld t'
  have hrun : k.run [.press id t, .release id t'] =
      (k.press id t).andThen fun k => k.release id t' := by
    have hstep : ∀ k : Keyboard, k.run [.release id t'] = k.release id t' := fun k =>
      (k.run_cons _ _).trans (Outcome.andThen_still _)
    rw [run_cons]
    simp only [hstep]
    rfl
  rw [hrun, k.press_of_ne_none hb hr t, ← hflip]
  simp only [Outcome.andThen, keyboard_report, hrelease]
  rfl

theorem flips_run_tap (hb : k.behavior ≠ .none) {id : KeyId} {m : Mask}
    (hr : ∃ key, k.key? id = some key ∧ key.Raises m) (hm : m ≠ .empty) (t t' : UInt32) :
    let o := k.run [.press id t, .release id t']
    let change := (k.tapped id m).changeModifiers id (k.modifiers ^^^ m)
    o.keyboard.modifiers = k.modifiers ^^^ m ∧
    o.keyboard.level = .ofAxes k.level.onNumbers ((k.modifiers ^^^ m).contains Flag.shift.mask) ∧
    o.keyboard.behavior ≠ .none ∧
    o.keyboard.locks = change.keyboard.locks ∧ o.lockings = change.events := by
  obtain ⟨ht, symbol, hs, rfl⟩ := resolve_of_raises hr
  have hto : (k.tapped id symbol.modifiers).isToggle id = false :=
    (k.isToggle_tapped id symbol.modifiers).trans ht
  have hturns := (k.tapped id symbol.modifiers).turns_settle id (k.modifiers ^^^ symbol.modifiers)
  obtain ⟨hlocks, hevents⟩ := locks_settle_of_not_toggle hto (k.modifiers ^^^ symbol.modifiers)
  have hlevel := hturns.level
  have hmods := hturns.modifiers
  rw [hto, Level.next_of_not_toggled] at hlevel
  rw [hto, Level.nextModifiers_of_not_toggled] at hmods
  rw [run_tap hb hs hm t t']
  simp only [Outcome.keyboard_andThen, lockings_andThen, lockings_report, keyboard_report,
    List.nil_append, List.append_nil]
  exact ⟨hmods, hlevel, hturns.behavior ▸ behaviorFor_ne_none _, hlocks, hevents⟩

theorem not_mem_lockedIds (hs : k.Sound) (ht : k.Tidy) (hw : k.LocksWithin k.canRaise) {id : KeyId}
    {m : Mask} (hr : ∃ key, k.key? id = some key ∧ key.Raises m)
    (hoff : k.modifiers.intersects m = false) : id ∉ k.lockedIds := by
  intro hi
  obtain ⟨entry, he, rfl⟩ := List.mem_map.mp hi
  obtain ⟨key, hk, hkey⟩ := hr
  apply ht.nonempty entry he
  apply Mask.eq_empty_iff.mpr
  intro i
  by_contra hn
  rw [Bool.not_eq_false] at hn
  have hon := Mask.contains_iff.mp (hs.covers entry he) i hn
  have hcan := hw entry he i hn
  rw [canRaise, hk, Option.any_some, List.any_eq_true] at hcan
  obtain ⟨symbol, hmem, hi⟩ := hcan
  rw [hkey.same symbol hmem, Mask.intersects_eq_false_iff.mp hoff i hon] at hi
  exact Bool.noConfusion hi

theorem Tidy.lamp_eq (h : k.Tidy) {k' : Keyboard} (h' : k'.Tidy) (hb : k'.body = k.body)
    (hl : k'.lockedIds = k.lockedIds) (id : KeyId) : k'.lamp id = k.lamp id := by
  have hlit : k'.lamp id = some true ↔ k.lamp id = some true := by rw [h'.lit, h.lit, hl]
  have hkey : (k'.lamp id).isSome = (k.lamp id).isSome :=
    read_key?_of_body (g := fun key => (key.map Key.locked).isSome) hb
      (fun key => by cases key <;> rfl) id
  generalize k'.lamp id = new at hlit hkey ⊢
  generalize k.lamp id = old at hlit hkey ⊢
  rcases new with _ | _ | _ <;> rcases old with _ | _ | _ <;> simp_all

theorem run_tap_raises (hs : k.Sound) (ht : k.Tidy) (hw : k.LocksWithin k.canRaise)
    (hb : k.behavior ≠ .none) {id : KeyId} {m : Mask}
    (hr : ∃ key, k.key? id = some key ∧ key.Raises m) (hm : m ≠ .empty)
    (hoff : k.modifiers.intersects m = false) (t t' : UInt32) :
    let o := k.run [.press id t, .release id t']
    o.keyboard.locks = ⟨m, id⟩ :: k.locks ∧ o.lockings = [.locked id] := by
  obtain ⟨_, _, _, hlocks, hevents⟩ := flips_run_tap hb hr hm t t'
  have hi : id ∉ (k.tapped id m).lockedIds := not_mem_lockedIds hs ht hw hr hoff
  have hmods : (k.tapped id m).modifiers = k.modifiers := rfl
  have hchange := (k.tapped id m).changeModifiers_raise hb hm hoff id
  rw [hmods, lock_of_not_mem hi] at hchange
  rw [hchange] at hlocks hevents
  exact ⟨hlocks, hevents⟩

theorem run_tap_lowers (hb : k.behavior ≠ .none) {id : KeyId} {m : Mask}
    (hr : ∃ key, k.key? id = some key ∧ key.Raises m) (hm : m ≠ .empty)
    (hon : k.modifiers.contains m = true) (t t' : UInt32) :
    let o := k.run [.press id t, .release id t']
    o.keyboard.locks = k.locks.filter (fun entry => !entry.modifiers.intersects m) ∧
      o.lockings = (k.unlockedIds m).map .unlocked := by
  obtain ⟨_, _, _, hlocks, hevents⟩ := flips_run_tap hb hr hm t t'
  have hmods : (k.tapped id m).modifiers = k.modifiers := rfl
  have hchange := (k.tapped id m).changeModifiers_lower hon id
  rw [hmods] at hchange
  rw [hchange] at hlocks hevents
  refine ⟨hlocks.trans ?_, hevents.trans ?_⟩
  · exact (k.tapped id m).locks_unlock m
  · rw [Outcome.events_andThen, events_unlock, List.append_nil]
    rfl

/-- Where modifiers stick and all masks have flags: a tap of a key whose modifiers are off turns
these on and gives the key one lock for them, and the next tap undoes it. The key is reported as
locked by the first and as unlocked by the second. -/
theorem double_tap_undone_every_run (layout : Layout) (ops : List Operation)
    (hl : layout.UsesNamedFlags) (ho : ∀ op ∈ ops, op.UsesNamedFlags) (id : KeyId) (m : Mask)
    (hb : ((ofLayout layout).run ops).keyboard.behavior ≠ .none)
    (hr : ∃ key, ((ofLayout layout).run ops).keyboard.key? id = some key ∧ key.Raises m)
    (hm : m ≠ .empty)
    (hoff : ((ofLayout layout).run ops).keyboard.modifiers.intersects m = false)
    (t₁ t₂ t₃ t₄ : UInt32) :
    let k := ((ofLayout layout).run ops).keyboard
    let once := k.run [.press id t₁, .release id t₂]
    let twice := once.keyboard.run [.press id t₃, .release id t₄]
    once.keyboard.modifiers = k.modifiers ||| m ∧
    once.keyboard.locks = ⟨m, id⟩ :: k.locks ∧
    once.keyboard.lamp id = some true ∧
    once.lockings = [.locked id] ∧
    twice.keyboard.modifiers = k.modifiers ∧
    twice.keyboard.locks = k.locks ∧
    (∀ id', twice.keyboard.lamp id' = k.lamp id') ∧
    twice.lockings = [.unlocked id] ∧
    (k.level.isShifted = k.modifiers.contains Flag.shift.mask →
      twice.keyboard.level = k.level) := by
  intro k once twice
  have hfresh := fresh_ofLayout layout
  have hsound : k.Sound := hfresh.sound.run (namedSymbols_ofLayout hl) ho
  have htidy : k.Tidy := tidy_run hfresh.tidy ops
  have hwithin : k.LocksWithin k.canRaise := LocksWithin.of_layout layout ops
  obtain ⟨hmods₁, hlevel₁, hb₁, _⟩ := flips_run_tap hb hr hm t₁ t₂
  obtain ⟨hlocks₁, hevents₁⟩ := run_tap_raises hsound htidy hwithin hb hr hm hoff t₁ t₂
  have hbody₁ : once.keyboard.body = k.body := k.body_run _
  have htidy₁ : once.keyboard.Tidy := tidy_run htidy _
  have hr₁ := exists_raises_of_body hr hbody₁
  have hon : once.keyboard.modifiers.contains m = true := by
    rw [hmods₁, Mask.xor_eq_or_of_disjoint hoff]
    apply Mask.contains_iff.mpr
    intro i hi
    simp [hi]
  obtain ⟨hmods₂, hlevel₂, _⟩ := flips_run_tap hb₁ hr₁ hm t₃ t₄
  obtain ⟨hlocks₂, hevents₂⟩ := run_tap_lowers hb₁ hr₁ hm hon t₃ t₄
  have hown : m.intersects m = true := Mask.intersects_self hm
  have hothers : ∀ entry ∈ k.locks, entry.modifiers.intersects m = false := by
    intro entry he
    apply Mask.intersects_eq_false_iff.mpr
    intro i hi
    exact Mask.intersects_eq_false_iff.mp hoff i (Mask.contains_iff.mp (hsound.covers entry he) i hi)
  have hnone : k.locks.filter (fun entry => entry.modifiers.intersects m) = [] :=
    List.filter_eq_nil_iff.mpr fun entry he => by simp [hothers entry he]
  have hall : k.locks.filter (fun entry => !entry.modifiers.intersects m) = k.locks :=
    List.filter_eq_self.mpr fun entry he => by simp [hothers entry he]
  have hunlocked : once.keyboard.unlockedIds m = [id] := by
    rw [unlockedIds, hlocks₁]
    simp [hown, hnone]
  have hmods : twice.keyboard.modifiers = k.modifiers := by
    rw [hmods₂, hmods₁, Mask.xor_xor_cancel]
  have hlocks : twice.keyboard.locks = k.locks := by
    rw [hlocks₂, hlocks₁]
    simp [hown, hall]
  have hbody : twice.keyboard.body = k.body := (once.keyboard.body_run _).trans hbody₁
  refine ⟨hmods₁.trans (Mask.xor_eq_or_of_disjoint hoff), hlocks₁, ?_, hevents₁, hmods, hlocks, ?_,
    ?_, ?_⟩
  · rw [htidy₁.lit, lockedIds, hlocks₁]
    exact List.mem_cons_self
  · exact htidy.lamp_eq (tidy_run htidy₁ _) hbody (congrArg (List.map Lock.key) hlocks)
  · rw [hevents₂, hunlocked]
    rfl
  · intro hagrees
    rw [hlevel₂, hlevel₁, hmods₁, Mask.xor_xor_cancel, ← hagrees, Level.onNumbers_ofAxes]
    cases k.level <;> rfl

theorem double_tap_undone_shift :
    let k := ((ofLayout .small).run [.setBehavior .latch, .press ⟨0, 1⟩ 1, .release ⟨0, 1⟩ 2]).keyboard
    let once := k.run [.press ⟨0, 0⟩ 3, .release ⟨0, 0⟩ 4]
    let twice := once.keyboard.run [.press ⟨0, 0⟩ 5, .release ⟨0, 0⟩ 6]
    once.keyboard.level = .lettersUpper ∧
    once.keyboard.locks = [⟨Flag.shift.mask, ⟨0, 0⟩⟩, ⟨Flag.control.mask, ⟨0, 1⟩⟩] ∧
    twice.keyboard.modifiers = Flag.control.mask ∧
    twice.keyboard.locks = [⟨Flag.control.mask, ⟨0, 1⟩⟩] ∧
    twice.keyboard.level = .lettersLower := by
  obtain ⟨_, hlocks₁, _, _, hmods, hlocks, _, _, hlevel⟩ := double_tap_undone_every_run .small
    [.setBehavior .latch, .press ⟨0, 1⟩ 1, .release ⟨0, 1⟩ 2] (by decide) (by decide) ⟨0, 0⟩
    Flag.shift.mask (by decide) ⟨_, rfl, by decide, by decide, by decide⟩ (by decide) (by decide)
    3 4 5 6
  exact ⟨by decide, hlocks₁, hmods, hlocks, hlevel (by decide)⟩

end Keyboard

end ScreenKeyboard
