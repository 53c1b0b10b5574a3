import ScreenKeyboard.Proofs.Keyboard.Locks
import ScreenKeyboard.Proofs.Keyboard.Symbols

namespace ScreenKeyboard

namespace Keyboard

/-- The mask has all the modifiers that keys are locked for. -/
def Covers (k : Keyboard) (m : Mask) : Prop :=
  ∀ entry ∈ k.locks, m.contains entry.modifiers = true

structure Sound (k : Keyboard) : Prop where
  named : k.modifiers.IsNamed
  covers : k.Covers k.modifiers

def Operation.UsesNamedFlags : Operation → Prop
  | .setModifiers m => m.IsNamed
  | _ => True

instance (op : Operation) : Decidable op.UsesNamedFlags :=
  match op with
  | .setModifiers m => inferInstanceAs (Decidable m.IsNamed)
  | .press _ _ | .release _ _ | .releaseAll _ | .setLevel _ | .setGroup _ | .setBehavior _
  | .setNumLockMask _ | .setAltGrMask _ | .reset => isTrue trivial

variable {k : Keyboard}

theorem Covers.of_locks {k' : Keyboard} {m : Mask} (h : k.Covers m) (hl : k'.locks = k.locks) :
    k'.Covers m := by
  intro entry he
  exact h entry (hl ▸ he)

theorem Covers.lock {m : Mask} (h : k.Covers m) (id : KeyId) (more : Mask) :
    (k.lock id more).keyboard.Covers (m ||| more) := by
  have hold : ∀ entry ∈ k.locks, ∀ i, entry.modifiers.has i = true → m.has i = true :=
    fun entry he => Mask.contains_iff.mp (h entry he)
  intro entry he
  apply Mask.contains_iff.mpr
  intro i hi
  rw [Mask.has_or, Bool.or_eq_true]
  by_cases hm : id ∈ k.lockedIds
  · rw [lock_of_mem hm] at he
    obtain ⟨old, ho, rfl⟩ := List.mem_map.mp he
    by_cases hk : old.key = id
    · simp only [hk, ↓reduceIte, Mask.has_or, Bool.or_eq_true] at hi
      exact hi.imp_left (hold old ho i)
    · simp only [hk, ↓reduceIte] at hi
      exact Or.inl (hold old ho i hi)
  · rw [lock_of_not_mem hm] at he
    rcases List.mem_cons.mp he with he | he
    · subst entry
      exact Or.inr hi
    · exact Or.inl (hold entry he i hi)

theorem Covers.unlock {m : Mask} (h : k.Covers m) (off : Mask) :
    (k.unlock off).keyboard.Covers (m.without off) := by
  intro entry he
  rw [locks_unlock] at he
  obtain ⟨he, hn⟩ := List.mem_filter.mp he
  apply Mask.contains_iff.mpr
  intro i hi
  rw [Mask.has_without, Bool.and_eq_true, Bool.not_eq_true']
  refine ⟨Mask.contains_iff.mp (h entry he) i hi, ?_⟩
  by_contra hoff
  have hx : entry.modifiers.intersects off = true :=
    Mask.intersects_iff.mpr ⟨i, hi, by simpa using hoff⟩
  simp [hx] at hn

theorem Covers.mono {m m' : Mask} (h : k.Covers m) (hm : m'.contains m = true) : k.Covers m' :=
  fun entry he => Mask.contains_trans hm (h entry he)

/-- A key takes over the modifiers that go on before the locks for those that go off are dropped, so
the locks fit the new modifiers whatever bits they have. -/
theorem Covers.changeModifiers (h : k.Covers k.modifiers) (id : KeyId) (m : Mask) :
    (k.changeModifiers id m).keyboard.Covers m := by
  have hl : (k.lockFor id m).keyboard.Covers (k.modifiers ||| ((k.modifiers ^^^ m) &&& m)) := by
    unfold lockFor
    split
    next =>
      apply h.mono
      apply Mask.contains_iff.mpr
      intro i hi
      simp [hi]
    next => exact h.lock id _
  have hu := hl.unlock ((k.modifiers ^^^ m) &&& k.modifiers)
  have hm : m.contains ((k.modifiers ||| ((k.modifiers ^^^ m) &&& m)).without
      ((k.modifiers ^^^ m) &&& k.modifiers)) = true := by
    apply Mask.contains_iff.mpr
    intro i hi
    cases hb : m.has i with
    | true => rfl
    | false => simp [hb] at hi
  rw [changeModifiers_eq]
  exact (hu.mono hm).of_locks rfl

namespace Sound

theorem of_eq {k' : Keyboard} (h : k.Sound) (hm : k'.modifiers = k.modifiers)
    (hl : k'.locks = k.locks) : k'.Sound := by
  refine ⟨hm ▸ h.named, ?_⟩
  rw [hm]
  exact h.covers.of_locks hl

theorem clear (h : k.Sound) (m : Mask) : (k.clear m).keyboard.Sound := by
  have hm := k.modifiers_clear m
  refine ⟨?_, ?_⟩
  · rw [hm]
    exact Mask.isNamed_and_complement k.modifiers m
  · rw [hm, h.named.and_complement]
    have hu := h.covers.unlock (k.modifiers &&& m)
    have hc : (k.modifiers.without m).contains (k.modifiers.without (k.modifiers &&& m)) = true := by
      apply Mask.contains_iff.mpr
      intro i hi
      cases hb : k.modifiers.has i with
      | true => simpa [hb] using hi
      | false => simp [hb] at hi
    exact (hu.mono hc).of_locks rfl

theorem changeModifiers (h : k.Sound) (id : KeyId) {m : Mask} (hm : m.IsNamed) :
    (k.changeModifiers id m).keyboard.Sound :=
  ⟨hm, h.covers.changeModifiers id m⟩

theorem showLevel (h : k.Sound) (level : Level) : (k.showLevel level).keyboard.Sound := by
  unfold Keyboard.showLevel
  split
  next => exact h
  next => exact h.of_eq rfl rfl

theorem refreshLevel (h : k.Sound) (toggled : Bool) : (k.refreshLevel toggled).keyboard.Sound := by
  rw [refreshLevel_eq, Outcome.keyboard_andThen]
  apply showLevel
  split
  next => exact (h.clear _).of_eq rfl rfl
  next => exact h.of_eq rfl rfl

theorem settle (h : k.Sound) (id : KeyId) {m : Mask} (hm : m.IsNamed) :
    (k.settle id m).keyboard.Sound :=
  (h.changeModifiers id hm).refreshLevel _

theorem press (h : k.Sound) (hs : k.NamedSymbols) (id : KeyId) (t : UInt32) :
    (k.press id t).keyboard.Sound := by
  rcases k.press_cases id t with ⟨_, he⟩ | ⟨_, _, he⟩ | ⟨_, _, _, _, he⟩ | ⟨s, _, hr, _, he⟩
  · rw [he]
    exact h
  · rw [he]
    exact h.of_eq rfl rfl
  · rw [he, keyboard_report]
    exact h.of_eq rfl rfl
  · rw [he, Outcome.keyboard_andThen, keyboard_report]
    have hm : (k.modifiers ||| s.modifiers).IsNamed := h.named.or (hs.isNamed hr)
    have hh : ((k.hold id).sectionPress id s.modifiers).Sound := h.of_eq rfl rfl
    exact hh.settle id hm

theorem release (h : k.Sound) (hs : k.NamedSymbols) (id : KeyId) (t : UInt32) :
    (k.release id t).keyboard.Sound := by
  rcases k.release_cases id t with ⟨_, he⟩ | ⟨_, _, he⟩ | ⟨s, _, hr, he⟩
  · rw [he]
    exact h
  · rw [he]
    exact h.of_eq rfl rfl
  · rw [he, Outcome.keyboard_andThen, keyboard_report]
    have hm := isNamed_modifiersAfterRelease h.named (hs.isNamed hr) k.behavior
    have hh : ((k.letGo id).sectionRelease id s.modifiers).Sound := h.of_eq rfl rfl
    exact hh.settle id hm

theorem releaseAll (h : k.Sound) (hs : k.NamedSymbols) (t : UInt32) :
    (k.releaseAll t).keyboard.Sound := by
  let P : Outcome → Prop := fun o => o.keyboard.NamedSymbols ∧ o.keyboard.Sound
  have hr : ∀ (k : Keyboard) id, Outcome.Keeps P k (k.release id t) := by
    intro k id past hp
    have hb := ((body_keptByMoves k.body).release k id t).holds rfl
    exact ⟨hp.1.of_body hb, hp.2.release hp.1 id t⟩
  have hc : Outcome.Keeps P k (k.releaseAll t) := Outcome.Keeps.chain (fun k id _ => hr k id) k
  exact (hc.holds ⟨hs, h⟩).2

/-- Here the modifiers that go off are told by a complement, so only those with a flag are. -/
theorem setModifiers (h : k.Sound) {m : Mask} (hm : m.IsNamed) : (k.setModifiers m).keyboard.Sound := by
  have hu := h.covers.unlock (k.modifiers &&& ~~~m)
  rw [h.named.and_complement] at hu
  have hc : m.contains (k.modifiers.without (k.modifiers.without m)) = true := by
    apply Mask.contains_iff.mpr
    intro i hi
    simp only [Mask.has_without, Bool.and_eq_true, Bool.not_eq_true'] at hi
    simpa [hi.1] using hi.2
  have hk : ({ (k.unlock (k.modifiers &&& ~~~m)).keyboard with modifiers := m } : Keyboard).Sound := by
    rw [h.named.and_complement]
    exact ⟨hm, (hu.mono hc).of_locks rfl⟩
  exact hk.refreshLevel false

theorem reset (h : k.Sound) : k.reset.keyboard.Sound := by
  have hc : ({ (k.clear k.modifiers).keyboard with
      sections := (k.clear k.modifiers).keyboard.sections.map Section.reset
      behavior := .none } : Keyboard).Sound := (h.clear k.modifiers).of_eq rfl rfl
  exact hc.showLevel .lettersLower

theorem step (h : k.Sound) (hs : k.NamedSymbols) {op : Operation} (ho : op.UsesNamedFlags) :
    (k.step op).keyboard.Sound := by
  cases op with
  | press id t => exact h.press hs id t
  | release id t => exact h.release hs id t
  | releaseAll t => exact h.releaseAll hs t
  | setModifiers m => exact h.setModifiers ho
  | setLevel level => exact h.showLevel level
  | setGroup group =>
    have hg : (k.setGroup group).keyboard.Sound := by
      unfold Keyboard.setGroup
      split
      next => exact h
      next => exact h.of_eq rfl rfl
    exact hg
  | setBehavior behavior => exact h.of_eq rfl rfl
  | setNumLockMask mask => exact h.of_eq rfl rfl
  | setAltGrMask mask => exact h.of_eq rfl rfl
  | reset => exact h.reset

theorem run (h : k.Sound) (hs : k.NamedSymbols) {ops : List Operation}
    (ho : ∀ op ∈ ops, op.UsesNamedFlags) : (k.run ops).keyboard.Sound := by
  induction ops generalizing k with
  | nil => exact h
  | cons op ops ih =>
    have hk := h.step hs (ho op List.mem_cons_self)
    rw [run_cons, Outcome.keyboard_andThen]
    exact ih hk (hs.of_body (k.body_step op)) fun op' hm => ho op' (List.mem_cons_of_mem _ hm)

theorem unlocked_of_empty (h : k.Sound) (ht : k.Tidy) (he : k.modifiers = .empty) :
    k.locks = [] ∧ ∀ id key, k.key? id = some key → key.locked = false := by
  have hl : k.locks = [] := by
    apply List.eq_nil_iff_forall_not_mem.mpr
    intro entry hm
    have hc := h.covers entry hm
    rw [he] at hc
    exact ht.nonempty entry hm (Mask.contains_empty_left hc)
  refine ⟨hl, ?_⟩
  intro id key hk
  by_contra hn
  have hi : id ∈ k.lockedIds := (ht.lit id).mp (by simpa [lamp, hk] using hn)
  simp [lockedIds, hl] at hi

end Sound

theorem Fresh.sound (h : k.Fresh) : k.Sound := by
  have hm : k.modifiers = .empty := congrArg modifiers h
  have hl : k.locks = [] := congrArg locks h
  refine ⟨hm ▸ Mask.isNamed_empty, ?_⟩
  simp [Covers, hl]

theorem modifiers_release_of_latch {id : KeyId} {symbol : Symbol} (hb : k.behavior = .latch)
    (hi : id ∈ k.pressed) (hr : k.resolve id = some symbol) (hs : symbol.modifiers = .empty)
    (t : UInt32) : (k.release id t).keyboard.modifiers = .empty := by
  rcases k.release_cases id t with ⟨hn, _⟩ | ⟨_, hn, _⟩ | ⟨s, _, hr', he⟩
  · exact absurd hi hn
  · rw [hr] at hn
    simp at hn
  · have hm : modifiersAfterRelease k.modifiers s.modifiers k.behavior = .empty := by
      rw [Option.some.inj (hr'.symm.trans hr), hs, hb]
      rfl
    have hu := congrArg Keyboard.modifiers
      (((k.letGo id).sectionRelease id s.modifiers).unlit_settle id .empty)
    rw [he, Outcome.keyboard_andThen, keyboard_report, hm]
    exact hu.trans (Level.nextModifiers_empty _ _)

end Keyboard

def Outcome.Remembers (entry : Lock) (o : Outcome) : Prop :=
  .unlocked entry.key ∈ o.events ∨
    ∃ entry' ∈ o.keyboard.locks, entry'.key = entry.key ∧ entry'.modifiers.contains entry.modifiers = true

namespace Outcome

variable {entry : Lock}

theorem Remembers.of_eq {k k' : Keyboard} {past : List Event} (h : Remembers entry ⟨k, past⟩)
    (hl : k'.locks = k.locks) : Remembers entry ⟨k', past⟩ := by
  rcases h with h | ⟨entry', he, h⟩
  · exact Or.inl h
  · exact Or.inr ⟨entry', hl ▸ he, h⟩

theorem keeps_remembers {k : Keyboard} {o : Outcome}
    (h : ∀ old ∈ k.locks, old.key = entry.key → old.modifiers.contains entry.modifiers = true →
      Remembers entry o) : Keeps (Remembers entry) k o := by
  intro past hp
  rcases hp with hp | ⟨old, ho, hk, hm⟩
  · exact Or.inl (List.mem_append_left _ hp)
  · exact (h old ho hk hm).imp_left (List.mem_append_right past)

theorem remembers_lock (k : Keyboard) (id : KeyId) (m : Mask) :
    Keeps (Remembers entry) k (k.lock id m) := by
  apply keeps_remembers
  intro old ho hk hm
  right
  by_cases hi : id ∈ k.lockedIds
  · rw [Keyboard.lock_of_mem hi]
    refine ⟨_, List.mem_map.mpr ⟨old, ho, rfl⟩, ?_⟩
    by_cases he : old.key = id
    · refine ⟨by simpa [he] using he ▸ hk, ?_⟩
      apply Mask.contains_iff.mpr
      intro i hb
      simp [he, Mask.contains_iff.mp hm i hb]
    · simpa only [he, ↓reduceIte] using ⟨hk, hm⟩
  · rw [Keyboard.lock_of_not_mem hi]
    exact ⟨old, List.mem_cons_of_mem _ ho, hk, hm⟩

theorem remembers_unlock (k : Keyboard) (m : Mask) : Keeps (Remembers entry) k (k.unlock m) := by
  apply keeps_remembers
  intro old ho hk hm
  cases hi : old.modifiers.intersects m with
  | true =>
    left
    rw [Keyboard.events_unlock, ← hk]
    exact List.mem_map_of_mem (List.mem_map_of_mem (List.mem_filter.mpr ⟨ho, hi⟩))
  | false =>
    right
    rw [Keyboard.locks_unlock]
    exact ⟨old, List.mem_filter.mpr ⟨ho, by simp [hi]⟩, hk, hm⟩

theorem remembers_keptByMoves (entry : Lock) : KeptByMoves (Remembers entry) where
  hold _ _ _ _ h := h.of_eq rfl
  letGo _ _ _ h := h.of_eq rfl
  sectionPress _ _ _ _ h := h.of_eq rfl
  sectionRelease _ _ _ _ h := h.of_eq rfl
  lock k id m _ _ := remembers_lock k id m
  unlock k m := remembers_unlock k m
  modifiers _ _ _ h := h.of_eq rfl
  behavior _ _ _ h := h.of_eq rfl
  numLockMask _ _ _ h := h.of_eq rfl
  altGrMask _ _ _ h := h.of_eq rfl
  resetSections _ _ h := h.of_eq rfl
  shown _ _ _ _ := keeps_remembers fun old ho hk hm => Or.inr ⟨old, ho, hk, hm⟩
  activated _ _ := keeps_remembers fun old ho hk hm => Or.inr ⟨old, ho, hk, hm⟩

end Outcome

namespace Keyboard

/-- While all masks have flags: every lock is for modifiers that are on; a key that is locked for
modifiers of which one is off after further operations was reported as unlocked on the way; and
without modifiers, as after the release of a plain key under latch, no key is locked. -/
theorem locks_sound_every_run (layout : Layout) (ops : List Operation)
    (hl : layout.UsesNamedFlags) (ho : ∀ op ∈ ops, op.UsesNamedFlags) :
    let k := ((ofLayout layout).run ops).keyboard
    (∀ entry ∈ k.locks,
      entry.modifiers ≠ .empty ∧ k.modifiers.contains entry.modifiers = true) ∧
    (∀ entry ∈ k.locks, ∀ later : List Operation, (∀ op ∈ later, op.UsesNamedFlags) →
      (k.run later).keyboard.modifiers.contains entry.modifiers = false →
        .unlocked entry.key ∈ (k.run later).events) ∧
    (k.modifiers = .empty →
      k.locks = [] ∧ ∀ id key, k.key? id = some key → key.locked = false) ∧
    (∀ id t symbol, k.behavior = .latch → id ∈ k.pressed → k.resolve id = some symbol →
      symbol.modifiers = .empty → (k.release id t).keyboard.locks = [] ∧
        ∀ id' key, (k.release id t).keyboard.key? id' = some key → key.locked = false) := by
  have hs := namedSymbols_ofLayout hl
  have hf : (ofLayout layout).Sound := by
    have hm : (ofLayout layout).modifiers = .empty := congrArg modifiers (fresh_ofLayout layout)
    have hn : (ofLayout layout).locks = [] := congrArg locks (fresh_ofLayout layout)
    refine ⟨hm ▸ Mask.isNamed_empty, ?_⟩
    simp [Covers, hn]
  have hk := hf.run hs ho
  have ht := tidy_run (fresh_ofLayout layout).tidy ops
  have hsk := hs.of_body ((ofLayout layout).body_run ops)
  refine ⟨?_, ?_, hk.unlocked_of_empty ht, ?_⟩
  · intro entry he
    exact ⟨ht.nonempty entry he, hk.covers entry he⟩
  · intro entry he later hlater hoff
    have hr := ((Outcome.remembers_keptByMoves entry).run _ later).holds
      (Or.inr ⟨entry, he, rfl, Mask.contains_iff.mpr fun _ hi => hi⟩)
    rcases hr with hr | ⟨entry', he', _, hc⟩
    · exact hr
    · have hon := Mask.contains_trans ((hk.run hsk hlater).covers entry' he') hc
      rw [hoff] at hon
      exact Bool.noConfusion hon
  · intro id t symbol hb hi hr hm
    have hkr := hk.release hsk id t
    have htr := (tidy_keptByMoves.release _ id t).holds ht
    exact hkr.unlocked_of_empty htr (modifiers_release_of_latch hb hi hr hm t)

def stickyControl : List Operation :=
  [.setBehavior .latch, .press ⟨0, 1⟩ 1, .release ⟨0, 1⟩ 2, .press ⟨0, 2⟩ 3]

theorem locks_sound_sticky_control :
    let k := ((ofLayout .small).run stickyControl).keyboard
    (∃ entry ∈ k.locks, entry.modifiers ≠ .empty ∧ k.modifiers.contains entry.modifiers = true ∧
      .unlocked entry.key ∈ (k.run [.releaseAll 4]).events) ∧
    (k.release ⟨0, 2⟩ 4).keyboard.locks = [] ∧ (k.release ⟨0, 2⟩ 4).keyboard.modifiers = .empty := by
  have h := locks_sound_every_run .small stickyControl (by decide) (by decide)
  have he : (⟨Flag.control.mask, ⟨0, 1⟩⟩ : Lock) ∈
      ((ofLayout .small).run stickyControl).keyboard.locks := by decide
  have hoff : (((ofLayout .small).run stickyControl).keyboard.run
      [.releaseAll 4]).keyboard.modifiers.contains Flag.control.mask = false := by decide
  have hb : ((ofLayout .small).run stickyControl).keyboard.behavior = .latch := by decide
  have hi : ⟨0, 2⟩ ∈ ((ofLayout .small).run stickyControl).keyboard.pressed := by decide
  have hr : ((ofLayout .small).run stickyControl).keyboard.resolve ⟨0, 2⟩ =
      some { name := "AC01", category := .keyName } := by decide
  have hm : (((ofLayout .small).run stickyControl).keyboard.release ⟨0, 2⟩ 4).keyboard.modifiers =
      .empty := by decide
  generalize ((ofLayout .small).run stickyControl).keyboard = k at h he hoff hb hi hr hm ⊢
  exact ⟨⟨_, he, (h.1 _ he).1, (h.1 _ he).2, h.2.1 _ he _ (by decide) hoff⟩,
    (h.2.2.2 ⟨0, 2⟩ 4 _ hb hi hr rfl).1, hm⟩

end Keyboard

end ScreenKeyboard
