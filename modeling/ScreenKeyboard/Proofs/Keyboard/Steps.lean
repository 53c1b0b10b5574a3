import ScreenKeyboard.Proofs.Keyboard.Moves

namespace ScreenKeyboard

/-- A property of histories that each move keeps on its own. -/
structure Outcome.KeptByMoves (P : Outcome → Prop) : Prop where
  hold : ∀ k id past, (k.key? id).isSome = true → P ⟨k, past⟩ → P ⟨k.hold id, past⟩
  letGo : ∀ k id past, P ⟨k, past⟩ → P ⟨k.letGo id, past⟩
  sectionPress : ∀ k id m past, P ⟨k, past⟩ → P ⟨k.sectionPress id m, past⟩
  sectionRelease : ∀ k id m past, P ⟨k, past⟩ → P ⟨k.sectionRelease id m, past⟩
  lock : ∀ k id m, (k.key? id).isSome = true → m ≠ .empty → Keeps P k (k.lock id m)
  unlock : ∀ k m, Keeps P k (k.unlock m)
  modifiers : ∀ k modifiers past, P ⟨k, past⟩ → P ⟨{ k with modifiers }, past⟩
  behavior : ∀ k behavior past, P ⟨k, past⟩ → P ⟨{ k with behavior }, past⟩
  numLockMask : ∀ k numLockMask past, P ⟨k, past⟩ → P ⟨{ k with numLockMask }, past⟩
  altGrMask : ∀ k altGrMask past, P ⟨k, past⟩ → P ⟨{ k with altGrMask }, past⟩
  resetSections : ∀ k past, P ⟨k, past⟩ →
    P ⟨{ k with sections := k.sections.map Section.reset }, past⟩
  shown : ∀ k group level, (group, level) ≠ (k.group, k.level) →
    Keeps P k ⟨{ k with group, level }, [.shown group level]⟩
  activated : ∀ k activation, Keeps P k ⟨k, [.activated activation]⟩

namespace Outcome.KeptByMoves

variable {P : Outcome → Prop} (h : KeptByMoves P) (k : Keyboard)

include h

theorem showLevel (level : Level) : Keeps P k (k.showLevel level) := by
  unfold Keyboard.showLevel
  split
  next => exact .still k
  next hn => exact h.shown k k.group level fun he => hn (congrArg Prod.snd he).symm

theorem setGroup (group : Nat) : Keeps P k (k.setGroup group) := by
  unfold Keyboard.setGroup
  split
  next => exact .still k
  next hn => exact h.shown k group k.level fun he => hn (congrArg Prod.fst he).symm

theorem report (id : KeyId) (symbol : Symbol) (state : KeyState) (t : UInt32) :
    Keeps P k (k.report id symbol state t) := by
  unfold Keyboard.report
  split
  next => exact h.activated k _
  next => exact .still k

theorem clear (m : Mask) : Keeps P k (k.clear m) :=
  (h.unlock k _).andThen (.silent fun past => h.modifiers _ _ past)

theorem lockFor (id : KeyId) (m : Mask) (hk : (k.key? id).isSome = true) :
    Keeps P k (k.lockFor id m) := by
  unfold Keyboard.lockFor
  split
  next => exact .still k
  next hn =>
    apply h.lock k id _ hk
    intro he
    exact hn (Or.inl (by simp [he, Mask.isEmpty, Mask.empty]))

theorem changeModifiers (id : KeyId) (m : Mask) (hk : (k.key? id).isSome = true) :
    Keeps P k (k.changeModifiers id m) := by
  rw [Keyboard.changeModifiers_eq]
  exact ((h.lockFor k id m hk).andThen (h.unlock _ _)).andThen
    (.silent fun past => h.modifiers _ _ past)

theorem refreshLevel (toggled : Bool) : Keeps P k (k.refreshLevel toggled) := by
  rw [Keyboard.refreshLevel_eq]
  have hs : Keeps P k (if k.level.crosses k.modifiers toggled then k.clear Flag.shift.mask else ⟨k, []⟩) := by
    split
    next => exact h.clear k _
    next => exact .still k
  apply hs.andThen
  intro past hp
  exact h.showLevel _ _ _ (h.behavior _ _ _ hp)

theorem settle (id : KeyId) (m : Mask) (hk : (k.key? id).isSome = true) :
    Keeps P k (k.settle id m) :=
  (h.changeModifiers k id m hk).andThen (h.refreshLevel _ _)

theorem press (id : KeyId) (t : UInt32) : Keeps P k (k.press id t) := by
  rcases k.press_cases id t with ⟨_, he⟩ | ⟨hk, _, he⟩ | ⟨_, hk, _, _, he⟩ | ⟨s, hk, hr, _, he⟩
  · rw [he]
    exact .still k
  · rw [he]
    exact .silent fun past => h.hold k id past hk
  · rw [he]
    intro past hp
    exact h.report _ _ _ _ _ _ (h.hold k id past hk hp)
  · rw [he]
    have hs : (((k.hold id).sectionPress id s.modifiers).key? id).isSome = true := by
      rw [Keyboard.key?_sectionPress]
      exact Keyboard.resolve_isSome_key? _ ((k.resolve_hold id id).trans hr)
    have hh : Keeps P k (((k.hold id).sectionPress id s.modifiers).settle id
        (k.modifiers ||| s.modifiers)) := fun past hp =>
      h.settle _ id _ hs past (h.sectionPress _ _ _ _ (h.hold k id past hk hp))
    exact hh.andThen (h.report _ _ _ _ _)

theorem release (id : KeyId) (t : UInt32) : Keeps P k (k.release id t) := by
  rcases k.release_cases id t with ⟨_, he⟩ | ⟨_, _, he⟩ | ⟨s, _, hr, he⟩
  · rw [he]
    exact .still k
  · rw [he]
    exact .silent fun past => h.letGo k id past
  · rw [he]
    have hs : (((k.letGo id).sectionRelease id s.modifiers).key? id).isSome = true := by
      rw [Keyboard.key?_sectionRelease]
      exact Keyboard.resolve_isSome_key? _ ((k.resolve_letGo id id).trans hr)
    have hh : Keeps P k (((k.letGo id).sectionRelease id s.modifiers).settle id
        (Keyboard.modifiersAfterRelease k.modifiers s.modifiers k.behavior)) := fun past hp =>
      h.settle _ id _ hs past (h.sectionRelease _ _ _ _ (h.letGo k id past hp))
    exact hh.andThen (h.report _ _ _ _ _)

theorem setModifiers (m : Mask) : Keeps P k (k.setModifiers m) := by
  apply (h.unlock k _).andThen
  intro past hp
  exact h.refreshLevel _ _ _ (h.modifiers _ m _ hp)

theorem reset : Keeps P k k.reset := by
  apply (h.clear k _).andThen
  intro past hp
  exact h.showLevel _ _ _ (h.behavior _ _ _ (h.resetSections _ _ hp))

theorem step (op : Keyboard.Operation) : Keeps P k (k.step op) := by
  cases op with
  | press id t => exact h.press k id t
  | release id t => exact h.release k id t
  | releaseAll t => exact .chain (fun k id _ => h.release k id t) k
  | setModifiers m => exact h.setModifiers k m
  | setLevel level => exact h.showLevel k level
  | setGroup group => exact h.setGroup k group
  | setBehavior behavior => exact .silent fun past => h.behavior k behavior past
  | setNumLockMask mask => exact .silent fun past => h.numLockMask k mask past
  | setAltGrMask mask => exact .silent fun past => h.altGrMask k mask past
  | reset => exact h.reset k

theorem run (ops : List Keyboard.Operation) : Keeps P k (k.run ops) :=
  Keyboard.run_keeps (fun k op _ => h.step k op) k

end Outcome.KeptByMoves

namespace Keyboard

theorem idle_reset (s : Section) : s.reset.idle = s.idle := rfl

theorem body_eq_of_unlit {k k' : Keyboard} (h : k'.unlit = k.unlit) : k'.body = k.body := by
  rw [← body_unlit, h, body_unlit]

theorem body_sectionPress (k : Keyboard) (id : KeyId) (m : Mask) :
    (k.sectionPress id m).body = k.body := by
  apply body_updateSection
  intro s
  cases k.behavior <;> rfl

theorem body_sectionRelease (k : Keyboard) (id : KeyId) (m : Mask) :
    (k.sectionRelease id m).body = k.body := by
  apply body_updateSection
  intro s
  cases k.behavior <;> rfl

theorem body_keptByMoves (b : Keyboard) : Outcome.KeptByMoves fun o => o.keyboard.body = b where
  hold k id _ _ h := (k.body_setPressedFlag id true).trans h
  letGo k id _ h := (k.body_setPressedFlag id false).trans h
  sectionPress k id m _ h := (k.body_sectionPress id m).trans h
  sectionRelease k id m _ h := (k.body_sectionRelease id m).trans h
  lock k id m _ _ _ h := (body_eq_of_unlit (k.unlit_lock id m)).trans h
  unlock k m _ h := (body_eq_of_unlit (k.unlit_unlock m)).trans h
  modifiers _ _ _ h := h
  behavior _ _ _ h := h
  numLockMask _ _ _ h := h
  altGrMask _ _ _ h := h
  resetSections k _ h := by
    rw [← h]
    simp [body, idle_reset, Function.comp_def]
  shown _ _ _ _ _ h := h
  activated _ _ _ h := h

theorem body_step (k : Keyboard) (op : Operation) : (k.step op).keyboard.body = k.body :=
  ((body_keptByMoves k.body).step k op).holds rfl

theorem body_press (k : Keyboard) (id : KeyId) (t : UInt32) : (k.press id t).keyboard.body = k.body :=
  k.body_step (.press id t)

theorem body_release (k : Keyboard) (id : KeyId) (t : UInt32) :
    (k.release id t).keyboard.body = k.body :=
  k.body_step (.release id t)

theorem body_run (k : Keyboard) (ops : List Operation) : (k.run ops).keyboard.body = k.body :=
  ((body_keptByMoves k.body).run k ops).holds rfl

/-- Keyboards with one body have the same keys, apart from their flags. -/
theorem idle_key?_of_body {k k' : Keyboard} (h : k'.body = k.body) (id : KeyId) :
    (k'.key? id).map Key.idle = (k.key? id).map Key.idle := by
  rw [← key?_body, h, key?_body]

end Keyboard

end ScreenKeyboard
