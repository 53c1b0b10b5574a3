import Mathlib.Data.List.Nodup
import ScreenKeyboard.Proofs.Keyboard.Steps
import ScreenKeyboard.Proofs.Layout.Built

namespace ScreenKeyboard

namespace Keyboard

/-- The flag of the key with this id, if there is one. -/
def lamp (k : Keyboard) (id : KeyId) : Option Bool :=
  (k.key? id).map Key.locked

def lockedIds (k : Keyboard) : List KeyId :=
  k.locks.map Lock.key

def unlockedIds (k : Keyboard) (m : Mask) : List KeyId :=
  (k.locks.filter fun entry => entry.modifiers.intersects m).map Lock.key

/-- There is one lock for each key that is flagged as locked, and none for no modifiers. -/
structure Tidy (k : Keyboard) : Prop where
  nodup : k.lockedIds.Nodup
  nonempty : ∀ entry ∈ k.locks, entry.modifiers ≠ .empty
  lit : ∀ id, k.lamp id = some true ↔ id ∈ k.lockedIds

variable {k : Keyboard}

theorem Tidy.of_eq {k' : Keyboard} (h : k.Tidy) (hl : k'.locks = k.locks)
    (hf : ∀ id, k'.lamp id = k.lamp id) : k'.Tidy := by
  have hi : k'.lockedIds = k.lockedIds := congrArg (List.map Lock.key) hl
  refine ⟨hi ▸ h.nodup, hl ▸ h.nonempty, ?_⟩
  intro id
  rw [hf, hi]
  exact h.lit id

theorem Tidy.eq_of_key_eq (h : k.Tidy) {entry entry' : Lock} (he : entry ∈ k.locks)
    (he' : entry' ∈ k.locks) (hk : entry.key = entry'.key) : entry = entry' :=
  List.inj_on_of_nodup_map h.nodup he he' hk

theorem lamp_eq_of_key? {k' : Keyboard} {id : KeyId} (h : k'.key? id = k.key? id) :
    k'.lamp id = k.lamp id := by
  rw [lamp, lamp, h]

theorem lamp_updateKey (k : Keyboard) (id id' : KeyId) (f : Key → Key) :
    (k.updateKey id f).lamp id' =
      if id = id' then (k.key? id').map fun key => (f key).locked else k.lamp id' := by
  rw [lamp, key?_updateKey, apply_ite (Option.map Key.locked), Option.map_map]
  rfl

theorem lamp_setPressedFlag (k : Keyboard) (id id' : KeyId) (pressed : Bool) :
    (k.setPressedFlag id pressed).lamp id' = k.lamp id' := by
  rw [setPressedFlag, lamp_updateKey]
  exact ite_self _

theorem lamp_setLockedFlag (k : Keyboard) (id id' : KeyId) (locked : Bool) :
    (k.setLockedFlag id locked).lamp id' =
      if id = id' then (k.lamp id').map fun _ => locked else k.lamp id' := by
  rw [setLockedFlag, lamp_updateKey, lamp, Option.map_map]
  rfl

theorem lamp_foldl_setLockedFlag (k : Keyboard) (entries : List Lock) (id : KeyId) :
    (entries.foldl (fun k entry => k.setLockedFlag entry.key false) k).lamp id =
      if id ∈ entries.map Lock.key then (k.lamp id).map fun _ => false else k.lamp id := by
  induction entries generalizing k with
  | nil => simp
  | cons entry entries ih =>
    rw [List.foldl_cons, ih, lamp_setLockedFlag]
    by_cases he : entry.key = id
    · simp [he, Function.comp_def]
    · simp [he, Ne.symm he]

theorem locks_foldl_setLockedFlag (k : Keyboard) (entries : List Lock) :
    (entries.foldl (fun k entry => k.setLockedFlag entry.key false) k).locks = k.locks := by
  induction entries generalizing k with
  | nil => rfl
  | cons entry entries ih => exact ih _

theorem any_key_eq_iff {id : KeyId} :
    (k.locks.any fun entry => entry.key == id) = true ↔ id ∈ k.lockedIds := by
  simp [lockedIds]

theorem lock_of_mem {id : KeyId} (h : id ∈ k.lockedIds) (m : Mask) :
    k.lock id m =
      ⟨{ k with
          locks := k.locks.map fun entry =>
            if entry.key = id then { entry with modifiers := entry.modifiers ||| m }
            else entry }, []⟩ := by
  rw [lock, if_pos (any_key_eq_iff.mpr h)]

theorem lock_of_not_mem {id : KeyId} (h : id ∉ k.lockedIds) (m : Mask) :
    k.lock id m = ⟨{ k.setLockedFlag id true with locks := ⟨m, id⟩ :: k.locks }, [.locked id]⟩ := by
  rw [lock, if_neg (mt any_key_eq_iff.mp h)]

theorem lockedIds_lock_of_mem {id : KeyId} (h : id ∈ k.lockedIds) (m : Mask) :
    (k.lock id m).keyboard.lockedIds = k.lockedIds := by
  rw [lock_of_mem h]
  simp only [lockedIds, List.map_map]
  apply List.map_congr_left
  intro entry _
  by_cases he : entry.key = id <;> simp [he]

theorem Tidy.lock (h : k.Tidy) {id : KeyId} {m : Mask} (hk : (k.key? id).isSome = true)
    (hm : m ≠ .empty) : (k.lock id m).keyboard.Tidy := by
  by_cases hi : id ∈ k.lockedIds
  · have hl := lockedIds_lock_of_mem hi m
    rw [lock_of_mem hi] at hl ⊢
    refine ⟨hl ▸ h.nodup, ?_, ?_⟩
    · simp only [List.mem_map, forall_exists_index, and_imp, forall_apply_eq_imp_iff₂]
      intro entry he
      have hn := h.nonempty entry he
      by_cases hc : entry.key = id
      · simp only [hc, ↓reduceIte]
        intro ho
        apply hn
        apply Mask.eq_empty_iff.mpr
        intro i
        have hb := Mask.eq_empty_iff.mp ho i
        rw [Mask.has_or, Bool.or_eq_false_iff] at hb
        exact hb.1
      · simpa only [hc, ↓reduceIte] using hn
    · intro id'
      rw [hl]
      exact h.lit id'
  · rw [lock_of_not_mem hi]
    refine ⟨List.nodup_cons.mpr ⟨hi, h.nodup⟩, ?_, ?_⟩
    · intro entry he
      rcases List.mem_cons.mp he with he | he
      · subst entry
        exact hm
      · exact h.nonempty entry he
    · intro id'
      have hl : ({ k.setLockedFlag id true with locks := ⟨m, id⟩ :: k.locks } : Keyboard).lamp id' =
          (k.setLockedFlag id true).lamp id' := rfl
      have hc : ({ k.setLockedFlag id true with locks := ⟨m, id⟩ :: k.locks } : Keyboard).lockedIds =
          id :: k.lockedIds := rfl
      rw [hl, hc, lamp_setLockedFlag, List.mem_cons]
      by_cases he : id = id'
      · subst id'
        obtain ⟨key, hkey⟩ := Option.isSome_iff_exists.mp hk
        simp [lamp, hkey]
      · simpa only [he, Ne.symm he, ↓reduceIte, false_or] using h.lit id'

theorem locks_unlock (k : Keyboard) (m : Mask) : (k.unlock m).keyboard.locks =
    k.locks.filter fun entry => !entry.modifiers.intersects m :=
  locks_foldl_setLockedFlag _ _

theorem events_unlock (k : Keyboard) (m : Mask) :
    (k.unlock m).events = (k.unlockedIds m).map Event.unlocked := by
  simp [unlock, unlockedIds]

theorem lamp_unlock (k : Keyboard) (m : Mask) (id : KeyId) : (k.unlock m).keyboard.lamp id =
    if id ∈ k.unlockedIds m then (k.lamp id).map fun _ => false else k.lamp id :=
  lamp_foldl_setLockedFlag _ _ _

theorem unlockedIds_sublist (k : Keyboard) (m : Mask) : (k.unlockedIds m).Sublist k.lockedIds :=
  List.filter_sublist.map Lock.key

theorem Tidy.mem_lockedIds_unlock (h : k.Tidy) {m : Mask} {id : KeyId} :
    id ∈ (k.unlock m).keyboard.lockedIds ↔ id ∈ k.lockedIds ∧ id ∉ k.unlockedIds m := by
  simp only [lockedIds, unlockedIds, locks_unlock, List.mem_map, List.mem_filter,
    Bool.not_eq_true']
  constructor
  · rintro ⟨entry, ⟨he, hi⟩, rfl⟩
    refine ⟨⟨entry, he, rfl⟩, ?_⟩
    rintro ⟨entry', ⟨he', hi'⟩, hk⟩
    rw [h.eq_of_key_eq he' he hk, hi] at hi'
    exact Bool.noConfusion hi'
  · rintro ⟨⟨entry, he, rfl⟩, hn⟩
    refine ⟨entry, ⟨he, ?_⟩, rfl⟩
    by_contra hi
    exact hn ⟨entry, ⟨he, by simpa using hi⟩, rfl⟩

theorem Tidy.unlock (h : k.Tidy) (m : Mask) : (k.unlock m).keyboard.Tidy := by
  refine ⟨?_, ?_, ?_⟩
  · have hs : (k.unlock m).keyboard.lockedIds.Sublist k.lockedIds := by
      rw [lockedIds, locks_unlock]
      exact List.filter_sublist.map Lock.key
    exact h.nodup.sublist hs
  · intro entry he
    rw [locks_unlock] at he
    exact h.nonempty entry (List.mem_of_mem_filter he)
  · intro id
    rw [h.mem_lockedIds_unlock, lamp_unlock, ← h.lit]
    by_cases hi : id ∈ k.unlockedIds m
    · simp [hi]
    · simp [hi]

theorem unlock_empty (k : Keyboard) : k.unlock .empty = ⟨k, []⟩ := by
  have hn : ∀ entry : Lock, entry.modifiers.intersects .empty = false := by
    intro entry
    apply Mask.intersects_eq_false_iff.mpr
    simp
  simp [unlock, hn]

theorem changeModifiers_raise (hb : k.behavior ≠ .none) {m : Mask} (hm : m ≠ .empty)
    (hoff : k.modifiers.intersects m = false) (id : KeyId) :
    k.changeModifiers id (k.modifiers ^^^ m) =
      (k.lock id m).andThen fun k' => ⟨{ k' with modifiers := k.modifiers ^^^ m }, []⟩ := by
  have hnone : (k.modifiers ^^^ (k.modifiers ^^^ m)) &&& k.modifiers = .empty :=
    (Mask.xor_xor_and _ _).trans (Mask.and_eq_empty_of_disjoint hoff)
  have hon : (k.modifiers ^^^ (k.modifiers ^^^ m)) &&& (k.modifiers ^^^ m) = m := by
    rw [Mask.xor_xor_self]
    exact Mask.and_xor_of_disjoint hoff
  have hnew : ¬(m.isEmpty = true ∨ k.behavior = .none) := by
    rintro (he | hn)
    · exact hm (Mask.isEmpty_iff.mp he)
    · exact hb hn
  have hl : k.lockFor id (k.modifiers ^^^ m) = k.lock id m := by rw [lockFor, hon, if_neg hnew]
  rw [changeModifiers_eq, hl, hnone]
  simp only [unlock_empty, Outcome.andThen_still]

theorem changeModifiers_lower {m : Mask} (hon : k.modifiers.contains m = true) (id : KeyId) :
    k.changeModifiers id (k.modifiers ^^^ m) =
      (k.unlock m).andThen fun k' => ⟨{ k' with modifiers := k.modifiers ^^^ m }, []⟩ := by
  have hoff : (k.modifiers ^^^ (k.modifiers ^^^ m)) &&& k.modifiers = m :=
    (Mask.xor_xor_and _ _).trans (Mask.and_eq_of_contains hon)
  have hnone : ((k.modifiers ^^^ (k.modifiers ^^^ m)) &&& (k.modifiers ^^^ m)).isEmpty = true := by
    rw [Mask.xor_xor_self]
    exact Mask.isEmpty_iff.mpr (Mask.and_xor_of_contains hon)
  have hl : k.lockFor id (k.modifiers ^^^ m) = ⟨k, []⟩ := if_pos (Or.inl hnone)
  rw [changeModifiers_eq, hl, hoff, Outcome.still_andThen]

theorem lamp_hold (k : Keyboard) (id id' : KeyId) : (k.hold id).lamp id' = k.lamp id' :=
  k.lamp_setPressedFlag id id' true

theorem lamp_letGo (k : Keyboard) (id id' : KeyId) : (k.letGo id).lamp id' = k.lamp id' :=
  k.lamp_setPressedFlag id id' false

theorem key?_resetSections (k : Keyboard) (id : KeyId) :
    ({ k with sections := k.sections.map Section.reset } : Keyboard).key? id = k.key? id := by
  rw [key?_eq_bind, key?_eq_bind, section?, section?, List.getElem?_map]
  cases k.sections[id.sectionIndex]? <;> rfl

theorem tidy_keptByMoves : Outcome.KeptByMoves fun o => o.keyboard.Tidy where
  hold k id _ _ h := h.of_eq rfl (k.lamp_hold id)
  letGo k id _ h := h.of_eq rfl (k.lamp_letGo id)
  sectionPress k id m _ h := h.of_eq rfl fun id' => lamp_eq_of_key? (k.key?_sectionPress id id' m)
  sectionRelease k id m _ h :=
    h.of_eq rfl fun id' => lamp_eq_of_key? (k.key?_sectionRelease id id' m)
  lock _ _ _ hk hm _ h := h.lock hk hm
  unlock _ m _ h := h.unlock m
  modifiers _ _ _ h := h.of_eq rfl fun _ => rfl
  behavior _ _ _ h := h.of_eq rfl fun _ => rfl
  numLockMask _ _ _ h := h.of_eq rfl fun _ => rfl
  altGrMask _ _ _ h := h.of_eq rfl fun _ => rfl
  resetSections k _ h := h.of_eq rfl fun id => lamp_eq_of_key? (k.key?_resetSections id)
  shown _ _ _ _ _ h := h.of_eq rfl fun _ => rfl
  activated _ _ _ h := h

theorem Fresh.tidy (h : k.Fresh) : k.Tidy := by
  have hl : k.locks = [] := congrArg locks h
  have hf : ∀ id, k.lamp id ≠ some true := by
    intro id hi
    have hb := congrArg (fun k : Keyboard => k.lamp id) h
    have hc : k.body.lamp id = some true := hb.symm.trans hi
    rw [lamp, key?_body, Option.map_map] at hc
    obtain ⟨key, _, hk⟩ := Option.map_eq_some_iff.mp hc
    exact Bool.noConfusion hk
  refine ⟨by simp [lockedIds, hl], by simp [hl], ?_⟩
  intro id
  simp [lockedIds, hl, hf]

theorem tidy_run (h : k.Tidy) (ops : List Operation) : (k.run ops).keyboard.Tidy :=
  (tidy_keptByMoves.run k ops).holds h

end Keyboard

end ScreenKeyboard
