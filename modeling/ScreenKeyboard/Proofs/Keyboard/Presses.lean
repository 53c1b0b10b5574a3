import Mathlib.Data.List.Induction
import Mathlib.Data.List.Nodup
import ScreenKeyboard.Proofs.Keyboard.Balance
import ScreenKeyboard.Proofs.Keyboard.Locks

namespace ScreenKeyboard

namespace Keyboard

def mark (k : Keyboard) (id : KeyId) : Option Bool :=
  (k.key? id).map Key.pressed

structure Marked (k : Keyboard) : Prop where
  nodup : k.pressed.Nodup
  marks : ∀ id, k.mark id = some true ↔ id ∈ k.pressed

namespace Operation

def touches (id : KeyId) : Operation → Bool
  | .press id' _ | .release id' _ => id' == id
  | .releaseAll _ => true
  | _ => false

def presses (id : KeyId) : Operation → Bool
  | .press id' _ => id' == id
  | _ => false

end Operation

/-- The operation at this index presses the key, and none after it touches the key. -/
def HeldSince (ops : List Operation) (id : KeyId) (n : Nat) : Prop :=
  (∃ op, ops[n]? = some op ∧ op.presses id = true) ∧
    ∀ m op, n < m → ops[m]? = some op → op.touches id = false

def brought (k : Keyboard) : Operation → List KeyId
  | .press id _ => if (k.key? id).isSome then [id] else []
  | _ => []

/-- These are the keys of the layout that are held after the operations, the latest press first. -/
structure Recalls (layout : Layout) (ops : List Operation) (held : List KeyId) : Prop where
  mem : ∀ id, id ∈ held ↔ (∃ d, (id, d) ∈ layout.keys) ∧ ∃ n, HeldSince ops id n
  order : held.Pairwise fun a b => ∃ m n, HeldSince ops a m ∧ HeldSince ops b n ∧ n < m

variable {k : Keyboard}

theorem mark_of_unlit {k' : Keyboard} (h : k'.unlit = k.unlit) (id : KeyId) :
    k'.mark id = k.mark id := by
  have hu : ∀ k : Keyboard, (k.unlit.key? id).map Key.pressed = k.mark id := by
    intro k
    rw [key?_unlit, Option.map_map]
    rfl
  rw [← hu, h, hu]

theorem mark_setPressedFlag (k : Keyboard) (id id' : KeyId) (pressed : Bool) :
    (k.setPressedFlag id pressed).mark id' =
      if id = id' then (k.mark id').map fun _ => pressed else k.mark id' := by
  rw [setPressedFlag, mark, key?_updateKey, apply_ite (Option.map Key.pressed), mark,
    Option.map_map, Option.map_map]
  rfl

theorem Marked.of_eq {k' : Keyboard} (h : k.Marked) (hp : k'.pressed = k.pressed)
    (hm : ∀ id, k'.mark id = k.mark id) : k'.Marked := by
  refine ⟨hp ▸ h.nodup, ?_⟩
  intro id
  rw [hm, hp]
  exact h.marks id

theorem Marked.of_unlit {k' : Keyboard} (h : k.Marked) (hu : k'.unlit = k.unlit) : k'.Marked := by
  have hp := congrArg pressed hu
  exact h.of_eq hp (mark_of_unlit hu)

theorem Marked.hold (h : k.Marked) {id : KeyId} (hk : (k.key? id).isSome = true) :
    (k.hold id).Marked := by
  refine ⟨List.nodup_cons.mpr ⟨h.nodup.not_mem_erase, h.nodup.erase id⟩, ?_⟩
  intro id'
  have hm : (k.hold id).mark id' = if id = id' then (k.mark id').map fun _ => true else k.mark id' :=
    k.mark_setPressedFlag id id' true
  have hp : (k.hold id).pressed = id :: k.pressed.erase id := rfl
  rw [hm, hp, List.mem_cons, h.nodup.mem_erase_iff]
  by_cases he : id = id'
  · subst id'
    obtain ⟨key, hkey⟩ := Option.isSome_iff_exists.mp hk
    simp [mark, hkey]
  · simpa only [he, Ne.symm he, ↓reduceIte, false_or, ne_eq, not_false_eq_true, true_and]
      using h.marks id'

theorem Marked.letGo (h : k.Marked) (id : KeyId) : (k.letGo id).Marked := by
  refine ⟨h.nodup.erase id, ?_⟩
  intro id'
  have hm : (k.letGo id).mark id' =
      if id = id' then (k.mark id').map fun _ => false else k.mark id' :=
    k.mark_setPressedFlag id id' false
  have hp : (k.letGo id).pressed = k.pressed.erase id := rfl
  rw [hm, hp, h.nodup.mem_erase_iff]
  by_cases he : id = id'
  · simp [he]
  · simpa only [he, Ne.symm he, ↓reduceIte, ne_eq, not_false_eq_true, true_and] using h.marks id'

theorem mark_eq_of_key? {k' : Keyboard} {id : KeyId} (h : k'.key? id = k.key? id) :
    k'.mark id = k.mark id := by
  rw [mark, mark, h]

theorem marked_keptByMoves : Outcome.KeptByMoves fun o => o.keyboard.Marked where
  hold _ _ _ hk h := h.hold hk
  letGo _ id _ h := h.letGo id
  sectionPress k id m _ h := h.of_eq rfl fun id' => mark_eq_of_key? (k.key?_sectionPress id id' m)
  sectionRelease k id m _ h :=
    h.of_eq rfl fun id' => mark_eq_of_key? (k.key?_sectionRelease id id' m)
  lock k id m _ _ _ h := h.of_unlit (k.unlit_lock id m)
  unlock k m _ h := h.of_unlit (k.unlit_unlock m)
  modifiers _ _ _ h := h.of_eq rfl fun _ => rfl
  behavior _ _ _ h := h.of_eq rfl fun _ => rfl
  numLockMask _ _ _ h := h.of_eq rfl fun _ => rfl
  altGrMask _ _ _ h := h.of_eq rfl fun _ => rfl
  resetSections k _ h := h.of_eq rfl fun id => mark_eq_of_key? (k.key?_resetSections id)
  shown _ _ _ _ _ h := h.of_eq rfl fun _ => rfl
  activated _ _ _ h := h

theorem marked_of_not_flagged (hp : k.pressed = [])
    (hf : ∀ id key, k.key? id = some key → key.pressed = false) : k.Marked := by
  refine ⟨hp ▸ List.nodup_nil, ?_⟩
  intro id
  rw [hp, mark, Option.map_eq_some_iff]
  constructor
  · rintro ⟨key, hk, ht⟩
    exact Bool.noConfusion ((hf id key hk).symm.trans ht)
  · exact fun h => absurd h List.not_mem_nil

theorem Fresh.marked (h : k.Fresh) : k.Marked := by
  have hp : k.pressed = [] := congrArg pressed h
  apply marked_of_not_flagged hp
  intro id key hk
  have hb := congrArg (fun k : Keyboard => k.key? id) h
  have hi : k.key? id = (k.key? id).map Key.idle := hb.trans (k.key?_body id)
  rw [hk] at hi
  exact congrArg Key.pressed (Option.some.inj hi)

theorem marked_run (h : k.Marked) (ops : List Operation) : (k.run ops).keyboard.Marked :=
  (marked_keptByMoves.run k ops).holds h

theorem Marked.flagged_iff (h : k.Marked) (id : KeyId) :
    id ∈ k.pressed ↔ ∃ key, k.key? id = some key ∧ key.pressed = true := by
  rw [← h.marks, mark, Option.map_eq_some_iff]

theorem Marked.not_flagged_of_nil (h : k.Marked) (hp : k.pressed = []) {id : KeyId} {key : Key}
    (hk : k.key? id = some key) : key.pressed = false := by
  by_contra hn
  have hm := (h.flagged_iff id).mpr ⟨key, hk, by simpa using hn⟩
  rw [hp] at hm
  exact List.not_mem_nil hm

theorem Marked.pressed_step (h : k.Marked) (op : Operation) :
    (k.step op).keyboard.pressed = k.brought op ++ k.pressed.filter fun id => !op.touches id := by
  have hself : ∀ l : List KeyId, l = [] ++ l.filter fun _ => !false := by simp
  have herase : ∀ id, k.pressed.erase id = k.pressed.filter fun id' => !(id == id') := by
    intro id
    rw [h.nodup.erase_eq_filter]
    apply List.filter_congr
    intro id' _
    rw [BEq.comm]
    rfl
  cases op with
  | press id t =>
    have hp := k.pressed_press id t
    rw [herase] at hp
    cases hk : (k.key? id).isSome with
    | true =>
      rw [hk, if_pos rfl] at hp
      rw [step, hp, brought, if_pos hk]
      rfl
    | false =>
      have hn : id ∉ k.pressed := by
        intro hi
        obtain ⟨key, hkey, _⟩ := (h.flagged_iff id).mp hi
        rw [hkey] at hk
        exact Bool.noConfusion hk
      rw [hk, if_neg Bool.false_ne_true] at hp
      have he := herase id
      rw [List.erase_of_not_mem hn] at he
      rw [step, hp, brought, hk, if_neg Bool.false_ne_true]
      exact he
  | release id t => exact (k.pressed_release id t).trans (herase id)
  | releaseAll t =>
    rw [step, pressed_releaseAll]
    simp [brought, Operation.touches]
  | setModifiers m => exact (k.quiet_setModifiers m).pressed.trans (hself _)
  | setLevel level => exact (k.quiet_showLevel level).pressed.trans (hself _)
  | setGroup group => exact (k.quiet_setGroup group).pressed.trans (hself _)
  | setBehavior _ | setNumLockMask _ | setAltGrMask _ => exact hself _
  | reset => exact k.quiet_reset.pressed.trans (hself _)

theorem HeldSince.lt_length {ops : List Operation} {id : KeyId} {n : Nat} (h : HeldSince ops id n) :
    n < ops.length := by
  obtain ⟨⟨op, hn, _⟩, _⟩ := h
  exact (List.getElem?_eq_some_iff.mp hn).1

/-- A key is held since the last operation, or since an earlier one if the last does not touch it.
-/
theorem heldSince_concat {ops : List Operation} {op : Operation} {id : KeyId} {n : Nat} :
    HeldSince (ops ++ [op]) id n ↔ (n = ops.length ∧ op.presses id = true) ∨
      (HeldSince ops id n ∧ op.touches id = false) := by
  have hlast : (ops ++ [op])[ops.length]? = some op := by simp
  constructor
  · rintro ⟨⟨first, hn, hp⟩, hlater⟩
    have hlt : n < ops.length + 1 := by
      simpa using (List.getElem?_eq_some_iff.mp hn).1
    rcases Nat.lt_succ_iff_lt_or_eq.mp hlt with hlt | rfl
    · right
      rw [List.getElem?_append_left hlt] at hn
      refine ⟨⟨⟨first, hn, hp⟩, ?_⟩, hlater _ op hlt hlast⟩
      intro m other hm ho
      apply hlater m other hm
      rw [List.getElem?_append_left (List.getElem?_eq_some_iff.mp ho).1]
      exact ho
    · left
      rw [hlast] at hn
      cases Option.some.inj hn
      exact ⟨rfl, hp⟩
  · rintro (⟨rfl, hp⟩ | ⟨h, ht⟩)
    · refine ⟨⟨op, hlast, hp⟩, ?_⟩
      intro m other hm ho
      have hlt := (List.getElem?_eq_some_iff.mp ho).1
      simp only [List.length_append, List.length_singleton] at hlt
      omega
    · have hn := h.lt_length
      obtain ⟨⟨first, hf, hp⟩, hlater⟩ := h
      refine ⟨⟨first, by rw [List.getElem?_append_left hn]; exact hf, hp⟩, ?_⟩
      intro m other hm ho
      by_cases hlt : m < ops.length
      · rw [List.getElem?_append_left hlt] at ho
        exact hlater m other hm ho
      · have hb := (List.getElem?_eq_some_iff.mp ho).1
        simp only [List.length_append, List.length_singleton] at hb
        have he : m = ops.length := by omega
        rw [he, hlast] at ho
        cases Option.some.inj ho
        exact ht

theorem mem_brought {op : Operation} {id : KeyId} :
    id ∈ k.brought op ↔ (k.key? id).isSome = true ∧ op.presses id = true := by
  cases op with
  | press id' t =>
    rw [brought, Operation.presses, beq_iff_eq]
    constructor
    · intro h
      split at h
      next hk =>
        cases List.mem_singleton.mp h
        exact ⟨hk, rfl⟩
      next => exact absurd h List.not_mem_nil
    · rintro ⟨hk, rfl⟩
      rw [if_pos hk]
      exact List.mem_singleton_self _
  | release _ _ | releaseAll _ | setModifiers _ | setLevel _ | setGroup _ | setBehavior _
  | setNumLockMask _ | setAltGrMask _ | reset => simp [brought, Operation.presses]

theorem pairwise_brought (k : Keyboard) (op : Operation) (R : KeyId → KeyId → Prop) :
    (k.brought op).Pairwise R := by
  unfold brought
  split
  next =>
    split
    next => exact List.pairwise_singleton R _
    next => exact List.Pairwise.nil
  next => exact List.Pairwise.nil

theorem Recalls.step {layout : Layout} {ops : List Operation} (h : Recalls layout ops k.pressed)
    (hm : k.Marked) (hk : ∀ id, (k.key? id).isSome = true ↔ ∃ d, (id, d) ∈ layout.keys)
    (op : Operation) : Recalls layout (ops ++ [op]) (k.step op).keyboard.pressed := by
  rw [hm.pressed_step op]
  refine ⟨?_, ?_⟩
  · intro id
    simp only [List.mem_append, mem_brought, List.mem_filter, Bool.not_eq_true', h.mem, hk,
      heldSince_concat]
    constructor
    · rintro (⟨hd, hp⟩ | ⟨⟨hd, n, hn⟩, ht⟩)
      · exact ⟨hd, ops.length, Or.inl ⟨rfl, hp⟩⟩
      · exact ⟨hd, n, Or.inr ⟨hn, ht⟩⟩
    · rintro ⟨hd, n, ⟨_, hp⟩ | ⟨hn, ht⟩⟩
      · exact Or.inl ⟨hd, hp⟩
      · exact Or.inr ⟨⟨hd, n, hn⟩, ht⟩
  · refine List.pairwise_append.mpr ⟨k.pairwise_brought op _, ?_, ?_⟩
    · apply List.pairwise_filter.mpr
      apply h.order.imp
      rintro a b ⟨m, n, ha, hb, hlt⟩ hta htb
      rw [Bool.not_eq_true'] at hta htb
      exact ⟨m, n, heldSince_concat.mpr (Or.inr ⟨ha, hta⟩), heldSince_concat.mpr (Or.inr ⟨hb, htb⟩),
        hlt⟩
    · intro a ha b hb
      obtain ⟨hb, htb⟩ := List.mem_filter.mp hb
      rw [Bool.not_eq_true'] at htb
      obtain ⟨_, n, hn⟩ := (h.mem b).mp hb
      exact ⟨ops.length, n, heldSince_concat.mpr (Or.inl ⟨rfl, (mem_brought.mp ha).2⟩),
        heldSince_concat.mpr (Or.inr ⟨hn, htb⟩), hn.lt_length⟩

theorem run_concat (k : Keyboard) (ops : List Operation) (op : Operation) :
    k.run (ops ++ [op]) = (k.run ops).andThen fun k => k.step op := by
  have hs : ∀ k : Keyboard, k.run [op] = k.step op := by
    intro k
    rw [run_cons]
    exact Outcome.andThen_still _
  rw [run_append]
  simp only [hs]

theorem isSome_key?_run (layout : Layout) (ops : List Operation) (id : KeyId) :
    (((ofLayout layout).run ops).keyboard.key? id).isSome = true ↔
      ∃ d, (id, d) ∈ layout.keys := by
  have hi := congrArg Option.isSome (idle_key?_of_body ((ofLayout layout).body_run ops) id)
  rw [Option.isSome_map, Option.isSome_map] at hi
  rw [hi, Option.isSome_iff_exists]
  simp only [key?_ofLayout]
  constructor
  · rintro ⟨_, d, hd, _⟩
    exact ⟨d, hd⟩
  · rintro ⟨d, hd⟩
    exact ⟨d.key, d, hd, rfl⟩

theorem recalls_run (layout : Layout) (ops : List Operation) :
    Recalls layout ops ((ofLayout layout).run ops).keyboard.pressed := by
  induction ops using List.reverseRecOn with
  | nil =>
    have hp : (ofLayout layout).pressed = [] := congrArg pressed (fresh_ofLayout layout)
    rw [run_nil, hp]
    refine ⟨?_, List.Pairwise.nil⟩
    intro id
    simp [HeldSince]
  | append_singleton ops op ih =>
    rw [run_concat, Outcome.keyboard_andThen]
    exact ih.step (marked_run (fresh_ofLayout layout).marked ops) (isSome_key?_run layout ops) op

/-- After any operations, the pressed keys are the keys of the layout that were pressed and not
touched since, each once, the latest press first, and they are the keys flagged as pressed. -/
theorem pressed_is_history_every_run (layout : Layout) (ops : List Operation) :
    let k := ((ofLayout layout).run ops).keyboard
    k.pressed.Nodup ∧
    (∀ id, id ∈ k.pressed ↔ (∃ d, (id, d) ∈ layout.keys) ∧ ∃ n, HeldSince ops id n) ∧
    (k.pressed.Pairwise fun a b => ∃ m n, HeldSince ops a m ∧ HeldSince ops b n ∧ n < m) ∧
    (∀ id, id ∈ k.pressed ↔ ∃ key, k.key? id = some key ∧ key.pressed = true) ∧
    (∀ t, (k.releaseAll t).keyboard.pressed = [] ∧
      ∀ id key, (k.releaseAll t).keyboard.key? id = some key → key.pressed = false) ∧
    (∀ id t, (¬∃ d, (id, d) ∈ layout.keys) → k.press id t = ⟨k, []⟩) ∧
    ∀ id t, id ∉ k.pressed → k.release id t = ⟨k, []⟩ := by
  have hm := marked_run (fresh_ofLayout layout).marked ops
  have hr := recalls_run layout ops
  have hk := isSome_key?_run layout ops
  generalize ((ofLayout layout).run ops).keyboard = k at hm hr hk ⊢
  refine ⟨hm.nodup, hr.mem, hr.order, hm.flagged_iff, ?_, ?_, ?_⟩
  · intro t
    have hp := k.pressed_releaseAll t
    have hmr : (k.releaseAll t).keyboard.Marked := (marked_keptByMoves.step k (.releaseAll t)).holds hm
    exact ⟨hp, fun id key => hmr.not_flagged_of_nil hp⟩
  · intro id t hn
    have hnone : k.key? id = none := by
      rw [← hk, Option.isSome_iff_ne_none, ne_eq, not_not] at hn
      exact hn
    rw [press, hnone]
    rfl
  · intro id t hn
    exact if_pos hn

end Keyboard

end ScreenKeyboard
