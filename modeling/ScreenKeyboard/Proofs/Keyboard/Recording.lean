import ScreenKeyboard.Proofs.Keyboard.Locks
import ScreenKeyboard.Proofs.Keyboard.Symbols
import ScreenKeyboard.Proofs.Keyboard.Turns

namespace ScreenKeyboard

def Layout.chord : Layout where
  name := "chord"
  sections := [{
    name := "main"
    keys := [.ofMask "CTAL" (Flag.control.mask ||| Flag.mod1.mask), .ofMask "LALT" Flag.mod1.mask] }]

namespace Keyboard

/-- The key is locked for each modifier that is on now and was not before. -/
def Records (before after : Keyboard) (id : KeyId) : Prop :=
  ∀ i, after.modifiers.has i = true → before.modifiers.has i = false →
    after.lamp id = some true ∧
      ∃ entry ∈ after.locks, entry.key = id ∧ entry.modifiers.has i = true

variable {k : Keyboard}

theorem mem_unlockedIds {id : KeyId} {m : Mask} :
    id ∈ k.unlockedIds m ↔ ∃ entry ∈ k.locks, entry.modifiers.intersects m = true ∧ entry.key = id := by
  simp only [unlockedIds, List.mem_map, List.mem_filter, and_assoc]

theorem exists_lock_contains (k : Keyboard) (id : KeyId) (more : Mask) :
    ∃ entry ∈ (k.lock id more).keyboard.locks,
      entry.key = id ∧ entry.modifiers.contains more = true := by
  by_cases hi : id ∈ k.lockedIds
  · rw [lock_of_mem hi]
    obtain ⟨old, ho, rfl⟩ := List.mem_map.mp hi
    refine ⟨_, List.mem_map_of_mem ho, ?_⟩
    rw [if_pos rfl]
    refine ⟨rfl, Mask.contains_iff.mpr ?_⟩
    intro i hm
    simp [hm]
  · rw [lock_of_not_mem hi]
    exact ⟨_, List.mem_cons_self, rfl, Mask.contains_iff.mpr fun _ hm => hm⟩

theorem mem_unlockedIds_lock {id : KeyId} {more off : Mask} (hd : more.intersects off = false) :
    id ∈ (k.lock id more).keyboard.unlockedIds off ↔ id ∈ k.unlockedIds off := by
  rw [mem_unlockedIds, mem_unlockedIds]
  by_cases hi : id ∈ k.lockedIds
  · have hor : ∀ m : Mask, (m ||| more).intersects off = m.intersects off := by
      intro m
      apply Mask.intersects_congr
      intro i hoff
      rw [Mask.intersects_comm] at hd
      simp [Mask.intersects_eq_false_iff.mp hd i hoff]
    rw [lock_of_mem hi]
    simp only [List.mem_map]
    constructor
    · rintro ⟨_, ⟨old, ho, rfl⟩, hx, hk⟩
      by_cases hc : old.key = id
      · simp only [hc, ↓reduceIte, hor] at hx
        exact ⟨old, ho, hx, hc⟩
      · simp only [hc, ↓reduceIte] at hk
    · rintro ⟨old, ho, hx, hk⟩
      refine ⟨_, ⟨old, ho, rfl⟩, ?_⟩
      simpa only [hk, ↓reduceIte, hor, and_true] using hx
  · rw [lock_of_not_mem hi]
    constructor
    · rintro ⟨entry, he, hx, hk⟩
      rcases List.mem_cons.mp he with rfl | he
      · exact absurd (hd.symm.trans hx) Bool.false_ne_true
      · exact ⟨entry, he, hx, hk⟩
    · rintro ⟨entry, he, h⟩
      exact ⟨entry, List.mem_cons_of_mem _ he, h⟩

theorem not_intersects_changed (old new : Mask) :
    ((old ^^^ new) &&& new).intersects ((old ^^^ new) &&& old) = false := by
  apply Mask.intersects_eq_false_iff.mpr
  intro i hon
  cases ho : old.has i with
  | true => simp [ho] at hon
  | false => simp [ho]

theorem mem_unlockedIds_lockFor {id : KeyId} (m : Mask) :
    id ∈ (k.lockFor id m).keyboard.unlockedIds ((k.modifiers ^^^ m) &&& k.modifiers) ↔
      id ∈ k.unlockedIds ((k.modifiers ^^^ m) &&& k.modifiers) := by
  unfold lockFor
  split
  next => exact Iff.rfl
  next => exact mem_unlockedIds_lock (not_intersects_changed k.modifiers m)

theorem locks_changeModifiers (k : Keyboard) (id : KeyId) (m : Mask) :
    (k.changeModifiers id m).keyboard.locks = (k.lockFor id m).keyboard.locks.filter
      fun entry => !entry.modifiers.intersects ((k.modifiers ^^^ m) &&& k.modifiers) :=
  locks_unlock _ _

theorem not_mem_lockedIds_changeModifiers (h : k.Tidy) {id : KeyId}
    (hk : (k.key? id).isSome = true) {m : Mask}
    (hi : id ∈ k.unlockedIds ((k.modifiers ^^^ m) &&& k.modifiers)) :
    id ∉ (k.changeModifiers id m).keyboard.lockedIds := by
  have ht : (k.lockFor id m).keyboard.Tidy := (tidy_keptByMoves.lockFor k id m hk).holds h
  intro hlocked
  exact (ht.mem_lockedIds_unlock.mp hlocked).2 ((mem_unlockedIds_lockFor m).mpr hi)

theorem exists_lock_of_not_mem_unlockedIds (hb : k.behavior ≠ .none) {id : KeyId} {m : Mask}
    (hm : k.modifiers.contains m = false)
    (hi : id ∉ k.unlockedIds ((k.modifiers ^^^ m) &&& k.modifiers)) :
    ∃ entry ∈ (k.changeModifiers id m).keyboard.locks, entry.key = id ∧
      entry.modifiers.contains ((k.modifiers ^^^ m) &&& m) = true := by
  have hnew : ¬(((k.modifiers ^^^ m) &&& m).isEmpty = true ∨ k.behavior = .none) := by
    rintro (he | hn)
    · obtain ⟨i, hon, hoff⟩ := Mask.contains_eq_false_iff.mp hm
      have hi := Mask.eq_empty_iff.mp (Mask.isEmpty_iff.mp he) i
      simp [hon, hoff] at hi
    · exact hb hn
  have hl : k.lockFor id m = k.lock id ((k.modifiers ^^^ m) &&& m) := if_neg hnew
  obtain ⟨entry, he, hk, hc⟩ := k.exists_lock_contains id ((k.modifiers ^^^ m) &&& m)
  refine ⟨entry, ?_, hk, hc⟩
  rw [← hl] at he
  rw [locks_changeModifiers, List.mem_filter]
  refine ⟨he, ?_⟩
  by_contra hx
  apply hi
  apply (mem_unlockedIds_lockFor m).mp
  exact mem_unlockedIds.mpr ⟨entry, he, by simpa using hx, hk⟩

/-- One step: a change records what it turns on just if the key loses no older lock by it. -/
theorem records_changeModifiers (h : k.Tidy) (hb : k.behavior ≠ .none) {id : KeyId}
    (hk : (k.key? id).isSome = true) (m : Mask) :
    k.Records (k.changeModifiers id m).keyboard id ↔
      k.modifiers.contains m = true ∨
        id ∉ k.unlockedIds ((k.modifiers ^^^ m) &&& k.modifiers) := by
  have hafter : (k.changeModifiers id m).keyboard.Tidy :=
    (tidy_keptByMoves.changeModifiers k id m hk).holds h
  have hmods : (k.changeModifiers id m).keyboard.modifiers = m := rfl
  cases hm : k.modifiers.contains m with
  | true =>
    refine iff_of_true ?_ (Or.inl rfl)
    intro i hon hoff
    exact nomatch (Mask.contains_iff.mp hm i hon).symm.trans hoff
  | false =>
    simp only [Bool.false_eq_true, false_or]
    constructor
    · intro hr hi
      obtain ⟨i, hon, hoff⟩ := Mask.contains_eq_false_iff.mp hm
      obtain ⟨_, entry, he, hkey, _⟩ := hr i hon hoff
      exact not_mem_lockedIds_changeModifiers h hk hi (List.mem_map.mpr ⟨entry, he, hkey⟩)
    · intro hi i hon hoff
      obtain ⟨entry, he, hkey, hc⟩ := exists_lock_of_not_mem_unlockedIds hb hm hi
      have hlit := (hafter.lit id).mpr (List.mem_map.mpr ⟨entry, he, hkey⟩)
      rw [hmods] at hon
      exact ⟨hlit, entry, he, hkey, Mask.contains_iff.mp hc i (by simp [hon, hoff])⟩

theorem keyboard_release_of_not_toggle {id : KeyId} (hi : id ∈ k.pressed)
    (ht : k.isToggle id = false) {symbol : Symbol} (hr : k.resolve id = some symbol) (t : UInt32) :
    ∃ level behavior, (k.release id t).keyboard =
      { (((k.letGo id).sectionRelease id symbol.modifiers).changeModifiers id
          (modifiersAfterRelease k.modifiers symbol.modifiers k.behavior)).keyboard with
        level, behavior } := by
  rw [k.release_of_resolve_eq_some hi hr t, Outcome.keyboard_andThen, keyboard_report, settle,
    Outcome.keyboard_andThen, isToggle_changeModifiers, isToggle_sectionRelease, ht,
    refreshLevel_of_not_toggled, keyboard_showLevel]
  exact ⟨_, _, rfl⟩

theorem records_release (h : k.Tidy) (hb : k.behavior ≠ .none) {id : KeyId} (hi : id ∈ k.pressed)
    (ht : k.isToggle id = false) {symbol : Symbol} (hr : k.resolve id = some symbol) (t : UInt32) :
    (k.Records (k.release id t).keyboard id ↔
      k.modifiers.contains symbol.modifiers = true ∨
        id ∉ k.unlockedIds (k.modifiers &&& symbol.modifiers)) ∧
    (id ∈ k.unlockedIds (k.modifiers &&& symbol.modifiers) →
      id ∉ (k.release id t).keyboard.lockedIds) := by
  obtain ⟨level, behavior, he⟩ := k.keyboard_release_of_not_toggle hi ht hr t
  have hkey : (((k.letGo id).sectionRelease id symbol.modifiers).key? id).isSome = true := by
    rw [key?_sectionRelease]
    exact resolve_isSome_key? _ ((k.resolve_letGo id id).trans hr)
  have htidy : ((k.letGo id).sectionRelease id symbol.modifiers).Tidy :=
    tidy_keptByMoves.sectionRelease _ id _ [] (h.of_eq rfl (k.lamp_letGo id))
  have hrecords : k.Records (k.release id t).keyboard id ↔
      k.modifiers.contains (modifiersAfterRelease k.modifiers symbol.modifiers k.behavior) = true ∨
        id ∉ k.unlockedIds ((k.modifiers ^^^ modifiersAfterRelease k.modifiers symbol.modifiers
          k.behavior) &&& k.modifiers) := by
    rw [he]
    exact records_changeModifiers htidy hb hkey _
  have hlost : id ∈ k.unlockedIds ((k.modifiers ^^^ modifiersAfterRelease k.modifiers
      symbol.modifiers k.behavior) &&& k.modifiers) → id ∉ (k.release id t).keyboard.lockedIds := by
    rw [he]
    exact not_mem_lockedIds_changeModifiers htidy hkey
  by_cases hs : symbol.modifiers = .empty
  · -- A key without modifiers turns nothing on, though it may turn all modifiers off.
    have hnone : k.modifiers.contains .empty = true := Mask.contains_iff.mpr (by simp)
    have hkept : k.modifiers.contains (modifiersAfterRelease k.modifiers .empty k.behavior) = true := by
      cases hk : k.behavior with
      | none => exact absurd hk hb
      | lock => exact (k.modifiers.contains_xor .empty).trans hnone
      | latch => exact hnone
    rw [hs] at hrecords ⊢
    refine ⟨iff_of_true (hrecords.mpr (Or.inl hkept)) (Or.inl hnone), ?_⟩
    intro hi
    obtain ⟨entry, _, hx, _⟩ := mem_unlockedIds.mp hi
    obtain ⟨i, _, hi⟩ := Mask.intersects_iff.mp hx
    simp at hi
  · rw [modifiersAfterRelease_of_ne_none hb hs, Mask.xor_xor_and] at hrecords hlost
    rw [Mask.contains_xor] at hrecords
    exact ⟨hrecords, hlost⟩

/-- Where modifiers stick, the release of a key that is not the toggle key records what it turns on,
just if that is nothing, or the key was not locked for a modifier that the same release takes away.
If the key was, it is left without a lock, whatever it turned on. -/
theorem release_records_iff (layout : Layout) (ops : List Operation) (id : KeyId) (symbol : Symbol)
    (t : UInt32) :
    let k := ((ofLayout layout).run ops).keyboard
    let after := (k.release id t).keyboard
    k.behavior ≠ .none → id ∈ k.pressed → k.isToggle id = false → k.resolve id = some symbol →
    (k.Records after id ↔ k.modifiers.contains symbol.modifiers = true ∨
      id ∉ k.unlockedIds (k.modifiers &&& symbol.modifiers)) ∧
    (id ∈ k.unlockedIds (k.modifiers &&& symbol.modifiers) →
      id ∉ after.lockedIds ∧ after.lamp id ≠ some true) := by
  intro k after hb hi ht hr
  have htidy : k.Tidy := tidy_run (fresh_ofLayout layout).tidy ops
  have hafter : after.Tidy := (tidy_keptByMoves.release k id t).holds htidy
  obtain ⟨hrecords, hlost⟩ := records_release htidy hb hi ht hr t
  refine ⟨hrecords, fun hu => ⟨hlost hu, ?_⟩⟩
  rw [Ne, hafter.lit]
  exact hlost hu

def chordHeld : List Operation :=
  [.setBehavior .lock, .press ⟨0, 1⟩ 1, .release ⟨0, 1⟩ 2, .press ⟨0, 0⟩ 3]

theorem release_records_chord :
    let k := ((ofLayout .chord).run chordHeld).keyboard
    let after := (k.release ⟨0, 0⟩ 4).keyboard
    k.modifiers = Flag.mod1.mask ∧ after.modifiers = Flag.control.mask ∧ k.Records after ⟨0, 0⟩ ∧
      after.locks = [⟨Flag.control.mask, ⟨0, 0⟩⟩] := by
  have h := release_records_iff .chord chordHeld ⟨0, 0⟩
    { name := "CTAL", category := .keyName, modifiers := Flag.control.mask ||| Flag.mod1.mask } 4
    (by decide) (by decide) (by decide) (by decide)
  exact ⟨by decide, by decide, h.1.mpr (Or.inr (by decide)), by decide⟩

/-- The key of both is tapped once more: it takes its first modifier away, and its lock for the
second one goes with it. -/
theorem chord_goes_unrecorded :
    let k := ((ofLayout .chord).run (chordHeld ++ [.release ⟨0, 0⟩ 4, .press ⟨0, 0⟩ 5])).keyboard
    let after := (k.release ⟨0, 0⟩ 6).keyboard
    k.behavior ≠ .none ∧ ⟨0, 0⟩ ∈ k.pressed ∧ k.isToggle ⟨0, 0⟩ = false ∧
    (k.resolve ⟨0, 0⟩).isSome = true ∧ k.modifiers = Flag.control.mask ∧
    after.modifiers = Flag.mod1.mask ∧ after.locks = [] ∧ after.lamp ⟨0, 0⟩ = some false ∧
    ¬k.Records after ⟨0, 0⟩ := by
  refine ⟨by decide, by decide, by decide, by decide, by decide, by decide, by decide, by decide, ?_⟩
  intro hr
  obtain ⟨_, _, he, _⟩ := hr Flag.mod1.position (by decide) (by decide)
  exact nomatch he

end Keyboard

end ScreenKeyboard
