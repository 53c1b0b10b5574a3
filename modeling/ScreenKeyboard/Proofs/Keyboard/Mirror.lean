import Mathlib.Data.Finset.Basic
import ScreenKeyboard.Keyboard.Sink
import ScreenKeyboard.Proofs.Keyboard.Locks

namespace ScreenKeyboard

/-- What an observer knows of a keyboard who only reads its events. -/
structure Mirror where
  locked : Finset KeyId := ∅
  group : Nat := 0
  level : Level := .lettersLower

namespace Mirror

def note (m : Mirror) : Event → Mirror
  | .activated _ => m
  | .locked id => { m with locked := insert id m.locked }
  | .unlocked id => { m with locked := m.locked.erase id }
  | .shown group level => { m with group, level }

def read (m : Mirror) (events : List Event) : Mirror :=
  events.foldl note m

/-- The event says of a key or of the level what the mirror does not say yet. -/
def IsNews (m : Mirror) : Event → Prop
  | .activated _ => True
  | .locked id => id ∉ m.locked
  | .unlocked id => id ∈ m.locked
  | .shown group level => (group, level) ≠ (m.group, m.level)

def Accepts : Mirror → List Event → Prop
  | _, [] => True
  | m, e :: events => m.IsNews e ∧ (m.note e).Accepts events

structure Shows (m : Mirror) (k : Keyboard) : Prop where
  locked : ∀ id, id ∈ m.locked ↔ id ∈ k.lockedIds
  group : m.group = k.group
  level : m.level = k.level

theorem read_append (m : Mirror) (events events' : List Event) :
    m.read (events ++ events') = (m.read events).read events' :=
  List.foldl_append

theorem accepts_append {m : Mirror} {events events' : List Event} :
    m.Accepts (events ++ events') ↔ m.Accepts events ∧ (m.read events).Accepts events' := by
  induction events generalizing m with
  | nil => simp [Accepts, read]
  | cons e events ih =>
    simp only [List.cons_append, Accepts, ih, and_assoc]
    rfl

theorem read_unlocked (m : Mirror) (ids : List KeyId) :
    m.read (ids.map Event.unlocked) = { m with locked := m.locked \ ids.toFinset } := by
  induction ids generalizing m with
  | nil => simp [read]
  | cons id ids ih =>
    have h : m.read ((id :: ids).map Event.unlocked) =
        (m.note (.unlocked id)).read (ids.map Event.unlocked) := rfl
    rw [h, ih]
    simp only [note, List.toFinset_cons, mk.injEq, and_true]
    ext id'
    simp only [Finset.mem_sdiff, Finset.mem_erase, Finset.mem_insert]
    tauto

theorem accepts_unlocked {m : Mirror} {ids : List KeyId} (hn : ids.Nodup)
    (h : ∀ id ∈ ids, id ∈ m.locked) : m.Accepts (ids.map Event.unlocked) := by
  induction ids generalizing m with
  | nil => trivial
  | cons id ids ih =>
    obtain ⟨hi, hn⟩ := List.nodup_cons.mp hn
    refine ⟨h id List.mem_cons_self, ih hn ?_⟩
    intro id' hm
    have hne : id' ≠ id := fun he => hi (he ▸ hm)
    exact Finset.mem_erase.mpr ⟨hne, h id' (List.mem_cons_of_mem _ hm)⟩

variable {m : Mirror} {k : Keyboard}

theorem Shows.of_eq {k' : Keyboard} (h : m.Shows k) (hl : k'.locks = k.locks)
    (hg : k'.group = k.group) (hv : k'.level = k.level) : m.Shows k' := by
  refine ⟨?_, h.group.trans hg.symm, h.level.trans hv.symm⟩
  intro id
  rw [Keyboard.lockedIds, hl]
  exact h.locked id

theorem Shows.lock (h : m.Shows k) (id : KeyId) (modifiers : Mask) :
    m.Accepts (k.lock id modifiers).events ∧
      (m.read (k.lock id modifiers).events).Shows (k.lock id modifiers).keyboard := by
  by_cases hi : id ∈ k.lockedIds
  · have hl := Keyboard.lockedIds_lock_of_mem hi modifiers
    rw [Keyboard.lock_of_mem hi] at hl ⊢
    refine ⟨trivial, ?_, h.group, h.level⟩
    intro id'
    rw [hl]
    exact h.locked id'
  · rw [Keyboard.lock_of_not_mem hi]
    refine ⟨⟨mt (h.locked id).mp hi, trivial⟩, ?_, h.group, h.level⟩
    intro id'
    have hl := h.locked id'
    simp only [Keyboard.lockedIds] at hl
    simp [read, note, Keyboard.lockedIds, hl]

theorem Shows.unlock (h : m.Shows k) (ht : k.Tidy) (modifiers : Mask) :
    m.Accepts (k.unlock modifiers).events ∧
      (m.read (k.unlock modifiers).events).Shows (k.unlock modifiers).keyboard := by
  have hs := k.unlockedIds_sublist modifiers
  have hu := k.unlit_unlock modifiers
  rw [Keyboard.events_unlock, read_unlocked]
  refine ⟨accepts_unlocked (ht.nodup.sublist hs) fun id hi => (h.locked id).mpr (hs.subset hi), ?_, ?_, ?_⟩
  · intro id
    rw [ht.mem_lockedIds_unlock, ← h.locked]
    simp
  · exact h.group.trans (congrArg Keyboard.group hu).symm
  · exact h.level.trans (congrArg Keyboard.level hu).symm

end Mirror

/-- The events were news to a blank mirror, which now shows a tidy keyboard. -/
structure Outcome.Mirrored (o : Outcome) : Prop where
  tidy : o.keyboard.Tidy
  accepts : Mirror.Accepts {} o.events
  shows : (Mirror.read {} o.events).Shows o.keyboard

namespace Outcome

theorem Mirrored.of_eq {k k' : Keyboard} {past : List Event} (h : Mirrored ⟨k, past⟩)
    (hl : k'.locks = k.locks) (hf : ∀ id, k'.lamp id = k.lamp id) (hg : k'.group = k.group)
    (hv : k'.level = k.level) : Mirrored ⟨k', past⟩ :=
  ⟨h.tidy.of_eq hl hf, h.accepts, h.shows.of_eq hl hg hv⟩

theorem keeps_mirrored {k : Keyboard} {o : Outcome} (ht : k.Tidy → o.keyboard.Tidy)
    (hf : k.Tidy → ∀ m : Mirror, m.Shows k → m.Accepts o.events ∧ (m.read o.events).Shows o.keyboard) :
    Keeps Mirrored k o := by
  intro past h
  obtain ⟨ha, hs⟩ := hf h.tidy _ h.shows
  refine ⟨ht h.tidy, Mirror.accepts_append.mpr ⟨h.accepts, ha⟩, ?_⟩
  rw [Mirror.read_append]
  exact hs

theorem mirrored_keptByMoves : KeptByMoves Mirrored where
  hold k id _ _ h := h.of_eq rfl (k.lamp_hold id) rfl rfl
  letGo k id _ h := h.of_eq rfl (k.lamp_letGo id) rfl rfl
  sectionPress k id m _ h :=
    h.of_eq rfl (fun id' => Keyboard.lamp_eq_of_key? (k.key?_sectionPress id id' m)) rfl rfl
  sectionRelease k id m _ h :=
    h.of_eq rfl (fun id' => Keyboard.lamp_eq_of_key? (k.key?_sectionRelease id id' m)) rfl rfl
  lock _ id m hk hm := keeps_mirrored (fun h => h.lock hk hm) fun _ _ h => h.lock id m
  unlock _ m := keeps_mirrored (fun h => h.unlock m) fun ht _ h => h.unlock ht m
  modifiers _ _ _ h := h.of_eq rfl (fun _ => rfl) rfl rfl
  behavior _ _ _ h := h.of_eq rfl (fun _ => rfl) rfl rfl
  numLockMask _ _ _ h := h.of_eq rfl (fun _ => rfl) rfl rfl
  altGrMask _ _ _ h := h.of_eq rfl (fun _ => rfl) rfl rfl
  resetSections k _ h :=
    h.of_eq rfl (fun id => Keyboard.lamp_eq_of_key? (k.key?_resetSections id)) rfl rfl
  shown _ group level hn := by
    apply keeps_mirrored
    · exact fun h => h.of_eq rfl fun _ => rfl
    · intro _ m h
      have hnews : (group, level) ≠ (m.group, m.level) := by
        rw [h.group, h.level]
        exact hn
      exact ⟨⟨hnews, trivial⟩, h.locked, rfl, rfl⟩
  activated _ _ := keeps_mirrored (fun h => h) fun _ _ h => ⟨⟨trivial, trivial⟩, h⟩

end Outcome

namespace Keyboard

def serve (k : Keyboard) (sink : Sink) : List Operation → Keyboard × Sink
  | [] => (k, sink)
  | op :: ops => (k.step op).keyboard.serve (sink.accept (k.step op).events) ops

theorem serve_queue (k : Keyboard) (pending : List Event) (ops : List Operation) :
    k.serve (.queue pending) ops = ((k.run ops).keyboard, .queue (pending ++ (k.run ops).events)) := by
  induction ops generalizing k pending with
  | nil => simp [serve, run_nil]
  | cons op ops ih =>
    rw [serve, Sink.accept, ih, run_cons]
    simp

theorem Fresh.mirrored {k : Keyboard} (h : k.Fresh) : Outcome.Mirrored ⟨k, []⟩ := by
  have hl : k.locks = [] := congrArg locks h
  refine ⟨h.tidy, trivial, ?_, (congrArg group h).symm, (congrArg level h).symm⟩
  intro id
  simp [Mirror.read, lockedIds, hl]

theorem Tidy.lit_iff {k : Keyboard} (h : k.Tidy) (id : KeyId) :
    (∃ key, k.key? id = some key ∧ key.locked = true) ↔ ∃ entry ∈ k.locks, entry.key = id := by
  have hh := h.lit id
  simpa only [lamp, Option.map_eq_some_iff, lockedIds, List.mem_map] using hh

/-- An observer who reads the events of a keyboard from the start knows, after any operations, which
keys are locked, by the list of locks and by the flags of the keys, and what is shown. Each key has
at most one lock, and no event repeats what was known. -/
theorem mirror_shows_every_run (layout : Layout) (ops : List Operation) :
    let session := (ofLayout layout).serve (.queue []) ops
    let k := session.1
    let mirror := Mirror.read {} session.2.available
    (∀ id, id ∈ mirror.locked ↔ ∃ entry ∈ k.locks, entry.key = id) ∧
    (∀ id, id ∈ mirror.locked ↔ ∃ key, k.key? id = some key ∧ key.locked = true) ∧
    mirror.group = k.group ∧ mirror.level = k.level ∧
    (k.locks.map Lock.key).Nodup ∧ (∀ entry ∈ k.locks, entry.modifiers ≠ .empty) ∧
    Mirror.Accepts {} session.2.available := by
  have h := (Outcome.mirrored_keptByMoves.run (ofLayout layout) ops).holds
    (fresh_ofLayout layout).mirrored
  have hm : ∀ id, id ∈ (Mirror.read {} ((ofLayout layout).run ops).events).locked ↔
      ∃ entry ∈ ((ofLayout layout).run ops).keyboard.locks, entry.key = id := by
    intro id
    rw [h.shows.locked id, lockedIds, List.mem_map]
  simp only [serve_queue, List.nil_append, Sink.available]
  exact ⟨hm, fun id => (hm id).trans (h.tidy.lit_iff id).symm, h.shows.group, h.shows.level,
    h.tidy.nodup, h.tidy.nonempty, h.accepts⟩

end Keyboard

end ScreenKeyboard
