import Mathlib.Data.List.Infix
import ScreenKeyboard.Proofs.Keyboard.NumLock
import ScreenKeyboard.Proofs.Keyboard.Teardown

namespace ScreenKeyboard

/-- A press or release of a key that stands for a symbol, as the section of the key learns of it. -/
structure Stroke where
  key : KeyId
  state : KeyState
  modifiers : Mask
  behavior : Behavior
  numLockMask : Mask
  deriving DecidableEq, Repr

def Section.take (s : Section) (stroke : Stroke) : Section :=
  match stroke.state with
  | .pressed => s.press stroke.modifiers stroke.behavior stroke.numLockMask
  | .released => s.release stroke.modifiers stroke.behavior stroke.numLockMask

def Section.takeOwn (i : Nat) (s : Section) (strokes : List Stroke) : Section :=
  (strokes.filter fun stroke => stroke.key.sectionIndex == i).foldl Section.take s

namespace Keyboard

def stroke? (k : Keyboard) (id : KeyId) (state : KeyState) : Option Stroke :=
  (k.resolve id).map fun symbol => ⟨id, state, symbol.modifiers, k.behavior, k.numLockMask⟩

def releaseStroke? (k : Keyboard) (id : KeyId) : Option Stroke :=
  if id ∈ k.pressed then k.stroke? id .released else none

def strokesOf (k : Keyboard) : Operation → List Stroke
  | .press id _ => (k.stroke? id .pressed).toList
  | .release id _ => (k.releaseStroke? id).toList
  | .releaseAll t => (k.releasesOf t k.pressed).filterMap fun r => r.1.releaseStroke? r.2
  | _ => []

/-- The strokes since the last reset of a run, after these ones if the run has none. -/
def strokesSince (k : Keyboard) (past : List Stroke) : List Operation → List Stroke
  | [] => past
  | op :: ops =>
    (k.step op).keyboard.strokesSince (if op = .reset then [] else past ++ k.strokesOf op) ops

/-- Nothing that the operation asks for concerns the keys of the section. -/
def Operation.avoids (i : Nat) : Operation → Bool
  | .press id _ | .release id _ => id.sectionIndex != i
  | .releaseAll _ | .reset => false
  | _ => true

def Operation.isPress : Operation → Bool
  | .press _ _ => true
  | _ => false

/-- From the first press on, the num-lock mask stays as it is. -/
def KeepsNumLockMask (k : Keyboard) (ops : List Operation) : Prop :=
  ∀ before ∈ ops.inits, before.any Operation.isPress = true →
    (k.run before).keyboard.numLockMask = (k.run ops).keyboard.numLockMask

instance (k : Keyboard) (ops : List Operation) : Decidable (k.KeepsNumLockMask ops) :=
  inferInstanceAs (Decidable (∀ before ∈ ops.inits, before.any Operation.isPress = true →
    (k.run before).keyboard.numLockMask = (k.run ops).keyboard.numLockMask))

def Tracks (k : Keyboard) (i : Nat) (s : Section) : Prop :=
  k.numLock? i = some s.numLock

variable {k : Keyboard} {i : Nat} {s : Section}

theorem numLock_take {s s' : Section} (h : s.numLock = s'.numLock) (stroke : Stroke) :
    (s.take stroke).numLock = (s'.take stroke).numLock := by
  obtain ⟨hm, hl⟩ := Prod.mk.inj h
  unfold Section.take
  cases stroke.state with
  | pressed =>
    cases hb : stroke.behavior with
    | none => simp [Section.press, Section.withModifiers, Section.numLock, hm]
    | lock | latch => exact h
  | released => simp only [Section.release_eq, Section.withModifiers, Section.numLock, hm]

theorem takeOwn_nil (i : Nat) (s : Section) : s.takeOwn i [] = s := rfl

theorem takeOwn_append (i : Nat) (s : Section) (strokes strokes' : List Stroke) :
    s.takeOwn i (strokes ++ strokes') = (s.takeOwn i strokes).takeOwn i strokes' := by
  rw [Section.takeOwn, List.filter_append, List.foldl_append]
  rfl

theorem takeOwn_singleton (i : Nat) (s : Section) (stroke : Stroke) :
    s.takeOwn i [stroke] = if stroke.key.sectionIndex = i then s.take stroke else s := by
  by_cases h : stroke.key.sectionIndex = i
  · simp [Section.takeOwn, h]
  · simp [Section.takeOwn, h]

theorem Tracks.of_eq {k' : Keyboard} (h : k.Tracks i s) (he : k'.numLock? i = k.numLock? i) :
    k'.Tracks i s :=
  he.trans h

theorem Tracks.updateSection (h : k.Tracks i s) (stroke : Stroke) {f : Section → Section}
    (hf : ∀ s, (f s).numLock = (s.take stroke).numLock) :
    (k.updateSection stroke.key.sectionIndex f).Tracks i (s.takeOwn i [stroke]) := by
  rw [takeOwn_singleton, Tracks, numLock?_updateSection]
  by_cases hi : stroke.key.sectionIndex = i
  · obtain ⟨own, ho, hs⟩ := Option.map_eq_some_iff.mp h
    rw [if_pos hi, if_pos hi, ho, Option.map_some, hf, numLock_take hs]
  · rw [if_neg hi, if_neg hi]
    exact h

theorem Tracks.press (h : k.Tracks i s) (id : KeyId) (t : UInt32) :
    (k.press id t).keyboard.Tracks i (s.takeOwn i (k.strokesOf (.press id t))) := by
  have hh : (k.hold id).Tracks i s := h.of_eq (k.numLock?_updateKey id _ i)
  rw [strokesOf, stroke?]
  rcases k.press_cases id t with ⟨hk, he⟩ | ⟨_, hr, he⟩ | ⟨symbol, _, hr, hb, he⟩ |
    ⟨symbol, _, hr, _, he⟩
  · -- A key that is not there stands for nothing, so its press is no stroke.
    have hr : k.resolve id = none := by
      by_contra hn
      obtain ⟨symbol, hr⟩ := Option.ne_none_iff_exists'.mp hn
      have hs := k.resolve_isSome_key? hr
      rw [hk] at hs
      exact Bool.noConfusion hs
    rw [he, hr]
    exact h
  · rw [he, hr]
    exact hh
  · -- Where modifiers stick, sections do not learn of presses.
    have hself := (k.hold id).sectionPress_eq_self id symbol.modifiers hb
    rw [he, keyboard_report, hr, ← hself]
    exact hh.updateSection ⟨id, .pressed, symbol.modifiers, k.behavior, k.numLockMask⟩ fun _ => rfl
  · rw [he, Outcome.keyboard_andThen, keyboard_report, hr]
    have hs : ((k.hold id).sectionPress id symbol.modifiers).Tracks i (s.takeOwn i _) :=
      hh.updateSection ⟨id, .pressed, symbol.modifiers, k.behavior, k.numLockMask⟩ fun _ => rfl
    exact hs.of_eq (numLock?_settle _ _ _ i)

theorem Tracks.release (h : k.Tracks i s) (id : KeyId) (t : UInt32) :
    (k.release id t).keyboard.Tracks i (s.takeOwn i (k.releaseStroke? id).toList) := by
  have hl : (k.letGo id).Tracks i s := h.of_eq (k.numLock?_updateKey id _ i)
  rw [releaseStroke?, stroke?]
  rcases k.release_cases id t with ⟨hi, he⟩ | ⟨hi, hr, he⟩ | ⟨symbol, hi, hr, he⟩
  · rw [he, if_neg hi]
    exact h
  · rw [he, if_pos hi, hr]
    exact hl
  · rw [he, Outcome.keyboard_andThen, keyboard_report, if_pos hi, hr]
    have hs : ((k.letGo id).sectionRelease id symbol.modifiers).Tracks i (s.takeOwn i _) :=
      hl.updateSection ⟨id, .released, symbol.modifiers, k.behavior, k.numLockMask⟩ fun _ => rfl
    exact hs.of_eq (numLock?_settle _ _ _ i)

theorem Tracks.releases (h : k.Tracks i s) (t : UInt32) (ids : List KeyId) :
    (Outcome.chain k ids fun k id => k.release id t).keyboard.Tracks i
      (s.takeOwn i ((k.releasesOf t ids).filterMap fun r => r.1.releaseStroke? r.2)) := by
  induction ids generalizing k s with
  | nil => exact h
  | cons id ids ih =>
    have hstep := ih (h.release id t)
    rw [← takeOwn_append] at hstep
    rw [Outcome.chain_cons, Outcome.keyboard_andThen, releasesOf, List.filterMap_cons]
    cases hr : k.releaseStroke? id with
    | none => simpa [hr] using hstep
    | some stroke => simpa [hr] using hstep

theorem numLock?_refreshLevel (k : Keyboard) (toggled : Bool) (i : Nat) :
    (k.refreshLevel toggled).keyboard.numLock? i = k.numLock? i := by
  have hu := congrArg sections (k.unlit_refreshLevel toggled)
  exact k.numLock?_of_unlit hu i

theorem numLock?_setModifiers (k : Keyboard) (m : Mask) (i : Nat) :
    (k.setModifiers m).keyboard.numLock? i = k.numLock? i := by
  have hu := congrArg sections (k.unlit_unlock (k.modifiers &&& ~~~m))
  have hn := k.numLock?_of_unlit hu i
  rw [setModifiers, Outcome.keyboard_andThen, numLock?_refreshLevel]
  exact hn

theorem numLock?_reset (k : Keyboard) (i : Nat) :
    k.reset.keyboard.numLock? i = (k.numLock? i).map fun _ => (.empty, false) := by
  have hu := congrArg sections (k.unlit_clear k.modifiers)
  have hn := k.numLock?_of_unlit hu i
  rw [← hn, reset, Outcome.keyboard_andThen, keyboard_showLevel]
  simp [numLock?, section?, Function.comp_def, Section.reset, Section.numLock]

theorem Tracks.step (h : k.Tracks i s) {op : Operation} (ho : op ≠ .reset) :
    (k.step op).keyboard.Tracks i (s.takeOwn i (k.strokesOf op)) := by
  cases op with
  | press id t => exact h.press id t
  | release id t => exact h.release id t
  | releaseAll t => exact h.releases t k.pressed
  | setModifiers m => exact h.of_eq (k.numLock?_setModifiers m i)
  | setLevel level =>
    rw [Keyboard.step, keyboard_showLevel]
    exact h
  | setGroup group =>
    rw [Keyboard.step, keyboard_setGroup]
    exact h
  | setBehavior _ | setNumLockMask _ | setAltGrMask _ => exact h
  | reset => exact absurd rfl ho

theorem Tracks.reset (h : k.Tracks i s) : k.reset.keyboard.Tracks i s.reset := by
  rw [Tracks, numLock?_reset, h]
  rfl

/-- A section has what the strokes since the last reset make of a section without modifiers. -/
theorem Tracks.run {start : Section} (hs : start.numLock = start.reset.numLock)
    {past : List Stroke} (h : k.Tracks i (start.takeOwn i past)) (ops : List Operation) :
    (k.run ops).keyboard.Tracks i (start.takeOwn i (k.strokesSince past ops)) := by
  induction ops generalizing k past with
  | nil => exact h
  | cons op ops ih =>
    rw [run_cons, Outcome.keyboard_andThen, strokesSince]
    apply ih
    by_cases ho : op = .reset
    · -- A reset leaves no strokes, and no modifiers that could tell of any.
      subst op
      have hr : (k.step .reset).keyboard.Tracks i (start.takeOwn i past).reset := h.reset
      rw [if_pos rfl, takeOwn_nil, Tracks, hs]
      exact hr
    · rw [if_neg ho, takeOwn_append]
      exact h.step ho

theorem Tracks.exists_section (h : k.Tracks i s) :
    ∃ own, k.section? i = some own ∧ own.modifiers = s.modifiers ∧ own.numLocked = s.numLocked := by
  obtain ⟨own, ho, he⟩ := Option.map_eq_some_iff.mp h
  obtain ⟨hm, hl⟩ := Prod.mk.inj he
  exact ⟨own, ho, hm, hl⟩

theorem numLockMask_of_mem_releasesOf {t : UInt32} {ids : List KeyId} {r : Keyboard × KeyId}
    (h : r ∈ k.releasesOf t ids) : r.1.numLockMask = k.numLockMask := by
  induction ids generalizing k with
  | nil => exact absurd h List.not_mem_nil
  | cons id ids ih =>
    rcases List.mem_cons.mp h with rfl | h
    · rfl
    · exact (ih h).trans (k.numLockMask_release id t)

theorem stroke?_eq_some {id : KeyId} {state : KeyState} {stroke : Stroke}
    (h : k.stroke? id state = some stroke) :
    stroke.key = id ∧ stroke.numLockMask = k.numLockMask := by
  obtain ⟨_, _, rfl⟩ := Option.map_eq_some_iff.mp h
  exact ⟨rfl, rfl⟩

theorem releaseStroke?_eq_some {id : KeyId} {stroke : Stroke}
    (h : k.releaseStroke? id = some stroke) :
    stroke.key = id ∧ stroke.numLockMask = k.numLockMask := by
  unfold releaseStroke? at h
  split at h
  next => exact stroke?_eq_some h
  next => exact nomatch h

theorem numLockMask_of_mem_strokesOf {op : Operation} {stroke : Stroke}
    (h : stroke ∈ k.strokesOf op) : stroke.numLockMask = k.numLockMask := by
  cases op with
  | press id t => exact (stroke?_eq_some (Option.mem_toList.mp h)).2
  | release id t => exact (releaseStroke?_eq_some (Option.mem_toList.mp h)).2
  | releaseAll t =>
    obtain ⟨r, hr, hs⟩ := List.mem_filterMap.mp h
    exact (releaseStroke?_eq_some hs).2.trans (numLockMask_of_mem_releasesOf hr)
  | setModifiers _ | setLevel _ | setGroup _ | setBehavior _ | setNumLockMask _ | setAltGrMask _
  | reset => exact absurd h List.not_mem_nil

theorem setsMask_of_mem_strokesOf {op : Operation} {stroke : Stroke} (h : stroke ∈ k.strokesOf op) :
    op.setsMask = false := by
  cases op with
  | setNumLockMask _ | setAltGrMask _ => exact absurd h List.not_mem_nil
  | press _ _ | release _ _ | releaseAll _ | setModifiers _ | setLevel _ | setGroup _
  | setBehavior _ | reset => rfl

theorem isPress_of_mem_strokesOf (hp : k.pressed = []) {op : Operation} {stroke : Stroke}
    (h : stroke ∈ k.strokesOf op) : op.isPress = true := by
  cases op with
  | press id t => rfl
  | release id t =>
    have hn : k.releaseStroke? id = none := by
      rw [releaseStroke?, hp]
      exact if_neg List.not_mem_nil
    rw [strokesOf, hn] at h
    exact absurd h List.not_mem_nil
  | releaseAll t =>
    rw [strokesOf, hp] at h
    exact absurd h List.not_mem_nil
  | setModifiers _ | setLevel _ | setGroup _ | setBehavior _ | setNumLockMask _ | setAltGrMask _
  | reset => exact absurd h List.not_mem_nil

theorem any_isPress_of_mem_pressed {layout : Layout} {ops : List Operation} {id : KeyId}
    (h : id ∈ ((ofLayout layout).run ops).keyboard.pressed) : ops.any Operation.isPress = true := by
  obtain ⟨_, n, ⟨op, hn, hp⟩, _⟩ := ((recalls_run layout ops).mem id).mp h
  refine List.any_eq_true.mpr ⟨op, List.mem_of_getElem? hn, ?_⟩
  cases op with
  | press _ _ => rfl
  | release _ _ | releaseAll _ | setModifiers _ | setLevel _ | setGroup _ | setBehavior _
  | setNumLockMask _ | setAltGrMask _ | reset => exact Bool.noConfusion hp

theorem forall_mem_strokesSince {P : Stroke → Prop} {past : List Stroke}
    (hp : ∀ stroke ∈ past, P stroke) {ops : List Operation}
    (ho : ∀ before op, before ++ [op] <+: ops →
      ∀ stroke ∈ (k.run before).keyboard.strokesOf op, P stroke) :
    ∀ stroke ∈ k.strokesSince past ops, P stroke := by
  induction ops generalizing k past with
  | nil => exact hp
  | cons op ops ih =>
    apply ih
    · intro stroke hs
      split at hs
      next => exact absurd hs List.not_mem_nil
      next =>
        rcases List.mem_append.mp hs with hs | hs
        · exact hp stroke hs
        · have hfirst : [] ++ [op] <+: op :: ops := ⟨ops, rfl⟩
          exact ho [] op hfirst stroke hs
    · intro before op' hb
      have hnext := ho (op :: before) op' (List.cons_prefix_cons.mpr ⟨rfl, hb⟩)
      rw [run_cons, Outcome.keyboard_andThen] at hnext
      exact hnext

theorem KeepsNumLockMask.meets {layout : Layout} {ops : List Operation}
    (h : (ofLayout layout).KeepsNumLockMask ops) {before : List Operation} {op : Operation}
    (hb : before ++ [op] <+: ops) {stroke : Stroke}
    (hs : stroke ∈ ((ofLayout layout).run before).keyboard.strokesOf op) :
    stroke.numLockMask = ((ofLayout layout).run ops).keyboard.numLockMask := by
  have hpress : (before ++ [op]).any Operation.isPress = true := by
    rw [List.any_append, Bool.or_eq_true]
    by_cases hp : ((ofLayout layout).run before).keyboard.pressed = []
    · right
      simp [isPress_of_mem_strokesOf hp hs]
    · left
      obtain ⟨id, hid⟩ := List.exists_mem_of_ne_nil _ hp
      exact any_isPress_of_mem_pressed hid
  have hset := setsMask_of_mem_strokesOf hs
  have hm := congrArg Prod.fst (((ofLayout layout).run before).keyboard.masks_step hset)
  have hafter := h _ ((List.mem_inits _ _).mpr hb) hpress
  rw [run_concat, Outcome.keyboard_andThen] at hafter
  exact (numLockMask_of_mem_strokesOf hs).trans (hm.symm.trans hafter)

theorem numLocked_take {mask : Mask} {stroke : Stroke} (hm : stroke.numLockMask = mask)
    (h : s.numLocked = s.modifiers.intersects mask) :
    (s.take stroke).numLocked = (s.take stroke).modifiers.intersects mask := by
  unfold Section.take
  cases stroke.state with
  | pressed =>
    cases stroke.behavior with
    | none =>
      rw [hm]
      rfl
    | lock | latch => exact h
  | released =>
    rw [Section.release_eq, hm]
    rfl

theorem numLocked_takeOwn {mask : Mask} {strokes : List Stroke}
    (hm : ∀ stroke ∈ strokes, stroke.numLockMask = mask)
    (h : s.numLocked = s.modifiers.intersects mask) :
    (s.takeOwn i strokes).numLocked = (s.takeOwn i strokes).modifiers.intersects mask := by
  induction strokes generalizing s with
  | nil => exact h
  | cons stroke strokes ih =>
    have hrest : ∀ stroke ∈ strokes, stroke.numLockMask = mask :=
      fun stroke hs => hm stroke (List.mem_cons_of_mem _ hs)
    rw [← List.singleton_append, takeOwn_append]
    apply ih hrest
    rw [takeOwn_singleton]
    split
    next => exact numLocked_take (hm stroke List.mem_cons_self) h
    next => exact h

theorem takeOwn_strokesOf_of_avoids (k : Keyboard) {op : Operation} (ho : op.avoids i = true)
    (s : Section) : s.takeOwn i (k.strokesOf op) = s := by
  have hother : ∀ stroke ∈ k.strokesOf op, stroke.key.sectionIndex ≠ i := by
    intro stroke hs
    cases op with
    | press id t =>
      rw [(stroke?_eq_some (Option.mem_toList.mp hs)).1]
      exact bne_iff_ne.mp ho
    | release id t =>
      rw [(releaseStroke?_eq_some (Option.mem_toList.mp hs)).1]
      exact bne_iff_ne.mp ho
    | releaseAll _ | reset => exact Bool.noConfusion ho
    | setModifiers _ | setLevel _ | setGroup _ | setBehavior _ | setNumLockMask _
    | setAltGrMask _ => exact absurd hs List.not_mem_nil
  have hnone : (k.strokesOf op).filter (fun stroke => stroke.key.sectionIndex == i) = [] := by
    apply List.filter_eq_nil_iff.mpr
    intro stroke hs he
    exact hother stroke hs (beq_iff_eq.mp he)
  rw [Section.takeOwn, hnone]
  rfl

theorem Tracks.step_of_avoids (h : k.Tracks i s) {op : Operation} (ho : op.avoids i = true) :
    (k.step op).keyboard.Tracks i s := by
  have hne : op ≠ .reset := by
    rintro rfl
    exact Bool.noConfusion ho
  have hs := h.step hne
  rw [takeOwn_strokesOf_of_avoids k ho] at hs
  exact hs

theorem level?_eq_of_numLocked {own : Bool} (h : s.numLocked = own) :
    s.level? = if own = true then some Section.numLockLevel else none := by
  rw [Section.level?, h]

theorem tracks_ofLayout {layout : Layout} {d : SectionLayout} (hd : layout.sections[i]? = some d) :
    (ofLayout layout).Tracks i d.section := by
  have hs := congrArg sections (ofLayout_eq layout)
  rw [Tracks, numLock?, section?, hs, List.getElem?_map, hd]
  rfl

/-- A section has the modifiers that the strokes on its own keys since the last reset make, and
shows its num-lock level just if these meet a mask that stays from the first press on. Nothing that
does not concern its keys changes either. -/
theorem section_follows_own_strokes_every_run (layout : Layout) (ops : List Operation) (i : Nat)
    (d : SectionLayout) (hd : layout.sections[i]? = some d) :
    let k := ((ofLayout layout).run ops).keyboard
    ∃ s, k.section? i = some s ∧
      s.modifiers = (d.section.takeOwn i ((ofLayout layout).strokesSince [] ops)).modifiers ∧
      ((ofLayout layout).KeepsNumLockMask ops →
        s.level? = if s.modifiers.intersects k.numLockMask then some Section.numLockLevel else none) ∧
      ∀ op, op.avoids i = true → ∃ s', (k.step op).keyboard.section? i = some s' ∧
        s'.modifiers = s.modifiers ∧ s'.level? = s.level? := by
  intro k
  have ht : k.Tracks i (d.section.takeOwn i ((ofLayout layout).strokesSince [] ops)) :=
    Tracks.run rfl (tracks_ofLayout hd) ops
  obtain ⟨s, hs, hm, hl⟩ := ht.exists_section
  refine ⟨s, hs, hm, ?_, ?_⟩
  · intro hkeep
    have hstrokes := forall_mem_strokesSince (List.forall_mem_nil _)
      fun before op hb stroke hs => hkeep.meets hb hs
    have hstart : d.section.numLocked = d.section.modifiers.intersects k.numLockMask := by
      symm
      apply Mask.intersects_eq_false_iff.mpr
      simp [SectionLayout.section]
    apply level?_eq_of_numLocked
    rw [hl, hm]
    exact numLocked_takeOwn hstrokes hstart
  · intro op ho
    obtain ⟨s', hs', hm', hl'⟩ := (ht.step_of_avoids ho).exists_section
    refine ⟨s', hs', hm'.trans hm.symm, ?_⟩
    rw [level?_eq_of_numLocked (hl'.trans hl.symm)]
    rfl

theorem section_follows_own_strokes_keypad :
    let ops : List Operation := [.setBehavior .latch, .setNumLockMask Flag.mod2.mask,
      .press ⟨1, 0⟩ 1, .reset, .setBehavior .latch, .press ⟨1, 0⟩ 2, .press ⟨0, 1⟩ 3, .releaseAll 4,
      .press ⟨0, 0⟩ 5, .release ⟨0, 0⟩ 6, .setLevel .symbols]
    let k := ((ofLayout .keypad).run ops).keyboard
    (ofLayout .keypad).KeepsNumLockMask ops ∧
      k.modifiers = .empty ∧
      ∃ s, k.section? 1 = some s ∧ s.modifiers = Flag.mod2.mask ∧
        s.level? = some Section.numLockLevel := by
  intro ops k
  obtain ⟨s, hs, hm, hl, _⟩ := section_follows_own_strokes_every_run .keypad ops 1
    { name := "numpad", keys := [.ofMask "NMLK" Flag.mod2.mask] } rfl
  have hkeep : (ofLayout .keypad).KeepsNumLockMask ops := by decide
  have hown : s.modifiers = Flag.mod2.mask := hm.trans (by decide)
  have hon : Flag.mod2.mask.intersects k.numLockMask = true := by decide
  refine ⟨hkeep, by decide, s, hs, hown, ?_⟩
  rw [hl hkeep, hown, hon]
  rfl

end Keyboard

end ScreenKeyboard
