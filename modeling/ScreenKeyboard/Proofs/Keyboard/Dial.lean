import ScreenKeyboard.Proofs.Keyboard.Symbols
import ScreenKeyboard.Proofs.Keyboard.Turns

namespace ScreenKeyboard

/-- What the release of a key with a symbol does to the dial. -/
inductive Role
  | toggle
  | raise (modifiers : Mask)
  deriving DecidableEq

def Role.Fits (role : Role) (toggled : Bool) (m : Mask) : Prop :=
  (toggled = true ∧ role = .toggle ∧ m = .empty) ∨ (toggled = false ∧ role = .raise m)

/-- A machine of two variables, the axis and the modifiers, that only releases turn. -/
structure Dial where
  onNumbers : Bool
  modifiers : Mask
  deriving DecidableEq

namespace Dial

def level (d : Dial) : Level :=
  .ofAxes d.onNumbers (d.modifiers.contains Flag.shift.mask)

def behavior (d : Dial) : Behavior :=
  if d.onNumbers then .lock else .latch

def turn (d : Dial) : Role → Dial
  | .toggle =>
    if d.onNumbers then ⟨false, d.modifiers.without Flag.shift.mask⟩ else ⟨true, .empty⟩
  | .raise m =>
    if d.onNumbers then ⟨true, d.modifiers ^^^ m⟩
    else ⟨false, if m = .empty then .empty else d.modifiers ^^^ m⟩

end Dial

def Keyboard.Operation.isInput : Keyboard.Operation → Bool
  | .press _ _ | .release _ _ | .releaseAll _ | .setGroup _ => true
  | _ => false

/-- What is known of each id: whether it is a key, and what role the key has if it has a symbol. -/
abbrev Plan : Type :=
  KeyId → Option (Option Role)

/-- The keys that are held, the latest first, and the dial. -/
structure Panel where
  held : List KeyId
  dial : Dial
  deriving DecidableEq

namespace Panel

def press (plan : Plan) (p : Panel) (id : KeyId) : Panel :=
  if (plan id).isSome then { p with held := id :: p.held.erase id } else p

def release (plan : Plan) (p : Panel) (id : KeyId) : Panel :=
  if id ∈ p.held then
    match plan id with
    | some (some role) => ⟨p.held.erase id, p.dial.turn role⟩
    | _ => { p with held := p.held.erase id }
  else p

def step (plan : Plan) (p : Panel) : Keyboard.Operation → Panel
  | .press id _ => p.press plan id
  | .release id _ => p.release plan id
  | .releaseAll _ => p.held.foldl (release plan) p
  | _ => p

def run (plan : Plan) (p : Panel) (ops : List Keyboard.Operation) : Panel :=
  ops.foldl (step plan) p

end Panel

def Key.role? (key : Key) : Option Role :=
  (key.symbols.get 0 0).map fun symbol => if key.isToggle then .toggle else .raise symbol.modifiers

/-- The key has no symbol, or one in the first place; its symbols have the same modifiers, and none
if it is the toggle key. -/
def Key.IsRegular (key : Key) : Prop :=
  (key.symbols.get 0 0 = none → key.symbols.symbols = []) ∧
  (∀ s ∈ key.symbols.symbols, ∀ s' ∈ key.symbols.symbols, s.modifiers = s'.modifiers) ∧
  (key.isToggle = true → ∀ s ∈ key.symbols.symbols, s.modifiers = .empty)

instance (key : Key) : Decidable key.IsRegular :=
  inferInstanceAs (Decidable (_ ∧ _))

namespace Layout

def plan (layout : Layout) : Plan :=
  fun id => (layout.key? id).map fun d => d.key.role?

def IsRegular (layout : Layout) : Prop :=
  ∀ d ∈ layout.keys, d.2.key.IsRegular

instance (layout : Layout) : Decidable layout.IsRegular :=
  inferInstanceAs (Decidable (∀ d ∈ layout.keys, d.2.key.IsRegular))

end Layout

namespace Key

variable {key : Key}

theorem IsRegular.symbol_of_none (h : key.IsRegular) (hr : key.role? = none) (group level : Nat) :
    key.symbol group level = none := by
  have hn := h.1 (Option.map_eq_none_iff.mp hr)
  cases hs : key.symbol group level with
  | none => rfl
  | some s =>
    have hm := SymbolTable.mem_symbols_of_getOr hs
    rw [hn] at hm
    simp at hm

theorem IsRegular.symbol_of_some (h : key.IsRegular) {role : Role} (hr : key.role? = some role)
    (group level : Nat) : ∃ symbol, key.symbol group level = some symbol ∧
      role.Fits key.isToggle symbol.modifiers := by
  obtain ⟨_, hsame, htoggle⟩ := h
  obtain ⟨first, hf, hr⟩ := Option.map_eq_some_iff.mp hr
  obtain ⟨symbol, hm, hs⟩ := exists_symbol (by rw [hf]; rfl) group level
  refine ⟨symbol, hs, ?_⟩
  cases ht : key.isToggle with
  | true =>
    rw [ht] at hr
    exact Or.inl ⟨rfl, hr.symm, htoggle ht symbol hm⟩
  | false =>
    rw [ht] at hr
    have he := hsame first (SymbolTable.mem_symbols_of_get hf) symbol hm
    exact Or.inr ⟨rfl, by rw [← hr, ← he]; rfl⟩

end Key

namespace Dial

theorem behavior_eq (d : Dial) : d.behavior = Keyboard.behaviorFor d.level := by
  rw [behavior, Keyboard.behaviorFor, level, Level.onNumbers_ofAxes]

theorem next_level (d : Dial) (m : Mask) :
    d.level.next m false = level ⟨d.onNumbers, m⟩ ∧ d.level.nextModifiers m false = m := by
  have hc : d.level.crosses m false = false := by simp [Level.crosses]
  rw [Level.next, Level.nextModifiers, hc, level, Level.onNumbers_ofAxes]
  simp [level]

theorem turn_raise (d : Dial) (m : Mask) :
    d.turn (.raise m) =
      ⟨d.onNumbers, Keyboard.modifiersAfterRelease d.modifiers m d.behavior⟩ := by
  obtain ⟨axis, mods⟩ := d
  cases axis with
  | true => rfl
  | false =>
    by_cases hm : m = .empty
    · rw [hm]
      rfl
    · have he : m.isEmpty = false := Mask.isEmpty_eq_false_iff.mpr hm
      simp [turn, behavior, Keyboard.modifiersAfterRelease, hm, he]

theorem turn_toggle (d : Dial) (hn : d.modifiers.IsNamed) :
    (d.turn .toggle).level =
        d.level.next (Keyboard.modifiersAfterRelease d.modifiers .empty d.behavior) true ∧
      (d.turn .toggle).modifiers =
        d.level.nextModifiers (Keyboard.modifiersAfterRelease d.modifiers .empty d.behavior) true := by
  obtain ⟨axis, mods⟩ := d
  cases axis with
  | false =>
    have hm : Keyboard.modifiersAfterRelease mods .empty (behavior ⟨false, mods⟩) = .empty := rfl
    have hs : Mask.empty.contains Flag.shift.mask = false := by decide
    rw [hm, Level.nextModifiers_empty, Level.next, level, level, Level.onNumbers_ofAxes, hs]
    exact ⟨by simp [turn, hs], rfl⟩
  | true =>
    have hm : Keyboard.modifiersAfterRelease mods .empty (behavior ⟨true, mods⟩) = mods := by
      apply Mask.ext_has
      intro i
      simp [Keyboard.modifiersAfterRelease, behavior]
    have hw := mods.contains_without_mask .shift
    rw [hm, Level.next, Level.nextModifiers, Level.crosses, level, level, Level.onNumbers_ofAxes,
      Level.isShifted_ofAxes, hn.and_complement]
    cases hs : mods.contains Flag.shift.mask with
    | true => simp [turn, hw]
    | false => simp [turn, Mask.without_mask_of_contains hs, hs]

variable {d : Dial} {role : Role} {toggled : Bool} {m : Mask}

theorem turn_eq (hn : d.modifiers.IsNamed) (hr : role.Fits toggled m) :
    (d.turn role).level =
        d.level.next (Keyboard.modifiersAfterRelease d.modifiers m d.behavior) toggled ∧
      (d.turn role).modifiers =
        d.level.nextModifiers (Keyboard.modifiersAfterRelease d.modifiers m d.behavior) toggled := by
  rcases hr with ⟨rfl, rfl, rfl⟩ | ⟨rfl, rfl⟩
  · exact d.turn_toggle hn
  · have hv := d.next_level (Keyboard.modifiersAfterRelease d.modifiers m d.behavior)
    rw [d.turn_raise]
    exact ⟨hv.1.symm, hv.2.symm⟩

theorem isNamed_turn (hn : d.modifiers.IsNamed) (hm : m.IsNamed) (hr : role.Fits toggled m) :
    (d.turn role).modifiers.IsNamed := by
  rcases hr with ⟨rfl, rfl, rfl⟩ | ⟨rfl, rfl⟩
  · obtain ⟨axis, mods⟩ := d
    cases axis with
    | false => exact Mask.isNamed_empty
    | true =>
      have hw : (turn ⟨true, mods⟩ .toggle).modifiers = mods &&& ~~~Flag.shift.mask :=
        (hn.and_complement _).symm
      rw [hw]
      exact Mask.isNamed_and_complement _ _
  · rw [turn_raise]
    exact Keyboard.isNamed_modifiersAfterRelease hn hm d.behavior

end Dial

namespace Keyboard

variable {k : Keyboard} {layout : Layout}

theorem plan_eq (h : k.body = (ofLayout layout).body) (id : KeyId) :
    layout.plan id = (k.key? id).map Key.role? := by
  have hl := key?_ofLayout_eq layout id
  have hi := congrArg (Option.map Key.role?) (idle_key?_of_body h id)
  have hr : Key.role? ∘ Key.idle = Key.role? := rfl
  rw [Option.map_map, Option.map_map, hr, hl, Option.map_map] at hi
  exact hi.symm

theorem isRegular_of_body (h : k.body = (ofLayout layout).body) (hl : layout.IsRegular) {id : KeyId}
    {key : Key} (hk : k.key? id = some key) : key.IsRegular := by
  obtain ⟨old, ho, hn, hs⟩ := exists_key_of_body h hk
  obtain ⟨d, hd, rfl⟩ := (key?_ofLayout layout).mp ho
  have hr := hl _ hd
  have ht : d.key.isToggle = key.isToggle := by rw [Key.isToggle, hn, Key.isToggle]
  rw [Key.IsRegular, hs, ht] at hr
  exact hr

theorem resolve_cases (h : k.body = (ofLayout layout).body) (hl : layout.IsRegular) (id : KeyId) :
    (k.resolve id = none ∧ ∀ role, layout.plan id ≠ some (some role)) ∨
    ∃ symbol role, k.resolve id = some symbol ∧ layout.plan id = some (some role) ∧
      role.Fits (k.isToggle id) symbol.modifiers := by
  rw [plan_eq h]
  cases hk : k.key? id with
  | none =>
    refine Or.inl ⟨?_, by simp⟩
    by_contra hr
    obtain ⟨symbol, hr⟩ := Option.ne_none_iff_exists'.mp hr
    obtain ⟨key, hn, _⟩ := exists_key_of_resolve hr
    rw [hk] at hn
    simp at hn
  | some key =>
    have hreg := isRegular_of_body h hl hk
    obtain ⟨level, hv⟩ := exists_resolve_eq hk
    cases hr : key.role? with
    | none => exact Or.inl ⟨hv.trans (hreg.symbol_of_none hr _ _), by simp [hr]⟩
    | some role =>
      obtain ⟨symbol, hs, ht⟩ := hreg.symbol_of_some hr k.group level.index
      refine Or.inr ⟨symbol, role, hv.trans hs, by simp [hr], ?_⟩
      rw [isToggle, hk]
      exact ht

end Keyboard

namespace Panel

/-- The panel tells what is held on a keyboard of the layout, and the dial tells the rest. -/
structure Follows (layout : Layout) (p : Panel) (k : Keyboard) : Prop where
  body : k.body = (Keyboard.ofLayout layout).body
  held : k.pressed = p.held
  level : k.level = p.dial.level
  modifiers : k.modifiers = p.dial.modifiers
  behavior : k.behavior = p.dial.behavior
  named : p.dial.modifiers.IsNamed

variable {layout : Layout} {p : Panel} {k : Keyboard}

theorem Follows.of_rests (h : p.Follows layout k) {o : Outcome} (ho : o.Rests k)
    (hb : o.keyboard.body = k.body) {held : List KeyId} (hp : o.keyboard.pressed = held) :
    ({ p with held } : Panel).Follows layout o.keyboard :=
  ⟨hb.trans h.body, hp, ho.level.trans h.level, ho.modifiers.trans h.modifiers,
    ho.behavior.trans h.behavior, h.named⟩

theorem Follows.press (h : p.Follows layout k) (id : KeyId) (t : UInt32) :
    (p.press layout.plan id).Follows layout (k.press id t).keyboard := by
  have hn : k.behavior ≠ .none := by
    rw [h.behavior, Dial.behavior]
    cases p.dial.onNumbers <;> simp
  have hr := k.rests_press hn id t
  have hb := k.body_step (.press id t)
  have hs : (layout.plan id).isSome = (k.key? id).isSome := by
    rw [Keyboard.plan_eq h.body, Option.isSome_map]
  unfold Panel.press
  rw [hs, ← h.held]
  rcases k.press_cases id t with ⟨hk, he⟩ | ⟨hk, _, he⟩ | ⟨_, hk, _, _, he⟩ | ⟨_, _, _, hb, _⟩
  · rw [hk, he]
    exact h
  · rw [hk]
    exact h.of_rests hr hb (by rw [he]; rfl)
  · rw [hk]
    exact h.of_rests hr hb (by rw [he, Keyboard.keyboard_report]; rfl)
  · exact absurd hb hn

theorem release_of_no_role {plan : Plan} {id : KeyId} (hi : id ∈ p.held)
    (h : ∀ role, plan id ≠ some (some role)) :
    p.release plan id = { p with held := p.held.erase id } := by
  unfold release
  rw [if_pos hi]
  split
  next role hr => exact absurd hr (h role)
  next => rfl

theorem Follows.release (h : p.Follows layout k) (hl : layout.UsesNamedFlags)
    (hr : layout.IsRegular) (id : KeyId) (t : UInt32) :
    (p.release layout.plan id).Follows layout (k.release id t).keyboard := by
  have hb := k.body_step (.release id t)
  have hp := k.pressed_release id t
  by_cases hi : id ∈ k.pressed
  · have hh : id ∈ p.held := h.held ▸ hi
    rcases Keyboard.resolve_cases h.body hr id with ⟨hs, hn⟩ | ⟨symbol, role, hs, hn, ht⟩
    · rw [release_of_no_role hh hn, ← h.held]
      exact h.of_rests (k.rests_release id t fun _ => hs) hb hp
    · have hk := k.turns_release hi hs t
      rw [h.modifiers, h.behavior] at hk
      have hd := Dial.turn_eq h.named ht
      rw [← h.level, ← hk.level, ← hk.modifiers] at hd
      have hm := ((Keyboard.namedSymbols_ofLayout hl).of_body h.body).isNamed hs
      have he : p.release layout.plan id = ⟨p.held.erase id, p.dial.turn role⟩ := by
        unfold Panel.release
        rw [if_pos hh, hn]
      rw [he]
      refine ⟨hb.trans h.body, hp.trans (h.held ▸ rfl), hd.1.symm, hd.2.symm, ?_,
        Dial.isNamed_turn h.named hm ht⟩
      rw [hk.behavior, ← hd.1]
      exact (Dial.behavior_eq _).symm
  · have hh : id ∉ p.held := h.held ▸ hi
    have he : p.release layout.plan id = p := if_neg hh
    rw [he]
    exact h.of_rests (k.rests_release id t fun hm => absurd hm hi) hb
      ((hp.trans (List.erase_of_not_mem hi)).trans h.held)

theorem Follows.foldl_release (h : p.Follows layout k) (hl : layout.UsesNamedFlags)
    (hr : layout.IsRegular) (ids : List KeyId) (t : UInt32) :
    (ids.foldl (Panel.release layout.plan) p).Follows layout
      (Outcome.chain k ids fun k id => k.release id t).keyboard := by
  induction ids generalizing p k with
  | nil => exact h
  | cons id ids ih =>
    rw [List.foldl_cons, Outcome.chain_cons, Outcome.keyboard_andThen]
    exact ih (h.release hl hr id t)

theorem Follows.step (h : p.Follows layout k) (hl : layout.UsesNamedFlags) (hr : layout.IsRegular)
    {op : Keyboard.Operation} (ho : op.isInput = true) :
    (p.step layout.plan op).Follows layout (k.step op).keyboard := by
  cases op with
  | press id t => exact h.press id t
  | release id t => exact h.release hl hr id t
  | releaseAll t =>
    have hf := h.foldl_release hl hr k.pressed t
    rw [h.held] at hf
    rw [Keyboard.step, Keyboard.releaseAll, h.held]
    exact hf
  | setGroup group =>
    have hb := k.body_step (.setGroup group)
    have hs : (k.setGroup group).keyboard = { k with group } := by
      unfold Keyboard.setGroup
      split
      next he => rw [← he]
      next => rfl
    rw [Keyboard.step, hs] at hb ⊢
    exact ⟨hb.trans h.body, h.held, h.level, h.modifiers, h.behavior, h.named⟩
  | setModifiers _ | setLevel _ | setBehavior _ | setNumLockMask _ | setAltGrMask _ | reset =>
    exact Bool.noConfusion ho

theorem Follows.run (h : p.Follows layout k) (hl : layout.UsesNamedFlags) (hr : layout.IsRegular)
    {ops : List Keyboard.Operation} (ho : ∀ op ∈ ops, op.isInput = true) :
    (p.run layout.plan ops).Follows layout (k.run ops).keyboard := by
  induction ops generalizing p k with
  | nil => exact h
  | cons op ops ih =>
    rw [Keyboard.run_cons, Outcome.keyboard_andThen]
    exact ih (h.step hl hr (ho op List.mem_cons_self)) fun op' hm =>
      ho op' (List.mem_cons_of_mem _ hm)

end Panel

namespace Keyboard

/-- On a layout with regular keys and masks, from any state with the behavior for its level and the
level for its shift, the axis and the modifiers alone determine what key events do: after any
presses, releases and changes of group, level, modifiers and behavior are those of the dial. -/
theorem dial_tells_every_run (layout : Layout) (hl : layout.UsesNamedFlags) (hr : layout.IsRegular)
    (before : List Operation)
    (hm : ((ofLayout layout).run before).keyboard.modifiers.IsNamed)
    (hb : ((ofLayout layout).run before).keyboard.behavior =
      behaviorFor ((ofLayout layout).run before).keyboard.level)
    (hs : ((ofLayout layout).run before).keyboard.level.isShifted =
      ((ofLayout layout).run before).keyboard.modifiers.contains Flag.shift.mask)
    (ops : List Operation) (ho : ∀ op ∈ ops, op.isInput = true) :
    let start := ((ofLayout layout).run before).keyboard
    let panel := Panel.run layout.plan ⟨start.pressed, start.level.onNumbers, start.modifiers⟩ ops
    let k := (start.run ops).keyboard
    k.level = panel.dial.level ∧ k.behavior = panel.dial.behavior ∧
      k.modifiers = panel.dial.modifiers ∧ k.pressed = panel.held := by
  have hbody := (ofLayout layout).body_run before
  generalize ((ofLayout layout).run before).keyboard = start at *
  have hv : start.level = Dial.level ⟨start.level.onNumbers, start.modifiers⟩ := by
    rw [Dial.level, ← hs]
    cases start.level <;> rfl
  have h : Panel.Follows layout ⟨start.pressed, start.level.onNumbers, start.modifiers⟩ start := by
    refine ⟨hbody, rfl, hv, rfl, ?_, hm⟩
    rw [hb, Dial.behavior_eq, ← hv]
  have hk := h.run hl hr ho
  exact ⟨hk.level, hk.behavior, hk.modifiers, hk.held⟩

def rollover : List Operation :=
  [.press ⟨0, 0⟩ 1, .press ⟨0, 3⟩ 2, .release ⟨0, 0⟩ 3, .release ⟨0, 3⟩ 4, .press ⟨0, 1⟩ 5,
    .press ⟨0, 2⟩ 6, .release ⟨0, 1⟩ 7, .releaseAll 8]

theorem dial_tells_rollover :
    let start := ((ofLayout .small).run [.setBehavior .latch]).keyboard
    (start.run rollover).keyboard.level = .numbers ∧
      (start.run rollover).keyboard.behavior = .lock ∧
      (start.run rollover).keyboard.modifiers = Flag.control.mask ∧
      (start.run rollover).keyboard.pressed = [] := by
  have h := dial_tells_every_run .small (by decide) (by decide) [.setBehavior .latch] (by decide)
    (by decide) (by decide) rollover (by decide)
  have hp : Panel.run Layout.small.plan ⟨[], false, .empty⟩ rollover =
      ⟨[], true, Flag.control.mask⟩ := by decide
  have hs : ((ofLayout .small).run [.setBehavior .latch]).keyboard.level.onNumbers = false ∧
      ((ofLayout .small).run [.setBehavior .latch]).keyboard.modifiers = .empty ∧
      ((ofLayout .small).run [.setBehavior .latch]).keyboard.pressed = [] := by decide
  generalize ((ofLayout .small).run [.setBehavior .latch]).keyboard = start at h hs ⊢
  simp only [hs.1, hs.2.1, hs.2.2, hp] at h
  exact h

end Keyboard

end ScreenKeyboard
