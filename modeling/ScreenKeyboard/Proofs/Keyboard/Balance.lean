import ScreenKeyboard.Proofs.Keyboard.Symbols
import ScreenKeyboard.Proofs.Keyboard.Turns

namespace ScreenKeyboard

/-- If the key stands for a symbol anywhere, it has one to fall back on. -/
def Key.IsWhole (key : Key) : Prop :=
  ∀ group < key.symbols.groups, ∀ level ∈ Level.all,
    (key.symbols.get group level.index).isSome = true → (key.symbols.get 0 0).isSome = true

instance (key : Key) : Decidable key.IsWhole :=
  inferInstanceAs (Decidable (∀ group < key.symbols.groups, ∀ level ∈ Level.all,
    (key.symbols.get group level.index).isSome = true → (key.symbols.get 0 0).isSome = true))

def Key.sounds (keycode : UInt32) (key : Key) : Bool :=
  key.keycode == keycode && (key.symbols.get 0 0).isSome

def Event.isActivation (keycode : UInt32) (state : KeyState) (event : Event) : Bool :=
  event.activation?.any fun a => a.keycode == keycode && a.state == state

theorem Level.mem_all (level : Level) : level ∈ all := by
  cases level <;> decide

theorem Key.isSome_symbol {key : Key} (h : key.IsWhole) (group : Nat) (level : Level) :
    (key.symbol group level.index).isSome = (key.symbols.get 0 0).isSome := by
  rw [symbol, SymbolTable.getOr, Option.isSome_or]
  cases hs : (key.symbols.get group level.index).isSome with
  | false => rfl
  | true =>
    have hg : group < key.symbols.groups := by
      by_contra hg
      have hn : key.symbols.get group level.index = none := by simp [SymbolTable.get, hg]
      rw [hn] at hs
      exact Bool.noConfusion hs
    exact (h group hg level level.mem_all hs).symm

def Layout.capital : Layout where
  name := "capital"
  sections := [{
    name := "main"
    keys := [.ofMask "LFSH" Flag.shift.mask,
      { name := "AC01", keycode := 38, groups := [[none, some (.custom "A" {} .letter .empty)]] }] }]

namespace Outcome

def activations (o : Outcome) (keycode : UInt32) (state : KeyState) : Nat :=
  o.events.countP (Event.isActivation keycode state)

/-- No key event was reported, and the same keys are pressed. -/
structure Quiet (o : Outcome) (k : Keyboard) : Prop where
  pressed : o.keyboard.pressed = k.pressed
  silent : ∀ event ∈ o.events, event.activation? = none

variable {o : Outcome} {k : Keyboard} {keycode : UInt32}

theorem activations_andThen (o : Outcome) (f : Keyboard → Outcome) (state : KeyState) :
    (o.andThen f).activations keycode state =
      o.activations keycode state + (f o.keyboard).activations keycode state :=
  List.countP_append

theorem Lights.quiet (h : o.Lights) (hp : o.keyboard.pressed = k.pressed) : o.Quiet k :=
  ⟨hp, fun event he => (h event he).2⟩

theorem Quiet.still (k : Keyboard) : (⟨k, []⟩ : Outcome).Quiet k :=
  ⟨rfl, by simp⟩

theorem Quiet.andThen {f : Keyboard → Outcome} (h : o.Quiet k)
    (hf : (f o.keyboard).Quiet o.keyboard) : (o.andThen f).Quiet k := by
  refine ⟨hf.pressed.trans h.pressed, ?_⟩
  intro event he
  rcases List.mem_append.mp he with he | he
  · exact h.silent event he
  · exact hf.silent event he

theorem Quiet.activations_eq_zero (h : o.Quiet k) (state : KeyState) :
    o.activations keycode state = 0 := by
  apply List.countP_eq_zero.mpr
  intro event he
  simp [Event.isActivation, h.silent event he]

end Outcome

namespace Keyboard

def hasCode (k : Keyboard) (keycode : UInt32) (id : KeyId) : Bool :=
  (k.key? id).any fun key => key.keycode == keycode

def activates (k : Keyboard) (keycode : UInt32) (id : KeyId) : Bool :=
  (k.resolve id).isSome && k.hasCode keycode id

def sounds (k : Keyboard) (keycode : UInt32) (id : KeyId) : Bool :=
  (k.key? id).any (Key.sounds keycode)

def pressesAnew (k : Keyboard) : List Operation → Bool
  | [] => true
  | .press id t :: ops => !k.pressed.contains id && (k.press id t).keyboard.pressesAnew ops
  | op :: ops => (k.step op).keyboard.pressesAnew ops

variable (k : Keyboard)

theorem quiet_unlock (m : Mask) : (k.unlock m).Quiet k := by
  have hp := congrArg pressed (k.unlit_unlock m)
  exact (k.lights_unlock m).quiet hp

theorem quiet_clear (m : Mask) : (k.clear m).Quiet k := by
  have hp := congrArg pressed (k.unlit_clear m)
  exact (k.lights_clear m).quiet hp

theorem quiet_changeModifiers (id : KeyId) (m : Mask) : (k.changeModifiers id m).Quiet k := by
  have hp := congrArg pressed (k.unlit_changeModifiers id m)
  exact (k.lights_changeModifiers id m).quiet hp

theorem quiet_showLevel (level : Level) : (k.showLevel level).Quiet k := by
  unfold showLevel
  split
  next => exact .still k
  next => exact ⟨rfl, by simp [Event.activation?]⟩

theorem quiet_setGroup (group : Nat) : (k.setGroup group).Quiet k := by
  unfold setGroup
  split
  next => exact .still k
  next => exact ⟨rfl, by simp [Event.activation?]⟩

theorem quiet_refreshLevel (toggled : Bool) : (k.refreshLevel toggled).Quiet k := by
  rw [refreshLevel_eq]
  have hs : (if k.level.crosses k.modifiers toggled then k.clear Flag.shift.mask
      else ⟨k, []⟩).Quiet k := by
    split
    next => exact k.quiet_clear _
    next => exact .still k
  have hl := fun k' : Keyboard => quiet_showLevel
    { k' with behavior := behaviorFor (k.level.next k.modifiers toggled) }
    (k.level.next k.modifiers toggled)
  exact hs.andThen ⟨(hl _).pressed, (hl _).silent⟩

theorem quiet_settle (id : KeyId) (m : Mask) : (k.settle id m).Quiet k :=
  (k.quiet_changeModifiers id m).andThen (quiet_refreshLevel _ _)

theorem quiet_setModifiers (m : Mask) : (k.setModifiers m).Quiet k := by
  have hr := fun k' : Keyboard => quiet_refreshLevel { k' with modifiers := m } false
  exact (k.quiet_unlock _).andThen ⟨(hr _).pressed, (hr _).silent⟩

theorem quiet_reset : k.reset.Quiet k := by
  have hl := fun k' : Keyboard => quiet_showLevel
    { k' with sections := k'.sections.map Section.reset, behavior := .none } .lettersLower
  exact (k.quiet_clear _).andThen ⟨(hl _).pressed, (hl _).silent⟩

theorem pressesAnew_cons {k : Keyboard} {op : Operation} {ops : List Operation}
    (h : k.pressesAnew (op :: ops) = true) :
    (∀ id t, op = .press id t → id ∉ k.pressed) ∧ (k.step op).keyboard.pressesAnew ops = true := by
  cases op with
  | press id t =>
    rw [pressesAnew, Bool.and_eq_true] at h
    refine ⟨?_, h.2⟩
    rintro _ _ ⟨⟩
    simpa using h.1
  | release _ _ | releaseAll _ | setModifiers _ | setLevel _ | setGroup _ | setBehavior _
  | setNumLockMask _ | setAltGrMask _ | reset => exact ⟨fun _ _ he => (nomatch he), h⟩

theorem hasCode_of_body {k k' : Keyboard} (h : k'.body = k.body) (keycode : UInt32) (id : KeyId) :
    k'.hasCode keycode id = k.hasCode keycode id :=
  read_key?_of_body h (fun key => by cases key <;> rfl) id

theorem sounds_of_body {k k' : Keyboard} (h : k'.body = k.body) (keycode : UInt32) :
    k'.sounds keycode = k.sounds keycode :=
  funext (read_key?_of_body h fun key => by cases key <;> rfl)

theorem activations_report (id : KeyId) (symbol : Symbol) (state : KeyState) (t keycode : UInt32)
    (state' : KeyState) : (k.report id symbol state t).activations keycode state' =
      (k.hasCode keycode id && state == state').toNat := by
  unfold report hasCode Outcome.activations
  cases k.key? id with
  | none => rfl
  | some key =>
    rw [List.countP_singleton]
    exact (Bool.cond_eq_ite _ _ _).symm

theorem activations_quiet_report {o : Outcome} {k k' : Keyboard} (hq : o.Quiet k')
    (hb : o.keyboard.body = k.body) (id : KeyId) (symbol : Symbol) (state : KeyState)
    (t keycode : UInt32) (state' : KeyState) :
    (o.andThen fun k => k.report id symbol state t).activations keycode state' =
      (k.hasCode keycode id && state == state').toNat := by
  rw [Outcome.activations_andThen, hq.activations_eq_zero, activations_report, hasCode_of_body hb,
    Nat.zero_add]

theorem activations_press (id : KeyId) (t keycode : UInt32) (state : KeyState) :
    (k.press id t).activations keycode state =
      (k.activates keycode id && .pressed == state).toNat := by
  have hbody := k.body_press id t
  unfold activates
  rcases k.press_cases id t with ⟨hk, he⟩ | ⟨_, hr, he⟩ | ⟨symbol, _, hr, _, he⟩ |
    ⟨symbol, _, hr, _, he⟩
  · have hn : k.hasCode keycode id = false := by simp [hasCode, hk]
    rw [he, hn, Bool.and_false, Bool.false_and]
    rfl
  · rw [he, hr]
    rfl
  · rw [he, keyboard_report] at hbody
    have h := activations_quiet_report (.still (k.hold id)) hbody id symbol .pressed t keycode state
    rw [Outcome.still_andThen] at h
    rw [he, hr, h]
    rfl
  · rw [he, Outcome.keyboard_andThen, keyboard_report] at hbody
    have h := activations_quiet_report (quiet_settle _ id _) hbody id symbol .pressed t keycode state
    rw [he, hr, h]
    rfl

theorem activations_release (id : KeyId) (t keycode : UInt32) (state : KeyState) :
    (k.release id t).activations keycode state =
      if id ∈ k.pressed then (k.activates keycode id && .released == state).toNat else 0 := by
  have hbody := k.body_release id t
  unfold activates
  rcases k.release_cases id t with ⟨hm, he⟩ | ⟨hm, hr, he⟩ | ⟨symbol, hm, hr, he⟩
  · rw [he, if_neg hm]
    rfl
  · rw [he, if_pos hm, hr]
    rfl
  · rw [he, Outcome.keyboard_andThen, keyboard_report] at hbody
    have h := activations_quiet_report (quiet_settle _ id _) hbody id symbol .released t keycode state
    rw [he, if_pos hm, hr, h]
    rfl

theorem activates_of_whole {k : Keyboard} {keycode : UInt32} {id : KeyId}
    (h : ∀ key, k.key? id = some key → key.keycode = keycode → key.IsWhole) :
    k.activates keycode id = k.sounds keycode id := by
  cases hk : k.key? id with
  | none => simp [activates, hasCode, sounds, hk]
  | some key =>
    have hc : k.hasCode keycode id = (key.keycode == keycode) := by rw [hasCode, hk, Option.any_some]
    have hs : k.sounds keycode id = (key.keycode == keycode && (key.symbols.get 0 0).isSome) := by
      rw [sounds, hk, Option.any_some, Key.sounds]
    rw [activates, hc, hs]
    by_cases he : key.keycode = keycode
    · obtain ⟨level, hr⟩ := exists_resolve_eq hk
      rw [hr, Key.isSome_symbol (h key hk he), Bool.and_comm]
    · have hb : (key.keycode == keycode) = false := beq_eq_false_iff_ne.mpr he
      rw [hb, Bool.and_false, Bool.false_and]

end Keyboard

namespace Outcome

/-- More presses than releases were reported by as many keys as are held. -/
structure Balanced (keycode : UInt32) (o : Outcome) : Prop where
  whole : ∀ id key, o.keyboard.key? id = some key → key.keycode = keycode → key.IsWhole
  count : o.activations keycode .pressed =
    o.activations keycode .released + o.keyboard.pressed.countP (o.keyboard.sounds keycode)

namespace Balanced

variable {keycode : UInt32} {k : Keyboard} {past : List Event}

theorem extend {o : Outcome} (h : Balanced keycode ⟨k, past⟩) (hb : o.keyboard.body = k.body)
    (hc : o.activations keycode .pressed + k.pressed.countP (k.sounds keycode) =
      o.activations keycode .released + o.keyboard.pressed.countP (k.sounds keycode)) :
    Balanced keycode ⟨o.keyboard, past ++ o.events⟩ := by
  refine ⟨?_, ?_⟩
  · intro id key hk he
    obtain ⟨old, ho, hidle⟩ := Keyboard.exists_idle_of_body hb hk
    have hcode : old.idle.keycode = key.idle.keycode := congrArg Key.keycode hidle
    have hw : old.idle.IsWhole := h.whole id old ho (hcode.trans he)
    rw [hidle] at hw
    exact hw
  · have hold : (⟨k, past⟩ : Outcome).activations keycode .pressed =
        (⟨k, past⟩ : Outcome).activations keycode .released + k.pressed.countP (k.sounds keycode) :=
      h.count
    have happ : ∀ state, (⟨o.keyboard, past ++ o.events⟩ : Outcome).activations keycode state =
        (⟨k, past⟩ : Outcome).activations keycode state + o.activations keycode state :=
      fun _ => List.countP_append
    have hcount : (⟨k, past⟩ : Outcome).activations keycode .pressed +
        o.activations keycode .pressed =
      (⟨k, past⟩ : Outcome).activations keycode .released + o.activations keycode .released +
        o.keyboard.pressed.countP (k.sounds keycode) := by omega
    rw [happ, happ, Keyboard.sounds_of_body hb]
    exact hcount

theorem of_quiet {o : Outcome} (hq : o.Quiet k) (hb : o.keyboard.body = k.body) :
    Keeps (Balanced keycode) k o := by
  intro past h
  apply h.extend hb
  rw [hq.activations_eq_zero, hq.activations_eq_zero, hq.pressed]

theorem press {id : KeyId} (hn : id ∉ k.pressed) (t : UInt32) :
    Keeps (Balanced keycode) k (k.press id t) := by
  intro past h
  have hs : k.activates keycode id = k.sounds keycode id := Keyboard.activates_of_whole (h.whole id)
  apply h.extend (k.body_press id t)
  rw [k.activations_press, k.activations_press, k.pressed_press, hs]
  cases hk : k.key? id with
  | none =>
    have hz : k.sounds keycode id = false := by simp [Keyboard.sounds, hk]
    rw [hz]
    rfl
  | some key =>
    rw [List.erase_of_not_mem hn, Option.isSome_some, if_pos rfl, List.countP_cons]
    cases k.sounds keycode id with
    | false => rfl
    | true => exact (Nat.add_comm 1 _).trans (Nat.zero_add _).symm

theorem release (id : KeyId) (t : UInt32) : Keeps (Balanced keycode) k (k.release id t) := by
  intro past h
  have hs : k.activates keycode id = k.sounds keycode id := Keyboard.activates_of_whole (h.whole id)
  apply h.extend (k.body_release id t)
  rw [k.activations_release, k.activations_release, k.pressed_release, hs]
  by_cases hi : id ∈ k.pressed
  · rw [if_pos hi, if_pos hi, (List.perm_cons_erase hi).countP_eq, List.countP_cons]
    cases k.sounds keycode id with
    | false => rfl
    | true => exact (Nat.zero_add _).trans (Nat.add_comm _ 1)
  · rw [if_neg hi, if_neg hi, List.erase_of_not_mem hi]

theorem step {op : Keyboard.Operation} (hn : ∀ id t, op = .press id t → id ∉ k.pressed) :
    Keeps (Balanced keycode) k (k.step op) := by
  have hb := k.body_step op
  cases op with
  | press id t => exact press (hn id t rfl) t
  | release id t => exact release id t
  | releaseAll t => exact .chain (fun k id _ => release id t) k
  | setModifiers m => exact of_quiet (k.quiet_setModifiers m) hb
  | setLevel level => exact of_quiet (k.quiet_showLevel level) hb
  | setGroup group => exact of_quiet (k.quiet_setGroup group) hb
  | setBehavior _ | setNumLockMask _ | setAltGrMask _ => exact of_quiet ⟨rfl, by simp [Keyboard.step]⟩ hb
  | reset => exact of_quiet k.quiet_reset hb

theorem run {ops : List Keyboard.Operation} (h : k.pressesAnew ops = true) :
    Keeps (Balanced keycode) k (k.run ops) := by
  induction ops generalizing k with
  | nil => exact .still k
  | cons op ops ih =>
    obtain ⟨hn, hr⟩ := Keyboard.pressesAnew_cons h
    rw [Keyboard.run_cons]
    exact (step hn).andThen (ih hr)

end Balanced

end Outcome

namespace Keyboard

theorem pressed_releaseAll (k : Keyboard) (t : UInt32) : (k.releaseAll t).keyboard.pressed = [] := by
  have hall : ∀ ids (k : Keyboard), k.pressed = ids →
      (Outcome.chain k ids fun k id => k.release id t).keyboard.pressed = [] := by
    intro ids
    induction ids with
    | nil =>
      intro k hk
      exact hk
    | cons id ids ih =>
      intro k hk
      rw [Outcome.chain_cons, Outcome.keyboard_andThen]
      apply ih
      rw [pressed_release, hk, List.erase_cons_head]
  exact hall k.pressed k rfl

theorem keyboard_setGroup (k : Keyboard) (group : Nat) :
    (k.setGroup group).keyboard = { k with group } := by
  unfold setGroup
  split
  next h => rw [← h]
  next => rfl

def lapse (level : Level) (group : Nat) (id : KeyId) (group' : Nat) : List Operation :=
  [.setLevel level, .setGroup group, .press id 0, .setGroup group', .release id 0]

def showing (k : Keyboard) (level : Level) (group : Nat) : Keyboard :=
  { k with level, group }

def lapsing (k : Keyboard) (level : Level) (group : Nat) (id : KeyId) (group' : Nat) : Keyboard :=
  { ((k.showing level group).press id 0).keyboard with group := group' }

theorem run_lapse (k : Keyboard) (level : Level) (group : Nat) (id : KeyId) (group' : Nat) :
    k.run (lapse level group id group') =
      (((((⟨k, []⟩ : Outcome).andThen fun k => k.showLevel level).andThen
        fun k => k.setGroup group).andThen fun k => k.press id 0).andThen
          fun k => k.setGroup group').andThen fun k => k.release id 0 :=
  rfl

theorem keyboard_lapse (k : Keyboard) (level : Level) (group : Nat) (id : KeyId) (group' : Nat) :
    (k.run (lapse level group id group')).keyboard =
      ((k.lapsing level group id group').release id 0).keyboard := by
  simp only [run_lapse, Outcome.keyboard_andThen, keyboard_showLevel, keyboard_setGroup, lapsing, showing]

theorem activations_lapse (k : Keyboard) (level : Level) (group : Nat) (id : KeyId) (group' : Nat)
    (keycode : UInt32) (state : KeyState) :
    (k.run (lapse level group id group')).activations keycode state =
      ((k.showing level group).press id 0).activations keycode state +
        ((k.lapsing level group id group').release id 0).activations keycode state := by
  simp only [run_lapse, Outcome.activations_andThen, Outcome.keyboard_andThen, keyboard_showLevel,
    keyboard_setGroup, (quiet_showLevel _ _).activations_eq_zero,
    (quiet_setGroup _ _).activations_eq_zero, (Outcome.Quiet.still _).activations_eq_zero,
    Nat.zero_add, Nat.add_zero, lapsing, showing]

theorem resolve_ofLayout {layout : Layout} {id : KeyId} {d : KeyLayout}
    (hd : (id, d) ∈ layout.keys) (level : Level) (group : Nat) :
    ((ofLayout layout).showing level group).resolve id = d.key.symbol group level.index := by
  obtain ⟨s, hs, hk⟩ := Layout.mem_keys.mp hd
  have hsections : (ofLayout layout).sections = layout.sections.map SectionLayout.section :=
    congrArg sections (ofLayout_eq layout)
  have hsection : ((ofLayout layout).showing level group).section? id.sectionIndex =
      some s.section := by
    rw [section?, showing, hsections, List.getElem?_map, hs]
    rfl
  have hkey : s.section.keys[id.keyIndex]? = some d.key := by
    rw [SectionLayout.section, List.getElem?_map, hk]
    rfl
  rw [resolve_eq_bind, hsection, Option.bind_some, hkey]
  rfl

theorem resolve_of_groups_le {k : Keyboard} {id : KeyId} {key : Key} (hk : k.key? id = some key)
    (hg : key.symbols.groups ≤ k.group) : k.resolve id = key.symbols.get 0 0 := by
  obtain ⟨level, hr⟩ := exists_resolve_eq hk
  have hn : key.symbols.get k.group level.index = none := by
    simp [SymbolTable.get, Nat.not_lt.mpr hg]
  rw [hr, Key.symbol, SymbolTable.getOr, hn, Option.none_or]

theorem activations_release_of_not_activates {k : Keyboard} {keycode : UInt32} {id : KeyId}
    (h : k.activates keycode id = false) (t : UInt32) (state : KeyState) :
    (k.release id t).activations keycode state = 0 := by
  rw [activations_release, h, Bool.false_and]
  exact ite_self _

/-- One press is reported for a key that is not whole, and no release. -/
theorem exists_unbalanced {layout : Layout} {id : KeyId} {d : KeyLayout}
    (hd : (id, d) ∈ layout.keys) (hw : ¬d.key.IsWhole) :
    ∃ ops, (ofLayout layout).pressesAnew ops = true ∧
      ((ofLayout layout).run ops).keyboard.pressed = [] ∧
      ((ofLayout layout).run ops).activations d.key.keycode .pressed = 1 ∧
      ((ofLayout layout).run ops).activations d.key.keycode .released = 0 := by
  obtain ⟨group, _, level, _, hs, hfirst⟩ : ∃ group < d.key.symbols.groups, ∃ level ∈ Level.all,
      (d.key.symbols.get group level.index).isSome = true ∧ d.key.symbols.get 0 0 = none := by
    simpa [Key.IsWhole] using hw
  let start : Keyboard := (ofLayout layout).showing level group
  let last : Keyboard := (ofLayout layout).lapsing level group id d.key.symbols.groups
  have hp : (ofLayout layout).pressed = [] := congrArg pressed (fresh_ofLayout layout)
  have hkey : start.key? id = some d.key := (key?_ofLayout layout).mpr ⟨d, hd, rfl⟩
  have hpressed : last.pressed = [id] := by
    have h := start.pressed_press id 0
    rw [hkey, Option.isSome_some, if_pos rfl] at h
    exact h.trans (congrArg (fun l : List KeyId => id :: l.erase id) hp)
  have hstart : start.activates d.key.keycode id = true := by
    have hcode : start.hasCode d.key.keycode id = true := by
      rw [hasCode, hkey, Option.any_some]
      exact beq_self_eq_true _
    rw [activates, resolve_ofLayout hd, Key.symbol, SymbolTable.getOr, Option.isSome_or, hs, hcode]
    rfl
  have hlast : last.activates d.key.keycode id = false := by
    have hbody : last.body = start.body := start.body_press id 0
    obtain ⟨key, hk, hidle⟩ := exists_idle_of_body hbody.symm hkey
    have hsym : key.idle.symbols = d.key.idle.symbols := congrArg Key.symbols hidle
    have hg : key.symbols.groups ≤ last.group := Nat.le_of_eq (congrArg SymbolTable.groups hsym)
    have hnone : key.symbols.get 0 0 = none := (congrArg (SymbolTable.get · 0 0) hsym).trans hfirst
    rw [activates, resolve_of_groups_le hk hg, hnone]
    rfl
  refine ⟨lapse level group id d.key.symbols.groups, ?_, ?_, ?_, ?_⟩
  · simp [lapse, pressesAnew, step, keyboard_showLevel, keyboard_setGroup, hp]
  · rw [keyboard_lapse, pressed_release, hpressed, List.erase_cons_head]
  · rw [activations_lapse, activations_press, activations_release_of_not_activates hlast, hstart]
    rfl
  · rw [activations_lapse, activations_press, activations_release_of_not_activates hlast, hstart]
    rfl

/-- The keys with a keycode are all whole just if this holds of every run that presses no key again
while it is held: whenever no key is pressed, which is so right after a release of all keys, as many
presses as releases have been reported with the keycode. -/
theorem activations_balance_iff (layout : Layout) (keycode : UInt32) :
    ((∀ ops, (ofLayout layout).pressesAnew ops = true →
        let o := (ofLayout layout).run ops
        o.keyboard.pressed = [] →
          o.activations keycode .pressed = o.activations keycode .released) ↔
      ∀ d ∈ layout.keys, d.2.key.keycode = keycode → d.2.key.IsWhole) ∧
    ∀ ops t, ((ofLayout layout).run (ops ++ [.releaseAll t])).keyboard.pressed = [] := by
  refine ⟨⟨?_, ?_⟩, ?_⟩
  · intro h d hd he
    by_contra hw
    obtain ⟨ops, hn, hp, hpress, hrel⟩ := exists_unbalanced hd hw
    have heq := h ops hn hp
    rw [← he, hpress, hrel] at heq
    exact Nat.one_ne_zero heq
  · intro hw ops hn o hp
    have hfresh : Outcome.Balanced keycode ⟨ofLayout layout, []⟩ := by
      refine ⟨?_, ?_⟩
      · intro id key hk he
        obtain ⟨d, hd, rfl⟩ := (key?_ofLayout layout).mp hk
        exact hw _ hd he
      · have hnone : (ofLayout layout).pressed = [] := congrArg pressed (fresh_ofLayout layout)
        rw [hnone]
        rfl
    have hrun : Outcome.Balanced keycode o := (Outcome.Balanced.run hn).holds hfresh
    have hcount := hrun.count
    rw [hp] at hcount
    exact hcount
  · intro ops t
    rw [run_append, Outcome.keyboard_andThen]
    exact pressed_releaseAll _ t

/-- The shift is released before the capital letter, which is then left without a symbol. -/
theorem capital_stays_down :
    let ops : List Operation := [.press ⟨0, 0⟩ 1, .press ⟨0, 1⟩ 2, .release ⟨0, 0⟩ 3,
      .release ⟨0, 1⟩ 4]
    let o := (ofLayout .capital).run ops
    (ofLayout .capital).pressesAnew ops = true ∧ o.keyboard.pressed = [] ∧
      o.activations 38 .pressed = 1 ∧ o.activations 38 .released = 0 := by
  decide

end Keyboard

end ScreenKeyboard
