import Mathlib.Algebra.Ring.Parity
import ScreenKeyboard.Proofs.Keyboard.Agreement
import ScreenKeyboard.Proofs.Keyboard.Balance
import ScreenKeyboard.Proofs.Keyboard.Releases
import ScreenKeyboard.Proofs.Layout.Findings

namespace ScreenKeyboard

namespace Keyboard

def Operation.setsAxis : Operation → Bool
  | .setLevel _ | .reset => true
  | _ => false

def switches (k : Keyboard) (id : KeyId) : Bool :=
  k.isToggle id && (k.resolve id).isSome

def switchesBack (k : Keyboard) (id : KeyId) : Bool :=
  k.pressed.contains id && k.switches id

/-- How many toggle events an operation comes to; presses count where modifiers last while held. -/
def togglesOf (k : Keyboard) : Operation → Nat
  | .press id _ => (k.behavior == .none && k.switches id).toNat
  | .release id _ => (k.switchesBack id).toNat
  | .releaseAll t => (k.releasesOf t k.pressed).countP fun r => r.1.switchesBack r.2
  | _ => 0

def toggles (k : Keyboard) : List Operation → Nat
  | [] => 0
  | op :: ops => k.togglesOf op + (k.step op).keyboard.toggles ops

end Keyboard

/-- The axis was changed as often as this, so it is the same one just if the number is even. -/
def Outcome.Flips (o : Outcome) (k : Keyboard) (n : Nat) : Prop :=
  o.keyboard.level.onNumbers = k.level.onNumbers ↔ Even n

namespace Outcome.Flips

variable {o : Outcome} {k : Keyboard}

theorem of_level_eq (h : o.keyboard.level = k.level) : o.Flips k 0 := by
  simp [Flips, h]

theorem andThen {f : Keyboard → Outcome} {m n : Nat} (h : o.Flips k m)
    (hf : (f o.keyboard).Flips o.keyboard n) : (o.andThen f).Flips k (m + n) := by
  unfold Flips at h hf ⊢
  rw [Nat.even_add, ← h, ← hf, keyboard_andThen]
  cases k.level.onNumbers <;> cases o.keyboard.level.onNumbers <;>
    cases (f o.keyboard).keyboard.level.onNumbers <;> decide

theorem of_turns {m : Mask} {toggled : Bool} (h : o.Turns k m toggled) :
    o.Flips k toggled.toNat := by
  rw [Flips, h.level, Level.next, Level.onNumbers_ofAxes]
  cases toggled <;> cases k.level.onNumbers <;> decide

end Outcome.Flips

namespace Keyboard

variable (k : Keyboard)

theorem flips_press (id : KeyId) (t : UInt32) : (k.press id t).Flips k (k.togglesOf (.press id t)) := by
  by_cases hb : k.behavior = .none
  · cases hr : k.resolve id with
    | none =>
      -- Without a symbol there is no turn: at most the key is held.
      have hn : k.togglesOf (.press id t) = 0 := by simp [togglesOf, switches, hr]
      rw [hn]
      apply Outcome.Flips.of_level_eq
      rcases k.press_cases id t with ⟨_, he⟩ | ⟨_, _, he⟩ | ⟨_, _, hs, _⟩ | ⟨_, _, hs, _⟩
      · rw [he]
      · rw [he]
        rfl
      · rw [hr] at hs
        exact nomatch hs
      · rw [hr] at hs
        exact nomatch hs
    | some symbol =>
      have hn : k.togglesOf (.press id t) = (k.isToggle id).toNat := by
        simp [togglesOf, switches, hr, hb]
      rw [hn]
      exact .of_turns (k.turns_press hb hr t)
  · have hn : k.togglesOf (.press id t) = 0 := by simp [togglesOf, hb]
    rw [hn]
    exact .of_level_eq (k.rests_press hb id t).level

theorem flips_release (id : KeyId) (t : UInt32) : (k.release id t).Flips k (k.switchesBack id).toNat := by
  by_cases hi : id ∈ k.pressed
  · cases hr : k.resolve id with
    | none =>
      have hn : k.switchesBack id = false := by simp [switchesBack, switches, hr]
      rw [hn]
      exact .of_level_eq (k.rests_release id t fun _ => hr).level
    | some symbol =>
      have hn : k.switchesBack id = k.isToggle id := by simp [switchesBack, switches, hi, hr]
      rw [hn]
      exact .of_turns (k.turns_release hi hr t)
  · have hn : k.switchesBack id = false := by simp [switchesBack, hi]
    rw [hn]
    exact .of_level_eq (k.rests_release id t fun h => absurd h hi).level

theorem flips_releases (t : UInt32) (ids : List KeyId) :
    (Outcome.chain k ids fun k id => k.release id t).Flips k
      ((k.releasesOf t ids).countP fun r => r.1.switchesBack r.2) := by
  induction ids generalizing k with
  | nil => exact .of_level_eq rfl
  | cons id ids ih =>
    rw [Outcome.chain_cons, releasesOf, List.countP_cons, Nat.add_comm]
    have hn : (if k.switchesBack id = true then 1 else 0) = (k.switchesBack id).toNat := by
      cases k.switchesBack id <;> rfl
    rw [hn]
    exact (k.flips_release id t).andThen (ih _)

theorem flips_step {op : Operation} (h : op.setsAxis = false) :
    (k.step op).Flips k (k.togglesOf op) := by
  cases op with
  | press id t => exact k.flips_press id t
  | release id t => exact k.flips_release id t
  | releaseAll t => exact k.flips_releases t k.pressed
  | setModifiers m => exact .of_turns (k.turns_setModifiers m)
  | setGroup group =>
    apply Outcome.Flips.of_level_eq
    rw [step, keyboard_setGroup]
  | setBehavior _ | setNumLockMask _ | setAltGrMask _ => exact .of_level_eq rfl
  | setLevel _ | reset => exact Bool.noConfusion h

theorem flips_run {ops : List Operation} (h : ∀ op ∈ ops, op.setsAxis = false) :
    (k.run ops).Flips k (k.toggles ops) := by
  induction ops generalizing k with
  | nil => exact .of_level_eq rfl
  | cons op ops ih =>
    rw [run_cons]
    exact (k.flips_step (h op List.mem_cons_self)).andThen
      (ih _ fun op hm => h op (List.mem_cons_of_mem _ hm))

theorem isToggle_of_body {k k' : Keyboard} (h : k'.body = k.body) (id : KeyId) :
    k'.isToggle id = k.isToggle id :=
  read_key?_of_body h (fun key => by cases key <;> rfl) id

theorem body_of_mem_releasesOf {t : UInt32} {ids : List KeyId} {r : Keyboard × KeyId}
    (h : r ∈ k.releasesOf t ids) : r.1.body = k.body := by
  induction ids generalizing k with
  | nil => exact absurd h List.not_mem_nil
  | cons id ids ih =>
    rcases List.mem_cons.mp h with rfl | h
    · rfl
    · exact (ih _ h).trans (k.body_release id t)

variable {k}

theorem togglesOf_eq_zero (h : ∀ id, k.isToggle id = false) (op : Operation) : k.togglesOf op = 0 := by
  cases op with
  | press id t => simp [togglesOf, switches, h]
  | release id t => simp [togglesOf, switchesBack, switches, h]
  | releaseAll t =>
    -- Each release meets another keyboard, but with the names of the first one.
    apply List.countP_eq_zero.mpr
    intro r hr
    have ht := isToggle_of_body (k.body_of_mem_releasesOf hr) r.2
    simp [switchesBack, switches, ht, h]
  | setModifiers _ | setLevel _ | setGroup _ | setBehavior _ | setNumLockMask _ | setAltGrMask _
  | reset => rfl

theorem toggles_eq_zero (h : ∀ id, k.isToggle id = false) (ops : List Operation) :
    k.toggles ops = 0 := by
  induction ops generalizing k with
  | nil => rfl
  | cons op ops ih =>
    have hs : ∀ id, (k.step op).keyboard.isToggle id = false := by
      intro id
      rw [isToggle_of_body (k.body_step op), h]
    rw [toggles, togglesOf_eq_zero h, ih hs]

theorem isToggle_ofLayout {layout : Layout} (h : ∀ key ∈ layout.keys, key.2.name ≠ toggleKeyName)
    (id : KeyId) : (ofLayout layout).isToggle id = false := by
  cases hk : (ofLayout layout).key? id with
  | none => rw [isToggle, hk, Option.any_none]
  | some key =>
    obtain ⟨d, hd, rfl⟩ := (key?_ofLayout layout).mp hk
    have hn : d.key.name ≠ toggleKeyName := h _ hd
    rw [isToggle, hk, Option.any_some, Key.isToggle]
    exact beq_eq_false_iff_ne.mpr hn

/-- Unless the host shows levels by itself or resets the keyboard, the level is on the numbers axis
just if the number of toggle events is odd. So a layout whose validation warns that there is no
toggle key leaves the letters on no run. -/
theorem axis_is_parity_every_run (layout : Layout) (ops : List Operation)
    (h : ∀ op ∈ ops, op.setsAxis = false) :
    let k := ((ofLayout layout).run ops).keyboard
    ((k.level = .numbers ∨ k.level = .symbols) ↔ Odd ((ofLayout layout).toggles ops)) ∧
    ∀ loaded, layout.validate = .ok loaded →
      (∃ issue ∈ loaded.warnings, issue.message = "No level toggle key") →
      k.level ≠ .numbers ∧ k.level ≠ .symbols := by
  intro k
  have hfresh : (ofLayout layout).level = .lettersLower := congrArg level (fresh_ofLayout layout)
  have hflips : k.level.onNumbers = Level.lettersLower.onNumbers ↔ Even ((ofLayout layout).toggles ops) :=
    hfresh ▸ (ofLayout layout).flips_run h
  have hodd : (k.level = .numbers ∨ k.level = .symbols) ↔ Odd ((ofLayout layout).toggles ops) := by
    rw [← Nat.not_even_iff_odd, ← hflips]
    cases k.level <;> decide
  refine ⟨hodd, ?_⟩
  intro loaded hl hw
  have hnone := isToggle_ofLayout ((Layout.warns_noToggleKey_iff hl).mp hw)
  rw [toggles_eq_zero hnone] at hodd
  exact not_or.mp fun hn => absurd (hodd.mp hn) (by decide)

theorem axis_is_parity_roundTrip :
    let k := ofLayout .small
    let there := (k.run (roundTrip.take 4)).keyboard
    let back := (k.run roundTrip).keyboard
    (∀ op ∈ roundTrip, op.setsAxis = false) ∧
    k.toggles (roundTrip.take 4) = 1 ∧ (there.level = .numbers ∨ there.level = .symbols) ∧
    k.toggles roundTrip = 2 ∧ ¬(back.level = .numbers ∨ back.level = .symbols) ∧
    (∃ loaded, Layout.capital.validate = .ok loaded ∧
      ∃ issue ∈ loaded.warnings, issue.message = "No level toggle key") ∧
    ((ofLayout .capital).run roundTrip).keyboard.level ≠ .numbers ∧
    ((ofLayout .capital).run roundTrip).keyboard.level ≠ .symbols := by
  have hthere : (ofLayout .small).toggles (roundTrip.take 4) = 1 := by decide
  have hback : (ofLayout .small).toggles roundTrip = 2 := by decide
  have hv : Layout.capital.validate = .ok ⟨.capital, Issue.sort Layout.capital.warnings⟩ := rfl
  have hw := (Layout.warns_noToggleKey_iff hv).mpr (by decide)
  have ho : ∀ op ∈ roundTrip, op.setsAxis = false := by decide
  obtain ⟨hodd, _⟩ := axis_is_parity_every_run .small (roundTrip.take 4)
    fun op hm => ho op (List.mem_of_mem_take hm)
  obtain ⟨heven, _⟩ := axis_is_parity_every_run .small roundTrip ho
  obtain ⟨_, hnone⟩ := axis_is_parity_every_run .capital roundTrip ho
  have hnot : ¬Odd ((ofLayout .small).toggles roundTrip) := by
    rw [hback]
    decide
  exact ⟨ho, hthere, hodd.mpr (hthere ▸ odd_one), hback, fun h => hnot (heven.mp h), ⟨_, hv, hw⟩,
    hnone _ hv hw⟩

end Keyboard

end ScreenKeyboard
