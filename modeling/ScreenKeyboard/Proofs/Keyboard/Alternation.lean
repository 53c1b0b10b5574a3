import Mathlib.Data.List.Chain
import ScreenKeyboard.Proofs.Keyboard.Balance

namespace ScreenKeyboard

def Key.code? (key : Key) : Option UInt32 :=
  if (key.symbols.get 0 0).isSome then some key.keycode else none

/-- The second key event may come right after the first: only a release can follow a press, with its
keycode, and only a press can follow a release. -/
def Activation.Precedes (a b : Activation) : Prop :=
  a.state ≠ b.state ∧ (b.state = .released → b.keycode = a.keycode)

instance (a b : Activation) : Decidable (a.Precedes b) :=
  inferInstanceAs (Decidable (_ ∧ _))

/-- Presses and releases come by turns, and the keycode of the press that is not released yet. -/
structure ByTurns (events : List Activation) (held : Option UInt32) : Prop where
  first : ∀ a ∈ events.head?, a.state = .pressed
  chain : events.IsChain Activation.Precedes
  last : ∀ keycode, held = some keycode ↔
    ∃ a, events.getLast? = some a ∧ a.state = .pressed ∧ a.keycode = keycode

namespace Outcome

def keyEvents (o : Outcome) : List Activation :=
  o.events.filterMap Event.activation?

def Reports (o : Outcome) (keycode : Option UInt32) (state : KeyState) : Prop :=
  o.keyEvents.map (fun a => (a.keycode, a.state)) = keycode.toList.map fun keycode => (keycode, state)

end Outcome

namespace ByTurns

variable {events : List Activation} {a : Activation} {o : Outcome} {code held : Option UInt32}

theorem nil : ByTurns [] none :=
  ⟨by simp, List.isChain_nil, by simp⟩

theorem concat (h : ByTurns events code) (hf : events = [] → a.state = .pressed)
    (hx : ∀ x ∈ events.getLast?, x.Precedes a)
    (hl : ∀ keycode, held = some keycode ↔ a.state = .pressed ∧ a.keycode = keycode) :
    ByTurns (events ++ [a]) held := by
  refine ⟨?_, ?_, ?_⟩
  · cases events with
    | nil => simpa using hf
    | cons b events => simpa using h.first
  · exact List.isChain_append.mpr ⟨h.chain, List.isChain_singleton a, by simpa using hx⟩
  · simpa using hl

theorem press (h : ByTurns events none) (ha : a.state = .pressed) :
    ByTurns (events ++ [a]) (some a.keycode) := by
  -- A last key event that is a press would be held.
  apply h.concat (fun _ => ha)
  · intro x hx
    have hn : x.state ≠ .pressed := by
      intro hp
      exact nomatch (h.last x.keycode).mpr ⟨x, hx, hp, rfl⟩
    refine ⟨ha ▸ hn, ?_⟩
    rw [ha]
    exact nofun
  · simp [ha]

theorem release (h : ByTurns events (some a.keycode)) (ha : a.state = .released) :
    ByTurns (events ++ [a]) none := by
  obtain ⟨last, hlast, hp, hc⟩ := (h.last a.keycode).mp rfl
  apply h.concat
  · rintro rfl
    exact nomatch hlast
  · intro x hx
    cases Option.some.inj (hlast.symm.trans hx)
    refine ⟨?_, fun _ => hc.symm⟩
    rw [hp, ha]
    exact nofun
  · simp [ha]

end ByTurns

namespace Outcome.Reports

variable {events : List Activation} {o : Outcome} {code : Option UInt32} {state : KeyState}

theorem keyEvents_eq (h : o.Reports code state) : o.keyEvents = [] ∧ code = none ∨
    ∃ a, o.keyEvents = [a] ∧ code = some a.keycode ∧ a.state = state := by
  unfold Reports at h
  cases code with
  | none => exact Or.inl ⟨List.map_eq_nil_iff.mp h, rfl⟩
  | some keycode =>
    obtain ⟨a, ha, he⟩ := List.map_eq_singleton_iff.mp h
    cases he
    exact Or.inr ⟨a, ha, rfl, rfl⟩

theorem press (h : o.Reports code .pressed) (he : ByTurns events none) :
    ByTurns (events ++ o.keyEvents) code := by
  rcases h.keyEvents_eq with ⟨hn, rfl⟩ | ⟨a, ha, rfl, hs⟩
  · rw [hn, List.append_nil]
    exact he
  · rw [ha]
    exact he.press hs

theorem release (h : o.Reports code .released) (he : ByTurns events code) :
    ByTurns (events ++ o.keyEvents) none := by
  rcases h.keyEvents_eq with ⟨hn, rfl⟩ | ⟨a, ha, rfl, hs⟩
  · rw [hn, List.append_nil]
    exact he
  · rw [ha]
    exact he.release hs

end Outcome.Reports

namespace Keyboard

def codeNow? (k : Keyboard) (id : KeyId) : Option UInt32 :=
  (k.resolve id).bind fun _ => (k.key? id).map Key.keycode

def code? (k : Keyboard) (id : KeyId) : Option UInt32 :=
  (k.key? id).bind Key.code?

def heldCode? (k : Keyboard) : Option UInt32 :=
  k.pressed.head?.bind k.code?

variable {k k' : Keyboard} {o : Outcome} {id : KeyId}

theorem code?_of_body (h : k'.body = k.body) (id : KeyId) : k'.code? id = k.code? id :=
  read_key?_of_body h (g := (·.bind Key.code?)) (fun key => by cases key <;> rfl) id

/-- Whether a whole key is reported does not depend on what is shown. -/
theorem codeNow?_of_whole (h : ∀ key, k.key? id = some key → key.IsWhole) :
    k.codeNow? id = k.code? id := by
  cases hk : k.key? id with
  | none => simp [codeNow?, code?, hk]
  | some key =>
    obtain ⟨level, hr⟩ := exists_resolve_eq hk
    have hs := Key.isSome_symbol (h key hk) k.group level
    rw [codeNow?, code?, hk, hr, Option.bind_some, Option.map_some, Key.code?, ← hs]
    cases key.symbol k.group level.index <;> rfl

theorem reports_quiet_report (hq : o.Quiet k') (hb : o.keyboard.body = k.body) (id : KeyId)
    (symbol : Symbol) (state : KeyState) (t : UInt32) :
    (o.andThen fun k => k.report id symbol state t).Reports ((k.key? id).map Key.keycode) state := by
  have hs : o.events.filterMap Event.activation? = [] := List.filterMap_eq_nil_iff.mpr hq.silent
  have hk : (o.keyboard.key? id).map Key.keycode = (k.key? id).map Key.keycode :=
    read_key?_of_body hb (fun key => by cases key <;> rfl) id
  rw [Outcome.Reports, Outcome.keyEvents, Outcome.events_andThen, List.filterMap_append, hs, ← hk,
    report]
  cases o.keyboard.key? id <;> rfl

theorem reports_press (k : Keyboard) (id : KeyId) (t : UInt32) :
    (k.press id t).Reports (k.codeNow? id) .pressed := by
  have hbody := k.body_press id t
  rcases k.press_cases id t with ⟨hk, he⟩ | ⟨_, hr, he⟩ | ⟨symbol, _, hr, _, he⟩ |
    ⟨symbol, _, hr, _, he⟩
  · have hn : k.codeNow? id = none := by simp [codeNow?, hk]
    rw [he, hn]
    rfl
  · rw [he, codeNow?, hr]
    rfl
  · rw [he, keyboard_report] at hbody
    have hrep := reports_quiet_report (.still (k.hold id)) hbody id symbol .pressed t
    rw [Outcome.still_andThen] at hrep
    rw [he, codeNow?, hr]
    exact hrep
  · rw [he, Outcome.keyboard_andThen, keyboard_report] at hbody
    rw [he, codeNow?, hr]
    exact reports_quiet_report (quiet_settle _ id _) hbody id symbol .pressed t

theorem reports_release (hi : id ∈ k.pressed) (t : UInt32) :
    (k.release id t).Reports (k.codeNow? id) .released := by
  have hbody := k.body_release id t
  rcases k.release_cases id t with ⟨hn, _⟩ | ⟨_, hr, he⟩ | ⟨symbol, _, hr, he⟩
  · exact absurd hi hn
  · rw [he, codeNow?, hr]
    rfl
  · rw [he, Outcome.keyboard_andThen, keyboard_report] at hbody
    rw [he, codeNow?, hr]
    exact reports_quiet_report (quiet_settle _ id _) hbody id symbol .released t

end Keyboard

namespace Outcome

structure Alternates (o : Outcome) : Prop where
  whole : ∀ id key, o.keyboard.key? id = some key → key.IsWhole
  turns : ByTurns o.keyEvents o.keyboard.heldCode?

namespace Alternates

variable {k : Keyboard} {past : List Event} {o : Outcome}

theorem extend (h : Alternates ⟨k, past⟩) (hb : o.keyboard.body = k.body)
    (ht : ByTurns ((⟨k, past⟩ : Outcome).keyEvents ++ o.keyEvents) (o.keyboard.pressed.head?.bind k.code?)) :
    Alternates ⟨o.keyboard, past ++ o.events⟩ := by
  refine ⟨?_, ?_⟩
  · intro id key hk
    obtain ⟨old, ho, hidle⟩ := Keyboard.exists_idle_of_body hb hk
    have hw : old.idle.IsWhole := h.whole id old ho
    rw [hidle] at hw
    exact hw
  · have hcode : o.keyboard.code? = k.code? := funext (Keyboard.code?_of_body hb)
    rw [keyEvents, List.filterMap_append, Keyboard.heldCode?, hcode]
    exact ht

theorem press (hp : k.pressed = []) (id : KeyId) (t : UInt32) : Keeps Alternates k (k.press id t) := by
  intro past h
  apply h.extend (k.body_press id t)
  have hnone : ByTurns (⟨k, past⟩ : Outcome).keyEvents none := by
    have ht := h.turns
    rw [Keyboard.heldCode?, hp] at ht
    exact ht
  have hheld : (k.press id t).keyboard.pressed.head?.bind k.code? = k.code? id := by
    rw [k.pressed_press, hp]
    cases hk : k.key? id with
    | none => simp [Keyboard.code?, hk]
    | some key => rfl
  rw [hheld, ← Keyboard.codeNow?_of_whole (h.whole id)]
  exact (k.reports_press id t).press hnone

theorem release {id : KeyId} (hp : k.pressed = [id]) (t : UInt32) :
    Keeps Alternates k (k.release id t) := by
  intro past h
  apply h.extend (k.body_release id t)
  have hcode : ByTurns (⟨k, past⟩ : Outcome).keyEvents (k.codeNow? id) := by
    have ht := h.turns
    rw [Keyboard.heldCode?, hp] at ht
    rw [Keyboard.codeNow?_of_whole (h.whole id)]
    exact ht
  have hi : id ∈ k.pressed := hp ▸ List.mem_singleton_self id
  rw [k.pressed_release, hp, List.erase_cons_head]
  exact (Keyboard.reports_release hi t).release hcode

theorem releaseAll (hs : k.pressed.length ≤ 1) (t : UInt32) :
    Keeps Alternates k (k.releaseAll t) := by
  unfold Keyboard.releaseAll
  cases hp : k.pressed with
  | nil => exact .still k
  | cons id rest =>
    have hr : rest = [] := by simpa [hp] using hs
    subst hr
    rw [chain_cons]
    exact (release hp t).andThen (.still _)

end Alternates

end Outcome

end ScreenKeyboard
