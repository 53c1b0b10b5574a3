import Mathlib.Data.List.DropRight
import ScreenKeyboard.Keyboard.Pointer
import ScreenKeyboard.Proofs.Keyboard.Alternation
import ScreenKeyboard.Proofs.Keyboard.Presses

namespace ScreenKeyboard

namespace Gesture

def isTouch : Gesture → Bool
  | .touchBegin _ _ _ | .touchUpdate _ _ _ | .touchEnd _ _ | .touchCancel _ _ => true
  | .buttonPress _ _ | .motion _ _ | .buttonRelease _ => false

def begun? : Gesture → Option Nat
  | .touchBegin sequence _ _ => some sequence
  | _ => none

def ended? : Gesture → Option Nat
  | .touchEnd sequence _ | .touchCancel sequence _ => some sequence
  | _ => none

def continued? : Gesture → Option Nat
  | .touchUpdate sequence _ _ | .touchEnd sequence _ | .touchCancel sequence _ => some sequence
  | _ => none

/-- The touch sequence that began last, unless it has ended since. -/
def live? (past : List Gesture) : Option Nat :=
  (past.filterMap begun?).getLast?.filter fun sequence =>
    (past.rtakeWhile fun g => g.begun?.isNone).all fun g => g.ended? ≠ some sequence

/-- Without the gestures that continue a touch sequence which is not live when they come. -/
def prune (past : List Gesture) : List Gesture → List Gesture
  | [] => []
  | g :: gs =>
    if g.continued?.any fun sequence => live? past ≠ some sequence then prune (past ++ [g]) gs
    else g :: prune (past ++ [g]) gs

theorem live?_concat (past : List Gesture) (g : Gesture) :
    live? (past ++ [g]) = g.begun?.or ((live? past).filter fun sequence => g.ended? ≠ some sequence) := by
  unfold live?
  cases hb : g.begun? with
  | none =>
    have hs : (past ++ [g]).filterMap begun? = past.filterMap begun? := by simp [hb]
    rw [hs, List.rtakeWhile_concat_pos _ _ _ (by simp [hb]), Option.none_or, Option.filter_filter]
    simp [Bool.and_comm]
  | some sequence =>
    have hs : (past ++ [g]).filterMap begun? = past.filterMap begun? ++ [sequence] := by simp [hb]
    rw [hs, List.getLast?_concat, List.rtakeWhile_concat_neg _ _ _ (by simp [hb])]
    rfl

end Gesture

namespace Pointer

open Gesture

def play (p : Pointer) (k : Keyboard) : List Gesture → Pointer × Outcome
  | [] => (p, ⟨k, []⟩)
  | g :: gs =>
    let (p, o) := p.handle k g
    ((p.play o.keyboard gs).1, o.andThen fun k => (p.play k gs).2)

/-- At most one key is pressed, and none while no touch sequence is followed. -/
structure Follows (p : Pointer) (k : Keyboard) : Prop where
  single : k.pressed.length ≤ 1
  idle : p.sequence = none → k.pressed = []

variable {p : Pointer} {k : Keyboard} {g : Gesture}

theorem drag_cases (k : Keyboard) (key : Option KeyId) (t : UInt32) :
    k.drag key t = ⟨k, []⟩ ∨ k.drag key t = (k.releaseAll t).andThen fun k => k.pressAny key t := by
  unfold Keyboard.drag
  split
  next => exact Or.inl rfl
  next => exact Or.inr rfl

theorem endTouch_cases (p : Pointer) (k : Keyboard) (sequence : Nat) (t : UInt32) :
    p.sequence ≠ some sequence ∧ p.endTouch k sequence t = (p, ⟨k, []⟩) ∨
      p.sequence = some sequence ∧
        p.endTouch k sequence t = ({ p with sequence := none }, k.releaseAll t) := by
  unfold endTouch
  split
  next h => exact Or.inr ⟨h, rfl⟩
  next h => exact Or.inl ⟨h, rfl⟩

/-- A touch is ignored or stays on its key, or all keys are released and a followed touch may press
one. -/
theorem handle_cases (p : Pointer) (k : Keyboard) (h : g.isTouch = true) :
    p.handle k g = (p, ⟨k, []⟩) ∨ (∃ t, (p.handle k g).2 = k.releaseAll t) ∨
      ∃ key t, (p.handle k g).1.sequence ≠ none ∧
        (p.handle k g).2 = (k.releaseAll t).andThen fun k => k.pressAny key t := by
  cases g with
  | buttonPress _ _ | motion _ _ | buttonRelease _ => exact Bool.noConfusion h
  | touchBegin sequence key t => exact Or.inr (Or.inr ⟨key, t, nofun, rfl⟩)
  | touchUpdate sequence key t =>
    rw [handle]
    split
    next hs =>
      rcases drag_cases k key t with hd | hd
      · exact Or.inl (by rw [hd])
      · exact Or.inr (Or.inr ⟨key, t, by simp [hs], hd⟩)
    next => exact Or.inl rfl
  | touchEnd sequence t | touchCancel sequence t =>
    rcases p.endTouch_cases k sequence t with ⟨_, he⟩ | ⟨_, he⟩
    · exact Or.inl he
    · exact Or.inr (Or.inl ⟨t, congrArg Prod.snd he⟩)

theorem handle_of_stale {sequence : Nat} (h : g.continued? = some sequence)
    (hn : p.sequence ≠ some sequence) : p.handle k g = (p, ⟨k, []⟩) := by
  cases g with
  | buttonPress _ _ | motion _ _ | buttonRelease _ | touchBegin _ _ _ => exact nomatch h
  | touchUpdate _ _ _ | touchEnd _ _ | touchCancel _ _ =>
    cases Option.some.inj h
    simp [handle, endTouch, hn]

theorem sequence_endTouch (p : Pointer) (k : Keyboard) (sequence : Nat) (t : UInt32) :
    (p.endTouch k sequence t).1.sequence = p.sequence.filter fun other => some sequence ≠ some other := by
  rcases p.endTouch_cases k sequence t with ⟨hn, he⟩ | ⟨hs, he⟩
  · rw [he]
    cases hp : p.sequence with
    | none => rfl
    | some other =>
      have ho : sequence ≠ other := by
        rintro rfl
        exact hn hp
      simp [Option.filter_some, ho]
  · simp [he, hs, Option.filter_some]

theorem sequence_handle (p : Pointer) (k : Keyboard) (g : Gesture) : (p.handle k g).1.sequence =
    g.begun?.or (p.sequence.filter fun sequence => g.ended? ≠ some sequence) := by
  have hsame : p.sequence = p.sequence.filter fun _ => true := by
    cases p.sequence <;> rfl
  cases g with
  | buttonPress _ _ | motion _ _ | buttonRelease _ | touchUpdate _ _ _ => exact hsame
  | touchBegin _ _ _ => rfl
  | touchEnd sequence t | touchCancel sequence t => exact p.sequence_endTouch k sequence t

theorem play_cons (p : Pointer) (k : Keyboard) (g : Gesture) (gs : List Gesture) :
    p.play k (g :: gs) =
      (((p.handle k g).1.play (p.handle k g).2.keyboard gs).1,
        (p.handle k g).2.andThen fun k' => ((p.handle k g).1.play k' gs).2) :=
  rfl

theorem sequence_concat {past : List Gesture} (h : p.sequence = live? past) (k : Keyboard)
    (g : Gesture) : (p.handle k g).1.sequence = live? (past ++ [g]) := by
  rw [sequence_handle, live?_concat, h]

theorem sequence_play {past : List Gesture} (h : p.sequence = live? past) (gs : List Gesture) :
    (p.play k gs).1.sequence = live? (past ++ gs) := by
  induction gs generalizing p k past with
  | nil =>
    rw [List.append_nil]
    exact h
  | cons g gs ih =>
    have hs := ih (k := (p.handle k g).2.keyboard) (sequence_concat h k g)
    rw [List.append_assoc] at hs
    exact hs

theorem play_prune {past : List Gesture} (h : p.sequence = live? past) (gs : List Gesture) :
    p.play k (prune past gs) = p.play k gs := by
  induction gs generalizing p k past with
  | nil => rfl
  | cons g gs ih =>
    have hs := sequence_concat h k g
    rw [prune]
    split
    next hstale =>
      -- A stale gesture changes nothing, so what is followed is live after it as well.
      obtain ⟨sequence, hc, hn⟩ := (Option.any_eq_true _ _).mp hstale
      have hp : p.sequence ≠ some sequence := by
        rw [h]
        simpa using hn
      have hi : p.handle k g = (p, ⟨k, []⟩) := handle_of_stale hc hp
      rw [hi] at hs
      rw [ih hs, play_cons, hi, Outcome.still_andThen]
    next =>
      have hrest : ∀ k', (p.handle k g).1.play k' (prune (past ++ [g]) gs) =
          (p.handle k g).1.play k' gs := fun _ => ih hs
      simp only [play_cons, hrest]

theorem Follows.handle (h : p.Follows k) (hg : g.isTouch = true) :
    (p.handle k g).1.Follows (p.handle k g).2.keyboard := by
  rcases p.handle_cases k hg with he | ⟨t, he⟩ | ⟨key, t, hs, he⟩
  · rw [he]
    exact h
  · have hp := k.pressed_releaseAll t
    rw [← he] at hp
    exact ⟨by simp [hp], fun _ => hp⟩
  · refine ⟨?_, fun hn => absurd hn hs⟩
    rw [he, Outcome.keyboard_andThen]
    cases key with
    | none => simp [Keyboard.pressAny, Keyboard.pressed_releaseAll]
    | some id =>
      rw [Keyboard.pressAny, Keyboard.pressed_press, Keyboard.pressed_releaseAll]
      split <;> simp

theorem Follows.play (h : p.Follows k) {gs : List Gesture} (hg : ∀ g ∈ gs, g.isTouch = true) :
    (p.play k gs).1.Follows (p.play k gs).2.keyboard := by
  induction gs generalizing p k with
  | nil => exact h
  | cons g gs ih =>
    exact ih (h.handle (hg g List.mem_cons_self)) fun g hm => hg g (List.mem_cons_of_mem _ hm)

section Keeps

variable {P : Outcome → Prop} (hr : ∀ k t, k.pressed.length ≤ 1 → Outcome.Keeps P k (k.releaseAll t))
  (hp : ∀ k id t, k.pressed = [] → Outcome.Keeps P k (k.press id t))

include hr hp

theorem Follows.keeps_handle (h : p.Follows k) (hg : g.isTouch = true) :
    Outcome.Keeps P k (p.handle k g).2 := by
  rcases p.handle_cases k hg with he | ⟨t, he⟩ | ⟨key, t, _, he⟩
  · rw [he]
    exact .still k
  · rw [he]
    exact hr k t h.single
  · rw [he]
    apply (hr k t h.single).andThen
    cases key with
    | none => exact .still _
    | some id => exact hp _ id t (k.pressed_releaseAll t)

theorem Follows.keeps_play (h : p.Follows k) {gs : List Gesture} (hg : ∀ g ∈ gs, g.isTouch = true) :
    Outcome.Keeps P k (p.play k gs).2 := by
  induction gs generalizing p k with
  | nil => exact .still k
  | cons g gs ih =>
    have hfirst := hg g List.mem_cons_self
    have hrest := ih (h.handle hfirst) fun g hm => hg g (List.mem_cons_of_mem _ hm)
    exact (h.keeps_handle hr hp hfirst).andThen hrest

end Keeps

theorem follows_start (h : k.pressed = []) : ({} : Pointer).Follows k :=
  ⟨by simp [h], fun _ => h⟩

/-- For every stream of touch gestures at most one key is pressed, only the gestures of the live
touch matter, and if all keys are whole, each release has the keycode of the press right before it.
-/
theorem one_touch_every_stream (k : Keyboard) (gs : List Gesture) (hg : ∀ g ∈ gs, g.isTouch = true)
    (hp : k.pressed = []) (hf : ∀ id key, k.key? id = some key → key.pressed = false) :
    let r := ({} : Pointer).play k gs
    r.2.keyboard.pressed.length ≤ 1 ∧ (r.1.sequence = none → r.2.keyboard.pressed = []) ∧
    (∀ id, id ∈ r.2.keyboard.pressed ↔
      ∃ key, r.2.keyboard.key? id = some key ∧ key.pressed = true) ∧
    r.1.sequence = live? gs ∧ ({} : Pointer).play k (prune [] gs) = r ∧
    ((∀ id key, k.key? id = some key → key.IsWhole) →
      (∀ a ∈ r.2.keyEvents.head?, a.state = .pressed) ∧
      r.2.keyEvents.IsChain Activation.Precedes) := by
  intro r
  have hstart : ({} : Pointer).Follows k := follows_start hp
  have hlive : ({} : Pointer).sequence = live? [] := rfl
  have hend : r.1.Follows r.2.keyboard := hstart.play hg
  have hmarked : r.2.keyboard.Marked := by
    have hkeeps := hstart.keeps_play
      (fun k t _ => Keyboard.marked_keptByMoves.step k (.releaseAll t))
      (fun k id t _ => Keyboard.marked_keptByMoves.press k id t) hg
    exact hkeeps.holds (Keyboard.marked_of_not_flagged hp hf)
  refine ⟨hend.single, hend.idle, hmarked.flagged_iff, sequence_play hlive gs, play_prune hlive gs, ?_⟩
  intro hw
  have hkeeps := hstart.keeps_play (fun k t hs => Outcome.Alternates.releaseAll hs t)
    (fun k id t hn => Outcome.Alternates.press hn id t) hg
  have hnone : Outcome.Alternates ⟨k, []⟩ := by
    refine ⟨hw, ?_⟩
    rw [Keyboard.heldCode?, hp]
    exact .nil
  have hall := hkeeps.holds hnone
  exact ⟨hall.turns.first, hall.turns.chain⟩

def takeover : List Gesture :=
  [.touchBegin 1 (some ⟨0, 0⟩) 1, .touchBegin 2 (some ⟨0, 2⟩) 2, .touchUpdate 1 (some ⟨0, 1⟩) 3,
    .touchUpdate 2 (some ⟨0, 3⟩) 4, .touchEnd 1 5, .touchCancel 2 6, .touchUpdate 2 (some ⟨0, 0⟩) 7]

theorem one_touch_takeover :
    let k := Keyboard.ofLayout .small
    let r := ({} : Pointer).play k takeover
    (∀ g ∈ takeover, g.isTouch = true) ∧ k.pressed = [] ∧
    (∀ id key, k.key? id = some key → key.pressed = false ∧ key.IsWhole) ∧
    prune [] takeover = [.touchBegin 1 (some ⟨0, 0⟩) 1, .touchBegin 2 (some ⟨0, 2⟩) 2,
      .touchUpdate 2 (some ⟨0, 3⟩) 4, .touchCancel 2 6] ∧
    ({} : Pointer).play k (prune [] takeover) = r ∧ r.2.keyboard.pressed = [] ∧
    r.2.keyEvents.length = 6 ∧ r.2.keyEvents.IsChain Activation.Precedes := by
  intro k r
  have hfresh := Keyboard.fresh_ofLayout .small
  have hp : k.pressed = [] := congrArg Keyboard.pressed hfresh
  have hw : ∀ d ∈ Layout.small.keys, d.2.key.IsWhole := by decide
  have hwhole : ∀ id key, k.key? id = some key → key.IsWhole := by
    intro id key hk
    obtain ⟨d, hd, rfl⟩ := (Keyboard.key?_ofLayout .small).mp hk
    exact hw _ hd
  have hidle : ∀ id key, k.key? id = some key → key.pressed = false :=
    fun _ _ => hfresh.marked.not_flagged_of_nil hp
  have hg : ∀ g ∈ takeover, g.isTouch = true := by decide
  obtain ⟨_, hnone, _, _, hprune, hturns⟩ := one_touch_every_stream k takeover hg hp hidle
  exact ⟨hg, hp, fun id key hk => ⟨hidle id key hk, hwhole id key hk⟩, by decide, hprune,
    hnone (by decide), by decide, (hturns hwhole).2⟩

end Pointer

end ScreenKeyboard
