import ScreenKeyboard.Proofs.Keyboard.Locks
import ScreenKeyboard.Proofs.Keyboard.Symbols
import ScreenKeyboard.Proofs.Keyboard.Turns

namespace ScreenKeyboard.Keyboard

def strike (k : Keyboard) (state : KeyState) (id : KeyId) (t : UInt32) : Outcome :=
  match state with
  | .pressed => k.press id t
  | .released => k.release id t

/-- The symbol that a key event is about. A key that is not pressed is not released. -/
def struck? (k : Keyboard) (state : KeyState) (id : KeyId) : Option Symbol :=
  match state with
  | .pressed => k.resolve id
  | .released => if id ∈ k.pressed then k.resolve id else none

/-- The keys that are unlocked because the way to the next level would lead across. -/
def crossedIds (k : Keyboard) (toggled : Bool) : List KeyId :=
  if k.level.crosses k.modifiers toggled then k.unlockedIds (k.modifiers &&& Flag.shift.mask) else []

variable {k : Keyboard}

theorem events_lockFor (k : Keyboard) (id : KeyId) (m : Mask) :
    ∃ locked : List KeyId, (k.lockFor id m).events = locked.map Event.locked ∧
      (locked = [] ∨ k.behavior ≠ .none ∧ locked = [id]) := by
  unfold lockFor
  split
  next => exact ⟨[], rfl, Or.inl rfl⟩
  next hn =>
    by_cases hi : id ∈ k.lockedIds
    · rw [lock_of_mem hi]
      exact ⟨[], rfl, Or.inl rfl⟩
    · rw [lock_of_not_mem hi]
      exact ⟨[id], rfl, Or.inr ⟨fun hb => hn (Or.inr hb), rfl⟩⟩

theorem events_changeModifiers (k : Keyboard) (id : KeyId) (m : Mask) :
    (k.changeModifiers id m).events = (k.lockFor id m).events ++
      ((k.lockFor id m).keyboard.unlockedIds ((k.modifiers ^^^ m) &&& k.modifiers)).map .unlocked := by
  rw [changeModifiers_eq, Outcome.events_andThen, Outcome.events_andThen, events_unlock,
    List.append_nil]

theorem events_refreshLevel (k : Keyboard) (toggled : Bool) :
    (k.refreshLevel toggled).events = (k.crossedIds toggled).map .unlocked ++
      if k.level = (k.refreshLevel toggled).keyboard.level then []
      else [.shown k.group (k.refreshLevel toggled).keyboard.level] := by
  have hv : (k.refreshLevel toggled).keyboard.level = k.level.next k.modifiers toggled :=
    (k.turns_refreshLevel toggled).level
  rw [hv, refreshLevel_eq, Outcome.events_andThen, events_showLevel, crossedIds]
  split
  next =>
    rw [level_clear, group_clear, clear, Outcome.events_andThen, events_unlock, List.append_nil]
  next => rfl

theorem events_report_of_body {k' : Keyboard} (hb : k'.body = k.body) {id : KeyId} {key : Key}
    (hk : k.key? id = some key) (symbol : Symbol) (state : KeyState) (t : UInt32) :
    (k'.report id symbol state t).events =
      [.activated ⟨key.keycode, symbol, k'.modifiers, state, t⟩] := by
  obtain ⟨new, hn, he⟩ := exists_idle_of_body hb.symm hk
  have hc : new.keycode = key.keycode := (congrArg Key.keycode he :)
  rw [report, hn, ← hc]

/-- The keys that a change unlocks have no lock any more, so the way across unlocks other keys. -/
theorem nodup_unlockedIds_append (h : k.Tidy) (off : Mask) {ids : List KeyId}
    (hs : ids.Sublist (k.unlock off).keyboard.lockedIds) : (k.unlockedIds off ++ ids).Nodup := by
  have hn : (k.unlockedIds off).Nodup := h.nodup.sublist (k.unlockedIds_sublist off)
  have hi : ids.Nodup := (h.unlock off).nodup.sublist hs
  refine List.nodup_append.mpr ⟨hn, hi, ?_⟩
  rintro id hid _ hother rfl
  exact (h.mem_lockedIds_unlock.mp (hs.subset hother)).2 hid

theorem crossedIds_sublist (k : Keyboard) (toggled : Bool) :
    (k.crossedIds toggled).Sublist k.lockedIds := by
  unfold crossedIds
  split
  next => exact k.unlockedIds_sublist _
  next => exact List.nil_sublist _

theorem events_settle (h : k.Tidy) {id : KeyId} (hk : (k.key? id).isSome = true) (m : Mask) :
    ∃ locked unlocked : List KeyId,
      (k.settle id m).events = locked.map .locked ++ unlocked.map .unlocked ++
        (if k.level = (k.settle id m).keyboard.level then []
          else [.shown k.group (k.settle id m).keyboard.level]) ∧
      (locked = [] ∨ k.behavior ≠ .none ∧ locked = [id]) ∧ unlocked.Nodup := by
  have ht : (k.lockFor id m).keyboard.Tidy := (tidy_keptByMoves.lockFor k id m hk).holds h
  obtain ⟨locked, hlocked, hid⟩ := k.events_lockFor id m
  refine ⟨locked, _, ?_, hid, nodup_unlockedIds_append ht ((k.modifiers ^^^ m) &&& k.modifiers)
    ((k.changeModifiers id m).keyboard.crossedIds_sublist
      ((k.changeModifiers id m).keyboard.isToggle id))⟩
  rw [settle, Outcome.events_andThen, events_changeModifiers, hlocked, events_refreshLevel,
    level_changeModifiers, group_changeModifiers, List.map_append]
  simp only [List.append_assoc]
  rfl

theorem events_settle_report (h : k.Tidy) {id : KeyId} {key : Key} (hk : k.key? id = some key)
    (m : Mask) (symbol : Symbol) (state : KeyState) (t : UInt32) :
    let o := (k.settle id m).andThen fun k => k.report id symbol state t
    ∃ locked unlocked : List KeyId,
      o.events = locked.map .locked ++ unlocked.map .unlocked ++
        (if k.level = o.keyboard.level then [] else [.shown k.group o.keyboard.level]) ++
          [.activated ⟨key.keycode, symbol, o.keyboard.modifiers, state, t⟩] ∧
      (locked = [] ∨ k.behavior ≠ .none ∧ locked = [id]) ∧ unlocked.Nodup := by
  have hs : (k.key? id).isSome = true := by simp [hk]
  have hb : (k.settle id m).keyboard.body = k.body :=
    ((body_keptByMoves k.body).settle k id m hs).holds rfl
  obtain ⟨locked, unlocked, he, hl, hu⟩ := events_settle h hs m
  refine ⟨locked, unlocked, ?_, hl, hu⟩
  rw [Outcome.events_andThen, Outcome.keyboard_andThen, keyboard_report, he,
    events_report_of_body hb hk]

theorem struck?_released_eq_some {id : KeyId} {symbol : Symbol} :
    k.struck? .released id = some symbol ↔ id ∈ k.pressed ∧ k.resolve id = some symbol := by
  simp [struck?]

theorem exists_key_of_struck {state : KeyState} {id : KeyId} {symbol : Symbol}
    (hs : k.struck? state id = some symbol) : ∃ key, k.key? id = some key := by
  have hr : k.resolve id = some symbol := by
    cases state with
    | pressed => exact hs
    | released => exact (struck?_released_eq_some.mp hs).2
  exact Option.isSome_iff_exists.mp (k.resolve_isSome_key? hr)

theorem events_strike_of_none {state : KeyState} {id : KeyId} (hs : k.struck? state id = none)
    (t : UInt32) : (k.strike state id t).events = [] := by
  cases state with
  | pressed =>
    have hr : k.resolve id = none := hs
    rcases k.press_cases id t with ⟨_, he⟩ | ⟨_, _, he⟩ | ⟨_, _, hn, _⟩ | ⟨_, _, hn, _⟩
    · rw [strike, he]
    · rw [strike, he]
    · exact nomatch hr.symm.trans hn
    · exact nomatch hr.symm.trans hn
  | released =>
    rcases k.release_cases id t with ⟨_, he⟩ | ⟨_, _, he⟩ | ⟨_, hi, hn, _⟩
    · rw [strike, he]
    · rw [strike, he]
    · have hr : k.resolve id = none := by simpa only [struck?, if_pos hi] using hs
      exact nomatch hr.symm.trans hn

theorem events_strike (h : k.Tidy) {state : KeyState} {id : KeyId} {symbol : Symbol}
    (hs : k.struck? state id = some symbol) {key : Key} (hk : k.key? id = some key) (t : UInt32) :
    ∃ locked unlocked : List KeyId,
      (k.strike state id t).events = locked.map .locked ++ unlocked.map .unlocked ++
        (if k.level = (k.strike state id t).keyboard.level then []
          else [.shown k.group (k.strike state id t).keyboard.level]) ++
        [.activated ⟨key.keycode, symbol, (k.strike state id t).keyboard.modifiers, state, t⟩] ∧
      (locked = [] ∨ state = .released ∧ locked = [id]) ∧ unlocked.Nodup := by
  cases state with
  | pressed =>
    have hr : k.resolve id = some symbol := hs
    by_cases hb : k.behavior = .none
    · have ht : ((k.hold id).sectionPress id symbol.modifiers).Tidy :=
        tidy_keptByMoves.sectionPress _ id _ [] (h.of_eq rfl (k.lamp_hold id))
      have hp : ((k.hold id).sectionPress id symbol.modifiers).key? id =
          some { key with pressed := true } := by
        rw [key?_sectionPress, key?_hold, if_pos rfl, hk]
        rfl
      obtain ⟨locked, unlocked, he, hl, hu⟩ :=
        events_settle_report ht hp (k.modifiers ||| symbol.modifiers) symbol .pressed t
      rw [strike, k.press_of_none hb hr t]
      -- Where modifiers last while held, no key is locked for them.
      have hn : locked = [] := hl.resolve_right fun hc => hc.1 hb
      exact ⟨locked, unlocked, he, Or.inl hn, hu⟩
    · have hbody : (k.hold id).body = k.body := k.body_setPressedFlag id true
      have he := events_report_of_body hbody hk symbol .pressed t
      have hv : k.level = (k.hold id).level := rfl
      refine ⟨[], [], ?_, Or.inl rfl, List.nodup_nil⟩
      rw [strike, k.press_of_ne_none hb hr t, keyboard_report, he, if_pos hv]
      rfl
  | released =>
    obtain ⟨hi, hr⟩ := struck?_released_eq_some.mp hs
    have ht : ((k.letGo id).sectionRelease id symbol.modifiers).Tidy :=
      tidy_keptByMoves.sectionRelease _ id _ [] (h.of_eq rfl (k.lamp_letGo id))
    have hp : ((k.letGo id).sectionRelease id symbol.modifiers).key? id =
        some { key with pressed := false } := by
      rw [key?_sectionRelease, key?_letGo, if_pos rfl, hk]
      rfl
    obtain ⟨locked, unlocked, he, hl, hu⟩ := events_settle_report ht hp
      (modifiersAfterRelease k.modifiers symbol.modifiers k.behavior) symbol .released t
    rw [strike, k.release_of_resolve_eq_some hi hr t]
    exact ⟨locked, unlocked, he, hl.imp_right fun hc => ⟨rfl, hc.2⟩, hu⟩

/-- A key event that is about no symbol reports nothing. Any other reports the key as locked at
most, and this only on its release; then keys that were unlocked, each once; then the level, if it
is another one; and last the symbol that the key stood for before. -/
theorem events_in_order_every_run (layout : Layout) (ops : List Operation) (state : KeyState)
    (id : KeyId) (t : UInt32) :
    let k := ((ofLayout layout).run ops).keyboard
    let o := k.strike state id t
    match k.struck? state id with
    | none => o.events = []
    | some symbol =>
      ∃ key, k.key? id = some key ∧ ∃ locked unlocked : List KeyId,
        o.events = locked.map .locked ++ unlocked.map .unlocked ++
          (if k.level = o.keyboard.level then [] else [.shown k.group o.keyboard.level]) ++
          [.activated ⟨key.keycode, symbol, o.keyboard.modifiers, state, t⟩] ∧
        (locked = [] ∨ state = .released ∧ locked = [id]) ∧ unlocked.Nodup := by
  intro k o
  have ht : k.Tidy := tidy_run (fresh_ofLayout layout).tidy ops
  cases hs : k.struck? state id with
  | none => exact events_strike_of_none hs t
  | some symbol =>
    obtain ⟨key, hk⟩ := exists_key_of_struck hs
    exact ⟨key, hk, events_strike ht hs hk t⟩

end ScreenKeyboard.Keyboard
