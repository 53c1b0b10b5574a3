import ScreenKeyboard.Proofs.Keyboard.Steps
import ScreenKeyboard.Proofs.Layout.Built

namespace ScreenKeyboard

theorem Key.exists_symbol {key : Key} (h : (key.symbols.get 0 0).isSome = true) (group level : Nat) :
    ∃ symbol ∈ key.symbols.symbols, key.symbol group level = some symbol := by
  have hs : (key.symbol group level).isSome = true := by
    rw [symbol, SymbolTable.getOr, Option.isSome_or, h]
    exact Bool.or_true _
  obtain ⟨symbol, hs⟩ := Option.isSome_iff_exists.mp hs
  exact ⟨symbol, SymbolTable.mem_symbols_of_getOr hs, hs⟩

namespace Keyboard

def NamedSymbols (k : Keyboard) : Prop :=
  ∀ id key, k.key? id = some key → ∀ symbol ∈ key.symbols.symbols, symbol.modifiers.IsNamed

variable {k k' : Keyboard}

theorem exists_key_of_resolve {id : KeyId} {symbol : Symbol} (h : k.resolve id = some symbol) :
    ∃ key, k.key? id = some key ∧ symbol ∈ key.symbols.symbols := by
  rw [resolve_eq_bind] at h
  obtain ⟨s, hs, h⟩ := Option.bind_eq_some_iff.mp h
  obtain ⟨key, hk, hr⟩ := Option.bind_eq_some_iff.mp h
  refine ⟨key, ?_, SymbolTable.mem_symbols_of_getOr hr⟩
  rw [key?_eq_bind, hs]
  exact hk

theorem exists_shownLevel_eq (k : Keyboard) (s : Section) :
    ∃ level : Level, k.shownLevel s = level.index := by
  unfold shownLevel Section.level?
  cases s.numLocked with
  | false => exact ⟨k.level, rfl⟩
  | true => exact ⟨.lettersUpper, rfl⟩

theorem exists_resolve_eq {id : KeyId} {key : Key} (hk : k.key? id = some key) :
    ∃ level : Level, k.resolve id = key.symbol k.group level.index := by
  rw [key?_eq_bind] at hk
  obtain ⟨s, hs, hk⟩ := Option.bind_eq_some_iff.mp hk
  obtain ⟨level, hl⟩ := k.exists_shownLevel_eq s
  refine ⟨level, ?_⟩
  rw [resolve_eq_bind, hs, Option.bind_some, hk, ← hl]
  rfl

/-- What can be read off a key apart from its flags is the same for keyboards with one body. -/
theorem read_key?_of_body {β : Type} (h : k'.body = k.body) {g : Option Key → β}
    (hg : ∀ key, g (key.map Key.idle) = g key) (id : KeyId) : g (k'.key? id) = g (k.key? id) := by
  rw [← hg, idle_key?_of_body h, hg]

theorem exists_idle_of_body (h : k'.body = k.body) {id : KeyId} {key : Key}
    (hk : k'.key? id = some key) : ∃ old, k.key? id = some old ∧ old.idle = key.idle := by
  have hi := idle_key?_of_body h id
  rw [hk, Option.map_some] at hi
  exact Option.map_eq_some_iff.mp hi.symm

theorem exists_key_of_body (h : k'.body = k.body) {id : KeyId} {key : Key}
    (hk : k'.key? id = some key) :
    ∃ old, k.key? id = some old ∧ old.name = key.name ∧ old.symbols = key.symbols := by
  obtain ⟨old, ho, he⟩ := exists_idle_of_body h hk
  have hn : old.idle.name = key.idle.name := congrArg Key.name he
  have hs : old.idle.symbols = key.idle.symbols := congrArg Key.symbols he
  exact ⟨old, ho, hn, hs⟩

theorem NamedSymbols.of_body (h : k.NamedSymbols) (hb : k'.body = k.body) : k'.NamedSymbols := by
  intro id key hk symbol hs
  obtain ⟨old, ho, _, he⟩ := exists_key_of_body hb hk
  exact h id old ho symbol (he ▸ hs)

theorem NamedSymbols.isNamed (h : k.NamedSymbols) {id : KeyId} {symbol : Symbol}
    (hr : k.resolve id = some symbol) : symbol.modifiers.IsNamed := by
  obtain ⟨key, hk, hs⟩ := exists_key_of_resolve hr
  exact h id key hk symbol hs

theorem namedSymbols_ofLayout {layout : Layout} (h : layout.UsesNamedFlags) :
    (ofLayout layout).NamedSymbols := by
  intro id key hk symbol hs
  obtain ⟨d, hd, rfl⟩ := (key?_ofLayout layout).mp hk
  exact h.isNamed hd hs

theorem modifiersAfterRelease_of_ne_none {behavior : Behavior} (hb : behavior ≠ .none) {m : Mask}
    (hm : m ≠ .empty) (modifiers : Mask) :
    modifiersAfterRelease modifiers m behavior = modifiers ^^^ m := by
  have hn : m.isEmpty = false := Mask.isEmpty_eq_false_iff.mpr hm
  unfold modifiersAfterRelease
  split
  next => exact absurd rfl hb
  next => rfl
  next =>
    rw [hn]
    rfl

theorem isNamed_modifiersAfterRelease {modifiers m : Mask} (h : modifiers.IsNamed) (hm : m.IsNamed)
    (behavior : Behavior) : (modifiersAfterRelease modifiers m behavior).IsNamed := by
  unfold modifiersAfterRelease
  split
  next => exact Mask.isNamed_and_complement modifiers m
  next => exact h.xor hm
  next =>
    split
    next => exact Mask.isNamed_empty
    next => exact h.xor hm

end Keyboard

end ScreenKeyboard
