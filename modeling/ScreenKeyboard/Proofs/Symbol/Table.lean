import Mathlib.Tactic.Common
import ScreenKeyboard.Symbol.Table

namespace ScreenKeyboard.SymbolTable

def symbols (t : SymbolTable) : List Symbol :=
  t.cells.filterMap fun cell => cell

theorem mem_symbols {t : SymbolTable} {symbol : Symbol} :
    symbol ∈ t.symbols ↔ some symbol ∈ t.cells := by
  simp [symbols]

theorem mem_symbols_of_get {t : SymbolTable} {group level : Nat} {symbol : Symbol}
    (h : t.get group level = some symbol) : symbol ∈ t.symbols := by
  unfold get at h
  split at h
  next =>
    rw [Option.join_eq_some_iff] at h
    exact mem_symbols.mpr (List.mem_of_getElem? h)
  next => simp at h

theorem mem_symbols_of_getOr {t : SymbolTable} {group level group' level' : Nat} {symbol : Symbol}
    (h : t.getOr group level group' level' = some symbol) : symbol ∈ t.symbols := by
  rcases Option.or_eq_some_iff.mp h with h | ⟨_, h⟩
  · exact mem_symbols_of_get h
  · exact mem_symbols_of_get h

theorem mem_symbols_ofRows {rows : List (List (Option Symbol))} {symbol : Symbol} :
    symbol ∈ (ofRows rows).symbols ↔ ∃ row ∈ rows, some symbol ∈ row := by
  simp [mem_symbols, ofRows]

theorem le_foldl_width (rows : List (List (Option Symbol))) (w : Nat) :
    w ≤ rows.foldl (fun w row => max w row.length) w ∧
      ∀ row ∈ rows, row.length ≤ rows.foldl (fun w row => max w row.length) w := by
  induction rows generalizing w with
  | nil => simp
  | cons row rows ih =>
    obtain ⟨hw, hrows⟩ := ih (max w row.length)
    have hfirst : row.length ≤ max w row.length := Nat.le_max_right _ _
    refine ⟨Nat.le_trans (Nat.le_max_left _ _) hw, ?_⟩
    intro other ho
    rcases List.mem_cons.mp ho with rfl | ho
    · exact Nat.le_trans hfirst hw
    · exact hrows other ho

theorem length_le_width {rows : List (List (Option Symbol))} {row : List (Option Symbol)}
    (h : row ∈ rows) : row.length ≤ width rows :=
  (le_foldl_width rows 0).2 row h

theorem length_padded {rows : List (List (Option Symbol))} {row : List (Option Symbol)}
    (h : row ∈ rows) : (row ++ List.replicate (width rows - row.length) none).length = width rows := by
  have hle := length_le_width h
  rw [List.length_append, List.length_replicate]
  omega

/-- Where all rows have one length, no row runs into the next. -/
theorem getElem?_flatten_of_length {α : Type} {w : Nat} {rows : List (List α)}
    (h : ∀ row ∈ rows, row.length = w) (group : Nat) {level : Nat} (hl : level < w) :
    rows.flatten[group * w + level]? = (rows[group]?).bind fun row => row[level]? := by
  induction rows generalizing group with
  | nil => simp
  | cons row rows ih =>
    have hrow : row.length = w := h row List.mem_cons_self
    have hrows : ∀ row ∈ rows, row.length = w := fun row hr => h row (List.mem_cons_of_mem _ hr)
    rw [List.flatten_cons]
    cases group with
    | zero =>
      rw [Nat.zero_mul, Nat.zero_add, List.getElem?_append_left (hrow ▸ hl)]
      rfl
    | succ group =>
      have hle : row.length ≤ (group + 1) * w + level := by
        rw [hrow, Nat.succ_mul]
        omega
      have hsub : (group + 1) * w + level - row.length = group * w + level := by
        rw [hrow, Nat.succ_mul]
        omega
      rw [List.getElem?_append_right hle, hsub, ih hrows]
      rfl

def rowsGet (rows : List (List (Option Symbol))) (group level : Nat) : Option Symbol :=
  ((rows[group]?).bind fun row => row[level]?).join

theorem get_ofRows (rows : List (List (Option Symbol))) (group level : Nat) :
    (ofRows rows).get group level = rowsGet rows group level := by
  have hlength : ∀ row ∈ rows.map fun row => row ++ List.replicate (width rows - row.length) none,
      row.length = width rows := by
    intro padded hp
    obtain ⟨row, hr, rfl⟩ := List.mem_map.mp hp
    exact length_padded hr
  unfold get
  split
  next h =>
    rw [ofRows, List.flatMap_def, getElem?_flatten_of_length hlength group h.2, rowsGet,
      List.getElem?_map]
    cases hr : rows[group]? with
    | none => rfl
    | some row =>
      rw [Option.map_some, Option.bind_some, Option.bind_some, List.getElem?_append]
      split
      next => rfl
      next hn =>
        have hnone : row[level]? = none := List.getElem?_eq_none (Nat.le_of_not_lt hn)
        rw [hnone, List.getElem?_replicate]
        split
        next => rfl
        next => rfl
  next h =>
    rw [rowsGet]
    cases hr : rows[group]? with
    | none => rfl
    | some row =>
      have hg : group < rows.length := (List.getElem?_eq_some_iff.mp hr).1
      have hle := length_le_width (List.mem_of_getElem? hr)
      have hl : width rows ≤ level := by
        by_contra hlt
        exact h ⟨hg, Nat.lt_of_not_le hlt⟩
      rw [Option.bind_some, List.getElem?_eq_none (Nat.le_trans hle hl)]
      rfl

end ScreenKeyboard.SymbolTable
