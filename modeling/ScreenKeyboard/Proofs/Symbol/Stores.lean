import Mathlib.Data.List.Induction
import ScreenKeyboard.Proofs.Symbol.Table

namespace ScreenKeyboard.SymbolTable

def Contains (t : SymbolTable) (group level : Nat) : Prop :=
  group < t.groups ∧ level < t.levels

instance (t : SymbolTable) (group level : Nat) : Decidable (t.Contains group level) :=
  inferInstanceAs (Decidable (_ ∧ _))

def IsFull (t : SymbolTable) : Prop :=
  t.cells.length = t.groups * t.levels

structure Store where
  group : Nat
  level : Nat
  symbol : Option Symbol

def Store.isAt (group level : Nat) (s : Store) : Bool :=
  s.group == group && s.level == level

def storeAll (t : SymbolTable) (stores : List Store) : SymbolTable :=
  stores.foldl (fun t s => t.set s.group s.level s.symbol) t

/-- The symbol of the last store at a place, if there was any. -/
def lastStored? (stores : List Store) (group level : Nat) : Option (Option Symbol) :=
  (stores.filter (Store.isAt group level)).getLast?.map Store.symbol

/-- What a table is made from: its rows, or nothing but its size. -/
inductive Origin
  | ofRows (rows : List (List (Option Symbol)))
  | ofSize (groups levels : Nat)

namespace Origin

def table : Origin → SymbolTable
  | .ofRows rows => SymbolTable.ofRows rows
  | .ofSize groups levels => blank groups levels

def groups : Origin → Nat
  | .ofRows rows => rows.length
  | .ofSize groups _ => groups

def levels : Origin → Nat
  | .ofRows rows => (rows.map List.length).max?.getD 0
  | .ofSize _ levels => levels

def slot (origin : Origin) (group level : Nat) : Option Symbol :=
  match origin with
  | .ofRows rows => rowsGet rows group level
  | .ofSize _ _ => none

end Origin

theorem index_lt {groups w group level : Nat} (hg : group < groups) (hl : level < w) :
    group * w + level < groups * w := by
  calc group * w + level
      < group * w + w := Nat.add_lt_add_left hl _
    _ = (group + 1) * w := (Nat.succ_mul group w).symm
    _ ≤ groups * w := Nat.mul_le_mul_right w hg

theorem index_inj {w group group' level level' : Nat} (hl : level < w) (hl' : level' < w)
    (h : group * w + level = group' * w + level') : group = group' ∧ level = level' := by
  have hw : 0 < w := by omega
  have hdiv : ∀ {g l}, l < w → (g * w + l) / w = g := by
    intro g l hlt
    rw [Nat.add_comm, Nat.add_mul_div_right _ _ hw, Nat.div_eq_of_lt hlt, Nat.zero_add]
  have hg : group = group' := (hdiv hl).symm.trans (h ▸ hdiv hl')
  subst hg
  exact ⟨rfl, Nat.add_left_cancel h⟩

variable {t : SymbolTable} {group level : Nat}

theorem IsFull.index_lt (hf : t.IsFull) (h : t.Contains group level) :
    group * t.levels + level < t.cells.length :=
  hf ▸ SymbolTable.index_lt h.1 h.2

theorem get_of_contains (h : t.Contains group level) :
    t.get group level = (t.cells[group * t.levels + level]?).join :=
  if_pos h

theorem get_of_not_contains (h : ¬t.Contains group level) : t.get group level = none :=
  if_neg h

theorem set_of_contains (h : t.Contains group level) (symbol : Option Symbol) :
    t.set group level symbol =
      ⟨t.groups, t.levels, t.cells.set (group * t.levels + level) symbol⟩ :=
  if_pos h

theorem set_of_not_contains (h : ¬t.Contains group level) (symbol : Option Symbol) :
    t.set group level symbol = t :=
  if_neg h

@[simp] theorem groups_set (t : SymbolTable) (group level : Nat) (symbol : Option Symbol) :
    (t.set group level symbol).groups = t.groups := by
  unfold set
  split <;> rfl

@[simp] theorem levels_set (t : SymbolTable) (group level : Nat) (symbol : Option Symbol) :
    (t.set group level symbol).levels = t.levels := by
  unfold set
  split <;> rfl

theorem IsFull.set (hf : t.IsFull) (group level : Nat) (symbol : Option Symbol) :
    (t.set group level symbol).IsFull := by
  have hl : (t.set group level symbol).cells.length = t.cells.length := by
    unfold SymbolTable.set
    split
    next => exact List.length_set
    next => rfl
  rw [IsFull, hl, groups_set, levels_set]
  exact hf

theorem get_set_self (hf : t.IsFull) (h : t.Contains group level) (symbol : Option Symbol) :
    (t.set group level symbol).get group level = symbol := by
  have hi := hf.index_lt h
  have hc : (t.set group level symbol).Contains group level := by
    rw [Contains, groups_set, levels_set]
    exact h
  rw [get_of_contains hc, levels_set, set_of_contains h, List.getElem?_set_self hi]
  rfl

theorem get_set_of_ne {group' level' : Nat} (hne : ¬(group' = group ∧ level' = level))
    (symbol : Option Symbol) :
    (t.set group level symbol).get group' level' = t.get group' level' := by
  by_cases h : t.Contains group level
  · have hc : (t.set group level symbol).Contains group' level' ↔ t.Contains group' level' := by
      rw [Contains, groups_set, levels_set, Contains]
    by_cases h' : t.Contains group' level'
    · have hindex : group * t.levels + level ≠ group' * t.levels + level' := by
        intro he
        obtain ⟨hg, hl⟩ := index_inj h.2 h'.2 he
        exact hne ⟨hg.symm, hl.symm⟩
      rw [get_of_contains (hc.mpr h'), get_of_contains h', levels_set, set_of_contains h,
        List.getElem?_set_ne hindex]
    · rw [get_of_not_contains (mt hc.mp h'), get_of_not_contains h']
  · rw [set_of_not_contains h]

theorem storeAll_append_singleton (t : SymbolTable) (stores : List Store) (s : Store) :
    t.storeAll (stores ++ [s]) = (t.storeAll stores).set s.group s.level s.symbol := by
  rw [storeAll, List.foldl_append]
  rfl

theorem lastStored?_append_singleton (stores : List Store) (s : Store) (group level : Nat) :
    lastStored? (stores ++ [s]) group level =
      if s.isAt group level then some s.symbol else lastStored? stores group level := by
  rw [lastStored?, List.filter_append, List.filter_cons]
  cases s.isAt group level with
  | true => simp
  | false => simp [lastStored?]

theorem Store.isAt_iff {s : Store} : s.isAt group level = true ↔ group = s.group ∧ level = s.level := by
  rw [isAt, Bool.and_eq_true, beq_iff_eq, beq_iff_eq, eq_comm, @eq_comm _ s.level]

theorem size_storeAll (t : SymbolTable) (stores : List Store) :
    (t.storeAll stores).groups = t.groups ∧ (t.storeAll stores).levels = t.levels := by
  induction stores using List.reverseRecOn with
  | nil => exact ⟨rfl, rfl⟩
  | append_singleton stores s ih =>
    rw [storeAll_append_singleton, groups_set, levels_set]
    exact ih

theorem IsFull.storeAll (hf : t.IsFull) (stores : List Store) : (t.storeAll stores).IsFull := by
  induction stores using List.reverseRecOn with
  | nil => exact hf
  | append_singleton stores s ih =>
    rw [storeAll_append_singleton]
    exact ih.set s.group s.level s.symbol

/-- A place is read as it was last stored to, and otherwise as it was. -/
theorem get_storeAll (hf : t.IsFull) (stores : List Store) (h : t.Contains group level) :
    (t.storeAll stores).get group level = (lastStored? stores group level).getD (t.get group level) := by
  induction stores using List.reverseRecOn with
  | nil => rfl
  | append_singleton stores s ih =>
    rw [storeAll_append_singleton, lastStored?_append_singleton]
    by_cases hs : s.isAt group level = true
    · obtain ⟨rfl, rfl⟩ := Store.isAt_iff.mp hs
      obtain ⟨hg, hl⟩ := size_storeAll t stores
      have hc : (t.storeAll stores).Contains s.group s.level := by
        rw [Contains, hg, hl]
        exact h
      rw [get_set_self (hf.storeAll stores) hc, if_pos hs]
      rfl
    · rw [get_set_of_ne (mt Store.isAt_iff.mpr hs), if_neg hs, ih]

theorem width_eq_max? (rows : List (List (Option Symbol))) :
    width rows = (rows.map List.length).max?.getD 0 := by
  cases rows with
  | nil => rfl
  | cons row rows =>
    rw [List.map_cons, List.max?_cons', Option.getD_some, width, List.foldl_cons, Nat.zero_max,
      List.foldl_map]

theorem isFull_ofRows (rows : List (List (Option Symbol))) : (ofRows rows).IsFull := by
  have hlength := List.map_congr_left fun row (hr : row ∈ rows) => length_padded hr
  rw [IsFull, ofRows, List.length_flatMap, hlength, List.map_const', List.sum_replicate_nat]

namespace Origin

theorem isFull_table (origin : Origin) : origin.table.IsFull := by
  cases origin with
  | ofRows rows => exact isFull_ofRows rows
  | ofSize groups levels => exact List.length_replicate

theorem size_table (origin : Origin) :
    origin.table.groups = origin.groups ∧ origin.table.levels = origin.levels := by
  cases origin with
  | ofRows rows => exact ⟨rfl, width_eq_max? rows⟩
  | ofSize groups levels => exact ⟨rfl, rfl⟩

theorem get_table (origin : Origin) (group level : Nat) :
    origin.table.get group level = origin.slot group level := by
  cases origin with
  | ofRows rows => exact get_ofRows rows group level
  | ofSize groups levels =>
    simp only [table, slot, get, blank, List.getElem?_replicate]
    split
    next =>
      split
      next => rfl
      next => rfl
    next => rfl

end Origin

theorem IsFull.isEmpty_iff (hf : t.IsFull) :
    t.isEmpty = true ↔ ∀ group level, t.get group level = none := by
  rw [isEmpty, List.all_eq_true]
  constructor
  · intro h group level
    by_contra hne
    obtain ⟨symbol, hs⟩ := Option.ne_none_iff_exists'.mp hne
    exact nomatch h _ (mem_symbols.mp (mem_symbols_of_get hs))
  · intro h cell hcell
    obtain ⟨i, hi, rfl⟩ := List.mem_iff_getElem.mp hcell
    -- The cell is that of the place with its index.
    have hlt : i < t.groups * t.levels := hf ▸ hi
    have hpos : 0 < t.levels := Nat.pos_of_mul_pos_left (Nat.zero_lt_of_lt hlt)
    have hc : t.Contains (i / t.levels) (i % t.levels) :=
      ⟨(Nat.div_lt_iff_lt_mul hpos).mpr hlt, Nat.mod_lt _ hpos⟩
    have hget := h (i / t.levels) (i % t.levels)
    rw [get_of_contains hc, Nat.div_add_mod', List.getElem?_eq_getElem hi] at hget
    exact Option.isNone_iff_eq_none.mpr hget

/-- A place of a table is read as it was last stored to, and failing that as the table was made;
outside there is nothing. The size and the number of cells stay, a store changes no other place, and
the table is empty when there is nothing to read. -/
theorem table_is_map_of_places (origin : Origin) (stores : List Store) :
    let t := origin.table.storeAll stores
    (t.groups = origin.groups ∧ t.levels = origin.levels) ∧
    t.cells.length = t.groups * t.levels ∧
    (∀ group level, t.Contains group level → group * t.levels + level < t.cells.length) ∧
    (∀ group level, t.get group level =
      if t.Contains group level then
        (lastStored? stores group level).getD (origin.slot group level)
      else none) ∧
    (∀ group level symbol,
      (∀ group' level', ¬(group' = group ∧ level' = level) →
        (t.set group level symbol).get group' level' = t.get group' level') ∧
      (¬t.Contains group level → t.set group level symbol = t)) ∧
    (t.isEmpty = true ↔ ∀ group level, t.get group level = none) := by
  intro t
  have hf : t.IsFull := origin.isFull_table.storeAll stores
  obtain ⟨hg, hl⟩ := size_storeAll origin.table stores
  obtain ⟨hgroups, hlevels⟩ := origin.size_table
  refine ⟨⟨hg.trans hgroups, hl.trans hlevels⟩, hf, fun _ _ => hf.index_lt, ?_, ?_, hf.isEmpty_iff⟩
  · intro group level
    by_cases h : t.Contains group level
    · have hc : origin.table.Contains group level := by
        rw [Contains, ← hg, ← hl]
        exact h
      rw [if_pos h, get_storeAll origin.isFull_table stores hc, origin.get_table]
    · rw [if_neg h, get_of_not_contains h]
  · intro group level symbol
    exact ⟨fun _ _ hne => get_set_of_ne hne symbol, fun h => set_of_not_contains h symbol⟩

end ScreenKeyboard.SymbolTable
