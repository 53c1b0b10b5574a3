import ScreenKeyboard.Proofs.Keyboard.Symbols

namespace ScreenKeyboard

def KeyLayout.slot? (key : KeyLayout) (group level : Nat) : Option Slot :=
  ((key.groups[group]?).bind fun row => row[level]?).join

def KeyLayout.symbolAt? (key : KeyLayout) (group level : Nat) : Option Symbol :=
  (key.slot? group level).bind Slot.symbol?

/-- The symbol of the slot at a group and level, and failing that the symbol of the first slot. -/
def KeyLayout.symbolFor? (key : KeyLayout) (group level : Nat) : Option Symbol :=
  (key.symbolAt? group level).or (key.symbolAt? 0 0)

theorem KeyLayout.get_symbols_key (key : KeyLayout) (group level : Nat) :
    key.key.symbols.get group level = key.symbolAt? group level := by
  rw [KeyLayout.key, SymbolTable.get_ofRows, SymbolTable.rowsGet, symbolAt?, slot?, List.getElem?_map]
  cases key.groups[group]? with
  | none => rfl
  | some row =>
    rw [Option.map_some, Option.bind_some, Option.bind_some, List.getElem?_map]
    cases row[level]? <;> rfl

theorem KeyLayout.symbol_key (key : KeyLayout) (group level : Nat) :
    key.key.symbol group level = key.symbolFor? group level := by
  rw [Key.symbol, SymbolTable.getOr, get_symbols_key, get_symbols_key]
  rfl

namespace Keyboard

theorem names_foldl_addKey {k : Keyboard} {pre : List Section} {s : Section}
    (h : k.sections = pre ++ [s]) (keys : List KeyLayout) :
    (keys.foldl (fun k key => k.addKey pre.length key.key) k).names =
      ((keys.zipIdx s.keys.length).map fun entry =>
        (entry.1.name, (⟨pre.length, entry.2⟩ : KeyId))).reverse ++ k.names := by
  induction keys generalizing k s with
  | nil => rfl
  | cons key keys ih =>
    have hk := addKey_eq h key.key
    have hs : (k.addKey pre.length key.key).sections =
        pre ++ [{ s with keys := s.keys ++ [key.key] }] := by rw [hk]
    have hn : (k.addKey pre.length key.key).names =
        (key.name, ⟨pre.length, s.keys.length⟩) :: k.names := by
      rw [hk]
      rfl
    rw [List.foldl_cons, ih hs, hn, List.zipIdx_cons]
    simp

theorem names_foldl_addSection (k : Keyboard) (sections : List SectionLayout) :
    (sections.foldl addSection k).names =
      ((sections.zipIdx k.sections.length).flatMap fun d =>
        d.1.keys.zipIdx.map fun entry => (entry.1.name, (⟨d.2, entry.2⟩ : KeyId))).reverse ++
          k.names := by
  induction sections generalizing k with
  | nil => rfl
  | cons d sections ih =>
    have hs : (k.addSection d).sections = k.sections ++ [d.section] := by rw [addSection_eq]
    have hn : (k.addSection d).names =
        (d.keys.zipIdx.map fun entry =>
          (entry.1.name, (⟨k.sections.length, entry.2⟩ : KeyId))).reverse ++ k.names := by
      have hc : (k.createSection d.name d.angle).sections =
          k.sections ++ [{ name := d.name, angle := d.angle }] := rfl
      exact names_foldl_addKey hc d.keys
    rw [List.foldl_cons, ih, hn, hs, List.zipIdx_cons]
    simp

theorem names_ofLayout (layout : Layout) :
    (ofLayout layout).names = (layout.keys.map fun entry => (entry.2.name, entry.1)).reverse := by
  rw [ofLayout, names_foldl_addSection, Layout.keys]
  simp only [List.map_flatMap, List.map_map, List.append_nil]
  rfl

theorem lookup_map_eq_find? {α β : Type} (l : List α) (name : α → String) (f : α → β) (a : String) :
    (l.map fun e => (name e, f e)).lookup a = (l.find? fun e => name e == a).map f := by
  induction l with
  | nil => rfl
  | cons e l ih =>
    rw [List.map_cons, List.lookup_cons, List.find?_cons, BEq.comm]
    cases name e == a with
    | true => rfl
    | false => exact ih

/-- A name leads to the last key of the layout that has it. -/
theorem find?_ofLayout (layout : Layout) (name : String) :
    (ofLayout layout).find? name =
      ((layout.keys.filter fun entry => entry.2.name == name).getLast?).map Prod.fst := by
  rw [find?, names_ofLayout, ← List.map_reverse, lookup_map_eq_find?, List.getLast?_filter]

def levelOver? (k : Keyboard) (id : KeyId) : Option Nat :=
  (k.section? id.sectionIndex).bind Section.level?

theorem resolve_eq_key? (k : Keyboard) (id : KeyId) :
    k.resolve id =
      (k.key? id).bind fun key => key.symbol k.group ((k.levelOver? id).getD k.level.index) := by
  rw [resolve_eq_bind, key?_eq_bind, levelOver?]
  cases k.section? id.sectionIndex <;> rfl

theorem exists_get_eq_none_iff {layout : Layout} {id : KeyId} {d : KeyLayout} {group level : Nat}
    {slot : Slot} (hd : layout.key? id = some d) (hs : d.slot? group level = some slot) :
    (∃ key, (ofLayout layout).key? id = some key ∧ key.symbols.get group level = none) ↔
      slot.symbol? = none := by
  have hget : d.key.symbols.get group level = slot.symbol? := by
    rw [KeyLayout.get_symbols_key, KeyLayout.symbolAt?, hs, Option.bind_some]
  simp [key?_ofLayout_eq, hd, hget]

theorem resolve_run (layout : Layout) (ops : List Operation) (id : KeyId) :
    let k := ((ofLayout layout).run ops).keyboard
    k.resolve id = (layout.key? id).bind fun d =>
      d.symbolFor? k.group ((k.levelOver? id).getD k.level.index) := by
  intro k
  have hb : k.body = (ofLayout layout).body := (ofLayout layout).body_run ops
  -- The flags of a key do not matter for its symbols.
  have hk : ∀ group level, ((k.key? id).bind fun key => key.symbol group level) =
      ((ofLayout layout).key? id).bind fun key => key.symbol group level := by
    intro group level
    apply read_key?_of_body (g := fun key => key.bind fun key => key.symbol group level) hb
    intro key
    cases key <;> rfl
  rw [resolve_eq_key?, hk, key?_ofLayout_eq, Option.bind_map]
  congr 1
  funext d
  exact d.symbol_key _ _

/-- A keyboard that is built from a layout has just its sections and keys. A name leads to the last
key that has it. At each place a key has the symbol of its slot there, or failing that of its first
slot; after any operations it stands for the one at the group and level that are shown. -/
theorem keyboard_is_as_described (layout : Layout) :
    let k := ofLayout layout
    k.sections.map (fun s => (s.name, s.angle, s.keys.map fun key =>
        (key.name, key.keycode, key.outline))) =
      layout.sections.map (fun d => (d.name, d.angle, d.keys.map fun key =>
        (key.name, key.keycode, key.outline))) ∧
    k.outlines = layout.outlines ∧
    (∀ name, k.find? name =
        ((layout.keys.filter fun entry => entry.2.name == name).getLast?).map Prod.fst ∧
      (k.find? name = none ↔ ∀ entry ∈ layout.keys, entry.2.name ≠ name)) ∧
    (∀ id d, layout.key? id = some d → ∃ key, k.key? id = some key ∧
      ∀ group level, key.symbol group level = d.symbolFor? group level) ∧
    ∀ ops id, let later := (k.run ops).keyboard
      later.resolve id = (layout.key? id).bind fun d =>
        d.symbolFor? later.group ((later.levelOver? id).getD later.level.index) := by
  intro k
  have hs : k.sections = layout.sections.map SectionLayout.section :=
    congrArg sections (ofLayout_eq layout)
  refine ⟨?_, congrArg outlines (ofLayout_eq layout), ?_, ?_, ?_⟩
  · rw [hs, List.map_map]
    apply List.map_congr_left
    intro d _
    simp [SectionLayout.section, KeyLayout.key, Function.comp_def]
  · intro name
    have hf := find?_ofLayout layout name
    refine ⟨hf, ?_⟩
    rw [hf, Option.map_eq_none_iff, List.getLast?_eq_none_iff, List.filter_eq_nil_iff]
    simp
  · intro id d hd
    refine ⟨d.key, ?_, d.symbol_key⟩
    rw [key?_ofLayout_eq, hd]
    rfl
  · intro ops id
    exact resolve_run layout ops id

end Keyboard

end ScreenKeyboard
