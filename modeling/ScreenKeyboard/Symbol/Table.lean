import ScreenKeyboard.Symbol.Basic

namespace ScreenKeyboard

structure SymbolTable where
  groups : Nat
  levels : Nat
  /-- The cell of group `g` and level `l` is at index `g * levels + l`. -/
  cells : List (Option Symbol)
  deriving DecidableEq, Repr

namespace SymbolTable

def blank (groups levels : Nat) : SymbolTable :=
  ⟨groups, levels, List.replicate (groups * levels) none⟩

def width (rows : List (List (Option Symbol))) : Nat :=
  rows.foldl (fun w row => max w row.length) 0

/-- The table with these rows, the shorter ones padded with empty cells. -/
def ofRows (rows : List (List (Option Symbol))) : SymbolTable :=
  let w := width rows
  ⟨rows.length, w, rows.flatMap fun row => row ++ List.replicate (w - row.length) none⟩

def single (symbol : Symbol) : SymbolTable :=
  ofRows [[some symbol]]

instance : Inhabited SymbolTable := ⟨blank 0 0⟩

def get (t : SymbolTable) (group level : Nat) : Option Symbol :=
  if group < t.groups ∧ level < t.levels then (t.cells[group * t.levels + level]?).join else none

/-- Replaces a cell; outside the table nothing changes. -/
def set (t : SymbolTable) (group level : Nat) (symbol : Option Symbol) : SymbolTable :=
  if group < t.groups ∧ level < t.levels then
    { t with cells := t.cells.set (group * t.levels + level) symbol }
  else t

def getOr (t : SymbolTable) (group level group' level' : Nat) : Option Symbol :=
  (t.get group level).or (t.get group' level')

def isEmpty (t : SymbolTable) : Bool :=
  t.cells.all Option.isNone

def rows (t : SymbolTable) : List (List (Option Symbol)) :=
  (List.range t.groups).map fun group => (List.range t.levels).map fun level => t.get group level

end SymbolTable

end ScreenKeyboard
