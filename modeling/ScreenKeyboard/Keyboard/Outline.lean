namespace ScreenKeyboard

structure Point where
  x : Float
  y : Float
  deriving Repr

structure Bounds where
  x : Float
  y : Float
  width : Float
  height : Float
  deriving Repr

structure Outline where
  radius : Float := 0
  points : List Point := []
  deriving Repr

/-- The smaller of two numbers, the first of equal ones; what is not a number does not count. -/
def smaller (a b : Float) : Float :=
  if a.isNaN then b else if b < a then b else a

def larger (a b : Float) : Float :=
  if a.isNaN then b else if a < b then b else a

def Outline.bounds (outline : Outline) : Option Bounds :=
  match outline.points with
  | [] => none
  | first :: rest =>
    let left := rest.foldl (fun m p => smaller m p.x) first.x
    let right := rest.foldl (fun m p => larger m p.x) first.x
    let top := rest.foldl (fun m p => smaller m p.y) first.y
    let bottom := rest.foldl (fun m p => larger m p.y) first.y
    some ⟨left, top, right - left, bottom - top⟩

end ScreenKeyboard
