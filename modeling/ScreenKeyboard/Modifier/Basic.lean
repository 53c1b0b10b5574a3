namespace ScreenKeyboard

inductive Flag
  | shift | lock | control | mod1 | mod2 | mod3 | mod4 | mod5 | superKey | hyperKey | metaKey
  deriving DecidableEq, Repr

/-- A set of modifier bits. Eleven bits have a flag; the others are carried along, but a complement
never contains them, so taking a mask away also takes them away. -/
structure Mask where
  bits : BitVec 32
  deriving DecidableEq, Repr

namespace Flag

def all : List Flag :=
  [shift, lock, control, mod1, mod2, mod3, mod4, mod5, superKey, hyperKey, metaKey]

def position : Flag → Nat
  | shift => 0
  | lock => 1
  | control => 2
  | mod1 => 3
  | mod2 => 4
  | mod3 => 5
  | mod4 => 6
  | mod5 => 7
  | superKey => 26
  | hyperKey => 27
  | metaKey => 28

def mask (f : Flag) : Mask :=
  ⟨1#32 <<< f.position⟩

end Flag

namespace Mask

def ofNat (n : Nat) : Mask :=
  ⟨BitVec.ofNat 32 n⟩

def toNat (m : Mask) : Nat :=
  m.bits.toNat

def empty : Mask :=
  ⟨0⟩

def named : Mask :=
  ⟨0x1C0000FF⟩

instance : Inhabited Mask := ⟨empty⟩

instance : OrOp Mask := ⟨fun a b => ⟨a.bits ||| b.bits⟩⟩

instance : AndOp Mask := ⟨fun a b => ⟨a.bits &&& b.bits⟩⟩

instance : XorOp Mask := ⟨fun a b => ⟨a.bits ^^^ b.bits⟩⟩

/-- The complement of a mask among the bits that have a flag. -/
instance : Complement Mask := ⟨fun a => ⟨~~~a.bits &&& named.bits⟩⟩

def isEmpty (m : Mask) : Bool :=
  m.bits == 0

def contains (a b : Mask) : Bool :=
  a.bits &&& b.bits == b.bits

def intersects (a b : Mask) : Bool :=
  a.bits &&& b.bits != 0

@[simp] theorem bits_or (a b : Mask) : (a ||| b).bits = a.bits ||| b.bits := rfl

@[simp] theorem bits_and (a b : Mask) : (a &&& b).bits = a.bits &&& b.bits := rfl

@[simp] theorem bits_xor (a b : Mask) : (a ^^^ b).bits = a.bits ^^^ b.bits := rfl

@[simp] theorem bits_complement (a : Mask) : (~~~a).bits = ~~~a.bits &&& named.bits := rfl

end Mask

/-- Under `none` a modifier lasts as long as its key is held. Under `lock` each release toggles it.
Under `latch` each release toggles it too, and the next release of a plain key drops it. -/
inductive Behavior
  | none | lock | latch
  deriving DecidableEq, Repr, Inhabited

namespace Behavior

def all : List Behavior :=
  [none, lock, latch]

def name : Behavior → String
  | none => "none"
  | lock => "lock"
  | latch => "latch"

def parse? (text : String) : Option Behavior :=
  all.find? fun behavior => behavior.name == text.map Char.toLower

end Behavior

end ScreenKeyboard
