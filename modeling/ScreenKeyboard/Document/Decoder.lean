import ScreenKeyboard.Document.Parser

namespace ScreenKeyboard

/-- How a node is read: straight from the text, where errors have lines; from a value kept while its
type was open; from one kept to be tried as several types; or from one that never was a text. -/
inductive Reading
  | direct
  | kept
  | tried
  | fromValue
  deriving DecidableEq

abbrev Decoder (α : Type) :=
  Reading → Node → Except DocumentError α

namespace Reading

def mismatch (r : Reading) (line : Nat) (m : Mismatch) : DocumentError :=
  ⟨.unsuitable m, if r = direct then line else 0⟩

/-- Errors without a line get one in the container where they are met. -/
def locate (r : Reading) (line : Nat) (e : DocumentError) : DocumentError :=
  if r = direct then e.located line else e

end Reading

namespace Node

def unexpected (node : Node) (r : Reading) (expected : String) : DocumentError :=
  let wrong found := r.mismatch node.line (.wrongType found expected)
  match node with
  | null _ => wrong .null
  | bool _ b => wrong (.bool b)
  | number _ lexeme =>
    match lexeme.kept with
    | .ok n => wrong (.number n)
    | .error error => error
  | text _ lexeme =>
    match lexeme.kept with
    | .ok s => wrong (.text s)
    | .error error => error
  | array _ _ => wrong .sequence
  | object _ _ => wrong .map
  | stray _ error | broken _ error => error

end Node

namespace Items

def decode {α : Type} (decoder : Decoder α) (r : Reading) : Items → Except DocumentError (List α)
  | close _ => .ok []
  | broken error => .error error
  | cons item rest =>
    match decoder r item with
    | .ok a =>
      match rest.decode decoder r with
      | .ok as => .ok (a :: as)
      | .error error => .error error
    | .error error => .error (r.locate rest.line error)

end Items

namespace Decoder

def parsed {α : Type} (expected : String) (parse : String → Except Mismatch α) : Decoder α :=
  fun r node =>
    match node with
    | .text line lexeme =>
      match lexeme.kept with
      | .ok s =>
        match parse s with
        | .ok a => .ok a
        | .error m => .error (r.mismatch line m)
      | .error error => .error error
    | node => .error (node.unexpected r expected)

def text : Decoder String :=
  parsed "a string" .ok

def path : Decoder String :=
  parsed "path string" .ok

def whole {α : Type} (expected : String) (accept : Int → Option α) : Decoder α :=
  fun r node =>
    let check (line : Nat) (n : Number) (i : Int) :=
      match accept i with
      | some a => .ok a
      | none => .error (r.mismatch line (.wrongValue (.number n) expected))
    match node with
    | .number line lexeme =>
      match lexeme.kept with
      | .ok (.natural n) => check line (.natural n) n
      | .ok (.negative n) => check line (.negative n) (-n)
      | .ok (.real x) => .error (r.mismatch line (.wrongType (.number (.real x)) expected))
      | .error error => .error error
    | node => .error (node.unexpected r expected)

def wordLimit : Nat :=
  0xFFFFFFFFFFFFFFFF

def natural (expected : String) : Decoder Nat :=
  whole expected fun i => if 0 ≤ i ∧ i ≤ wordLimit then some i.toNat else none

def index : Decoder Nat :=
  natural "usize"

def uint32 : Decoder UInt32 :=
  whole "u32" fun i => if 0 ≤ i ∧ i ≤ 0xFFFFFFFF then some (UInt32.ofNat i.toNat) else none

def int32 : Decoder Int32 :=
  whole "i32" fun i => if -0x80000000 ≤ i ∧ i ≤ 0x7FFFFFFF then some (Int32.ofInt i) else none

def float : Decoder Float :=
  fun r node =>
    match node with
    | .number _ lexeme =>
      match lexeme.kept with
      | .ok (.natural n) => .ok (UInt64.ofNat n).toFloat
      | .ok (.negative n) => .ok (-(UInt64.ofNat n).toFloat)
      | .ok (.real x) => .ok x
      | .error error => .error error
    | node => .error (node.unexpected r "f64")

def optional {α : Type} (decoder : Decoder α) : Decoder (Option α) :=
  fun r node =>
    match node with
    | .null _ => .ok none
    | node => (decoder r node).map some

def list {α : Type} (decoder : Decoder α) : Decoder (List α) :=
  fun r node =>
    match node with
    | .array _ items => items.decode decoder r
    | node => .error (node.unexpected r "a sequence")

def mask : Decoder Mask :=
  parsed "a string value of `|` separated flags" fun s => (Mask.parse s).mapError .unreadableFlags

/-- Only null; once a value was kept for good, an empty object is as good as null. -/
def unit : Decoder Unit :=
  fun r node =>
    match node, r with
    | .null _, _ => .ok ()
    | .object _ (.close _), .kept => .ok ()
    | node, r => .error (node.unexpected r "unit")

def variantNamed {α : Type} (variants : List (String × α)) (name : String) : Except Mismatch α :=
  match variants.lookup name with
  | some a => .ok a
  | none => .error (.unknownVariant name (variants.map Prod.fst))

def variantName {α : Type} (variants : List (String × α)) : Decoder α :=
  parsed "variant identifier" (variantNamed variants)

def variantKey {α : Type} (variants : List (String × α)) : Decoder α :=
  fun r key =>
    match key.name with
    | .ok name => (variantNamed variants name).mapError (r.mismatch key.line)
    | .error error => .error error

def variantOfMembers {α : Type} (variants : List (String × α)) (r : Reading) :
    Members → Except DocumentError α
  | .close line => .error (.malformed line)
  | .broken error => .error error
  | .cons key _ value valueEnd rest =>
    match variantKey variants r key with
    | .error error => .error error
    | .ok a =>
      match unit r value with
      | .error error => .error error
      | .ok () =>
        match rest with
        | .close _ => .ok a
        | .broken error => .error error
        | .cons _ _ _ _ _ => .error (.malformed valueEnd)

def variantOfObject {α : Type} (variants : List (String × α)) (r : Reading) (line : Nat) :
    Members → Except DocumentError α
  | .cons key _ value _ (.close _) =>
    match variantKey variants r key with
    | .error error => .error error
    | .ok a => (unit r value).map fun () => a
  | _ => .error (r.mismatch line (.wrongValue .map "map with a single key"))

def variant {α : Type} (variants : List (String × α)) : Decoder α :=
  fun r node =>
    match node, r with
    | .text line lexeme, r => variantName variants r (.text line lexeme)
    | .object _ members, .direct => variantOfMembers variants .direct members
    | .object line members, r => variantOfObject variants r line members
    | .broken _ error, _ => .error error
    | node, .direct => .error (.malformed node.line)
    | node, r => .error (node.unexpected r "string or map")

end Decoder

end ScreenKeyboard
