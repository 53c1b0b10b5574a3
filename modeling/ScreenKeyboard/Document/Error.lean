import ScreenKeyboard.Document.Json
import ScreenKeyboard.Modifier.Expression
import ScreenKeyboard.Text.Basic

namespace ScreenKeyboard

inductive Found
  | null
  | bool (b : Bool)
  | number (n : Number)
  | text (s : String)
  | sequence
  | map
  deriving Repr

inductive Mismatch
  | missingField (name : String)
  | duplicateField (name : String)
  | wrongType (found : Found) (expected : String)
  | wrongValue (found : Found) (expected : String)
  | wrongLength (length : Nat) (expected : String)
  | unknownVariant (name : String) (expected : List String)
  | unreadableFlags (fault : FlagFault)
  | noVariant (type : String)
  deriving Repr

inductive DocumentFault
  | malformed
  | unfinished
  | unsuitable (mismatch : Mismatch)
  deriving Repr

structure DocumentError where
  fault : DocumentFault
  /-- The line where reading stopped, counted from one; zero if it is not known. -/
  line : Nat
  deriving Repr

namespace Found

def message : Found → String
  | null => "null"
  | bool true => "boolean `true`"
  | bool false => "boolean `false`"
  | number (.real x) => "floating point `" ++ Decimal.toText x ++ "`"
  | number n => "integer `" ++ n.toText ++ "`"
  | text s => "string " ++ Text.quoted s
  | sequence => "sequence"
  | map => "map"

end Found

namespace Mismatch

def choices : List String → String
  | [] => "there are no variants"
  | [a] => "expected `" ++ a ++ "`"
  | [a, b] => "expected `" ++ a ++ "` or `" ++ b ++ "`"
  | names => "expected one of " ++ ", ".intercalate (names.map fun name => "`" ++ name ++ "`")

def message : Mismatch → String
  | missingField name => "missing field `" ++ name ++ "`"
  | duplicateField name => "duplicate field `" ++ name ++ "`"
  | wrongType found expected => "invalid type: " ++ found.message ++ ", expected " ++ expected
  | wrongValue found expected => "invalid value: " ++ found.message ++ ", expected " ++ expected
  | wrongLength length expected =>
    "invalid length " ++ Text.decimal length ++ ", expected " ++ expected
  | unknownVariant name expected => "unknown variant `" ++ name ++ "`, " ++ choices expected
  | unreadableFlags fault => fault.message
  | noVariant type => "data did not match any variant of untagged enum " ++ type

end Mismatch

namespace DocumentError

def malformed (line : Nat) : DocumentError :=
  ⟨.malformed, line⟩

def unfinished (line : Nat) : DocumentError :=
  ⟨.unfinished, line⟩

def located (e : DocumentError) (line : Nat) : DocumentError :=
  if e.line = 0 then { e with line } else e

def detail? (e : DocumentError) : Option String :=
  match e.fault with
  | .unsuitable m => some m.message
  | _ => none

def message (e : DocumentError) : String :=
  let cause :=
    match e.fault with
    | .malformed => "malformed document"
    | .unfinished => "unexpected end of document"
    | .unsuitable m => m.message
  if e.line = 0 then cause else cause ++ " at line " ++ Text.decimal e.line

end DocumentError

end ScreenKeyboard
