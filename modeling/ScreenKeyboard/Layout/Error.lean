import ScreenKeyboard.Document.Error
import ScreenKeyboard.Files.Basic
import ScreenKeyboard.Layout.Issue

namespace ScreenKeyboard

inductive LoadError
  | unreadable (fault : FileFault) (path : Option String)
  | unsuitable (error : DocumentError) (path : Option String)
  | invalid (issues : List Issue) (path : Option String)
  | unknown (name : String) (available : List String)
  /-- A keysym of the layout cannot be looked up, and validation goes no further. -/
  | refusedKeysym (keysym : String)
  deriving Repr

namespace LoadError

/-- Says in which file the error is, if that is not known and makes a difference. -/
def withPath (path : String) : LoadError → LoadError
  | unsuitable error none => unsuitable error (some path)
  | invalid issues none => invalid issues (some path)
  | error => error

def path? : LoadError → Option String
  | unreadable _ path | unsuitable _ path | invalid _ path => path
  | unknown _ _ | refusedKeysym _ => none

def suggestion? : LoadError → Option String
  | unreadable _ (some _) => some "Check that the file exists and you have read permissions"
  | unsuitable _ _ => some "Check the JSON syntax at the indicated line"
  | _ => none

def hasCause : LoadError → Bool
  | unreadable _ _ | unsuitable _ _ => true
  | _ => false

def mention (words : String) : Option String → String
  | some path => " " ++ words ++ " '" ++ path ++ "'"
  | none => ""

def numbered (issues : List Issue) : String :=
  "\n".intercalate
    (issues.zipIdx.map fun (issue, i) => "  " ++ Text.decimal (i + 1) ++ ". " ++ issue.text)

/-- The error in words; `describe` puts document errors into words. -/
def message (describe : DocumentError → String) (e : LoadError) : String :=
  let hint :=
    match e.suggestion? with
    | some s => "\n  Suggestion: " ++ s
    | none => ""
  match e with
  | unreadable fault path => "I/O error" ++ mention "reading file" path ++ ": " ++ fault.message ++ hint
  | unsuitable error path =>
    let line := if error.line = 0 then "" else " at line " ++ Text.decimal error.line
    "JSON parsing error" ++ mention "in file" path ++ line ++ ": " ++ describe error ++ hint
  | invalid issues path =>
    "Validation failed" ++ mention "for file" path ++ " with " ++ Text.decimal issues.length ++
      " issue(s):\n" ++ numbered issues
  | unknown name available =>
    "Unknown layout '" ++ name ++ "'" ++
      if available.isEmpty then "" else "\n  Available layouts: " ++ ", ".intercalate available
  | refusedKeysym keysym => "Keysym name " ++ Text.quoted keysym ++ " cannot be looked up"

end LoadError

end ScreenKeyboard
