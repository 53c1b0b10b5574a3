import ScreenKeyboard.Script.Command
import ScreenKeyboard.Text.Basic

namespace ScreenKeyboard

inductive CommandFault
  | unknownCommand (word : String)
  | missingArgument (word : String)
  | invalidArgument (argument expected : String)
  deriving DecidableEq, Repr

def CommandFault.message : CommandFault → String
  | unknownCommand word => "unknown command '" ++ word ++ "'"
  | missingArgument word => "'" ++ word ++ "' needs an argument"
  | invalidArgument argument expected =>
    "invalid argument '" ++ argument ++ "', expected " ++ expected

structure ScriptError where
  line : Nat
  fault : CommandFault
  deriving DecidableEq, Repr

def ScriptError.message (e : ScriptError) : String :=
  "line " ++ Text.decimal e.line ++ ": " ++ e.fault.message

/-- The level with this name or index; a name may leave out its axis, and be in either case. -/
def Level.parse? (text : String) : Option Level :=
  match text.map Char.toLower with
  | "lower" | "letters-lower" => some .lettersLower
  | "upper" | "letters-upper" => some .lettersUpper
  | "numbers" => some .numbers
  | "symbols" => some .symbols
  | other => (Text.readNumeral 10 0xFFFFFFFFFFFFFFFF other.toList).bind ofIndex?

namespace Command

def argument (word : String) : List (List Char) → Except CommandFault String
  | [] => .error (.missingArgument word)
  | first :: _ => .ok (String.ofList first)

def parseArgument {α : Type} (expected : String) (parse? : String → Option α) (text : String) :
    Except CommandFault α :=
  match parse? text with
  | some a => .ok a
  | none => .error (.invalidArgument text expected)

def time : List (List Char) → Except CommandFault (Option UInt32)
  | [] => .ok none
  | first :: _ =>
    (parseArgument "a timestamp" (fun text => Text.readNumeral 10 0xFFFFFFFF text.toList)
      (String.ofList first)).map fun t => some (UInt32.ofNat t)

def ofWord (word : String) (rest : List Char) : Except CommandFault Command := do
  let arguments := Text.words rest
  if let some action := KeyAction.ofName? word then
    return key action (← argument word arguments) (← time arguments.tail)
  match word with
  | "release-all" => return releaseAll (← time arguments)
  | "behavior" =>
    return behavior (← parseArgument "none, lock or latch" Behavior.parse?
      (← argument word arguments))
  | "modifiers" =>
    return modifiers (← parseArgument "a modifier mask like 'SHIFT | MOD5'"
      (fun text => (Mask.parse text).toOption) (String.ofList rest))
  | "level" =>
    return level (← parseArgument "a level name or 0-3" Level.parse? (← argument word arguments))
  | "group" =>
    return group (← parseArgument "a group index"
      (fun text => Text.readNumeral 10 0xFFFFFFFFFFFFFFFF text.toList) (← argument word arguments))
  | "reset" => return reset
  | word => throw (.unknownCommand word)

def parse (content : List Char) : Except CommandFault Command :=
  ofWord (String.ofList (Text.beforeBlank content)) (Text.trim (Text.afterBlank content))

end Command

namespace Script

/-- What a line holds apart from its comment and the blanks around it. -/
def content (line : List Char) : List Char :=
  Text.trim (line.takeWhile (· != '#'))

def parseLines (n : Nat) : List (List Char) → Except ScriptError (List Step)
  | [] => .ok []
  | line :: rest =>
    if (content line).isEmpty then parseLines (n + 1) rest
    else
      match Command.parse (content line) with
      | .error fault => .error ⟨n, fault⟩
      | .ok command => (parseLines (n + 1) rest).map (⟨n, command⟩ :: ·)

/-- Reads a script of one command per line; blank lines, and comments from a number sign to the end
of the line, do not count. -/
def parse (text : String) : Except ScriptError (List Step) :=
  parseLines 1 (Text.lines text.toList)

end Script

end ScreenKeyboard
