import ScreenKeyboard.Keyboard.Input
import ScreenKeyboard.Script.Command

namespace ScreenKeyboard

def Keyboard.act (k : Keyboard) (action : KeyAction) (id : KeyId) (timestamp : UInt32) : Outcome :=
  match action with
  | .press => k.press id timestamp
  | .release => k.release id timestamp
  | .tap => (k.press id timestamp).andThen fun k => k.release id timestamp

/-- The time of a command: its own, or else one more than the clock shows, with wrap-around. -/
def tick (clock : UInt32) (time : Option UInt32) : UInt32 :=
  time.getD (clock + 1)

/-- Carries out a command, and moves the clock; nothing if the keyboard lacks the key. -/
def Command.execute (command : Command) (clock : UInt32) (k : Keyboard) :
    Option (UInt32 × Outcome) :=
  match command with
  | key action name time =>
    match k.find? name with
    | some id => some (tick clock time, k.act action id (tick clock time))
    | none => none
  | releaseAll time => some (tick clock time, k.releaseAll (tick clock time))
  | behavior b => some (clock, k.step (.setBehavior b))
  | modifiers m => some (clock, k.setModifiers m)
  | level l => some (clock, k.showLevel l)
  | group g => some (clock, k.setGroup g)
  | reset => some (clock, k.reset)

structure Replay where
  keyboard : Keyboard
  /-- The time of the last command that had one. -/
  clock : UInt32 := 0
  events : List Event := []
  executed : Nat := 0
  skipped : Nat := 0

namespace Replay

def next (r : Replay) (command : Command) : Replay :=
  match command.execute r.clock r.keyboard with
  | some (clock, outcome) =>
    { r with
      keyboard := outcome.keyboard
      clock
      events := r.events ++ outcome.events
      executed := r.executed + 1 }
  | none => { r with skipped := r.skipped + 1 }

def run (clock : UInt32) (k : Keyboard) (steps : List Step) : Replay :=
  steps.foldl (fun r step => r.next step.command) { keyboard := k, clock }

end Replay

end ScreenKeyboard
