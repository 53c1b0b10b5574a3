import ScreenKeyboard.Keyboard.Event

namespace ScreenKeyboard

inductive Sink
  | queue (pending : List Event)
  /-- Events are sent to a receiver, which has these still to read. -/
  | channel (sent : List Event)
  /-- The receiver is gone, and events are lost. -/
  | closedChannel
  | discard
  deriving DecidableEq, Repr

namespace Sink

/-- Hands events to the sink, the oldest first. -/
def accept (sink : Sink) (events : List Event) : Sink :=
  match sink with
  | queue pending => queue (pending ++ events)
  | channel sent => channel (sent ++ events)
  | closedChannel => closedChannel
  | discard => discard

def available : Sink → List Event
  | queue events | channel events => events
  | closedChannel | discard => []

def drained : Sink → Sink
  | queue _ => queue []
  | channel _ => channel []
  | closedChannel => closedChannel
  | discard => discard

def pending? : Sink → Option (List Event)
  | queue events => some events
  | _ => none

def cleared : Sink → Sink
  | queue _ => queue []
  | sink => sink

end Sink

end ScreenKeyboard
