/-!
# The channel that carries the signal to stop

Any number of handles trigger the signal, and any number of receivers wait for it. There is room for
one signal: it is kept until all who were listening have received it, and the next one takes its
place. A receiver that is more than one behind learns how many it missed, and then gets the last
one. The channel is open as long as a handle is left.
-/
namespace RestGateway

/-- `sent` counts the signals that somebody was listening to, and `unread` the receivers for which
the last of them is kept. A receiver is the number of signals that are behind it, and nothing once
it is dropped. -/
structure StopChannel where
  sent : Nat
  unread : Nat
  handles : List Bool
  receivers : List (Option Nat)
  deriving DecidableEq, Repr

namespace StopChannel

def new : StopChannel := ⟨0, 0, [true], []⟩

inductive Received where
  | signal
  | empty
  | closed
  | lagged (missed : Nat)
  deriving DecidableEq, Repr

def isOpen (s : StopChannel) : Bool := s.handles.any id

def hasHandle (s : StopChannel) (i : Nat) : Bool := s.handles[i]?.getD false

/-- How many signals are behind a receiver; none when it is gone. -/
def position? (s : StopChannel) (i : Nat) : Option Nat := s.receivers[i]?.join

def receiverCount (s : StopChannel) : Nat := (s.receivers.filter Option.isSome).length

def subscribe (s : StopChannel) : StopChannel × Nat :=
  ({ s with receivers := s.receivers ++ [some s.sent] }, s.receivers.length)

def clone (s : StopChannel) : StopChannel × Nat :=
  ({ s with handles := s.handles ++ [true] }, s.handles.length)

/-- Put a signal into the place, for all who are listening; if there is nobody, it is lost. -/
def trigger (s : StopChannel) : StopChannel :=
  if s.receiverCount = 0 then s else { s with sent := s.sent + 1, unread := s.receiverCount }

def dropHandle (s : StopChannel) (i : Nat) : StopChannel :=
  { s with handles := s.handles.set i false }

def place (s : StopChannel) (i : Nat) (position : Option Nat) : StopChannel :=
  { s with receivers := s.receivers.set i position }

/-- The signal is kept for one receiver less. -/
def release (s : StopChannel) : StopChannel := { s with unread := s.unread - 1 }

def dropReceiver (s : StopChannel) (i : Nat) : StopChannel :=
  let s := if (s.position? i).any (· < s.sent) then s.release else s
  s.place i none

/-- Let a receiver look for the signal; none when it is gone. A signal that is not kept any more
cannot be told from the end of the channel. -/
def receive? (s : StopChannel) (i : Nat) : Option (StopChannel × Received) := do
  let position ← s.position? i
  if position = s.sent then
    return (s, if s.isOpen then .empty else .closed)
  else if position + 1 < s.sent then
    return (s.place i (some (s.sent - 1)), .lagged (s.sent - 1 - position))
  else if s.unread = 0 then
    return (s.place i (some s.sent), .closed)
  else
    return ((s.place i (some s.sent)).release, .signal)

end StopChannel

end RestGateway
