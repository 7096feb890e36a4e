import RestGateway.Duration

/-!
# Deadlines

A call may ask for a deadline of its own; zero asks for the usual one. No deadline is later than the
latest one that is allowed. What has not happened at its deadline has failed.
-/
namespace RestGateway.Deadline

def resolve (requestedMillis : Option Nat) (usual latest : Duration) : Duration :=
  let wanted := match requestedMillis with
    | some n => if 0 < n then Duration.ofMillis n else usual
    | none => usual
  wanted.min latest

structure Exceeded where
  deadline : Duration
  deriving DecidableEq, Repr

def Exceeded.message (e : Exceeded) : String := "deadline of " ++ e.deadline.text ++ " exceeded"

/-- Something that is there at once or never, before a deadline. -/
def await {α : Type} (deadline : Duration) (awaited : Option α) : Except Exceeded α :=
  match awaited with
  | some x => .ok x
  | none => .error ⟨deadline⟩

end RestGateway.Deadline
