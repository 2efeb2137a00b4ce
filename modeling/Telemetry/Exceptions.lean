import Std.Data.HashMap
import Telemetry.Metric

/-!
# Limiting repeated failures

A failure is let through once within a window of time for each pair of an owner and a cause;
repetitions within the window are held back. What was let through is remembered, and forgotten
after the window once very many pairs are.
-/

namespace Telemetry

/-- The kinds of components that own failures. -/
inductive Owner
  | schema
  | definition
  deriving DecidableEq, Repr

def Owner.name : Owner → String
  | .schema => "schema"
  | .definition => "defined_metric"

/-- The owner that a component of the given name is. -/
def Owner.key (o : Owner) (id : String) : String := o.name ++ ":" ++ id

/-- The failures let through, by owner and cause, with the time when. -/
structure Exceptions where
  window : Duration
  raised : Std.HashMap (String × String) Instant

namespace Exceptions

/-- More pairs than this are not kept without need. -/
def purgeThreshold : Nat := 1024

def ofWindow (window : Duration) : Exceptions := ⟨window, ∅⟩

/-- Whether `now` is less than a window after `at`. -/
def isRecent (e : Exceptions) (now at' : Instant) : Bool := now.minus at' < e.window.nanos

def size (e : Exceptions) : Nat := e.raised.size

/-- Forgets what is older than the window, if there is very much to remember. -/
def purge (e : Exceptions) (now : Instant) : Exceptions :=
  if purgeThreshold < e.size then
    { e with raised := e.raised.filter fun _ t => e.isRecent now t }
  else e

def wasRaised (e : Exceptions) (now : Instant) (owner cause : String) : Bool :=
  match e.raised[(owner, cause)]? with
  | some t => e.isRecent now t
  | none => false

/-- Lets the failure through or holds it back. -/
def tryRaise (e : Exceptions) (now : Instant) (owner cause : String) : Bool × Exceptions :=
  let e := e.purge now
  if e.wasRaised now owner cause then (false, e)
  else (true, { e with raised := e.raised.insert (owner, cause) now })

/-- The metric that carries a failure, if it is let through. -/
def raise (e : Exceptions) (now : Instant) (owner cause : String) (timestamp : Instant)
    (attributes : Attributes) : List Metric × Exceptions :=
  let (admitted, e) := e.tryRaise now owner cause
  (if admitted then [⟨timestamp, .exception cause, attributes⟩] else [], e)

def reset (e : Exceptions) : Exceptions := ofWindow e.window

end Exceptions

end Telemetry
