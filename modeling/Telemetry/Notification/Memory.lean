import Telemetry.Configuration.Properties
import Telemetry.Notification.Basic

/-!
# Sinks that keep notifications

A memory sink keeps the notifications that are for it, up to its capacity. When it is full it
either drops the oldest for the newest, or refuses and so fails the delivery.
-/

namespace Telemetry

/-- What a full sink does with one more notification. -/
inductive Overflow
  | evict
  | reject
  deriving DecidableEq, Repr

namespace Overflow

def name : Overflow → String
  | .evict => "evict"
  | .reject => "reject"

/-- A name in any case, with blanks around it. -/
def ofText (raw : String) : Except Reason Overflow :=
  match (Text.trim raw).toLower with
  | "evict" => .ok .evict
  | "reject" => .ok .reject
  | other => .error (.unknownOverflow other)

end Overflow

/-- Why a delivery failed. -/
inductive DeliveryError
  | full (sink : String) (capacity : Nat)
  deriving DecidableEq, Repr

def DeliveryError.message : DeliveryError → String
  | .full sink capacity =>
    "sink " ++ sink ++ ": delivery failed: buffer full (" ++ toString capacity ++
      " notifications)"

structure MemorySink where
  id : String
  capacity : Nat
  overflow : Overflow
  /-- What is kept, the oldest first. -/
  kept : List Notification
  capacity_pos : 0 < capacity := by decide
  deriving Repr

namespace MemorySink

def defaultCapacity : Nat := 1000

def ofId (id : String) : MemorySink := ⟨id, defaultCapacity, .evict, [], by decide⟩

/-- At least one notification is kept. -/
def withCapacity (s : MemorySink) (n : Nat) : MemorySink :=
  { s with capacity := atLeastOne n, capacity_pos := atLeastOne_pos n }

def withOverflow (s : MemorySink) (o : Overflow) : MemorySink := { s with overflow := o }

/-- Takes the capacity and then the overflow, up to the first error. What was taken before an error
remains. -/
def configure (s : MemorySink) (p : Properties) : Except ConfigurationError Unit × MemorySink :=
  let (capacity, p) := p.takeCount "capacity"
  match capacity.map fun n => n.getD defaultCapacity with
  | .error e => (.error e, s)
  | .ok capacity =>
    if h : 0 < capacity then
      let s := { s with capacity, capacity_pos := h }
      let (overflow, p) := p.takeRead Overflow.ofText "overflow"
      match overflow with
      | .error e => (.error e, s)
      | .ok overflow => (p.confirmAllUsed, s.withOverflow (overflow.getD .evict))
    else (.error (.invalid "capacity" "0" .notPositive), s)

/-- The sink with one more notification, unless it refuses it. -/
def keep? (s : MemorySink) (n : Notification) : Option MemorySink :=
  if s.kept.length < s.capacity then some { s with kept := s.kept ++ [n] }
  else match s.overflow with
    | .evict => some { s with kept := s.kept.drop 1 ++ [n] }
    | .reject => none

/-- Keeps every notification that is for the sink. At the first that it refuses it stops, and gives
the error and the notifications that it has not read. -/
def notify (s : MemorySink) :
    List Notification → Except (DeliveryError × List Notification) Unit × MemorySink
  | [] => (.ok (), s)
  | n :: rest =>
    if n.isFor s.id then
      match s.keep? n with
      | some s => s.notify rest
      | none => (.error (.full s.id s.capacity, rest), s)
    else s.notify rest

/-- Takes out all that is kept. -/
def drain (s : MemorySink) : List Notification × MemorySink := (s.kept, { s with kept := [] })

end MemorySink

end Telemetry
