import Std.Data.HashMap
import Telemetry.Definition.Group
import Telemetry.Definition.Sample

/-!
# Stored states

The states of all groups of all definitions, each as the bytes that it is stored as, with the time
of its last update.

*View*: `Store.held`, what can be read back for a key.
-/

namespace Telemetry

structure StoredState where
  bytes : ByteArray
  updated : Instant

abbrev Store := Std.HashMap StateKey StoredState

/-- What a store has for a key. -/
inductive Held
  | nothing
  /-- Bytes that are no state. -/
  | unreadable
  | state (stores : Stores)
  deriving DecidableEq, Repr

namespace Store

def empty : Store := ∅

def held [Written.NumeralReader] (s : Store) (key : StateKey) : Held :=
  match s[key]? with
  | none => .nothing
  | some stored =>
    match Stores.ofBytes? stored.bytes with
    | some stores => .state stores
    | none => .unreadable

def putBytes (s : Store) (now : Instant) (key : StateKey) (bytes : ByteArray) : Store :=
  s.insert key ⟨bytes, now⟩

def put (s : Store) (now : Instant) (key : StateKey) (stores : Stores) : Store :=
  s.putBytes now key stores.bytes

/-- Whether the state was not updated for longer than a time. -/
def isIdle (now : Instant) (timeout : Duration) (stored : StoredState) : Bool :=
  timeout.nanos < now.minus stored.updated

/-- The keys that were not updated for longer than a time, in no order. -/
def idleKeys (s : Store) (now : Instant) (timeout : Duration) : List StateKey :=
  (s.filter fun _ stored => isIdle now timeout stored).keys

/-- The store as diagnostics show it. -/
def text (s : Store) : String :=
  "MemoryStateStore \x7b entries: " ++ toString s.size ++ " \x7d"

end Store

end Telemetry
