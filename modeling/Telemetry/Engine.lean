import Telemetry.Schema.Set
import Telemetry.Settings
import Telemetry.State.Update

/-!
# The engine

Records go in; the metrics that schemas extract from them come out, then the metrics that
definitions derive from these, then the errors of definitions. The engine keeps the states of
definitions and remembers the failures that it reported.
-/

namespace Telemetry

structure Engine where
  settings : Settings
  exceptions : Exceptions
  schemas : Schemas
  definitions : Definitions
  store : Store

namespace Engine

def ofProperties (settings : Settings) (p : Properties) : Engine where
  settings
  exceptions := .ofWindow settings.window
  schemas := .ofProperties p
  definitions := .ofProperties p settings.state.maxSeries
  store := .empty

/-- Takes over other properties. States and reported failures are kept, that of a definition that is
gone too: no metric is led to it any more, only time removes it. -/
def reload (g : Engine) (p : Properties) : Engine :=
  { g with
    schemas := .ofProperties p
    definitions := .ofProperties p g.settings.state.maxSeries }

/-- The metrics that the schemas of a source extract from a record. -/
def extract (g : Engine) (now : Instant) (source : String) (record : Json) :
    List Metric × Engine :=
  let (metrics, exceptions) := g.schemas.extract now source record g.exceptions
  (metrics, { g with exceptions })

/-- The metrics extracted from a record, those derived from them, and the errors of definitions. One
reading of the clock serves the whole record; a running clock would be read again for every failure
and for every state that is stored. -/
def process (g : Engine) (now : Instant) (source : String) (record : Json) :
    List Metric × Engine :=
  let (extracted, g) := g.extract now source record
  let (derived, store) := g.store.processAll g.definitions now extracted
  let (errors, exceptions) := g.definitions.errors now now g.exceptions
  (extracted ++ derived ++ errors, { g with store, exceptions })

/-- The same for a record given as text. A text that is no document changes nothing. -/
def processText (g : Engine) (now : Instant) (source text : String) :
    Option (List Metric × Engine) :=
  (Json.read? text).map fun record => g.process now source record

/-- Removes the states that are idle for too long, and counts them. -/
def expire (g : Engine) (now : Instant) : Nat × Engine :=
  let (count, store) := g.store.expire g.definitions now g.settings.timeout
  (count, { g with store })

end Engine

end Telemetry
