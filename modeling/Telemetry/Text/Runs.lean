import Telemetry.Text.Natural

/-!
# Tables of runs

A table tells a property of all characters, for one run of code points after the other from zero
on: the name of the property's value, and the length of the run. Names consist of letters.
-/

namespace Telemetry.Text

structure Run where
  name : String
  /-- The first code point behind the run. -/
  stop : Nat
  deriving DecidableEq, Repr

/-- A run being read, and those before it, the last first. -/
structure OpenRun where
  name : List Char
  length : Nat
  start : Nat
  closed : List Run

def OpenRun.close (r : OpenRun) : OpenRun :=
  let stop := r.start + r.length
  ⟨[], 0, stop, ⟨String.ofList r.name.reverse, stop⟩ :: r.closed⟩

/-- A letter behind a length begins another run. -/
def OpenRun.add (r : OpenRun) (c : Char) : OpenRun :=
  match digit? c with
  | some d => { r with length := 10 * r.length + d }
  | none =>
    let r := if r.length = 0 then r else r.close
    { r with name := c :: r.name }

/-- The runs that lines of text spell. -/
def runs (lines : List String) : List Run :=
  ((lines.flatMap String.toList).foldl OpenRun.add ⟨[], 0, 0, []⟩).close.closed.reverse

/-- The value of the property for a character. -/
def valueIn (table : List Run) (c : Char) : String :=
  ((table.find? fun r => c.toNat < r.stop).map Run.name).getD ""

end Telemetry.Text
