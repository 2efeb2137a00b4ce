import Telemetry.Configuration.Error
import Telemetry.Json.Path
import Telemetry.Time.Duration

/-!
# Properties

Components are configured from a set of named texts; dots in the names make blocks. A component
*takes* the properties that it knows, and whatever it leaves is an error.
-/

namespace Telemetry

abbrev Properties := NameMap String

namespace Properties

/-- The property and the set without it. -/
def take (p : Properties) (key : String) : Option String × Properties :=
  (p.get? key, p.erase key)

def takeRequired (p : Properties) (key : String) :
    Except ConfigurationError String × Properties :=
  match p.get? key with
  | some raw => (.ok raw, p.erase key)
  | none => (.error (.missing key), p.erase key)

/-- Takes a property that `read?` has to make sense of. -/
def takeRead {α : Type} (read? : String → Except Reason α) (p : Properties) (key : String) :
    Except ConfigurationError (Option α) × Properties :=
  match p.get? key with
  | none => (.ok none, p.erase key)
  | some raw => match read? raw with
    | .ok x => (.ok (some x), p.erase key)
    | .error reason => (.error (.invalid key raw reason), p.erase key)

def takeDuration : Properties → String → Except ConfigurationError (Option Duration) × Properties :=
  takeRead fun raw => match Duration.ofText? raw with
    | some d => .ok d
    | none => .error .notDuration

/-- The greatest count that a property may state. -/
def greatestCount : Nat := greatestOf 64

def takeCount : Properties → String → Except ConfigurationError (Option Nat) × Properties :=
  takeRead fun raw => match Text.natural greatestCount (Text.trim raw) with
    | .ok n => .ok n
    | .error e => .error (.natural e)

def takeTruth : Properties → String → Except ConfigurationError (Option Bool) × Properties :=
  takeRead fun raw => match Text.trim raw with
    | "true" => .ok true
    | "false" => .ok false
    | _ => .error .notTruth

/-- The entries under `block.`, named without it. -/
def subset (p : Properties) (block : String) : Properties :=
  NameMap.ofList (p.entries.filterMap fun e =>
    (Text.dropStart? (block ++ ".") e.1).map fun key => (key, e.2))

def isUnder (block key : String) : Bool := (Text.dropStart? (block ++ ".") key).isSome

/-- The block and the set without it. -/
def takeSubset (p : Properties) (block : String) : Properties × Properties :=
  (p.subset block, p.filter fun key _ => !isUnder block key)

/-- The name up to its first dot. -/
def firstSegment (key : String) : String :=
  String.ofList (key.toList.takeWhile (· != '.'))

/-- The first segments of all names, sorted, each once. -/
def ids (p : Properties) : List String := NameMap.sortedNames (p.keys.map firstSegment)

/-- Nothing is left. -/
def confirmAllUsed (p : Properties) : Except ConfigurationError Unit :=
  if p.isEmpty then .ok () else .error (.unused p.keys)

/-! ## From documents and texts -/

mutual

/-- Scalars under their paths; the scalars of an array are joined by blanks. -/
def flatten (above : Option String) : Json → List (String × String)
  | .object members => flattenMembers above members
  | .array items =>
    above.toList.map fun path => (path, " ".intercalate (items.filterMap Json.scalar?))
  | leaf => match above, leaf.scalar? with
    | some path, some s => [(path, s)]
    | _, _ => []

def flattenMembers (above : Option String) : List (String × Json) → List (String × String)
  | [] => []
  | (name, child) :: rest =>
    flatten (some (Json.extend above name)) child ++ flattenMembers above rest

end

def ofJson (document : Json) : Properties := NameMap.ofList (flatten none document)

/-- Whether a trimmed line is empty or a comment. -/
def isSkipped (line : String) : Bool :=
  match line.toList with
  | [] | '#' :: _ | '!' :: _ => true
  | _ => false

/-- The assignments of numbered lines, up to the first line that is none. -/
def assignments (number : Nat) : List String → Except ConfigurationError (List (String × String))
  | [] => .ok []
  | raw :: rest =>
    let line := Text.trim raw
    if isSkipped line then assignments (number + 1) rest
    else match Text.splitOnce '=' line with
      | none => .error (.invalid ("line " ++ toString number) line .notAssignment)
      | some (key, value) =>
        (assignments (number + 1) rest).map ((Text.trim key, Text.trim value) :: ·)

/-- Lines of the form `key = value`, comments and empty lines. -/
def ofText (text : String) : Except ConfigurationError Properties :=
  (assignments 1 (Text.lines text)).map NameMap.ofList

end Properties

end Telemetry
