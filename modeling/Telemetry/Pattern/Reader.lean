import Telemetry.Pattern.Bracket

/-!
# Reading patterns

A pattern text is read from left to right by a machine that keeps the groups still open. Flags
set within a group hold to its end.

Main definition: `Pattern.ofText?`.
-/

namespace Telemetry.Pattern

variable [Library]

/-- A group that is still open: what was read of it so far. A member of the current branch is
`none` where flags were set, and cannot be repeated there. -/
structure Open where
  /-- The flags around the group. -/
  outside : Flags
  /-- The number of the group, if it captures. -/
  index : Option Nat
  /-- The finished branches, the last first. -/
  branches : List (Nested Pattern)
  /-- The members of the current branch, the last first. -/
  members : List (Option (Nested Pattern))

structure Reading where
  flags : Flags
  current : Open
  outer : List Open
  /-- How many groups capture so far. -/
  captures : Nat
  names : List String

def Open.start (outside : Flags) (index : Option Nat) : Open := ⟨outside, index, [], []⟩

def Open.branch (o : Open) : Nested Pattern :=
  let members := o.members.reverse
  ⟨ofList (members.filterMap fun m => m.map (·.value)),
    Nested.depthOf (members.map fun m => m.elim 0 (·.depth))⟩

/-- All branches as one pattern. -/
def Open.body (o : Open) : Nested Pattern :=
  let branches := (o.branch :: o.branches).reverse
  ⟨anyOf (branches.map (·.value)), Nested.depthOf (branches.map (·.depth))⟩

def Reading.add (r : Reading) (m : Option (Nested Pattern)) : Reading :=
  { r with current := { r.current with members := m :: r.current.members } }

/-- Adds what holds no construct. -/
def Reading.addLeaf (r : Reading) (p : Pattern) : Reading := r.add (some (.leaf p))

def Reading.literal (r : Reading) (c : Char) : Pattern :=
  .set (if r.flags.admits c then r.flags.cased (.single c) else .single c)

/-- Opens a group within which the given flags hold. -/
def Reading.enter (r : Reading) (flags : Flags) (index : Option Nat) : Reading :=
  { r with flags, current := .start r.flags index, outer := r.current :: r.outer }

/-- Closes the innermost group. -/
def Reading.leave? (r : Reading) : Option Reading :=
  match r.outer with
  | [] => none
  | around :: outer =>
    let p := r.current.body.around fun body =>
      match r.current.index with
      | some index => .group index body
      | none => body
    some ({ r with flags := r.current.outside, current := around, outer }.add (some p))

/-! ## Groups -/

def isNameStart (c : Char) : Bool :=
  c = '_' || c.isAlpha || 0x7f < c.toNat && Text.isAlphabetic c

def isNameChar (c : Char) : Bool :=
  isNameStart c || c.isDigit || c = '.' || c = '[' || c = ']' ||
    0x7f < c.toNat && Text.isInCategory "N" c

/-- The name of a group, up to the closing angle bracket. -/
def takeName (cs : List Char) : Option (String × List Char) :=
  let name := cs.takeWhile (· != '>')
  match name, cs.dropWhile (· != '>') with
  | c :: more, _ :: rest =>
    if isNameStart c && more.all isNameChar then some (String.ofList name, rest) else none
  | _, _ => none

def Reading.capture (r : Reading) : Reading :=
  { r.enter r.flags (some (r.captures + 1)) with captures := r.captures + 1 }

def Reading.named? (r : Reading) (cs : List Char) : Option (Reading × List Char) :=
  (takeName cs).bind fun (name, rest) =>
    if r.names.contains name then none
    else some ({ r.capture with names := name :: r.names }, rest)

/-- What follows an opening parenthesis. Conditions on what stands around are not known. -/
def Reading.group? (r : Reading) (cs : List Char) : Option (Reading × List Char) :=
  match cs with
  | '?' :: '=' :: _ | '?' :: '!' :: _ | '?' :: '<' :: '=' :: _ | '?' :: '<' :: '!' :: _ => none
  | '?' :: 'P' :: '<' :: rest => r.named? rest
  | '?' :: '<' :: rest => r.named? rest
  | '?' :: rest =>
    (takeFlags r.flags [] false rest).bind fun (flags, seen, close, rest) =>
      if close = ':' then some (r.enter flags none, rest)
      else if seen.isEmpty then none
      else some ({ r with flags }.add none, rest)
  | cs => some (r.capture, cs)

/-! ## Repetitions -/

/-- Repeats the last member. -/
def Reading.repeat? (r : Reading) (least : Nat) (more : Option Nat) (lazy : Bool) :
    Option Reading :=
  match r.current.members with
  | some p :: before =>
    let repeated := p.around fun p => p.times least more (lazy == r.flags.swapGreed)
    some { r with current := { r.current with members := some repeated :: before } }
  | _ => none

def takeLazy : List Char → Bool × List Char
  | '?' :: rest => (true, rest)
  | cs => (false, cs)

/-- A repetition that is written as one sign. -/
def Reading.sign? (r : Reading) (least : Nat) (more : Option Nat) (cs : List Char) :
    Option (Reading × List Char) :=
  let (lazy, rest) := takeLazy cs
  (r.repeat? least more lazy).map (·, rest)

/-- What follows an opening brace: a count, or a least and possibly a greatest count. -/
def takeCounts (f : Flags) (cs : List Char) : Option (Nat × Option Nat × List Char) := do
  let (least, rest) ← takeCount f (f.skip cs)
  match rest with
  | '}' :: rest => some (least, some 0, rest)
  | ',' :: rest =>
    match f.skip rest with
    | '}' :: rest => some (least, none, rest)
    | rest =>
      let (most, rest) ← takeCount f rest
      match rest with
      | '}' :: rest => if least ≤ most then some (least, some (most - least), rest) else none
      | _ => none
  | _ => none

def Reading.counted? (r : Reading) (cs : List Char) : Option (Reading × List Char) :=
  (takeCounts r.flags cs).bind fun (least, more, rest) =>
    let (lazy, rest) := takeLazy (r.flags.skip rest)
    (r.repeat? least more lazy).map (·, rest)

/-! ## The machine -/

def Flags.dot (f : Flags) : CharSet :=
  if f.dotAll then .compl .none
  else if f.withReturn then .compl (.ofList [.single '\r', .single '\n'])
  else .compl (.single '\n')

def Flags.start (f : Flags) : Anchor := if f.multiLine then .lineStart f.withReturn else .textStart

def Flags.stop (f : Flags) : Anchor := if f.multiLine then .lineEnd f.withReturn else .textEnd

/-- Reads what begins with `c`. -/
def Reading.step? (r : Reading) (c : Char) (rest : List Char) : Option (Reading × List Char) :=
  match c with
  | '(' => r.group? (r.flags.skip rest)
  | ')' => r.leave?.map (·, rest)
  | '|' =>
    let o := r.current
    some ({ r with current := { o with branches := o.branch :: o.branches, members := [] } }, rest)
  | '[' =>
    (openBracket r.flags rest).bind fun (b, rest) =>
      (takeBracket r.flags b [] rest).map fun (s, rest) =>
        (r.add (some ⟨.set s.value, s.depth⟩), rest)
  | '*' => r.sign? 0 none rest
  | '+' => r.sign? 1 none rest
  | '?' => r.sign? 0 (some 1) rest
  | '{' => r.counted? rest
  | '.' =>
    if r.flags.unicode then some (r.addLeaf (.set r.flags.dot), rest) else none
  | '^' => some (r.addLeaf (.anchor r.flags.start), rest)
  | '$' => some (r.addLeaf (.anchor r.flags.stop), rest)
  | '\\' =>
    (takeEscape r.flags rest).map fun (e, rest) =>
      match e with
      | .char c => (r.addLeaf (r.literal c), rest)
      | .set s => (r.addLeaf (.set s), rest)
      | .anchor a => (r.addLeaf (.anchor a), rest)
  | c => some (r.addLeaf (r.literal c), rest)

/-- Reads to the end of the text; every round consumes characters. -/
def Reading.finish? (r : Reading) (cs : List Char) : Option (Nested Pattern) :=
  match r.flags.skip cs with
  | [] => if r.outer.isEmpty then some r.current.body else none
  | c :: rest =>
    (r.step? c rest).bind fun (r, rest) =>
      if rest.length < cs.length then r.finish? rest else none
termination_by cs.length

/-- The machine before a text. -/
def Reading.fresh : Reading := ⟨.default, .start .default none, [], 0, []⟩

/-- The pattern that a text spells, with its depth. -/
def spelled? (text : String) : Option (Nested Pattern) := Reading.fresh.finish? text.toList

/-- How deep the constructs of a text may stand in one another. -/
def nestLimit : Nat := 250

/-- The pattern that a text spells, unless it is too deep or too large. -/
def ofText? (text : String) : Option Pattern :=
  ((spelled? text).filter fun n => n.depth ≤ nestLimit && Library.fits text n.value).map
    (·.value)

/-- The text for a pattern that matches only the whole of a text. -/
def anchored (text : String) : String := "^(?:" ++ text ++ ")$"

def whole? (text : String) : Option Pattern := ofText? (anchored text)

end Telemetry.Pattern
