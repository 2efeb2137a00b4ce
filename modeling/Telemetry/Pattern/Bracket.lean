import Telemetry.Pattern.Escape

/-!
# Character classes

A class in brackets is a union of characters, ranges, sets and classes. The operators `&&`, `--`
and `~~` join unions, from left to right.
-/

namespace Telemetry.Pattern

variable [Library]

inductive SetOperator
  | inter
  | diff
  | symmDiff
  deriving DecidableEq, Repr

def SetOperator.apply : SetOperator → CharSet → CharSet → CharSet
  | .inter => .inter
  | .diff => CharSet.diff
  | .symmDiff => CharSet.symmDiff

/-- A class that is still open: what its last union holds so far, and what stands before it. -/
structure Bracket where
  negated : Bool
  left : Option (SetOperator × Nested CharSet)
  items : List (Nested CharSet)

/-- All operands read so far as one set. -/
def Bracket.joined (f : Flags) (b : Bracket) : Nested CharSet :=
  let items := b.items.reverse
  let last : Nested CharSet :=
    ⟨.ofList (items.map (·.value)), Nested.depthOf (items.map (·.depth))⟩
  match b.left with
  | some (op, s) =>
    ⟨op.apply (f.cased s.value) (f.cased last.value), max s.depth last.depth + 1⟩
  | none => last

/-- The set of a class that is closed. -/
def Bracket.closed? (f : Flags) (b : Bracket) : Option (Nested CharSet) :=
  let s := b.joined f
  (f.signed? b.negated s.value).map fun set => s.around fun _ => set

def Bracket.add (b : Bracket) (s : Nested CharSet) : Bracket := { b with items := s :: b.items }

def Bracket.operate (f : Flags) (op : SetOperator) (b : Bracket) : Bracket :=
  { b with left := some (op, b.joined f), items := [] }

/-- The minus signs at the head of a text, as members of a class. -/
def leadingMinus (f : Flags) (b : Bracket) : List Char → Bracket × List Char
  | [] => (b, [])
  | c :: rest =>
    if c = '-' then
      have := f.length_skip rest
      leadingMinus f (b.add (.leaf (.single '-'))) (f.skip rest)
    else (b, c :: rest)
termination_by cs => cs.length

/-- What follows an opening bracket: a negation, and members that would otherwise close the
class or make a range. -/
def openBracket (f : Flags) (cs : List Char) : Option (Bracket × List Char) :=
  let (negated, cs) := match f.skip cs with
    | '^' :: rest => (true, f.skip rest)
    | cs => (false, cs)
  let (b, cs) := leadingMinus f ⟨negated, none, []⟩ cs
  match b.items, cs with
  | _, [] => none
  | [], ']' :: rest =>
    if (f.skip rest).isEmpty then none
    else some (b.add (.leaf (.single ']')), f.skip rest)
  | _, cs => some (b, cs)

/-- The classes of ASCII that have names. -/
def namedSet? : String → Option CharSet
  | "alnum" => some (.ofList [.range '0' '9', .range 'A' 'Z', .range 'a' 'z'])
  | "alpha" => some (.ofList [.range 'A' 'Z', .range 'a' 'z'])
  | "ascii" => some (.range '\x00' '\x7f')
  | "blank" => some (.ofList [.single '\t', .single ' '])
  | "cntrl" => some (.ofList [.range '\x00' '\x1f', .single '\x7f'])
  | "digit" => some (.range '0' '9')
  | "graph" => some (.range '!' '~')
  | "lower" => some (.range 'a' 'z')
  | "print" => some (.range ' ' '~')
  | "punct" => some (.ofList [.range '!' '/', .range ':' '@', .range '[' '\x60', .range '\x7b' '~'])
  | "space" => some asciiBlank
  | "upper" => some (.range 'A' 'Z')
  | "word" => some asciiWord
  | "xdigit" => some (.ofList [.range '0' '9', .range 'A' 'F', .range 'a' 'f'])
  | _ => none

/-- A named class, from behind its opening bracket, and whether it is negated. -/
def takeNamed (cs : List Char) : Option ((Bool × CharSet) × List Char) :=
  match cs with
  | ':' :: rest =>
    let (negated, rest) := match rest with
      | '^' :: r => (true, r)
      | r => (false, r)
    match rest.dropWhile (· != ':') with
    | ':' :: ']' :: tail =>
      (namedSet? (String.ofList (rest.takeWhile (· != ':')))).map fun s => ((negated, s), tail)
    | _ => none
  | _ => none

/-- A member of a class: a character, or a set with a name. -/
def takeMember (f : Flags) : List Char → Option (Escape × List Char)
  | [] => none
  | '\\' :: rest => takeEscape f rest
  | c :: rest => some (.char c, rest)

/-- The set of a member that is no end of a range. -/
def loneSet? (f : Flags) : Escape → Option CharSet
  | .char c => if f.admits c then some (.single c) else none
  | .set s => some s
  | .anchor _ => none

/-- The set of a range. -/
def rangeSet? (f : Flags) : Escape → Escape → Option CharSet
  | .char a, .char b => if a ≤ b ∧ f.admits b then some (.range a b) else none
  | _, _ => none

/-- Whether a member that a text follows is no start of a range. -/
def standsAlone (f : Flags) : List Char → Bool
  | '-' :: next => f.peek? next == some ']' || f.peek? next == some '-'
  | _ => true

/-- A member or a range. -/
def takeRange (f : Flags) (cs : List Char) : Option (CharSet × List Char) := do
  let (low, rest) ← takeMember f cs
  let rest := f.skip rest
  if rest.isEmpty then none
  else if standsAlone f rest then (loneSet? f low).map (·, rest)
  else
    let (high, rest) ← takeMember f (f.skip (rest.drop 1))
    (rangeSet? f low high).map (·, rest)

/-- The class at the head of a text, from behind its opening bracket. `outer` holds the classes
around it; every round of the loop consumes characters. -/
def takeBracket (f : Flags) (b : Bracket) (outer : List Bracket) (cs : List Char) :
    Option (Nested CharSet × List Char) :=
  let next (b : Bracket) (outer : List Bracket) (rest : List Char) :=
    if rest.length < cs.length then takeBracket f b outer rest else none
  match f.skip cs with
  | [] => none
  | '[' :: rest =>
    match takeNamed rest with
    | some ((negated, s), rest) =>
      (f.signed? negated s).bind fun s => next (b.add (.leaf s)) outer rest
    | none => (openBracket f rest).bind fun (inner, rest) => next inner (b :: outer) rest
  | ']' :: rest =>
    (b.closed? f).bind fun s =>
      match outer with
      | [] => some (s, rest)
      | around :: outer => next (around.add s) outer rest
  | '&' :: '&' :: rest => next (b.operate f .inter) outer rest
  | '-' :: '-' :: rest => next (b.operate f .diff) outer rest
  | '~' :: '~' :: rest => next (b.operate f .symmDiff) outer rest
  | cs' => (takeRange f cs').bind fun (s, rest) => next (b.add (.leaf s)) outer rest
termination_by cs.length

end Telemetry.Pattern
