import Telemetry.Pattern.Basic

/-!
# Matching

A *thread* is a place in the text with the groups matched on the way to it. A pattern leads from
a thread to the threads at which it can end, the preferred one first; of several that end at one
place only the preferred one is kept. A repetition is explored depth first and begins no round at
a place where a round has begun before, so it ends.
-/

namespace Telemetry.Pattern

/-- A group and the places between which it was matched. -/
structure Span where
  index : Nat
  start : Nat
  stop : Nat
  deriving DecidableEq, Repr

/-- A place in the text, and the groups matched so far, the last first. -/
structure Thread where
  place : Nat
  spans : List Span
  deriving DecidableEq, Repr

/-- Keeps the first thread of each place. -/
def firsts (ts : List Thread) : List Thread :=
  (ts.foldl (fun (kept : List Thread) t =>
    if kept.any fun k => k.place == t.place then kept else t :: kept) []).reverse

/-! ## Anchors -/

def before? (text : Array Char) (place : Nat) : Option Char :=
  if place = 0 then none else text[place - 1]?

def after? (text : Array Char) (place : Nat) : Option Char := text[place]?

/-- Where lines begin: also between a carriage return and what is no line feed. -/
def atLineStart (withReturn : Bool) (b a : Option Char) : Bool :=
  match b with
  | none => true
  | some '\n' => true
  | some '\r' => withReturn && a != some '\n'
  | _ => false

def atLineEnd (withReturn : Bool) (b a : Option Char) : Bool :=
  match a with
  | none => true
  | some '\r' => withReturn
  | some '\n' => !(withReturn && b == some '\r')
  | _ => false

def holds (text : Array Char) (place : Nat) (anchor : Anchor) : Bool :=
  let b := before? text place
  let a := after? text place
  match anchor with
  | .textStart => b.isNone
  | .textEnd => a.isNone
  | .lineStart r => atLineStart r b a
  | .lineEnd r => atLineEnd r b a
  | .wordEdge w => b.any w.has != a.any w.has
  | .noWordEdge w => b.any w.has == a.any w.has
  | .wordStart w => !b.any w.has && a.any w.has
  | .wordEnd w => b.any w.has && !a.any w.has
  | .wordStartHalf w => !b.any w.has
  | .wordEndHalf w => !a.any w.has

/-! ## Repetitions -/

/-- What repetitions have seen: where rounds began, and where they ended. -/
structure Seen where
  began : List Nat
  ended : List Nat

/-- Rounds of a repetition without bound, from a thread that begins one. `fuel` bounds the rounds
within rounds; each begins at a place of its own. -/
def rounds (round : Thread → List Thread) (greedy : Bool) :
    (fuel : Nat) → Thread → Seen → List Thread × Seen
  | 0, _, seen => ([], seen)
  | fuel + 1, t, seen =>
    if seen.began.contains t.place then ([], seen)
    else
      (round t).foldl (fun (found, seen) u =>
        if seen.ended.contains u.place then (found, seen)
        else
          let seen : Seen := ⟨seen.began, u.place :: seen.ended⟩
          let (deeper, seen) := rounds round greedy fuel u seen
          (found ++ (if greedy then deeper ++ [u] else u :: deeper), seen))
        ([], ⟨t.place :: seen.began, seen.ended⟩)

/-- At most `bound` more rounds. A round that begins with as many left and at the same place as one
before leads to nothing new; `seen` holds what rounds began with. -/
def upTo (round : Thread → List Thread) (greedy : Bool) :
    (bound : Nat) → Thread → (seen : List (Nat × Nat)) → List Thread × List (Nat × Nat)
  | 0, t, seen => ([t], seen)
  | bound + 1, t, seen =>
    if seen.contains (bound, t.place) then ([], seen)
    else
      let (deeper, seen) := (round t).foldl (fun (found, seen) u =>
        let (more, seen) := upTo round greedy bound u seen
        (found ++ more, seen)) ([], (bound, t.place) :: seen)
      (if greedy then deeper ++ [t] else t :: deeper, seen)

/-- Exactly `count` rounds. -/
def exactly (round : Thread → List Thread) : (count : Nat) → List Thread → List Thread
  | 0, ts => ts
  | count + 1, ts =>
    if ts.isEmpty then [] else exactly round count (firsts (ts.flatMap round))

/-- The threads at which a pattern can end, from a thread at which it begins. -/
def run (text : Array Char) : Pattern → Thread → List Thread
  | .empty, t => [t]
  | .set s, t =>
    match text[t.place]? with
    | some c => if s.has c then [⟨t.place + 1, t.spans⟩] else []
    | none => []
  | .anchor a, t => if holds text t.place a then [t] else []
  | .seq p q, t => firsts ((run text p t).flatMap (run text q))
  | .alt p q, t => firsts (run text p t ++ run text q t)
  | .group index p, t =>
    (run text p t).map fun u => ⟨u.place, ⟨index, t.place, u.place⟩ :: u.spans⟩
  | .repeated p least more greedy, t =>
    match more with
    | some bound =>
      firsts ((exactly (run text p) least [t]).flatMap fun u =>
        (upTo (run text p) greedy bound u []).1)
    | none =>
      let many (u : Thread) := (rounds (run text p) greedy (text.size + 2) u ⟨[], []⟩).1
      match least with
      | 0 => firsts (if greedy then many t ++ [t] else t :: many t)
      | least + 1 => firsts ((exactly (run text p) least [t]).flatMap many)

/-! ## Searching -/

/-- The preferred match at the first of `count` places from `start` on that has one. -/
def searchFrom (p : Pattern) (text : Array Char) : (count start : Nat) → Option Thread
  | 0, _ => none
  | count + 1, start =>
    match run text p ⟨start, []⟩ with
    | found :: _ => some ⟨found.place, ⟨0, start, found.place⟩ :: found.spans⟩
    | [] => searchFrom p text count (start + 1)

/-- The groups of the preferred match; group 0 is all of it. -/
def search (p : Pattern) (s : String) : Option (List Span) :=
  let text := s.toList.toArray
  (searchFrom p text (text.size + 1) 0).map (·.spans)

def matchesIn (p : Pattern) (s : String) : Bool := (p.search s).isSome

/-- The text that a group stands for, if it took part in the match. -/
def spanText? (s : String) (spans : List Span) (index : Nat) : Option String :=
  (spans.find? fun g => g.index == index).map fun g =>
    String.ofList ((s.toList.drop g.start).take (g.stop - g.start))

end Telemetry.Pattern
