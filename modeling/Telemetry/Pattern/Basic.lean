import Telemetry.Text.Blank
import Telemetry.Text.Category
import Telemetry.Text.Folding
import Telemetry.Text.Letter
import Telemetry.Text.Script
import Telemetry.Text.WordChar

/-!
# Patterns

Regular expressions over characters, with captures. Where several matches begin at one place,
the pattern prefers one: the earlier alternative, and more or fewer repetitions as each
repetition says.
-/

namespace Telemetry

/-- A set of characters. -/
inductive CharSet
  | range (first last : Char)
  | digit
  | word
  | blank
  /-- The categories that begin with one of the codes. -/
  | category (codes : List String)
  | script (code : String)
  | alphabetic
  | lowercase
  | uppercase
  | none
  | union (a b : CharSet)
  | inter (a b : CharSet)
  | compl (a : CharSet)
  /-- With each character all that differ from it in case only. -/
  | anyCase (a : CharSet)
  deriving DecidableEq, Repr

namespace CharSet

def has : CharSet → Char → Bool
  | .range first last, c => first ≤ c && c ≤ last
  | .digit, c => Text.isDigit c
  | .word, c => Text.isWordChar c
  | .blank, c => Text.isBlank c
  | .category codes, c => codes.any fun code => Text.isInCategory code c
  | .script code, c => Text.script c == code
  | .alphabetic, c => Text.isAlphabetic c
  | .lowercase, c => Text.isLowercase c
  | .uppercase, c => Text.isUppercase c
  | .none, _ => false
  | .union a b, c => a.has c || b.has c
  | .inter a b, c => a.has c && b.has c
  | .compl a, c => !a.has c
  | .anyCase a, c => a.has c || (Text.caseVariants c).any a.has

def single (c : Char) : CharSet := .range c c

def ofList (sets : List CharSet) : CharSet := sets.foldr .union .none

def diff (a b : CharSet) : CharSet := .inter a (.compl b)

def symmDiff (a b : CharSet) : CharSet := .union (diff a b) (diff b a)

end CharSet

/-- A condition on a place between two characters. -/
inductive Anchor
  | textStart
  | textEnd
  | lineStart (withReturn : Bool)
  | lineEnd (withReturn : Bool)
  | wordEdge (isWord : CharSet)
  | noWordEdge (isWord : CharSet)
  | wordStart (isWord : CharSet)
  | wordEnd (isWord : CharSet)
  | wordStartHalf (isWord : CharSet)
  | wordEndHalf (isWord : CharSet)
  deriving DecidableEq, Repr

inductive Pattern
  | empty
  | set (s : CharSet)
  | anchor (a : Anchor)
  | seq (p q : Pattern)
  | alt (p q : Pattern)
  | group (index : Nat) (p : Pattern)
  /-- At least `least` times, and at most `more` times beyond that, if there is a bound. -/
  | repeated (p : Pattern) (least : Nat) (more : Option Nat) (greedy : Bool)
  deriving DecidableEq, Repr

namespace Pattern

/-- The length of the longest match, if it is bounded. -/
def longest : Pattern → Option Nat
  | .empty | .anchor _ => some 0
  | .set _ => some 1
  | .seq p q => do return (← p.longest) + (← q.longest)
  | .alt p q => do return max (← p.longest) (← q.longest)
  | .group _ p => p.longest
  | .repeated p least more _ => do return (← p.longest) * (least + (← more))

/-- A repetition. What matches nothing but the empty text need not be repeated. -/
def times (p : Pattern) (least : Nat) (more : Option Nat) (greedy : Bool) : Pattern :=
  let (least, more) :=
    if p.longest = some 0 then
      let most := more.map fun m => min (least + m) 1
      (min least 1, some (most.getD 1 - min least 1))
    else (least, more)
  match least, more with
  | 0, some 0 => .empty
  | 1, some 0 => p
  | _, _ => .repeated p least more greedy

/-- The greatest number of a group, 0 without groups. -/
def groups : Pattern → Nat
  | .empty | .set _ | .anchor _ => 0
  | .seq p q | .alt p q => max p.groups q.groups
  | .group index p => max index p.groups
  | .repeated p _ _ _ => p.groups

def ofList (ps : List Pattern) : Pattern :=
  match ps with
  | [] => .empty
  | p :: rest => rest.foldl .seq p

def anyOf (ps : List Pattern) : Pattern :=
  match ps with
  | [] => .empty
  | [p] => p
  | p :: rest => .alt p (anyOf rest)

end Pattern

/-- What was read of a text, and how deep the constructs of the text stand in one another there. -/
structure Nested (α : Type) where
  value : α
  depth : Nat
  deriving DecidableEq, Repr

namespace Nested

variable {α β : Type}

/-- A character, a set with a name, or an anchor holds no construct. -/
def leaf (a : α) : Nested α := ⟨a, 0⟩

/-- A construct around what was read. -/
def around (n : Nested α) (g : α → β) : Nested β := ⟨g n.value, n.depth + 1⟩

/-- Several parts make a construct of their own; one part alone is all there is. -/
def depthOf : List Nat → Nat
  | [] => 0
  | [depth] => depth
  | depths => depths.foldr max 0 + 1

end Nested

end Telemetry
