import Telemetry.Pattern.Property

/-!
# What patterns are read with

How patterns are written is one thing. Which properties of characters have names, how large the
machine of a pattern may become, and what is said of a text that is no pattern are others: they are
a library's, and nothing about the reading of patterns depends on them. The library of this module
knows a part of the properties and estimates sizes.
-/

namespace Telemetry

/-- What a library for patterns brings along. -/
class Pattern.Library where
  /-- The characters that have a property: one with a name, or one with a name and a value. -/
  property? : List Char → Option (List Char) → Option CharSet
  /-- Whether the machine for a text that spells a pattern stays within the memory for it. -/
  fits : String → Pattern → Bool
  /-- What is said of a text that is no pattern. -/
  complaint : String → String

/-! ## Estimates -/

/-- About how many steps over bytes a machine needs for the set, and so its complement. -/
def CharSet.weight : CharSet → Nat
  | .range first last =>
    if first = last then first.utf8Size else if last.toNat < 0x80 then 2 else 16
  | .digit => 160
  | .word => 1557
  | .blank => 22
  | .category _ | .script _ | .alphabetic | .lowercase | .uppercase => 1300
  | .none => 1
  | .union a b | .inter a b => a.weight + b.weight
  | .compl a => a.weight + 30
  | .anyCase a => 2 * a.weight

/-- About how many steps over bytes a machine needs for the pattern: a counted repetition needs
those of the repeated pattern once for each count. -/
def Pattern.weight : Pattern → Nat
  | .empty | .anchor _ => 1
  | .set s => s.weight
  | .seq p q => p.weight + q.weight
  | .alt p q => p.weight + q.weight + 1
  | .group _ p => p.weight + 2
  | .repeated p least more _ => least * p.weight + match more with
    | some bound => bound * (p.weight + 1) + 1
    | none => p.weight + 2

/-- Ten mebibytes in steps of 32 bytes each. -/
def Pattern.greatestWeight : Nat := 327680

instance : Pattern.Library where
  property? := CharSet.ofProperty?
  fits _ p := p.weight ≤ Pattern.greatestWeight
  complaint _ := "<regex error>"

end Telemetry
