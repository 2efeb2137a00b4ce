import Telemetry.Proofs.Equation.Counted
import Telemetry.Proofs.Equation.Leaves

/-!
# Heights of trees and of their parsing

A node keeps its depth, which its constructor computes from the depths of the operands. In every
tree that is built, and so in every tree that is parsed, the number that is kept is the height of
the tree (`Node.Built.depth_eq_height`).

A text bounds the work on it: `Node.recursion_bounded`.
-/

namespace Telemetry

namespace Node

variable {f : Function} {arguments : List Node} {n : Node}

def height : Node → Nat
  | .constant _ | .variable _ _ => 1
  | .call _ arguments _ => 1 + greatest (arguments.map height)

theorem depth_of_call? (h : call? f arguments = .ok n) :
    n = .call f arguments (1 + greatest (arguments.map depth)) := by
  unfold call? at h
  split at h
  · cases h
  split at h
  · cases h
  · dsimp only at h
    split at h
    · cases h
    · cases h
      rfl

theorem Built.depth_eq_height (h : Built n) : n.depth = n.height := by
  induction h with
  | constant v => rw [depth, height]
  | «variable» name type => rw [depth, height]
  | call harguments hn ih =>
      rw [depth_of_call? hn, depth, height]
      exact congrArg (fun ds => 1 + greatest ds) (List.map_congr_left ih)

theorem Built.depth_le (h : Built n) : n.depth ≤ maxDepth := by
  cases h with
  | constant v => exact one_le_maxDepth
  | «variable» name type => exact one_le_maxDepth
  | call harguments hn => exact depth_le_of_call? hn

end Node

namespace Equation

open Node (Built)

variable {typeOf : String → Option ValueType} {n : Nat} {p : Phrase} {ts : List Token} {t : Node}

theorem Spells.built (h : Spells typeOf n p ts t) : Built t := by
  induction h with
  | operand _ ih | unsigned _ ih | bare _ ih | tighter _ _ ih | parentheses _ ih => exact ih
  | folded | number | yes | no => exact .constant _
  | «variable» => exact .variable _ _
  | minus _ _ ht ih | bang _ ht ih =>
      exact .call (List.forall_mem_singleton.mpr ih) ht
  | operation _ _ _ ht ihl ihr | raised _ _ ht ihl ihr =>
      exact .call (List.forall_mem_cons.mpr ⟨ihl, List.forall_mem_singleton.mpr ihr⟩) ht
  | call _ _ ht ih => exact .call (List.forall_mem_map.mpr ih) ht

end Equation

namespace Node

open Equation (Context Counted.State)

variable {text : String} {typeOf : String → Option ValueType} {t : Node} {rounds : Nat}

theorem built_of_parse (h : Node.parse text typeOf = .ok t) : Built t := by
  obtain ⟨ls, -, hspells⟩ := spells_of_parse h
  exact hspells.built

/-- **Parsing is bounded in time and in depth.** In more rounds than a text has characters, its run
is over and gives what the text spells, or why it does not spell anything. Then no level is open,
and never were more open than `maxDepth`.

The operands keep to that from any state, on success and on failure. At the limit they fail before
they consume a token. Trees that are built, those of texts included, keep their height as their
depth, and it has the same limit. -/
theorem recursion_bounded (text : String) (typeOf : String → Option ValueType)
    (hrounds : text.length < rounds) :
    (∃ s', Equation.Counted.parse rounds text typeOf = some (Node.parse text typeOf, s') ∧
      s'.nesting = 0 ∧ s'.deepest ≤ maxDepth) ∧
    (∀ (c : Context) (s : Counted.State), s.tokens.length < rounds →
      ∃ result s', Equation.Counted.signed c rounds s = some (result, s') ∧
        s'.nesting = s.nesting ∧ s'.deepest ≤ max s.deepest maxDepth ∧
        (maxDepth ≤ s.nesting → result = .error (.tooDeep maxDepth) ∧ s' = s)) ∧
    (∀ t, Node.parse text typeOf = .ok t → Built t) ∧
    ∀ n, Built n → n.depth = n.height ∧ n.height ≤ maxDepth := by
  refine ⟨Equation.Counted.parse_ends typeOf hrounds, ?_, fun t ht => built_of_parse ht, ?_⟩
  · intro c s hs
    exact Equation.Counted.signed_ends c hs
  · intro n hn
    refine ⟨hn.depth_eq_height, ?_⟩
    rw [← hn.depth_eq_height]
    exact hn.depth_le

/-- A text with two operands inside one, and an operand at the limit. -/
theorem recursion_bounded_negation :
    (∃ s', Equation.Counted.parse 5 "-(a)" (fun _ => some .numeric) =
        some (Node.parse "-(a)" (fun _ => some .numeric), s') ∧
      s'.nesting = 0 ∧ s'.deepest ≤ maxDepth) ∧
    ∀ c, Equation.Counted.signed c 5 ⟨[], 64, 64⟩ = some (.error (.tooDeep 64), ⟨[], 64, 64⟩) := by
  have hlength : "-(a)".length < 5 := by decide
  have hbounded := recursion_bounded "-(a)" (fun _ => some .numeric) hlength
  refine ⟨hbounded.1, fun c => ?_⟩
  obtain ⟨result, s', hrun, -, -, hlimit⟩ := hbounded.2.1 c ⟨[], 64, 64⟩ (by decide)
  obtain ⟨rfl, rfl⟩ := hlimit (Nat.le_refl _)
  exact hrun

example : (Equation.Counted.parse 5 "-(a)" fun _ => some .numeric).map
    (fun (result, s) => (result.isOk, s.nesting, s.deepest)) = some (true, 0, 3) := by
  cbv

end Node

end Telemetry
