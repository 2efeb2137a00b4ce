import Telemetry.Proofs.Equation.Finite

/-!
# Leaves of equations

The tree of an accepted text reads declared variables only, each by its declared type, and is no
deeper than trees may be (`Node.closed_of_parse`). Whatever other variables hold makes no difference
to its value (`Node.evaluate_congr`).
-/

namespace Telemetry

namespace Node

variable {typeOf : String → Option ValueType} {source source' : Source} {f : Function}
  {arguments : List Node} {n : Node} {name : String} {type : ValueType}

structure Closed (typeOf : String → Option ValueType) (n : Node) : Prop where
  declared : ∀ name type, .variable name type ∈ n.postorder → typeOf name = some type
  depth_le : n.depth ≤ maxDepth

theorem one_le_maxDepth : 1 ≤ maxDepth := by decide

theorem closed_constant (v : Value) : Closed typeOf (.constant v) := by
  refine ⟨fun name type h => ?_, one_le_maxDepth⟩
  simp [postorder] at h

theorem closed_variable (h : typeOf name = some type) : Closed typeOf (.variable name type) := by
  refine ⟨fun name' type' h' => ?_, one_le_maxDepth⟩
  simp only [postorder, List.mem_singleton, Node.variable.injEq] at h'
  obtain ⟨rfl, rfl⟩ := h'
  exact h

theorem depth_le_of_call? (h : call? f arguments = .ok n) : n.depth ≤ maxDepth := by
  unfold call? at h
  split at h
  · cases h
  split at h
  · cases h
  · dsimp only at h
    split at h
    · cases h
    · rename_i hle
      cases h
      exact not_lt.mp hle

/-- An application reads what its operands read. -/
theorem Closed.call (hn : call? f arguments = .ok n) (h : ∀ a ∈ arguments, Closed typeOf a) :
    Closed typeOf n := by
  refine ⟨fun name type hleaf => ?_, depth_le_of_call? hn⟩
  obtain ⟨-, d, rfl⟩ := accepts_of_call? hn
  rcases mem_postorder_call.mp hleaf with ⟨a, ha, hleaf⟩ | heq
  · exact (h a ha).declared name type hleaf
  · cases heq

/-- The value of a tree hangs on the variables that it reads. -/
theorem evaluate_congr
    (h : ∀ name type, .variable name type ∈ n.postorder → source name = source' name) :
    evaluate source n = evaluate source' n := by
  induction n using evaluate.induct with
  | case1 v => rw [evaluate, evaluate]
  | case2 name type => rw [evaluate, evaluate, h name type (mem_postorder_self _)]
  | case3 f arguments d ih =>
      rw [evaluate_call, evaluate_call, operands, operands]
      refine congrArg _ (List.map_congr_left fun a ha => ih a ha fun name type hleaf => ?_)
      exact h name type (mem_postorder_call.mpr (.inl ⟨a, ha, hleaf⟩))

end Node

open Node (Closed)

namespace Equation

variable {typeOf : String → Option ValueType} {n : Nat} {p : Phrase} {ts : List Token} {t : Node}

theorem Spells.closed (h : Spells typeOf n p ts t) : Closed typeOf t := by
  induction h with
  | operand _ ih | unsigned _ ih | bare _ ih | tighter _ _ ih | parentheses _ ih => exact ih
  | folded | number | yes | no => exact Node.closed_constant _
  | «variable» _ _ htype => exact Node.closed_variable htype
  | minus _ _ ht ih | bang _ ht ih =>
      refine Closed.call ht fun a ha => ?_
      rw [List.mem_singleton.mp ha]
      exact ih
  | operation _ _ _ ht ihl ihr | raised _ _ ht ihl ihr =>
      refine Closed.call ht ?_
      simp only [List.forall_mem_cons, List.not_mem_nil, false_implies, implies_true, and_true]
      exact ⟨ihl, ihr⟩
  | call _ _ ht ih =>
      exact Closed.call ht (List.forall_mem_map.mpr ih)

end Equation

/-- The tree of an accepted text is closed over the declared variables. -/
theorem Node.closed_of_parse {text : String} {typeOf : String → Option ValueType} {t : Node}
    (h : Node.parse text typeOf = .ok t) : Closed typeOf t := by
  obtain ⟨ls, -, hspells⟩ := spells_of_parse h
  exact hspells.closed

end Telemetry
