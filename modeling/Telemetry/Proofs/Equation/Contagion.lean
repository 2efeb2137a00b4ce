import Telemetry.Proofs.Equation.Typing

/-!
# The first failure of an equation

The nodes of a tree are evaluated in post-order, and a failure or an absent value is handed on by
every call above it. So the value of a tree is that of the first node that fails or is absent, in
that order, and a number or a truth value if there is none (`Node.evaluate_first_failure`).

All follows from one equation for each node (`Node.FirstDecides`). For a call, the search through
the operands finds what the search through the nodes below finds (`Node.find?_operands`).
-/

namespace Telemetry.Node

variable {source : Source} {f : Function} {arguments : List Node} {d : Nat} {n s a : Node}

/-- The value of the node is a failure or nothing. -/
def fails (source : Source) (n : Node) : Bool := (evaluate source n).isContagious

def firstFailure? (source : Source) (n : Node) : Option Node := n.postorder.find? (fails source)

def failure? (source : Source) (n : Node) : Option Value :=
  if fails source n then some (evaluate source n) else none

/-- The first failure below a node is its own. -/
def FirstDecides (source : Source) (n : Node) : Prop :=
  failure? source n = (firstFailure? source n).map (evaluate source)

theorem firstDecides_of_leaf (h : n.postorder = [n]) : FirstDecides source n := by
  rw [FirstDecides, failure?, firstFailure?, h, List.find?_singleton]
  split <;> rfl

theorem firstFailure?_call (source : Source) (f : Function) (arguments : List Node) (d : Nat) :
    firstFailure? source (.call f arguments d) =
      ((arguments.flatMap postorder).find? (fails source)).or
        (if fails source (.call f arguments d) then some (.call f arguments d) else none) := by
  rw [firstFailure?, postorder, List.find?_append, List.find?_singleton]

/-- What a call finds among its operands is the value of the first node below that fails. -/
theorem find?_operands (h : ∀ a ∈ arguments, FirstDecides source a) :
    (operands source arguments).find? Value.isContagious =
      ((arguments.flatMap postorder).find? (fails source)).map (evaluate source) := by
  induction arguments with
  | nil => rfl
  | cons a rest ih =>
      obtain ⟨ha, hrest⟩ := List.forall_mem_cons.mp h
      have hhead : failure? source a =
          (a.postorder.find? (fails source)).map (evaluate source) := ha
      rw [List.flatMap_cons, List.find?_append, Option.map_or, ← hhead, ← ih hrest]
      show (evaluate source a :: operands source rest).find? Value.isContagious = _
      rw [List.find?_cons, failure?, fails]
      cases (evaluate source a).isContagious <;> rfl

theorem Built.length_operands (h : Built (.call f arguments d)) (source : Source) :
    (operands source arguments).length = f.arity := by
  rw [operands, List.length_map]
  exact h.of_call.1.length_eq.symm

/-- A call that finds a failure among its operands hands it on, whatever its function is. -/
theorem Built.evaluate_of_find? (h : Built (.call f arguments d)) {v : Value}
    (hv : (operands source arguments).find? Value.isContagious = some v) :
    evaluate source (.call f arguments d) = v := by
  rw [evaluate_call]
  exact Function.compute_of_find? (h.length_operands source) hv

theorem Built.firstDecides (h : Built n) (source : Source) : FirstDecides source n := by
  induction n using evaluate.induct with
  | case1 v => exact firstDecides_of_leaf (by rw [postorder])
  | case2 name type => exact firstDecides_of_leaf (by rw [postorder])
  | case3 f arguments d ih =>
      have hfind := find?_operands fun a ha => ih a ha (h.of_call.2 a ha)
      rw [FirstDecides, firstFailure?_call]
      cases hfirst : (arguments.flatMap postorder).find? (fails source) with
      | none =>
          rw [Option.none_or, failure?]
          split <;> rfl
      | some s =>
          rw [hfirst] at hfind
          have hvalue := h.evaluate_of_find? hfind
          have hfails : fails source (.call f arguments d) = true := by
            rw [fails, hvalue]
            have hs : fails source s = true := List.find?_some hfirst
            exact hs
          rw [Option.some_or, failure?, if_pos hfails, hvalue]
          rfl

theorem not_isContagious_iff {v : Value} :
    v.isContagious = false ↔ (∃ x, v = .numeric x) ∨ ∃ b, v = .boolean b := by
  cases v <;> simp [Value.isContagious]

theorem find?_of_first {α : Type} {before after : List α} {x : α} {p : α → Bool}
    (hbefore : ∀ b ∈ before, p b = false) (hx : p x = true) :
    (before ++ x :: after).find? p = some x := by
  have hnone : before.find? p = none := by simpa using hbefore
  rw [List.find?_append, hnone, Option.none_or, List.find?_cons_of_pos hx]

/-- **The first failure wins.** If some node of a tree fails or is absent, the tree has the value of
the first such node, operands before their call and from left to right. Otherwise its value is a
number or a truth value. And no call passes over an operand that fails or is absent: whatever its
function, it has the value of the first of them. -/
theorem evaluate_first_failure (source : Source) (n : Node) (h : Built n) :
    (∀ before s after, n.postorder = before ++ s :: after →
      (∀ b ∈ before, fails source b = false) → fails source s = true →
      evaluate source n = evaluate source s) ∧
    ((∀ s ∈ n.postorder, fails source s = false) →
      (∃ x, evaluate source n = .numeric x) ∨ ∃ b, evaluate source n = .boolean b) ∧
    ∀ f before a after d, .call f (before ++ a :: after) d ∈ n.postorder →
      (∀ b ∈ before, fails source b = false) → fails source a = true →
      evaluate source (.call f (before ++ a :: after) d) = evaluate source a := by
  refine ⟨?_, ?_, ?_⟩
  · intro before s after hpostorder hbefore hs
    have hdecides : failure? source n = (firstFailure? source n).map (evaluate source) :=
      h.firstDecides source
    rw [firstFailure?, hpostorder, find?_of_first hbefore hs, failure?] at hdecides
    split at hdecides
    · exact Option.some.inj hdecides
    · cases hdecides
  · intro hnone
    exact not_isContagious_iff.mp (hnone n (mem_postorder_self n))
  · intro f before a after d hcall hbefore ha
    refine (h.of_mem_postorder hcall).evaluate_of_find? ?_
    rw [operands, List.find?_map]
    exact congrArg (Option.map (evaluate source)) (find?_of_first hbefore ha)

theorem Built.binary {b : Node} (ha : Built a) (hb : Built b) (hn : call? f [a, b] = .ok n) :
    Built n := by
  refine .call ?_ hn
  intro c hc
  rcases List.mem_pair.mp hc with rfl | rfl
  · exact ha
  · exact hb

def reciprocal : Node := .call .div [.constant (.numeric 1), .variable "load" .numeric] 2

def alarm : Node :=
  .call .or [.constant (.boolean true), .call .gt [reciprocal, .constant (.numeric 2)] 3] 4

/-- Without load the alarm fails with the division, though its first operand is true. -/
theorem evaluate_alarm : Built alarm ∧
    evaluate (fun _ => .numeric 0) alarm = .exception "division by zero" := by
  have hreciprocal : Built reciprocal :=
    .binary (f := .div) (.constant (.numeric 1)) (.variable "load" .numeric) rfl
  have hbuilt : Built alarm := .binary (f := .or) (.constant (.boolean true))
    (.binary (f := .gt) hreciprocal (.constant (.numeric 2)) rfl) rfl
  have hpostorder : alarm.postorder =
      [.constant (.boolean true), .constant (.numeric 1), .variable "load" .numeric] ++
        reciprocal ::
          [.constant (.numeric 2), .call .gt [reciprocal, .constant (.numeric 2)] 3, alarm] := by
    simp [alarm, reciprocal, postorder]
  have hzero : evaluate (fun _ => .numeric 0) reciprocal = .exception "division by zero" := by
    simp [reciprocal, evaluate, checked, ValueType.admits, Value.type?, Value.isContagious]
    decide
  refine ⟨hbuilt, ?_⟩
  rw [(evaluate_first_failure _ alarm hbuilt).1 _ _ _ hpostorder ?_ ?_, hzero]
  · simp [fails, evaluate, checked, ValueType.admits, Value.type?, Value.isContagious]
  · rw [fails, hzero]
    rfl

end Telemetry.Node
