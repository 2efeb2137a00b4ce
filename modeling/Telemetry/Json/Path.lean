import Telemetry.Json.Basic

/-!
# Paths into documents

A path spells the names on the way from the root to an element, joined by dots. Names may hold
dots themselves, so a path can be read in several ways: at each object the longest name that
leads on is preferred, and a shorter one is tried where the longer leads nowhere.
-/

namespace Telemetry.Json

/-- The ways to cut a path at a dot, the longest first part first. -/
def cuts : List Char → List (List Char × List Char)
  | [] => []
  | c :: rest =>
    (cuts rest).map (fun p => (c :: p.1, p.2)) ++ (if c = '.' then [([], rest)] else [])

theorem eq_append_of_mem_cuts {path head rest : List Char} (h : (head, rest) ∈ cuts path) :
    path = head ++ '.' :: rest := by
  induction path generalizing head with
  | nil => simp [cuts] at h
  | cons c tail ih =>
    rw [cuts, List.mem_append] at h
    rcases h with h | h
    · obtain ⟨⟨head', rest'⟩, hmem, heq⟩ := List.mem_map.1 h
      simp only [Prod.mk.injEq] at heq
      obtain ⟨rfl, rfl⟩ := heq
      rw [ih hmem]
      rfl
    · split at h
      · rename_i hdot
        simp only [List.mem_singleton, Prod.mk.injEq] at h
        obtain ⟨rfl, rfl⟩ := h
        rw [hdot]
        rfl
      · simp at h

/-- The element that a path leads to. -/
def element (node : Json) (path : List Char) : Option Json :=
  match node.member? (String.ofList path) with
  | some found => some found
  | none => (cuts path).attach.findSome? fun ⟨(head, rest), h⟩ =>
    have : rest.length < path.length := by
      have := congrArg List.length (eq_append_of_mem_cuts h)
      simp only [List.length_append, List.length_cons] at this
      omega
    match node.member? (String.ofList head) with
    | some child => child.element rest
    | none => none
termination_by path.length

def element? (node : Json) (path : String) : Option Json := node.element path.toList

/-- The text of the scalar that a path leads to. -/
def scalarAt? (node : Json) (path : String) : Option String := (node.element? path).bind scalar?

def extend (above : Option String) (name : String) : String :=
  match above with
  | some path => path ++ "." ++ name
  | none => name

mutual

/-- The paths to all that is not an object with members; the root has none. -/
def leafPaths (above : Option String) : Json → List String
  | .object (m :: rest) => memberPaths above (m :: rest)
  | _ => above.toList

def memberPaths (above : Option String) : List (String × Json) → List String
  | [] => []
  | (name, child) :: rest =>
    child.leafPaths (some (extend above name)) ++ memberPaths above rest

end

/-- The paths to all leaves, sorted; a path that leads to two leaves is listed twice. -/
def paths (root : Json) : List String := (root.leafPaths none).mergeSort (· ≤ ·)

end Telemetry.Json
