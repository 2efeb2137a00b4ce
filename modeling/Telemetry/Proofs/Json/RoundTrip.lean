import Mathlib.Data.List.Forall2
import Telemetry.Json.Field
import Telemetry.Proofs.Json.Strings
import Telemetry.Proofs.NameMap

/-!
# What is written is read

The compact text of a document is read as the document. The machine that folds tokens into a tree
is followed along the text: before a value it waits for an item, and after the value it is where
`place` puts the tree of the value, whatever containers are open.
-/

namespace Telemetry

open Json Written

/-! ## Trees of documents -/

section Trees

variable [NumeralReader]

/-- The tree that the text of a number is read as; what is not finite is written as `null`. -/
def Number.asWritten (n : Number) : Written := (Written.read? (Json.number n).compact).getD .null

def Number.IsReadBack (n : Number) : Prop :=
  Written.read? (Json.number n).compact = some (.number (some n))

namespace Json

mutual

def asWritten : Json → Written
  | .null => .null
  | .bool b => .bool b
  | .number n => n.asWritten
  | .string s => .string (some s)
  | .array items => .array (itemsAsWritten items)
  | .object members => .object (membersAsWritten members)

def itemsAsWritten : List Json → List Written
  | [] => []
  | v :: rest => v.asWritten :: itemsAsWritten rest

def membersAsWritten : List (String × Json) → List (Option String × Written)
  | [] => []
  | (name, v) :: rest => (some name, v.asWritten) :: membersAsWritten rest

end

end Json

end Trees

namespace Json

mutual

def numbers : Json → List Number
  | .number n => [n]
  | .array items => numbersOfItems items
  | .object members => numbersOfMembers members
  | .null | .bool _ | .string _ => []

def numbersOfItems : List Json → List Number
  | [] => []
  | v :: rest => v.numbers ++ numbersOfItems rest

def numbersOfMembers : List (String × Json) → List Number
  | [] => []
  | (_, v) :: rest => v.numbers ++ numbersOfMembers rest

end

end Json

/-! ## Runs of the machine -/

namespace Written

def EndsValue (rest : List Char) : Prop := ∀ c ∈ rest.head?, c = ',' ∨ c = ']' ∨ c = '}'

theorem endsValue_nil : EndsValue [] := by
  intro c hc
  cases hc

theorem endsValue_cons {c : Char} (rest : List Char) (h : c = ',' ∨ c = ']' ∨ c = '}') :
    EndsValue (c :: rest) := by
  intro c' hc'
  cases hc'
  exact h

variable [NumeralReader]

def run? (s : State) (cs : List Char) : Option State :=
  (tokens? cs).bind fun ts => ts.foldlM step s

theorem read?_of_run? {text : String} {w : Written}
    (h : run? (.item false []) text.toList = some (.done w)) : read? text = some w := by
  obtain ⟨ts, htokens, hrun⟩ := Option.bind_eq_some_iff.mp h
  rw [read?, htokens, Option.bind_some, ofTokens?, hrun]

theorem run?_nil (s : State) : run? s [] = some s := by
  rw [run?, tokens?]
  rfl

theorem not_isGap_of_takeToken {c : Char} {cs rest : List Char} {t : Token}
    (h : takeToken (c :: cs) = some (t, rest)) : isGap c = false := by
  rw [Bool.eq_false_iff]
  intro hgap
  simp only [isGap, Bool.or_eq_true, decide_eq_true_eq] at hgap
  rcases hgap with ((rfl | rfl) | rfl) | rfl <;> cases h

/-- A token at the head of a text is one step. -/
theorem run?_token {cs rest : List Char} {t : Token} (h : takeToken cs = some (t, rest))
    (s : State) : run? s cs = (step s t).bind fun s => run? s rest := by
  cases cs with
  | nil => cases h
  | cons c tail =>
      have htokens : tokens? (c :: tail) = (tokens? rest).map (t :: ·) := by
        rw [tokens?, if_neg (by simp [not_isGap_of_takeToken h])]
        split
        · rename_i hnone
          cases h.symm.trans hnone
        · rename_i hsome
          cases h.symm.trans hsome
          rfl
      rw [run?, htokens]
      cases hrest : tokens? rest with
      | none => cases step s t <;> simp [run?, hrest]
      | some ts => simp [run?, hrest, List.foldlM_cons]

theorem run?_quoted (s : State) (text : String) (rest : List Char) :
    run? s (quoted text ++ rest) = (step s (.string (some text))).bind fun s => run? s rest :=
  run?_token (takeToken_quoted text rest) s

end Written

section Documents

variable [NumeralReader]

/-- The text of a number is one token, and that stands for the tree of the number. -/
def Number.Reads (n : Number) : Prop := ∀ rest, EndsValue rest →
  ∃ t, takeToken (numberChars n ++ rest) = some (t, rest) ∧
    ∀ b outer, step (.item b outer) t = some (place n.asWritten outer)

/-! ## Documents -/

namespace Json

mutual

/-- Where an item may come, the text of a value takes the machine to where its tree is placed. -/
theorem run?_compactChars (v : Json) (h : ∀ n ∈ v.numbers, n.Reads) (b : Bool)
    (outer : List Frame) {rest : List Char} (hrest : EndsValue rest) :
    run? (.item b outer) (v.compactChars ++ rest) = run? (place v.asWritten outer) rest := by
  match v with
  | .null => exact run?_token (t := .word none) rfl _
  | .bool true => exact run?_token (t := .word (some true)) rfl _
  | .bool false => exact run?_token (t := .word (some false)) rfl _
  | .number n =>
      obtain ⟨t, htoken, hstep⟩ := h n (by simp [numbers]) rest hrest
      rw [compactChars, run?_token htoken, hstep]
      rfl
  | .string s => exact run?_quoted _ s rest
  | .array items =>
      have htext : (array items).compactChars ++ rest =
          '[' :: (compactItems items ++ ']' :: rest) := by
        simp [compactChars]
      rw [htext, run?_token (t := .openArray) rfl]
      by_cases hnone : items = []
      · subst hnone
        exact run?_token (t := .closeArray) rfl _
      · exact run?_compactItems items hnone h true [] outer rest
  | .object members =>
      have htext : (object members).compactChars ++ rest =
          '{' :: (compactMembers members ++ '}' :: rest) := by
        simp [compactChars]
      rw [htext, run?_token (t := .openObject) rfl]
      by_cases hnone : members = []
      · subst hnone
        exact run?_token (t := .closeObject) rfl _
      · exact run?_compactMembers members hnone h true [] outer rest

theorem run?_compactItems (items : List Json) (hsome : items ≠ [])
    (h : ∀ n ∈ numbersOfItems items, n.Reads) (b : Bool) (acc : List Written)
    (outer : List Frame) (rest : List Char) :
    run? (.item b (.array acc :: outer)) (compactItems items ++ ']' :: rest) =
      run? (place (.array (acc.reverse ++ itemsAsWritten items)) outer) rest := by
  match items with
  | [v] =>
      have hv : ∀ n ∈ v.numbers, n.Reads := fun n hn => h n (List.mem_append_left _ hn)
      rw [compactItems, run?_compactChars v hv _ _ (endsValue_cons _ (by simp)),
        run?_token (t := .closeArray) rfl]
      simp [place, step, itemsAsWritten]
  | v :: v' :: items =>
      have hv : ∀ n ∈ v.numbers, n.Reads := fun n hn => h n (List.mem_append_left _ hn)
      have htext : compactItems (v :: v' :: items) ++ ']' :: rest =
          v.compactChars ++ ',' :: (compactItems (v' :: items) ++ ']' :: rest) := by
        rw [compactItems] <;> simp
      rw [htext, run?_compactChars v hv _ _ (endsValue_cons _ (by simp)),
        run?_token (t := .comma) rfl]
      show run? (.item false (.array (v.asWritten :: acc) :: outer)) _ = _
      rw [run?_compactItems (v' :: items) (List.cons_ne_nil _ _)
        (fun n hn => h n (List.mem_append_right _ hn))]
      simp [itemsAsWritten]

theorem run?_compactMembers (members : List (String × Json)) (hsome : members ≠ [])
    (h : ∀ n ∈ numbersOfMembers members, n.Reads) (b : Bool)
    (acc : List (Option String × Written)) (outer : List Frame) (rest : List Char) :
    run? (.name b acc outer) (compactMembers members ++ '}' :: rest) =
      run? (place (.object (acc.reverse ++ membersAsWritten members)) outer) rest := by
  have hname : ∀ name more, run? (.name b acc outer) (quoted name ++ ':' :: more) =
      run? (.item false (.object acc (some name) :: outer)) more := by
    intro name more
    rw [run?_quoted]
    exact run?_token (t := .colon) rfl _
  match members with
  | [(name, v)] =>
      have hv : ∀ n ∈ v.numbers, n.Reads := fun n hn => h n (List.mem_append_left _ hn)
      rw [compactMembers, List.append_assoc, List.cons_append, hname,
        run?_compactChars v hv _ _ (endsValue_cons _ (by simp)),
        run?_token (t := .closeObject) rfl]
      simp [place, step, membersAsWritten]
  | (name, v) :: m :: members =>
      have hv : ∀ n ∈ v.numbers, n.Reads := fun n hn => h n (List.mem_append_left _ hn)
      have htext : compactMembers ((name, v) :: m :: members) ++ '}' :: rest =
          quoted name ++ ':' :: (v.compactChars ++
            ',' :: (compactMembers (m :: members) ++ '}' :: rest)) := by
        rw [compactMembers] <;> simp
      rw [htext, hname, run?_compactChars v hv _ _ (endsValue_cons _ (by simp)),
        run?_token (t := .comma) rfl]
      show run? (.name false ((some name, v.asWritten) :: acc) outer) _ = _
      rw [run?_compactMembers (m :: members) (List.cons_ne_nil _ _)
        (fun n hn => h n (List.mem_append_right _ hn))]
      simp [membersAsWritten]

end

/-- **The compact text of a document is read as the document.** -/
theorem read?_compact (v : Json) (h : ∀ n ∈ v.numbers, n.Reads) :
    Written.read? v.compact = some v.asWritten := by
  refine read?_of_run? ?_
  have hrun := run?_compactChars v h false [] endsValue_nil
  rw [List.append_nil] at hrun
  rw [compact, String.toList_ofList, hrun]
  exact run?_nil _

end Json

theorem Number.isReadBack_iff {n : Number} (h : n.Reads) :
    n.IsReadBack ↔ n.asWritten = .number (some n) := by
  have hread : Written.read? (Json.number n).compact = some n.asWritten := by
    refine Json.read?_compact (.number n) fun m hm => ?_
    obtain rfl := List.mem_singleton.mp hm
    exact h
  rw [IsReadBack, hread, Option.some_inj]

end Documents

namespace Json

/-! ## Maps -/

variable {α : Type} {value? : Written → Option α} {f : α → Json} {m : NameMap α}

theorem mapM_eq_some_iff {β γ : Type} {g : β → Option γ} {l : List β} {r : List γ} :
    l.mapM g = some r ↔ List.Forall₂ (fun a b => g a = some b) l r := by
  induction l generalizing r with
  | nil => simp [eq_comm]
  | cons a l ih =>
      simp only [List.mapM_cons, Option.bind_eq_bind, Option.bind_eq_some_iff, Option.pure_def,
        Option.some.injEq, ih, List.forall₂_cons_left_iff]
      constructor
      · rintro ⟨b, hb, r, hr, rfl⟩
        exact ⟨b, r, hb, hr, rfl⟩
      · rintro ⟨b, r, hb, hr, rfl⟩
        exact ⟨b, hb, r, hr, rfl⟩

theorem isSome_mapM {β γ : Type} {g : β → Option γ} {l : List β} :
    (l.mapM g).isSome = true ↔ ∀ a ∈ l, (g a).isSome = true := by
  induction l with
  | nil => simp
  | cons a l ih =>
      rw [List.forall_mem_cons, ← ih, List.mapM_cons]
      cases g a <;> cases l.mapM g <;> simp

theorem exists_of_mem_mapM {β γ : Type} {g : β → Option γ} {l : List β} {r : List γ} {c : γ}
    (h : l.mapM g = some r) (hc : c ∈ r) : ∃ b ∈ l, g b = some c := by
  have hall := mapM_eq_some_iff.mp h
  clear h
  induction hall with
  | nil => cases hc
  | cons hb _ ih =>
      rcases List.mem_cons.mp hc with rfl | hc
      · exact ⟨_, List.mem_cons_self, hb⟩
      · obtain ⟨b, hmem, heq⟩ := ih hc
        exact ⟨b, List.mem_cons_of_mem _ hmem, heq⟩

theorem mem_numbers_ofMap {n : Number} :
    n ∈ (ofMap f m).numbers ↔ ∃ x ∈ m.values, n ∈ (f x).numbers := by
  have hmembers : ∀ l : List (String × α), n ∈ numbersOfMembers (l.map fun e => (e.1, f e.2)) ↔
      ∃ e ∈ l, n ∈ (f e.2).numbers := by
    intro l
    induction l with
    | nil => simp [numbersOfMembers]
    | cons e l ih => simp [numbersOfMembers, ih]
  rw [ofMap, numbers, hmembers, NameMap.values]
  simp only [List.mem_map, exists_exists_and_eq_and]

variable [NumeralReader]

theorem membersAsWritten_map (f : α → Json) (l : List (String × α)) :
    membersAsWritten (l.map fun e => (e.1, f e.2)) =
      l.map fun e => (some e.1, (f e.2).asWritten) := by
  induction l with
  | nil => rfl
  | cons e l ih =>
      rw [List.map_cons, membersAsWritten, ih]
      rfl

/-- A map is read entry by entry. -/
theorem map?_ofMap : Written.map? value? (ofMap f m).asWritten =
    (m.entries.mapM fun e => (value? (f e.2).asWritten).map (Prod.mk e.1)).map
      NameMap.ofList := by
  have hentry : ((fun w : Option String × Written => do return (← w.1, ← value? w.2)) ∘
      fun e : String × α => (some e.1, (f e.2).asWritten)) =
      fun e => (value? (f e.2).asWritten).map (Prod.mk e.1) := by
    funext e
    cases hvalue : value? (f e.2).asWritten <;> simp [hvalue]
  rw [ofMap, asWritten, membersAsWritten_map, Written.map?, List.mapM_map, hentry,
    Option.map_eq_bind]
  rfl

/-- A map is read back exactly if every value of it is. -/
theorem map?_ofMap_eq_self : Written.map? value? (ofMap f m).asWritten = some m ↔
    ∀ x ∈ m.values, value? (f x).asWritten = some x := by
  rw [map?_ofMap, Option.map_eq_some_iff]
  simp only [mapM_eq_some_iff, Option.map_eq_some_iff]
  constructor
  · rintro ⟨entries, hentries, hm⟩ x hx
    have hnames : m.entries.map Prod.fst = entries.map Prod.fst := by
      rw [← List.forall₂_eq_eq_eq, List.forall₂_map_left_iff, List.forall₂_map_right_iff]
      refine hentries.imp ?_
      rintro e _ ⟨y, -, rfl⟩
      rfl
    -- so the entries that are read are in order, and are those of their map
    have hordered : entries.Pairwise (fun a b => a.1 < b.1) := by
      rw [← List.pairwise_map (f := Prod.fst), ← hnames, List.pairwise_map]
      exact m.ordered
    obtain rfl : entries = m.entries := by
      rw [← hm, NameMap.entries_ofList hordered]
    obtain ⟨e, he, rfl⟩ := List.mem_map.mp hx
    obtain ⟨y, hy, heq⟩ := List.forall₂_same.mp hentries e he
    rw [hy, ← heq]
  · intro h
    refine ⟨m.entries, List.forall₂_same.mpr fun e he => ?_, NameMap.ofList_entries m⟩
    exact ⟨e.2, h e.2 (List.mem_map_of_mem he), rfl⟩

/-- What is read of a map is read of its values. -/
theorem exists_of_mem_map? {y : α} {m' : NameMap α}
    (h : Written.map? value? (ofMap f m).asWritten = some m') (hy : y ∈ m'.values) :
    ∃ x ∈ m.values, value? (f x).asWritten = some y := by
  rw [map?_ofMap, Option.map_eq_some_iff] at h
  obtain ⟨entries, hentries, rfl⟩ := h
  obtain ⟨e', he', rfl⟩ := List.mem_map.mp hy
  obtain ⟨e, he, heq⟩ := exists_of_mem_mapM hentries (NameMap.mem_entries_ofList he')
  obtain ⟨z, hz, rfl⟩ := Option.map_eq_some_iff.mp heq
  exact ⟨e.2, List.mem_map_of_mem he, hz⟩

theorem isSome_map?_ofMap : (Written.map? value? (ofMap f m).asWritten).isSome = true ↔
    ∀ x ∈ m.values, (value? (f x).asWritten).isSome = true := by
  rw [map?_ofMap, Option.isSome_map, isSome_mapM]
  simp only [Option.isSome_map, NameMap.values, List.forall_mem_map]

end Json

end Telemetry
