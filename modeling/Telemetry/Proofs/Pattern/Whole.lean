import Telemetry.Proofs.Pattern.Leads
import Telemetry.Proofs.Pattern.Nesting

/-!
# Matching whole texts

A pattern that is to match whole texts only is written into a longer one, between anchors and within
a group. What is read there is the pattern that the text spells alone, unless the text closes the
group itself, or ends in a comment, that swallows the end of the longer text.

A run over a text and the closing parenthesis behind it goes in one of four ways (`Outcome`). The
proof is by induction on the rounds of the machine.
-/

namespace Telemetry.Pattern

/-! ## Patterns between anchors -/

/-- Between anchors, and in a group of its own, a pattern stands two levels deeper. -/
def enclosed (p : Nested Pattern) : Nested Pattern :=
  ⟨.seq (.seq (.anchor .textStart) p.value) (.anchor .textEnd), p.depth + 2⟩

/-- Between anchors a pattern matches where it leads from the start of a text to its end. -/
theorem matchesIn_enclosed (p : Nested Pattern) (s : String) :
    (enclosed p).value.matchesIn s = true ↔ Leads s.toList.toArray p.value 0 s.toList.length := by
  have hsize : s.toList.toArray.size = s.toList.length := List.size_toArray
  rw [matchesIn_iff]
  constructor
  · rintro ⟨i, hi, j, k, ⟨l, ⟨hstart, rfl⟩, hlead⟩, hstop, rfl⟩
    have hzero : i = 0 := by
      by_contra hne
      have hbefore : s.toList.length ≤ i - 1 := by simpa [holds, before?, hne] using hstart
      omega
    subst hzero
    have hle : k ≤ s.toList.toArray.size := hlead.le_size (Nat.zero_le _)
    have hge : s.toList.length ≤ k := by simpa [holds, after?] using hstop
    rwa [Nat.le_antisymm (hsize ▸ hle) hge] at hlead
  · intro hlead
    refine ⟨0, Nat.zero_le _, s.toList.length, s.toList.length, ⟨0, ⟨rfl, rfl⟩, hlead⟩, ?_, rfl⟩
    simp [holds, after?]

/-! ## Rounds before a closing parenthesis -/

/-- Where a round can end before a parenthesis and a `tail` if the text alone is an error: behind
the parenthesis, or before a repetition that is an error too. -/
def Strays (r : Reading) (tail rest : List Char) : Prop :=
  rest <:+ tail ∨ ∃ inside, rest = '{' :: inside ++ ')' :: tail ∧ r.counted? inside = none

theorem takeCount_nil (f : Flags) : takeCount f [] = none := by
  simp [takeCount, takeRun]

theorem counted?_eq_none {r : Reading} {inside : List Char} (h : r.flags.skip inside = []) :
    r.counted? inside = none := by
  rw [Reading.counted?, takeCounts, h, takeCount_nil]
  rfl

theorem skip_paren (f : Flags) (tail : List Char) : f.skip (')' :: tail) = ')' :: tail := by
  unfold Flags.skip
  split <;> rfl

theorem skip_nil (f : Flags) : f.skip [] = [] := List.suffix_nil.mp (skip_suffix f [])

/-- A gap that stops before a parenthesis does so whatever is behind it. -/
theorem skip_of_cut {f : Flags} {a b : List Char} (h : f.skip (a ++ ')' :: b) = ')' :: b) :
    f.skip a = [] ∧ ∀ tail, f.skip (a ++ ')' :: tail) = ')' :: tail := by
  rcases skip_append f a with hstays | ⟨-, -, hlost⟩
  · have hnil : f.skip a = [] := List.append_left_eq_self.mp ((hstays b).symm.trans h)
    exact ⟨hnil, fun tail => by rw [hstays, hnil, List.nil_append]⟩
  · have hlength := (hlost b).length_le
    rw [h, List.length_cons] at hlength
    omega

section Spelled

variable [Library]

theorem follows_next? (r : Reading) (cs : List Char) : Follows Strays r.next? cs := by
  cases cs with
  | nil => exact .fails rfl fun tail r' rest h => .inl (consumes_step? r ')' tail r' rest h)
  | cons c cs =>
      by_cases hedge : c = '\\' ∧ OpensEdge r.flags cs
      · obtain ⟨rfl, inside, rfl, hskip⟩ := hedge
        have hread : takeEscape r.flags ('b' :: '{' :: inside) = none :=
          takeEscape_of_opensEdge ⟨inside, rfl, hskip⟩
        refine .fails ?_ fun tail r' rest h => ?_
        · change r.step? '\\' _ = none
          rw [step?_backslash, Reader.andThen, hread]
          rfl
        · change r.step? '\\' _ = _ at h
          rw [step?_backslash] at h
          obtain ⟨⟨e, rest'⟩, htake, h⟩ := Option.bind_eq_some_iff.mp h
          cases h
          obtain ⟨⟨a, rfl⟩, hrest | hrest⟩ := rest_of_opensEdge hskip htake
          · exact .inr ⟨inside, hrest, counted?_eq_none hskip⟩
          · exact .inl hrest
      · have hstep : Follows Strays (r.step? c) cs :=
          (follows_step? r c fun hc hopens => hedge ⟨hc, hopens⟩).mono fun _ _ _ h => .inl h
        exact hstep.of_eq rfl fun _ => rfl

theorem follows_round? (r : Reading) (cs : List Char) : Follows Strays r.round? cs :=
  ((steady_gap r.flags).follows cs).andThen (fun _ => consumes_next? r)
    (fun _ _ _ h => .inl h) fun _ rest _ => follows_next? r rest

section Rounds

variable {r r' : Reading} {around : List Open} {cs rest tail : List Char}

theorem next?_under_of_some (h : r.next? cs = some (r', rest)) :
    (r.under around).next? cs = some (r'.under around, rest) := by
  cases cs with
  | nil => cases h
  | cons c cs =>
      change (r.under around).step? c cs = _
      rw [step?_under, show r.step? c cs = _ from h, Option.map_some]
      rintro rfl houter
      obtain ⟨r'', hleave, -⟩ := Option.map_eq_some_iff.mp h
      rw [leave?_outermost houter] at hleave
      cases hleave

theorem round?_under_of_some (h : r.round? cs = some (r', rest)) :
    (r.under around).round? cs = some (r'.under around, rest) :=
  next?_under_of_some h

theorem ground_round? {f : Flags × Option Nat} (h : r.round? cs = some (r', rest))
    (hf : [f] <:+ r.frames) : [f] <:+ r'.frames := by
  rw [round?_eq] at h
  cases hskip : r.flags.skip cs with
  | nil => rw [hskip] at h; cases h
  | cons c cs' =>
      rw [hskip] at h
      exact ground_step? h hf

theorem finish?_paren (r : Reading) (tail : List Char) :
    r.finish? (')' :: tail) = r.leave?.bind fun r' => r'.finish? tail := by
  have hskip := skip_paren r.flags tail
  rw [finish?_round (by rw [hskip]; exact List.cons_ne_nil _ _), round?_eq, hskip]
  change (r.leave?.map _).bind _ = _
  cases r.leave? <;> rfl

/-- A gap makes no difference. -/
theorem finish?_congr {ds : List Char} (h : r.flags.skip cs = r.flags.skip ds) :
    r.finish? cs = r.finish? ds := by
  by_cases hds : r.flags.skip ds = []
  · rw [finish?_end (h.trans hds), finish?_end hds]
  · rw [finish?_round (h ▸ hds), finish?_round hds, round?_eq, round?_eq, h]

end Rounds

/-! ## Runs before a closing parenthesis -/

/-- Having read the text, `r` has become `r'`. Alone it is then at the end, and within groups at the
parenthesis behind the text. -/
structure Arrives (r : Reading) (cs : List Char) (r' : Reading) : Prop where
  alone : r.finish? cs = r'.finish? []
  before : ∀ around tail, (r.under around).finish? (cs ++ ')' :: tail) =
    (r'.under around).finish? (')' :: tail)
  ground : ∀ f, [f] <:+ r.frames → [f] <:+ r'.frames

/-- How a run goes on a text, and within groups on the text with a closing parenthesis and a `tail`
behind it. -/
inductive Outcome (r : Reading) (cs : List Char) : Prop
  /-- The parenthesis is read as one. -/
  | arrives (r' : Reading) (h : Arrives r cs r')
  /-- A comment swallows the parenthesis. -/
  | comments (r' : Reading) (alone : r.finish? cs = r'.finish? [])
    (before : ∀ around tail, '\n' ∉ tail →
      (r.under around).finish? (cs ++ ')' :: tail) = (r'.under around).finish? [])
  /-- The text closes a group that it does not open. -/
  | closes (a b : List Char) (r' : Reading) (split : cs = a ++ ')' :: b) (h : Arrives r a r')
    (outermost : r'.outer = [])
  /-- The text is an error, and so it is within groups that nothing behind it closes. -/
  | fails (alone : r.finish? cs = none)
    (before : ∀ around tail, around ≠ [] → ')' ∉ tail →
      (r.under around).finish? (cs ++ ')' :: tail) = none)

section Runs

variable {r r₁ r' : Reading} {cs rest : List Char}

theorem Arrives.of_round? (hround : r.round? cs = some (r₁, rest))
    (hbefore : ∀ tail, r.round? (cs ++ ')' :: tail) = some (r₁, rest ++ ')' :: tail))
    (h : Arrives r₁ rest r') : Arrives r cs r' where
  alone := (finish?_of_round? hround).trans h.alone
  before around tail :=
    (finish?_of_round? (round?_under_of_some (hbefore tail))).trans (h.before around tail)
  ground f hf := h.ground f (ground_round? hround hf)

/-- The end of a text is reached. -/
theorem Arrives.of_gap (hskip : r.flags.skip cs = [])
    (hbefore : ∀ tail, r.flags.skip (cs ++ ')' :: tail) = ')' :: tail) : Arrives r cs r where
  alone := by rw [finish?_end hskip, finish?_nil]
  before around tail := finish?_congr ((hbefore tail).trans (skip_paren r.flags tail).symm)
  ground _ hf := hf

/-- A round that stops before a parenthesis does so whatever is behind it, if the text before the
parenthesis is no error. -/
theorem round?_of_cut {a b rest : List Char}
    (h : r.round? (a ++ ')' :: b) = some (r₁, rest ++ ')' :: b)) (hrest : r₁.finish? rest ≠ none) :
    r.round? a = some (r₁, rest) ∧
      ∀ tail, r.round? (a ++ ')' :: tail) = some (r₁, rest ++ ')' :: tail) := by
  have hshort {x y : List Char} : ¬(x ++ ')' :: y <:+ y) := by
    intro hsuffix
    have hlength := hsuffix.length_le
    rw [List.length_append, List.length_cons] at hlength
    omega
  cases follows_round? r a with
  | stays r₂ rest₂ read before =>
      obtain ⟨rfl, hsame⟩ := Prod.mk.inj (Option.some.inj ((before b).symm.trans h))
      obtain rfl := List.append_cancel_right hsame
      exact ⟨read, before⟩
  | comments r₂ read before lost => exact absurd (lost b _ _ h) hshort
  | fails read lost =>
      rcases lost b _ _ h with hsuffix | ⟨inside, hsame, hcounts⟩
      · exact absurd hsuffix hshort
      · obtain rfl := List.append_cancel_right hsame
        refine absurd ?_ hrest
        -- the brace begins a repetition without counts
        have hskip : r₁.flags.skip ('{' :: inside) = '{' :: inside := by
          unfold Flags.skip
          split <;> rfl
        rw [finish?_round (by rw [hskip]; exact List.cons_ne_nil _ _), round?_eq, hskip]
        change (r₁.counted? inside).bind _ = none
        rw [hcounts, Option.bind_none]

/-- An outcome after a round that leaves the parenthesis alone. -/
theorem Outcome.of_round? (hround : r.round? cs = some (r₁, rest))
    (hbefore : ∀ tail, r.round? (cs ++ ')' :: tail) = some (r₁, rest ++ ')' :: tail))
    (h : Outcome r₁ rest) : Outcome r cs := by
  have hstep : r.finish? cs = r₁.finish? rest := finish?_of_round? hround
  have hstep' (around : List Open) (tail : List Char) :
      (r.under around).finish? (cs ++ ')' :: tail) =
        (r₁.under around).finish? (rest ++ ')' :: tail) :=
    finish?_of_round? (round?_under_of_some (hbefore tail))
  cases h with
  | arrives r' h => exact .arrives r' (h.of_round? hround hbefore)
  | comments r' alone before =>
      exact .comments r' (hstep.trans alone) fun around tail htail =>
        (hstep' around tail).trans (before around tail htail)
  | fails alone before =>
      exact .fails (hstep.trans alone) fun around tail haround htail =>
        (hstep' around tail).trans (before around tail haround htail)
  | closes a b r' split h outermost =>
      obtain ⟨consumed, hconsumed⟩ := consumes_round? r cs r₁ rest hround
      subst split
      rw [← List.append_assoc] at hconsumed
      subst hconsumed
      have hspelled : r₁.finish? a ≠ none := by
        rw [h.alone, finish?_nil, outermost]
        exact Option.some_ne_none _
      obtain ⟨hround', hbefore'⟩ := round?_of_cut hround hspelled
      exact .closes (consumed ++ a) b r' rfl (h.of_round? hround' hbefore') outermost

/-- Where the text alone is an error, the groups around it stay open. -/
theorem finish?_strays {around : List Open} {tail : List Char} (h : Strays r tail rest)
    (haround : around ≠ []) (htail : ')' ∉ tail) : (r.under around).finish? rest = none := by
  have houter (r : Reading) : (r.under around).outer ≠ [] := by
    rw [under_outer]
    exact List.append_ne_nil_of_right_ne_nil _ haround
  rcases h with hsuffix | ⟨inside, rfl, hcounts⟩
  · exact finish?_eq_none_of_open (houter r) fun hmem => htail (hsuffix.mem hmem)
  · have hskip : (r.under around).flags.skip ('{' :: inside ++ ')' :: tail) =
        '{' :: inside ++ ')' :: tail := by
      unfold Flags.skip
      split <;> rfl
    rw [finish?_round (by rw [hskip]; exact List.cons_ne_nil _ _), round?_eq, hskip]
    change ((r.under around).counted? (inside ++ ')' :: tail)).bind _ = none
    rw [inner_counted?.under]
    cases hread : r.counted? (inside ++ ')' :: tail) with
    | none => rfl
    | some x =>
        cases (steady_counted? r).follows inside with
        | stays r₂ rest₂ read => rw [hcounts] at read; cases read
        | comments r₂ read => rw [hcounts] at read; cases read
        | fails read lost =>
            exact finish?_eq_none_of_open (houter x.1) fun hmem =>
              htail ((lost tail x.1 x.2 hread).mem hmem)

/-- The text ends in a comment. -/
theorem Outcome.of_comment (hskip : r.flags.skip cs = [])
    (hbefore : ∀ tail, '\n' ∉ tail → r.flags.skip (cs ++ ')' :: tail) = []) : Outcome r cs := by
  refine .comments r (by rw [finish?_end hskip, finish?_nil]) fun around tail htail => ?_
  exact finish?_congr ((hbefore tail htail).trans (skip_nil r.flags).symm)

/-- The next character closes a group that is not open. -/
theorem Outcome.of_unopened {left : List Char} (hskip : r.flags.skip cs = ')' :: left)
    (houter : r.outer = []) : Outcome r cs := by
  obtain ⟨a, ha⟩ := skip_suffix r.flags cs
  rw [hskip] at ha
  subst ha
  obtain ⟨hend, hparen⟩ := skip_of_cut hskip
  exact .closes a left r rfl (.of_gap hend hparen) houter

/-- The next round is an error. -/
theorem Outcome.of_lost {c : Char} {left : List Char} (hskip : r.flags.skip cs = c :: left)
    (hbefore : ∀ tail, r.flags.skip (cs ++ ')' :: tail) = c :: (left ++ ')' :: tail))
    (hopen : c = ')' → r.outer ≠ []) (hround : r.round? cs = none)
    (hlost : ∀ tail r' rest, r.round? (cs ++ ')' :: tail) = some (r', rest) → Strays r' tail rest) :
    Outcome r cs := by
  refine .fails ?_ fun around tail haround htail => ?_
  · rw [finish?_round (hskip ▸ List.cons_ne_nil _ _), hround]
    rfl
  · have hunder : (r.under around).round? (cs ++ ')' :: tail) =
        (r.round? (cs ++ ')' :: tail)).map fun x => (x.1.under around, x.2) := by
      rw [round?_eq, round?_eq, under_flags, hbefore]
      exact step?_under hopen
    rw [finish?_round (by rw [under_flags, hbefore]; exact List.cons_ne_nil _ _), hunder]
    cases hread : r.round? (cs ++ ')' :: tail) with
    | none => rfl
    | some x => exact finish?_strays (hlost tail x.1 x.2 hread) haround htail

/-- Every run goes in one of the four ways. -/
theorem outcome (r : Reading) (cs : List Char) : Outcome r cs := by
  -- each round consumes characters, so what is left of the text gets shorter
  induction hn : cs.length using Nat.strongRecOn generalizing r cs with
  | ind n ih =>
    rcases skip_append r.flags cs with hbefore | ⟨hskip, hcomment, -⟩
    · cases hskip : r.flags.skip cs with
      | nil => exact .arrives r (.of_gap hskip fun tail => by rw [hbefore, hskip, List.nil_append])
      | cons c left =>
          by_cases hclose : c = ')' ∧ r.outer = []
          · obtain ⟨rfl, houter⟩ := hclose
            exact .of_unopened hskip houter
          · cases follows_round? r cs with
            | stays r₁ rest hround hrest =>
                exact .of_round? hround hrest (ih _ (hn ▸ length_round? hround) r₁ rest rfl)
            | comments r₁ hround hrest =>
                exact .comments r₁ (finish?_of_round? hround) fun around tail htail =>
                  finish?_of_round? (round?_under_of_some (hrest tail htail))
            | fails hround hlost =>
                exact .of_lost hskip (fun tail => by rw [hbefore, hskip, List.cons_append])
                  (fun hc houter => hclose ⟨hc, houter⟩) hround hlost
    · exact .of_comment hskip hcomment

end Runs

/-! ## Texts -/

/-- Up to one of its closing parentheses the text spells a pattern, and the parenthesis is none of
that pattern's. -/
def ClosesUnopened (text : String) : Prop :=
  ∃ a b, text = a ++ ")" ++ b ∧ (spelled? a).isSome = true ∧ spelled? (a ++ ")") = none

/-- A closing parenthesis behind the text would be part of a comment. -/
def EndsInComment (text : String) : Prop :=
  (spelled? text).isSome = true ∧ (spelled? (text ++ ")")).isSome = true

def wrapper : Open := ⟨.default, none, [], [some (.leaf (.anchor .textStart))]⟩

theorem spelled?_wrapped (text : String) : spelled? (anchored text) =
    (Reading.fresh.under [wrapper]).finish? (text.toList ++ ')' :: ['$']) := by
  have htext : (anchored text).toList =
      '^' :: '(' :: '?' :: ':' :: (text.toList ++ ')' :: ['$']) := by
    rw [anchored, String.toList_append, String.toList_append]
    rfl
  have hstart (cs : List Char) : Reading.fresh.round? ('^' :: cs) =
      some (Reading.fresh.addLeaf (.anchor .textStart), cs) := rfl
  have hopen (cs : List Char) :
      (Reading.fresh.addLeaf (.anchor .textStart)).round? ('(' :: '?' :: ':' :: cs) =
        some (Reading.fresh.under [wrapper], cs) := rfl
  rw [spelled?, htext, finish?_of_round? (hstart _), finish?_of_round? (hopen _)]

/-- The end of the longer text, when no group of the text is open. -/
theorem finish?_wrapped {r : Reading} (houter : r.outer = [])
    (hground : [(Flags.default, none)] <:+ r.frames) :
    (r.under [wrapper]).finish? (')' :: ['$']) = some (enclosed r.current.body) := by
  obtain ⟨flags, ⟨outside, index, branches, members⟩, outer, captures, names⟩ := r
  obtain rfl : outer = [] := houter
  obtain ⟨rfl, rfl⟩ := Prod.mk.inj (List.cons.inj (hground.eq_of_length rfl)).1
  let body := Open.body ⟨.default, none, branches, members⟩
  let closed : Reading :=
    Reading.add ⟨.default, wrapper, [], captures, names⟩ (some (body.around id))
  have hstop : closed.round? ['$'] = some (closed.addLeaf (.anchor .textEnd), []) := rfl
  rw [finish?_paren]
  change closed.finish? ['$'] = _
  rw [finish?_of_round? hstop, finish?_nil]
  rfl

/-- The end of the longer text, when a group of the text is open. -/
theorem finish?_wrapped_of_open {r : Reading} (houter : r.outer ≠ []) :
    (r.under [wrapper]).finish? (')' :: ['$']) = none := by
  rw [finish?_paren, leave?_under houter]
  cases r.leave? with
  | none => rfl
  | some r' =>
      have houter' : (r'.under [wrapper]).outer ≠ [] := by
        rw [under_outer]
        exact List.append_ne_nil_of_right_ne_nil _ (List.cons_ne_nil _ _)
      exact finish?_eq_none_of_open houter' (by decide)

/-- A text with a closing parenthesis and more behind it. -/
theorem spelled?_paren (text more : String) : spelled? (text ++ ")" ++ more) =
    (Reading.fresh.under []).finish? (text.toList ++ ')' :: more.toList) := by
  rw [under_nil, spelled?, String.toList_append, String.toList_append, List.append_assoc]
  rfl

theorem spelled?_paren_last (text : String) : spelled? (text ++ ")") =
    (Reading.fresh.under []).finish? (text.toList ++ [')']) := by
  simpa using spelled?_paren text ""

section Texts

variable {text : String} {r : Reading}

theorem finish?_nil_of_open (houter : r.outer ≠ []) : r.finish? [] = none := by
  rw [finish?_nil, if_neg (by simpa using houter)]

/-- Behind a whole pattern a closing parenthesis is an error. -/
theorem Arrives.stuck {cs : List Char} (h : Arrives .fresh cs r) (houter : r.outer = [])
    (tail : List Char) : (Reading.fresh.under []).finish? (cs ++ ')' :: tail) = none := by
  rw [h.before, under_nil, finish?_paren, leave?_outermost houter]
  rfl

/-- A text that spells a pattern is read to its end, or ends in a comment. -/
theorem run_of_spelled (h : (spelled? text).isSome = true) :
    (∃ r, r.outer = [] ∧ Arrives .fresh text.toList r) ∨
      ∃ r : Reading, spelled? text = r.finish? [] ∧ ∀ around tail, '\n' ∉ tail →
        (Reading.fresh.under around).finish? (text.toList ++ ')' :: tail) =
          (r.under around).finish? [] := by
  cases outcome .fresh text.toList with
  | arrives r harrives =>
      refine .inl ⟨r, ?_, harrives⟩
      by_contra houter
      rw [spelled?, harrives.alone, finish?_nil_of_open houter] at h
      cases h
  | comments r alone before => exact .inr ⟨r, alone, before⟩
  | closes a b r split harrives outermost =>
      have hnone := harrives.stuck outermost b
      rw [under_nil, ← split] at hnone
      rw [spelled?, hnone] at h
      cases h
  | fails alone =>
      rw [spelled?, alone] at h
      cases h

theorem spelled?_eq_none_of_closesUnopened (h : ClosesUnopened text) : spelled? text = none := by
  obtain ⟨a, b, rfl, hspelled, hparen⟩ := h
  rcases run_of_spelled hspelled with ⟨r, houter, harrives⟩ | ⟨r, hspells, hcomment⟩
  · rw [spelled?_paren]
    exact harrives.stuck houter b.toList
  · rw [spelled?_paren_last, hcomment _ _ List.not_mem_nil, under_nil, ← hspells] at hparen
    rw [hparen] at hspelled
    cases hspelled

theorem closesUnopened_of_arrives {a b : List Char} (h : Arrives .fresh a r)
    (houter : r.outer = []) (htext : text.toList = a ++ ')' :: b) : ClosesUnopened text := by
  have hlist : (String.ofList a).toList = a := String.toList_ofList
  refine ⟨String.ofList a, String.ofList b, ?_, ?_, ?_⟩
  · apply String.toList_inj.mp
    simp [htext]
  · rw [spelled?, hlist, h.alone, finish?_nil, houter]
    rfl
  · rw [spelled?_paren_last, hlist]
    exact h.stuck houter []

/-- Between anchors, and within a group, a text spells what it spells alone. -/
theorem spelled?_wrapper (hcloses : ¬ClosesUnopened text) (hcomment : ¬EndsInComment text) :
    spelled? (anchored text) = (spelled? text).map enclosed := by
  rw [spelled?_wrapped]
  cases outcome .fresh text.toList with
  | arrives r h =>
      rw [h.before, spelled?, h.alone]
      by_cases houter : r.outer = []
      · rw [finish?_wrapped houter (h.ground _ List.suffix_rfl), finish?_nil, houter]
        rfl
      · rw [finish?_wrapped_of_open houter, finish?_nil_of_open houter]
        rfl
  | comments r alone before =>
      have hsame : spelled? (text ++ ")") = spelled? text := by
        rw [spelled?_paren_last, before _ _ List.not_mem_nil, under_nil, spelled?, alone]
      have hnone : spelled? text = none := by
        by_contra hne
        have hspelled := Option.isSome_iff_ne_none.mpr hne
        exact hcomment ⟨hspelled, hsame ▸ hspelled⟩
      rw [before _ _ (by decide), hnone]
      exact finish?_nil_of_open (List.append_ne_nil_of_right_ne_nil _ (List.cons_ne_nil _ _))
  | closes a b r split h outermost =>
      exact absurd (closesUnopened_of_arrives h outermost split) hcloses
  | fails alone before =>
      rw [before _ _ (List.cons_ne_nil _ _) (by decide), spelled?, alone]
      rfl

/-- A comment swallows the end of the longer text. -/
theorem spelled?_wrapper_of_comment (h : EndsInComment text) :
    spelled? (anchored text) = none := by
  obtain ⟨hspelled, hparen⟩ := h
  rcases run_of_spelled hspelled with ⟨r, houter, harrives⟩ | ⟨r, -, hcomment⟩
  · rw [spelled?_paren_last, harrives.stuck houter] at hparen
    cases hparen
  · rw [spelled?_wrapped, hcomment _ _ (by decide)]
    exact finish?_nil_of_open (List.append_ne_nil_of_right_ne_nil _ (List.cons_ne_nil _ _))

end Texts

/-! ## Whole texts -/

theorem whole?_eq (text : String) :
    whole? text = ((spelled? (anchored text)).filter fun p =>
      p.depth ≤ nestLimit && Library.fits (anchored text) p.value).map (·.value) := rfl

/-- A text that is wrapped into a longer one to match whole texts. Where the text closes no group
that it does not open, the longer text is a pattern if and only if the text spells one, does not end
in a comment, and leaves room: two levels of nesting for the group and the row it stands in, and the
memory that the longer text needs. A text that closes such a group is no pattern. And where both are
patterns, the longer one matches in exactly those texts that the other leads through from end to
end. Which properties have names, and how much memory there is, makes no difference. -/
theorem whole_faithful (text : String) :
    (¬ClosesUnopened text → ((whole? text).isSome = true ↔ ¬EndsInComment text ∧
      ∃ p, spelled? text = some p ∧ p.depth + 2 ≤ nestLimit ∧
        Library.fits (anchored text) (enclosed p).value = true)) ∧
    (ClosesUnopened text → spelled? text = none) ∧
    ∀ p w, spelled? text = some p → whole? text = some w →
      ∀ s, w.matchesIn s = true ↔ Leads s.toList.toArray p.value 0 s.toList.length := by
  refine ⟨fun hcloses => ?_, spelled?_eq_none_of_closesUnopened, fun p w hp hw s => ?_⟩
  · by_cases hcomment : EndsInComment text
    · simp [whole?_eq, spelled?_wrapper_of_comment hcomment, hcomment]
    · rw [whole?_eq, spelled?_wrapper hcloses hcomment]
      cases spelled? text with
      | none => simp
      | some p => simp [Option.isSome_filter, enclosed, hcomment]
  · have hcloses : ¬ClosesUnopened text := by
      intro hcloses
      rw [spelled?_eq_none_of_closesUnopened hcloses] at hp
      cases hp
    have hcomment : ¬EndsInComment text := by
      intro hcomment
      rw [whole?_eq, spelled?_wrapper_of_comment hcomment] at hw
      cases hw
    rw [whole?_eq, spelled?_wrapper hcloses hcomment, hp] at hw
    obtain ⟨q, hq, rfl⟩ := Option.map_eq_some_iff.mp hw
    obtain ⟨hq, -⟩ := Option.filter_eq_some_iff.mp hq
    cases hq
    exact matchesIn_enclosed p s

end Spelled

/-- What is no pattern is read as two alternatives, each anchored at one end only; and a pattern
with a comment behind it is refused. -/
theorem misread_whole :
    (ofText? "x)|(?:y" = none ∧ (whole? "x)|(?:y").any (matchesIn · "xz") = true) ∧
      (ofText? "(?x)x # y").isSome = true ∧ whole? "(?x)x # y" = none := by
  decide +kernel

example : (whole? "a|bc").map (fun w => (w.matchesIn "bc", w.matchesIn "abc")) =
    some (true, false) := by
  decide +kernel

end Telemetry.Pattern
