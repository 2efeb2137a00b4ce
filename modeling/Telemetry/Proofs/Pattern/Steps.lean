import Telemetry.Proofs.Pattern.Classes

/-!
# Steps before a closing parenthesis

One step of the machine that reads patterns follows a text before a closing parenthesis
(`follows_step?`), but for the step that would open an edge of words (`OpensEdge`).
-/

namespace Telemetry.Pattern

/-! ## Flags and repetitions -/

def readFlags (f : Flags) (seen : List Char) (negated : Bool) : Reader (Flags × List Char × Char) :=
  fun cs => (takeFlags f seen negated cs).map fun (f, seen, c, rest) => ((f, seen, c), rest)

theorem readFlags_cons (f : Flags) (seen : List Char) (negated : Bool) (c : Char) (cs : List Char) :
    readFlags f seen negated (c :: cs) =
      if c = ':' ∨ c = ')' then
        if seen.head? = some '-' then none else some ((f, seen, c), cs)
      else if seen.contains c then none
      else if c = '-' then readFlags f ('-' :: seen) true cs
      else (f.set? c (!negated)).bind fun f => readFlags f (c :: seen) negated cs := by
  simp only [readFlags, takeFlags]
  split
  · split <;> rfl
  · split
    · rfl
    · split
      · rfl
      · cases f.set? c (!negated) <;> rfl

theorem consumes_readFlags (f : Flags) (seen : List Char) (negated : Bool) :
    Consumes (readFlags f seen negated) := by
  intro cs a rest h
  induction cs generalizing f seen negated with
  | nil => cases h
  | cons c cs ih =>
      rw [readFlags_cons] at h
      refine .trans ?_ (List.suffix_cons c cs)
      split at h
      · split at h
        · cases h
        · cases h
          exact List.suffix_rfl
      · split at h
        · cases h
        · split at h
          · exact ih _ _ _ h
          · obtain ⟨f', -, h⟩ := Option.bind_eq_some_iff.mp h
            exact ih _ _ _ h

theorem steady_readFlags (f : Flags) (seen : List Char) (negated : Bool) :
    Steady (readFlags f seen negated) := by
  refine ⟨consumes_readFlags f seen negated, fun cs => ?_⟩
  induction cs generalizing f seen negated with
  | nil =>
      refine .fails rfl fun tail x rest h => ?_
      rw [List.nil_append, readFlags_cons, if_pos (.inr rfl)] at h
      split at h
      · cases h
      · cases h
        exact List.suffix_rfl
  | cons c cs ih =>
      have hcons := readFlags_cons f seen negated c
      by_cases hclose : c = ':' ∨ c = ')'
      · refine ((steady_give _).follows cs).of_eq
          (K := give (if seen.head? = some '-' then none else some (f, seen, c))) ?_ fun tail => ?_
        · rw [hcons, if_pos hclose]
          split <;> rfl
        · rw [List.cons_append, hcons, if_pos hclose]
          split <;> rfl
      · simp only [if_neg hclose] at hcons
        by_cases hseen : seen.contains c
        · simp only [if_pos hseen] at hcons
          exact ((steady_give none).follows cs).of_eq (hcons cs) fun tail => hcons _
        · simp only [if_neg hseen] at hcons
          by_cases hminus : c = '-'
          · simp only [if_pos hminus] at hcons
            exact (ih f ('-' :: seen) true).of_eq (hcons cs) fun tail => hcons _
          · simp only [if_neg hminus] at hcons
            cases hset : f.set? c (!negated) with
            | none =>
                simp only [hset, Option.bind_none] at hcons
                exact ((steady_give none).follows cs).of_eq (hcons cs) fun tail => hcons _
            | some f' =>
                simp only [hset, Option.bind_some] at hcons
                exact (ih f' (c :: seen) negated).of_eq (hcons cs) fun tail => hcons _

/-- The number that digits make, if there are any and it is not too great. -/
def count? (digits : List Char) : Option Nat :=
  let n := digits.foldl (fun n c => 10 * n + (c.toNat - '0'.toNat)) 0
  if digits.isEmpty ∨ greatestOf 32 < n then none else some n

theorem takeCount_eq (f : Flags) : takeCount f =
    (takeWord Text.isBlank).andThen fun _ => (runOf f Char.isDigit).andThen fun digits =>
      (takeWord Text.isBlank).andThen fun _ => give (count? digits) := by
  funext cs
  simp only [takeCount, Reader.andThen, takeWord, runOf, give, count?, Option.bind_some]
  split <;> rfl

theorem steady_takeCount (f : Flags) : Steady (takeCount f) := by
  have hblank : Steady (takeWord Text.isBlank) := steady_takeWord (by decide)
  rw [takeCount_eq]
  exact hblank.andThen fun _ => (steady_runOf f (by decide)).andThen fun _ =>
    hblank.andThen fun _ => steady_give _

def readLazy : Reader Bool := fun cs => some (takeLazy cs)

theorem readLazy_eq : readLazy = onHead '?' (give (some true)) (give (some false)) :=
  eq_onHead (fun _ => rfl) fun cs h => by
    unfold readLazy takeLazy
    split
    · exact absurd rfl h
    · rfl

theorem steady_readLazy : Steady readLazy :=
  readLazy_eq ▸ steady_onHead (by decide) (steady_give _) (steady_give _)

def greatestCount (f : Flags) (least : Nat) : Reader (Nat × Option Nat) :=
  Reader.andThen (takeCount f) fun most =>
    closing (if least ≤ most then some (least, some (most - least)) else none)

theorem steady_greatestCount (f : Flags) (least : Nat) : Steady (greatestCount f least) :=
  (steady_takeCount f).andThen fun _ => steady_closing _

def afterComma (f : Flags) (least : Nat) : Reader (Nat × Option Nat) :=
  onHead '}' (give (some (least, none))) (greatestCount f least)

def afterLeast (f : Flags) (least : Nat) : Reader (Nat × Option Nat) :=
  onHead '}' (give (some (least, some 0)))
    (onHead ',' ((gap f).andThen fun _ => afterComma f least) (give none))

theorem steady_afterLeast (f : Flags) (least : Nat) : Steady (afterLeast f least) := by
  have hcomma : Steady (afterComma f least) :=
    steady_onHead (by decide) (steady_give _) (steady_greatestCount f least)
  exact steady_onHead (by decide) (steady_give _)
    (steady_onHead (by decide) ((steady_gap f).andThen fun _ => hcomma) (steady_give _))

def readCounts (f : Flags) : Reader (Nat × Option Nat) := fun cs =>
  (takeCounts f cs).map fun (least, more, rest) => ((least, more), rest)

theorem readCounts_eq (f : Flags) : readCounts f =
    (gap f).andThen fun _ => Reader.andThen (takeCount f) (afterLeast f) := by
  funext cs
  simp only [readCounts, takeCounts, Reader.andThen, gap, Option.bind_some, Option.bind_eq_bind]
  cases takeCount f (f.skip cs) with
  | none => rfl
  | some x =>
      obtain ⟨least, rest⟩ := x
      simp only [Option.bind_some, afterLeast]
      split
      · rw [onHead_self]
        rfl
      · rw [onHead_of_ne (by simp), onHead_self]
        simp only [Reader.andThen, gap, Option.bind_some, afterComma]
        split
        · rename_i heq
          rw [heq, onHead_self]
          rfl
        · rename_i hopen
          rw [onHead_of_forall hopen, greatestCount, Reader.andThen]
          cases takeCount f (f.skip _) with
          | none => rfl
          | some y =>
              obtain ⟨most, rest⟩ := y
              simp only [Option.bind_some, closing]
              split
              · rw [onHead_self]
                split <;> rfl
              · rename_i hopen
                rw [onHead_of_forall hopen]
                rfl
      · rename_i hbrace hcomma
        rw [onHead_of_forall hbrace, onHead_of_forall hcomma]
        rfl

theorem steady_readCounts (f : Flags) : Steady (readCounts f) :=
  readCounts_eq f ▸ (steady_gap f).andThen fun _ =>
    (steady_takeCount f).andThen (steady_afterLeast f)

/-! ## Groups -/

def groupName? : List Char → Option String
  | c :: more =>
    if isNameStart c && more.all isNameChar then some (String.ofList (c :: more)) else none
  | [] => none

theorem takeName_eq :
    takeName = (takeTo (· != '>')).andThen fun name => give (groupName? name) := by
  funext cs
  simp only [takeName, Reader.andThen, takeTo]
  cases cs.dropWhile (· != '>') with
  | nil => cases cs.takeWhile (· != '>') <;> rfl
  | cons d rest =>
      cases cs.takeWhile (· != '>') with
      | nil => rfl
      | cons c more =>
          simp only [Option.bind_some, groupName?, give]
          split <;> rfl

theorem named?_eq (r : Reading) : r.named? = Reader.andThen takeName fun name =>
    give (if r.names.contains name then none else
      some { r.capture with names := name :: r.names }) := by
  funext cs
  simp only [Reading.named?, Reader.andThen, give]
  congr 1
  funext x
  split <;> rfl

theorem steady_named? (r : Reading) : Steady r.named? := by
  rw [named?_eq, takeName_eq]
  exact ((steady_takeTo _).andThen fun _ => steady_give _).andThen fun _ => steady_give _

theorem named?_eq_none (r : Reading) {c : Char} (cs : List Char) (hc : c ≠ '>')
    (hstart : isNameStart c = false) : r.named? (c :: cs) = none := by
  have hname : (c :: cs).takeWhile (· != '>') = c :: cs.takeWhile (· != '>') := by
    rw [List.takeWhile_cons_of_pos (by simpa using hc)]
  have hnone : groupName? ((c :: cs).takeWhile (· != '>')) = none := by
    rw [hname, groupName?, hstart]
    rfl
  rw [Reading.named?, takeName_eq, Reader.andThen, takeTo]
  split
  · rw [Option.bind_some, hnone]
    rfl
  · rfl

def Reading.flagged (r : Reading) : Reader Reading :=
  (readFlags r.flags [] false).andThen fun (flags, seen, close) =>
    give (if close = ':' then some (r.enter flags none)
      else if seen.isEmpty then none
      else some ({ r with flags }.add none))

theorem steady_flagged (r : Reading) : Steady r.flagged :=
  (steady_readFlags _ _ _).andThen fun _ => steady_give _

theorem flagged_eq_none (r : Reading) {c : Char} (cs : List Char)
    (hset : r.flags.set? c true = none) (hc : c ≠ ':') (hclose : c ≠ ')') (hminus : c ≠ '-') :
    r.flagged (c :: cs) = none := by
  rw [Reading.flagged, Reader.andThen, readFlags_cons]
  simp [hset, hc, hclose, hminus]

def Reading.angled (r : Reading) : Reader Reading := onHead '<' r.named? (give none)

def Reading.labelled (r : Reading) : Reader Reading :=
  onHead '<' r.named? (onHead 'P' r.angled r.flagged)

theorem steady_labelled (r : Reading) : Steady r.labelled := by
  have hangled : Steady r.angled := steady_onHead (by decide) (steady_named? r) (steady_give _)
  exact steady_onHead (by decide) (steady_named? r)
    (steady_onHead (by decide) hangled (steady_flagged r))

theorem flagged_eq (r : Reading) (cs : List Char) :
    r.flagged cs = (takeFlags r.flags [] false cs).bind fun (flags, seen, close, rest) =>
      if close = ':' then some (r.enter flags none, rest)
      else if seen.isEmpty then none
      else some ({ r with flags }.add none, rest) := by
  simp only [Reading.flagged, Reader.andThen, readFlags]
  cases takeFlags r.flags [] false cs with
  | none => rfl
  | some x =>
      simp only [Option.map_some, Option.bind_some, give]
      split
      · rfl
      · split <;> rfl

theorem group?_question (r : Reading) (cs : List Char) :
    r.group? ('?' :: cs) = r.labelled cs := by
  unfold Reading.group? Reading.labelled
  split
  · rename_i heq
    cases heq
    rw [onHead_of_ne (by simp), onHead_of_ne (by simp)]
    exact (flagged_eq_none r _ rfl (by decide) (by decide) (by decide)).symm
  · rename_i heq
    cases heq
    rw [onHead_of_ne (by simp), onHead_of_ne (by simp)]
    exact (flagged_eq_none r _ rfl (by decide) (by decide) (by decide)).symm
  · rename_i heq
    cases heq
    rw [onHead_self]
    exact (named?_eq_none r _ (by decide) (by decide)).symm
  · rename_i heq
    cases heq
    rw [onHead_self]
    exact (named?_eq_none r _ (by decide) (by decide)).symm
  · rename_i heq
    cases heq
    rw [onHead_of_ne (by simp), onHead_self, Reading.angled, onHead_self]
  · rename_i heq
    cases heq
    rw [onHead_self]
  · rename_i rest hlook hlook' hbehind hbehind' hnamed hangle heq
    cases heq
    rw [← flagged_eq, onHead_of_forall hangle]
    by_cases hletter : cs.head? = some 'P'
    · obtain ⟨rest, rfl⟩ := List.head?_eq_some_iff.mp hletter
      have hopen : ∀ more, rest = '<' :: more → False := fun more heq => hnamed more (heq ▸ rfl)
      rw [onHead_self, Reading.angled, onHead_of_forall hopen]
      exact flagged_eq_none r _ rfl (by decide) (by decide) (by decide)
    · rw [onHead_of_ne hletter]
  · rename_i hother
    exact absurd rfl (hother _)

theorem group?_eq (r : Reading) : r.group? = onHead '?' r.labelled (give (some r.capture)) :=
  eq_onHead (group?_question r) fun cs h => by
    unfold Reading.group?
    split <;> simp_all [give]

theorem steady_group? (r : Reading) : Steady r.group? :=
  group?_eq r ▸ steady_onHead (by decide) (steady_labelled r) (steady_give _)

/-! ## Steps -/

theorem counted?_eq (r : Reading) : r.counted? = (readCounts r.flags).andThen fun counts =>
    (gap r.flags).andThen fun _ => readLazy.andThen fun lazy =>
      give (r.repeat? counts.1 counts.2 lazy) := by
  funext cs
  simp only [Reading.counted?, Reader.andThen, readCounts]
  cases takeCounts r.flags cs <;> rfl

theorem steady_counted? (r : Reading) : Steady r.counted? :=
  counted?_eq r ▸ (steady_readCounts r.flags).andThen fun _ => (steady_gap r.flags).andThen fun _ =>
    steady_readLazy.andThen fun _ => steady_give _

def Reading.nextBranch (r : Reading) : Reading :=
  { r with current :=
    { r.current with branches := r.current.branch :: r.current.branches, members := [] } }

def Reading.escaped (r : Reading) : Escape → Reading
  | .char c => r.addLeaf (r.literal c)
  | .set s => r.addLeaf (.set s)
  | .anchor a => r.addLeaf (.anchor a)

def Reading.classed (r : Reading) (s : Nested CharSet) : Reading :=
  r.add (some ⟨.set s.value, s.depth⟩)

variable [Library]

theorem step?_backslash (r : Reading) :
    r.step? '\\' = Reader.andThen (takeEscape r.flags) fun e => give (some (r.escaped e)) := by
  funext cs
  change (takeEscape r.flags cs).map _ = _
  unfold Reader.andThen
  cases takeEscape r.flags cs with
  | none => rfl
  | some x =>
      obtain ⟨e, rest⟩ := x
      cases e <;> rfl

theorem step?_bracket (r : Reading) :
    r.step? '[' = (readClass r.flags).andThen fun s => give (some (r.classed s)) := by
  funext cs
  change (openBracket r.flags cs).bind _ = _
  simp only [readClass, Reader.andThen]
  cases openBracket r.flags cs with
  | none => rfl
  | some x =>
      simp only [Option.bind_some]
      cases takeBracket r.flags x.1 [] x.2 <;> rfl

theorem step?_dot (r : Reading) : r.step? '.' =
    give ((if r.flags.unicode then some (.set r.flags.dot) else none).map r.addLeaf) := by
  funext cs
  change (if r.flags.unicode then _ else _) = _
  unfold give
  split <;> rfl

/-- What a step does, for a property of what machines do with a text. Most characters add a member
that the flags determine. -/
theorem step?_cases {P : (Reading → Reader Reading) → Prop} (c : Char)
    (group : P fun r => (gap r.flags).andThen fun _ => r.group?)
    (leave : c = ')' → P fun r => give r.leave?)
    (branch : P fun r => give (some r.nextBranch))
    (bracket : P fun r => (readClass r.flags).andThen fun s => give (some (r.classed s)))
    (sign : ∀ least more, P fun r => r.sign? least more)
    (counted : P Reading.counted?)
    (escape : c = '\\' → P fun r =>
      Reader.andThen (takeEscape r.flags) fun e => give (some (r.escaped e)))
    (member : ∀ m : Flags → Option Pattern,
      P fun r => give ((m r.flags).map r.addLeaf)) :
    P fun r => r.step? c := by
  by_cases hopen : c = '('
  · exact hopen ▸ group
  by_cases hclose : c = ')'
  · exact hclose ▸ leave hclose
  by_cases hbar : c = '|'
  · exact hbar ▸ branch
  by_cases hbracket : c = '['
  · exact hbracket ▸ (funext step?_bracket : (fun r : Reading => r.step? '[') = _) ▸ bracket
  by_cases hstar : c = '*'
  · exact hstar ▸ sign 0 none
  by_cases hplus : c = '+'
  · exact hplus ▸ sign 1 none
  by_cases hquestion : c = '?'
  · exact hquestion ▸ sign 0 (some 1)
  by_cases hbrace : c = '{'
  · exact hbrace ▸ counted
  by_cases hdot : c = '.'
  · exact hdot ▸ (funext step?_dot : (fun r : Reading => r.step? '.') = _) ▸
      member fun f => if f.unicode then some (.set f.dot) else none
  by_cases hcaret : c = '^'
  · exact hcaret ▸ member fun f => some (.anchor f.start)
  by_cases hdollar : c = '$'
  · exact hdollar ▸ member fun f => some (.anchor f.stop)
  by_cases hescape : c = '\\'
  · exact hescape ▸ (funext step?_backslash : (fun r : Reading => r.step? '\\') = _) ▸
      escape hescape
  -- any other character stands for itself
  have heq : (fun r : Reading => r.step? c) = fun r =>
      give ((some (r.literal c)).map r.addLeaf) := by
    funext r cs
    unfold Reading.step?
    split <;> simp_all [give]
  exact heq ▸ member fun f =>
    some (.set (if f.admits c then f.cased (.single c) else .single c))

/-- A step that is no escape. -/
theorem steady_step? (r : Reading) {c : Char} (hc : c ≠ '\\') : Steady (r.step? c) :=
  step?_cases (P := fun F => ∀ r, Steady (F r)) c
    (fun r => (steady_gap r.flags).andThen fun _ => steady_group? r)
    (fun _ _ => steady_give _)
    (fun _ => steady_give _)
    (fun r => (steady_readClass r.flags).andThen fun _ => steady_give _)
    (fun _ _ _ => steady_readLazy.andThen fun _ => steady_give _)
    steady_counted?
    (fun h => absurd h hc)
    (fun _ _ => steady_give _) r

theorem consumes_step? (r : Reading) (c : Char) : Consumes (r.step? c) := by
  by_cases hc : c = '\\'
  · subst hc
    rw [step?_backslash]
    exact (consumes_takeEscape r.flags).andThen fun _ => (steady_give _).consumes
  · exact (steady_step? r hc).consumes

/-- A step follows a text, unless it would open an edge of words. -/
theorem follows_step? (r : Reading) (c : Char) {cs : List Char}
    (h : c = '\\' → ¬OpensEdge r.flags cs) : Follows taken (r.step? c) cs := by
  by_cases hc : c = '\\'
  · subst hc
    rw [step?_backslash]
    exact (follows_takeEscape r.flags (h rfl)).andThen (fun _ => (steady_give _).consumes)
      (fun _ _ _ h => h) fun _ rest _ => (steady_give _).follows rest
  · exact (steady_step? r hc).follows cs

end Telemetry.Pattern
