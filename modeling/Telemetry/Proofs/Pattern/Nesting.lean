import Telemetry.Proofs.Pattern.Steps

/-!
# Groups within groups

Reading within a group is reading as if nothing were around it (`Reading.under`), up to the
parenthesis that closes it: the groups around it are neither looked at nor changed by any other
step (`Inner`). So the machine can be run on a text alone and within a group side by side.
-/

namespace Telemetry.Pattern

/-- The same machine with more groups open around it. -/
def Reading.under (r : Reading) (around : List Open) : Reading :=
  { r with outer := r.outer ++ around }

section Under

variable (r : Reading) (around : List Open)

@[simp] theorem under_flags : (r.under around).flags = r.flags := rfl
@[simp] theorem under_current : (r.under around).current = r.current := rfl
@[simp] theorem under_outer : (r.under around).outer = r.outer ++ around := rfl
@[simp] theorem under_names : (r.under around).names = r.names := rfl

theorem under_nil : r.under [] = r := by
  rw [Reading.under, List.append_nil]

end Under

/-- What is found again when a group is closed. -/
def Open.frame (o : Open) : Flags × Option Nat := (o.outside, o.index)

def Reading.frames (r : Reading) : List (Flags × Option Nat) :=
  (r.current :: r.outer).map Open.frame

/-- What does not depend on the groups around the current one, and leaves them open. -/
structure Inner (F : Reading → Reader Reading) : Prop where
  under : ∀ r around cs,
    F (r.under around) cs = (F r cs).map fun x => (x.1.under around, x.2)
  frames : ∀ r cs r' rest, F r cs = some (r', rest) → r.frames <:+ r'.frames

section Inner

variable {α : Type}

theorem inner_give {change : Reading → Option Reading}
    (hunder : ∀ r around, change (r.under around) = (change r).map (·.under around))
    (hframes : ∀ r r', change r = some r' → r.frames <:+ r'.frames) :
    Inner fun r => give (change r) where
  under r around cs := by
    rw [give, give, hunder]
    cases change r <;> rfl
  frames r cs r' rest h := by
    obtain ⟨r'', hchange, h⟩ := Option.map_eq_some_iff.mp h
    cases h
    exact hframes r r' hchange

/-- A change that is no error. -/
theorem inner_change {change : Reading → Reading}
    (hunder : ∀ r around, change (r.under around) = (change r).under around)
    (hframes : ∀ r, r.frames <:+ (change r).frames) : Inner fun r => give (some (change r)) :=
  inner_give (fun r around => by rw [hunder]; rfl) fun r r' h => by
    cases h
    exact hframes r

theorem Inner.andThen {F : Reading → Reader α} {G : Reading → α → Reader Reading}
    (hF : ∀ r around, F (r.under around) = F r) (hG : ∀ a, Inner fun r => G r a) :
    Inner fun r => (F r).andThen (G r) where
  under r around cs := by
    rw [Reader.andThen, Reader.andThen, hF]
    cases F r cs with
    | none => rfl
    | some x => exact (hG x.1).under r around x.2
  frames r cs r' rest h := by
    obtain ⟨x, -, h⟩ := Option.bind_eq_some_iff.mp h
    exact (hG x.1).frames r x.2 r' rest h

theorem inner_onHead {c : Char} {G K : Reading → Reader Reading} (hG : Inner G) (hK : Inner K) :
    Inner fun r => onHead c (G r) (K r) where
  under r around cs := by
    unfold onHead
    split
    · exact hG.under r around cs.tail
    · exact hK.under r around cs
  frames r cs r' rest h := by
    unfold onHead at h
    split at h
    · exact hG.frames r cs.tail r' rest h
    · exact hK.frames r cs r' rest h

end Inner

/-! ## What leaves the groups around alone -/

theorem inner_named? : Inner Reading.named? := by
  have hchange (name : String) : Inner fun r => give (if r.names.contains name then none else
      some { r.capture with names := name :: r.names }) := by
    refine inner_give (fun r around => ?_) fun r r' h => ?_
    · rw [under_names]
      split <;> rfl
    · split at h
      · cases h
      · cases h
        exact List.suffix_cons _ r.frames
  exact (funext named?_eq : Reading.named? = _) ▸ Inner.andThen (fun _ _ => rfl) hchange

theorem inner_flagged : Inner Reading.flagged := by
  refine Inner.andThen (fun _ _ => rfl) fun (flags, seen, close) => inner_give ?_ ?_
  · intro r around
    split
    · rfl
    · split <;> rfl
  · intro r r' h
    split at h
    · cases h
      exact List.suffix_cons _ r.frames
    · split at h
      · cases h
      · cases h
        exact List.suffix_rfl

theorem inner_labelled : Inner Reading.labelled := by
  have hnone : Inner fun _ => give none := inner_give (fun _ _ => rfl) fun _ _ h => nomatch h
  exact inner_onHead inner_named? (inner_onHead (inner_onHead inner_named? hnone) inner_flagged)

theorem inner_group? : Inner Reading.group? := by
  have hcapture : Inner fun r => give (some r.capture) :=
    inner_change (fun _ _ => rfl) fun r => List.suffix_cons _ r.frames
  exact (funext group?_eq : Reading.group? = _) ▸ inner_onHead inner_labelled hcapture

theorem inner_repeat? (least : Nat) (more : Option Nat) (lazy : Bool) :
    Inner fun r => give (r.repeat? least more lazy) := by
  refine inner_give (fun r around => ?_) fun r r' h => ?_
  · unfold Reading.repeat?
    rw [under_current]
    split <;> rfl
  · unfold Reading.repeat? at h
    split at h
    · cases h
      exact List.suffix_rfl
    · cases h

theorem inner_counted? : Inner Reading.counted? := by
  rw [funext counted?_eq]
  exact Inner.andThen (fun _ _ => rfl) fun counts => Inner.andThen (fun _ _ => rfl) fun _ =>
    Inner.andThen (fun _ _ => rfl) fun lazy => inner_repeat? counts.1 counts.2 lazy

/-! ## Closing a group -/

section Leaving

variable {r r' : Reading} {around : List Open}

theorem leave?_outermost (h : r.outer = []) : r.leave? = none := by
  rw [Reading.leave?, h]

theorem leave?_under (h : r.outer ≠ []) :
    (r.under around).leave? = r.leave?.map (·.under around) := by
  rw [Reading.leave?, Reading.leave?, under_outer]
  cases houter : r.outer with
  | nil => exact absurd houter h
  | cons o outer => rfl

theorem frames_leave? (h : r.leave? = some r') : ∃ f, r.frames = f :: r'.frames := by
  rw [Reading.leave?] at h
  split at h
  · cases h
  · rename_i o outer houter
    cases h
    exact ⟨r.current.frame, by rw [Reading.frames, houter]; rfl⟩

end Leaving

/-! ## Steps -/

variable [Library]

/-- All steps but the closing of a group. -/
theorem inner_step? {c : Char} (hc : c ≠ ')') : Inner fun r => r.step? c := by
  have hadd (m : Reading → Option (Nested Pattern)) (hm : ∀ r around, m (r.under around) = m r) :
      Inner fun r => give (some (r.add (m r))) :=
    inner_change (fun r around => by rw [hm]; rfl) fun _ => List.suffix_rfl
  refine step?_cases c ?_ (fun h => absurd h hc) ?_ ?_ ?_ inner_counted? (fun _ => ?_) fun m => ?_
  · exact Inner.andThen (fun _ _ => rfl) fun _ => inner_group?
  · exact inner_change (fun _ _ => rfl) fun _ => List.suffix_rfl
  · exact Inner.andThen (fun _ _ => rfl) fun s => hadd _ fun _ _ => rfl
  · exact fun least more => Inner.andThen (F := fun _ => readLazy) (fun _ _ => rfl)
      fun lazy => inner_repeat? least more lazy
  · refine Inner.andThen (fun _ _ => rfl) fun e => ?_
    cases e <;> exact hadd _ fun _ _ => rfl
  · refine inner_give (fun r around => ?_) fun r r' h => ?_
    · rw [under_flags]
      cases m r.flags <;> rfl
    · obtain ⟨p, -, h⟩ := Option.map_eq_some_iff.mp h
      cases h
      exact List.suffix_rfl

section Steps

variable {r r' : Reading} {around : List Open} {c : Char} {cs rest : List Char}

theorem step?_under (h : c = ')' → r.outer ≠ []) :
    (r.under around).step? c cs = (r.step? c cs).map fun x => (x.1.under around, x.2) := by
  by_cases hc : c = ')'
  · subst hc
    change (r.under around).leave?.map _ = (r.leave?.map _).map _
    rw [leave?_under (h rfl)]
    cases r.leave? <;> rfl
  · exact (inner_step? hc).under r around cs

/-- The outermost frame stays. -/
theorem ground_step? {f : Flags × Option Nat} (h : r.step? c cs = some (r', rest))
    (hf : [f] <:+ r.frames) : [f] <:+ r'.frames := by
  by_cases hc : c = ')'
  · subst hc
    obtain ⟨r'', hleave, h⟩ := Option.map_eq_some_iff.mp h
    cases h
    obtain ⟨g, hframes⟩ := frames_leave? hleave
    rw [hframes] at hf
    rcases List.suffix_cons_iff.mp hf with hf | hf
    · exact absurd (List.cons.inj hf).2.symm (List.cons_ne_nil _ _)
    · exact hf
  · exact hf.trans ((inner_step? hc).frames r cs r' rest h)

end Steps

/-! ## The machine -/

def Reading.next? (r : Reading) : Reader Reading
  | [] => none
  | c :: rest => r.step? c rest

def Reading.round? (r : Reading) : Reader Reading := (gap r.flags).andThen fun _ => r.next?

section Rounds

variable {r r' : Reading} {around : List Open} {c : Char} {cs rest : List Char}

theorem round?_eq (r : Reading) (cs : List Char) : r.round? cs = r.next? (r.flags.skip cs) := rfl

theorem consumes_next? (r : Reading) : Consumes r.next? := by
  intro cs r' rest h
  cases cs with
  | nil => cases h
  | cons c cs => exact (consumes_step? r c cs r' rest h).trans (List.suffix_cons c cs)

theorem consumes_round? (r : Reading) : Consumes r.round? :=
  (steady_gap r.flags).consumes.andThen fun _ => consumes_next? r

theorem length_round? (h : r.round? cs = some (r', rest)) : rest.length < cs.length := by
  have hskip := (skip_suffix r.flags cs).length_le
  rw [round?_eq] at h
  cases hcs : r.flags.skip cs with
  | nil => rw [hcs] at h; cases h
  | cons c cs' =>
      rw [hcs] at h hskip
      have hstep := (consumes_step? r c cs' r' rest h).length_le
      rw [List.length_cons] at hskip
      omega

/-- The end of a text. -/
theorem finish?_end (h : r.flags.skip cs = []) :
    r.finish? cs = if r.outer.isEmpty then some r.current.body else none := by
  rw [Reading.finish?, h]

theorem finish?_nil (r : Reading) :
    r.finish? [] = if r.outer.isEmpty then some r.current.body else none :=
  finish?_end (List.suffix_nil.mp (skip_suffix r.flags []))

theorem finish?_round (h : r.flags.skip cs ≠ []) :
    r.finish? cs = (r.round? cs).bind fun x => x.1.finish? x.2 := by
  have hlength {r' : Reading} {rest : List Char} (hround : r.round? cs = some (r', rest)) :=
    length_round? hround
  rw [round?_eq] at hlength ⊢
  rw [Reading.finish?]
  cases hcs : r.flags.skip cs with
  | nil => exact absurd hcs h
  | cons c rest =>
      rw [hcs] at hlength
      change (r.step? c rest).bind _ = (r.step? c rest).bind _
      cases hstep : r.step? c rest with
      | none => rfl
      | some x => exact if_pos (hlength hstep)

theorem finish?_of_round? (h : r.round? cs = some (r', rest)) : r.finish? cs = r'.finish? rest := by
  have hcs : r.flags.skip cs ≠ [] := by
    intro hcs
    rw [round?_eq, hcs] at h
    cases h
  rw [finish?_round hcs, h, Option.bind_some]

/-- Without a closing parenthesis an open group stays open. -/
theorem finish?_eq_none_of_open (houter : r.outer ≠ []) (hcs : ')' ∉ cs) : r.finish? cs = none := by
  induction hn : cs.length using Nat.strongRecOn generalizing r cs with
  | ind n ih =>
      by_cases hskip : r.flags.skip cs = []
      · rw [finish?_end hskip, if_neg (by simpa using houter)]
      · rw [finish?_round hskip]
        refine Option.bind_eq_none_iff.mpr fun ⟨r', rest⟩ hround => ?_
        refine ih _ (hn ▸ length_round? hround) ?_ ?_ rfl
        · rw [round?_eq] at hround
          cases hnext : r.flags.skip cs with
          | nil => exact absurd hnext hskip
          | cons c cs' =>
              rw [hnext] at hround
              have hc : c ≠ ')' := by
                rintro rfl
                exact hcs ((skip_suffix r.flags cs).mem (hnext ▸ List.mem_cons_self))
              have hlength : r.outer.length ≤ r'.outer.length := by
                simpa [Reading.frames] using
                  ((inner_step? hc).frames r cs' r' rest hround).length_le
              intro (hnil : r'.outer = [])
              exact houter (List.eq_nil_of_length_eq_zero (by simpa [hnil] using hlength))
        · exact fun hmem => hcs ((consumes_round? r cs r' rest hround).mem hmem)

end Rounds

end Telemetry.Pattern
