import Telemetry.Pattern.Reader

/-!
# Readers before a closing parenthesis

Readers of pattern texts take from the head of a text and look no further than they must. How a
reader gets on with a text tells how it gets on when a closing parenthesis follows the text, and
whatever else behind it (`Follows`). Either it leaves the parenthesis alone; or the text ends in a
comment, that swallows the parenthesis with the rest of the line; or the text alone is an error, and
if the longer text is none, then because the parenthesis was taken for something else.

All readers but two follow a text in this way (`Steady`). The exceptions are told where they are
read: a class takes the parenthesis for a member, and a brace behind `\b`.
-/

namespace Telemetry.Pattern

/-- A reader gives what it has read, and the rest of the text. -/
abbrev Reader (α : Type) := List Char → Option (α × List Char)

section Readers

variable {α β : Type} {F : Reader α} {G : α → Reader β} {H : Reader β} {cs : List Char}

def Reader.andThen (F : Reader α) (G : α → Reader β) : Reader β := fun cs =>
  (F cs).bind fun x => G x.1 x.2

def Consumes (F : Reader α) : Prop := ∀ cs a rest, F cs = some (a, rest) → rest <:+ cs

/-- How a reader gets on with a text, and when a closing parenthesis and a `tail` follow the text.
If the text alone is an error, but not the longer text, then `loses` says what is left of it. -/
inductive Follows (loses : α → List Char → List Char → Prop) (F : Reader α) (cs : List Char) : Prop
  /-- The parenthesis is left alone. -/
  | stays (a : α) (rest : List Char) (read : F cs = some (a, rest))
    (before : ∀ tail, F (cs ++ ')' :: tail) = some (a, rest ++ ')' :: tail))
  /-- The parenthesis is part of a comment. -/
  | comments (a : α) (read : F cs = some (a, []))
    (before : ∀ tail, '\n' ∉ tail → F (cs ++ ')' :: tail) = some (a, []))
    (lost : ∀ tail x rest, F (cs ++ ')' :: tail) = some (x, rest) → rest <:+ tail)
  | fails (read : F cs = none)
    (lost : ∀ tail x rest, F (cs ++ ')' :: tail) = some (x, rest) → loses x tail rest)

/-- The parenthesis is not left. -/
abbrev taken : α → List Char → List Char → Prop := fun _ tail rest => rest <:+ tail

/-- A reader that follows every text, and takes the parenthesis if the text is an error. -/
structure Steady (F : Reader α) : Prop where
  consumes : Consumes F
  follows : ∀ cs, Follows taken F cs

/-! ## Readers put together -/

theorem Consumes.andThen (hF : Consumes F) (hG : ∀ a, Consumes (G a)) : Consumes (F.andThen G) := by
  intro cs c rest h
  obtain ⟨⟨a, rest'⟩, hread, h⟩ := Option.bind_eq_some_iff.mp h
  exact (hG a _ _ _ h).trans (hF _ _ _ hread)

theorem Follows.of_eq {loses : α → List Char → List Char → Prop} {F K : Reader α}
    {cs ds : List Char} (h : Follows loses K ds) (heq : F cs = K ds)
    (heq' : ∀ tail, F (cs ++ ')' :: tail) = K (ds ++ ')' :: tail)) : Follows loses F cs := by
  cases h with
  | stays a rest read before =>
      exact .stays a rest (heq ▸ read) fun tail => (heq' tail).trans (before tail)
  | comments a read before lost =>
      exact .comments a (heq ▸ read) (fun tail h => (heq' tail).trans (before tail h))
        fun tail x rest h => lost tail x rest ((heq' tail).symm.trans h)
  | fails read lost =>
      exact .fails (heq ▸ read) fun tail x rest h => lost tail x rest ((heq' tail).symm.trans h)

theorem Follows.mono {loses loses' : α → List Char → List Char → Prop} (h : Follows loses F cs)
    (hle : ∀ a tail rest, loses a tail rest → loses' a tail rest) : Follows loses' F cs := by
  cases h with
  | stays a rest read before => exact .stays a rest read before
  | comments a read before lost => exact .comments a read before lost
  | fails read lost => exact .fails read fun tail a rest h => hle a tail rest (lost tail a rest h)

theorem Follows.map {γ : Type} {loses : α → List Char → List Char → Prop}
    {loses' : γ → List Char → List Char → Prop} (h : Follows loses F cs) (g : α → γ)
    (hle : ∀ a tail rest, loses a tail rest → loses' (g a) tail rest) :
    Follows loses' (fun cs => (F cs).map fun x => (g x.1, x.2)) cs := by
  cases h with
  | stays a rest read before =>
      exact .stays (g a) rest (by rw [read]; rfl) fun tail => by rw [before]; rfl
  | comments a read before lost =>
      refine .comments (g a) (by rw [read]; rfl) (fun tail h => by rw [before tail h]; rfl) ?_
      intro tail x rest h
      obtain ⟨y, hread, hy⟩ := Option.map_eq_some_iff.mp h
      cases hy
      exact lost tail _ _ hread
  | fails read lost =>
      refine .fails (by rw [read]; rfl) fun tail x rest h => ?_
      obtain ⟨y, hread, hy⟩ := Option.map_eq_some_iff.mp h
      cases hy
      exact hle _ _ _ (lost tail _ _ hread)

/-- One reader after the other. Behind an error the second one may have to take the parenthesis. -/
theorem Follows.andThen_of {loses : α → List Char → List Char → Prop}
    {loses' : β → List Char → List Char → Prop} (hF : Follows loses F cs)
    (hG : ∀ a, Consumes (G a)) (hpass : ∀ c tail rest, rest <:+ tail → loses' c tail rest)
    (hlost : ∀ a tail rest c rest', loses a tail rest → G a rest = some (c, rest') →
      loses' c tail rest')
    (hfollows : ∀ a rest, F cs = some (a, rest) → Follows loses' (G a) rest) :
    Follows loses' (F.andThen G) cs := by
  cases hF with
  | stays a rest read before =>
      refine (hfollows _ _ read).of_eq ?_ fun tail => ?_
      · rw [Reader.andThen, read, Option.bind_some]
      · rw [Reader.andThen, before, Option.bind_some]
  | comments a read before lost =>
      have hcs : F.andThen G cs = G a [] := by rw [Reader.andThen, read, Option.bind_some]
      have hbehind {tail : List Char} {c : β} {rest : List Char}
          (h : F.andThen G (cs ++ ')' :: tail) = some (c, rest)) : rest <:+ tail := by
        obtain ⟨⟨a, r⟩, hread, h⟩ := Option.bind_eq_some_iff.mp h
        exact (hG a _ _ _ h).trans (lost tail a r hread)
      cases hread : G a [] with
      | none => exact .fails (hcs.trans hread) fun tail c rest h => hpass c tail rest (hbehind h)
      | some x =>
          obtain ⟨c, rest⟩ := x
          obtain rfl : rest = [] := List.suffix_nil.mp (hG a _ _ _ hread)
          refine .comments c (hcs.trans hread) (fun tail h => ?_) fun tail c rest => hbehind
          rw [Reader.andThen, before tail h, Option.bind_some, hread]
  | fails read lost =>
      refine .fails ?_ fun tail c rest h => ?_
      · rw [Reader.andThen, read, Option.bind_none]
      · obtain ⟨⟨a, r⟩, hread, h⟩ := Option.bind_eq_some_iff.mp h
        exact hlost a tail r c rest (lost tail a r hread) h

/-- A reader that takes the parenthesis, and then one that goes on behind it or before it. -/
theorem Follows.andThen {loses : β → List Char → List Char → Prop} (hF : Follows taken F cs)
    (hG : ∀ a, Consumes (G a)) (hpass : ∀ c tail rest, rest <:+ tail → loses c tail rest)
    (hfollows : ∀ a rest, F cs = some (a, rest) → Follows loses (G a) rest) :
    Follows loses (F.andThen G) cs :=
  hF.andThen_of hG hpass
    (fun a tail _ c rest htaken h => hpass c tail rest ((hG a _ _ _ h).trans htaken)) hfollows

theorem Steady.andThen (hF : Steady F) (hG : ∀ a, Steady (G a)) : Steady (F.andThen G) where
  consumes := hF.consumes.andThen fun a => (hG a).consumes
  follows cs := (hF.follows cs).andThen (fun a => (hG a).consumes) (fun _ _ _ h => h)
    fun a rest _ => (hG a).follows rest

def Aligned (F : Reader α) : Prop :=
  ∀ cs tail, F (cs ++ ')' :: tail) = (F cs).map fun x => (x.1, x.2 ++ ')' :: tail)

theorem Aligned.follows {loses : α → List Char → List Char → Prop} (h : Aligned F)
    (cs : List Char) : Follows loses F cs := by
  cases hread : F cs with
  | none =>
      refine .fails hread fun tail x rest hx => ?_
      rw [h, hread] at hx
      cases hx
  | some x => exact .stays x.1 x.2 hread fun tail => by rw [h, hread]; rfl

theorem Aligned.steady (h : Aligned F) (hF : Consumes F) : Steady F := ⟨hF, h.follows⟩

def give (a : Option α) : Reader α := fun cs => a.map (·, cs)

theorem aligned_give (a : Option α) : Aligned (give a) := by
  intro cs tail
  cases a <;> rfl

theorem steady_give (a : Option α) : Steady (give a) := by
  refine (aligned_give a).steady fun cs x rest h => ?_
  obtain ⟨a, rfl, h⟩ := Option.map_eq_some_iff.mp h
  cases h
  exact List.suffix_rfl

/-- Reads by what a text begins with; the end of a text is an error. -/
theorem steady_uncons {F : Reader α} {G : Char → Reader α} (hnil : F [] = none)
    (hcons : ∀ c cs, F (c :: cs) = G c cs) (hG : ∀ c, Steady (G c)) : Steady F where
  consumes cs a rest h := by
    cases cs with
    | nil => exact absurd h (by simp [hnil])
    | cons c cs => exact ((hG c).consumes _ _ _ (hcons c cs ▸ h)).trans (List.suffix_cons c cs)
  follows cs := by
    cases cs with
    | nil =>
        exact .fails hnil fun tail x rest h => (hG ')').consumes _ _ _ (hcons ')' tail ▸ h)
    | cons c cs => exact ((hG c).follows cs).of_eq (hcons c cs) fun tail => hcons c _

/-- A character that a text does not begin with, the longer text does not begin with. -/
theorem head?_append_paren {c : Char} (hc : c ≠ ')') (h : cs.head? ≠ some c) (tail : List Char) :
    (cs ++ ')' :: tail).head? ≠ some c := by
  cases cs with
  | nil => simpa using hc.symm
  | cons d cs => exact h

/-- Two equal signs before the parenthesis stand in the text alone. -/
theorem exists_eq_of_append_paren {c : Char} {tail rest : List Char} (hc : c ≠ ')')
    (h : cs ++ ')' :: tail = c :: c :: rest) : ∃ rest, cs = c :: c :: rest := by
  rcases cs with _ | ⟨d, _ | ⟨e, cs⟩⟩
  · exact absurd (List.cons.inj h).1.symm hc
  · exact absurd (List.cons.inj (List.cons.inj h).2).1.symm hc
  · simp only [List.cons_append, List.cons.injEq] at h
    obtain ⟨rfl, rfl, -⟩ := h
    exact ⟨cs, rfl⟩

/-- Reads in one way what is behind a certain character, and in another way a text that does not
begin with it. -/
def onHead (c : Char) (G K : Reader α) : Reader α := fun cs =>
  if cs.head? = some c then G cs.tail else K cs

section OnHead

variable {c : Char} {G K : Reader α}

theorem onHead_self (cs : List Char) : onHead c G K (c :: cs) = G cs := if_pos rfl

theorem onHead_of_ne (h : cs.head? ≠ some c) : onHead c G K cs = K cs := if_neg h

theorem onHead_of_forall (h : ∀ rest, cs = c :: rest → False) : onHead c G K cs = K cs :=
  onHead_of_ne fun hcs => by
    obtain ⟨rest, hcs⟩ := List.head?_eq_some_iff.mp hcs
    exact h rest hcs

theorem eq_onHead {F : Reader α} (hself : ∀ cs, F (c :: cs) = G cs)
    (hother : ∀ cs, cs.head? ≠ some c → F cs = K cs) : F = onHead c G K := by
  funext cs
  by_cases hcs : cs.head? = some c
  · obtain ⟨rest, rfl⟩ := List.head?_eq_some_iff.mp hcs
    rw [hself, onHead_self]
  · rw [hother cs hcs, onHead_of_ne hcs]

theorem steady_onHead (hc : c ≠ ')') (hG : Steady G) (hK : Steady K) :
    Steady (onHead c G K) where
  consumes cs a rest h := by
    by_cases hcs : cs.head? = some c
    · obtain ⟨cs, rfl⟩ := List.head?_eq_some_iff.mp hcs
      exact (hG.consumes _ _ _ (onHead_self cs ▸ h)).trans (List.suffix_cons c cs)
    · exact hK.consumes _ _ _ (onHead_of_ne hcs ▸ h)
  follows cs := by
    by_cases hcs : cs.head? = some c
    · obtain ⟨cs, rfl⟩ := List.head?_eq_some_iff.mp hcs
      exact (hG.follows cs).of_eq (onHead_self cs) fun tail => onHead_self _
    · exact (hK.follows cs).of_eq (onHead_of_ne hcs) fun tail =>
        onHead_of_ne (head?_append_paren hc hcs tail)

end OnHead

theorem Steady.map {γ : Type} (hF : Steady F) (g : α → γ) :
    Steady fun cs => (F cs).map fun x => (g x.1, x.2) where
  consumes cs a rest h := by
    obtain ⟨x, hread, h⟩ := Option.map_eq_some_iff.mp h
    cases h
    exact hF.consumes _ _ _ hread
  follows cs := (hF.follows cs).map g fun _ _ _ h => h

end Readers

/-! ## Gaps -/

theorem dropGap_suffix (inComment : Bool) (cs : List Char) : dropGap inComment cs <:+ cs := by
  induction cs generalizing inComment with
  | nil => exact List.suffix_rfl
  | cons c cs ih =>
      rw [dropGap]
      split
      · exact (ih _).trans (List.suffix_cons c cs)
      · split
        · exact (ih _).trans (List.suffix_cons c cs)
        · split
          · exact (ih _).trans (List.suffix_cons c cs)
          · exact List.suffix_rfl

/-- A gap ends before the parenthesis, or in a comment that goes on behind it. -/
theorem dropGap_append (inComment : Bool) (cs : List Char) :
    (∀ tail, dropGap inComment (cs ++ ')' :: tail) = dropGap inComment cs ++ ')' :: tail) ∨
      dropGap inComment cs = [] ∧
        ∀ tail, dropGap inComment (cs ++ ')' :: tail) = dropGap true tail := by
  induction cs generalizing inComment with
  | nil =>
      cases inComment with
      | false => exact .inl fun tail => rfl
      | true => exact .inr ⟨rfl, fun tail => rfl⟩
  | cons c cs ih =>
      simp only [List.cons_append, dropGap]
      split
      · exact ih _
      · split
        · exact ih _
        · split
          · exact ih _
          · exact .inl fun tail => rfl

theorem dropGap_of_line {tail : List Char} (h : '\n' ∉ tail) : dropGap true tail = [] := by
  induction tail with
  | nil => rfl
  | cons c tail ih =>
      have hc : (c != '\n') = true := by
        simp only [bne_iff_ne]
        rintro rfl
        exact h List.mem_cons_self
      rw [dropGap, if_pos rfl, hc]
      exact ih fun hmem => h (List.mem_cons_of_mem _ hmem)

theorem skip_suffix (f : Flags) (cs : List Char) : f.skip cs <:+ cs := by
  unfold Flags.skip
  split
  · exact dropGap_suffix false cs
  · exact List.suffix_rfl

/-- A gap stops before the parenthesis, or goes on in a comment to the end of the line. -/
theorem skip_append (f : Flags) (cs : List Char) :
    (∀ tail, f.skip (cs ++ ')' :: tail) = f.skip cs ++ ')' :: tail) ∨
      f.skip cs = [] ∧ (∀ tail, '\n' ∉ tail → f.skip (cs ++ ')' :: tail) = []) ∧
        ∀ tail, f.skip (cs ++ ')' :: tail) <:+ tail := by
  unfold Flags.skip
  split
  · rcases dropGap_append false cs with h | ⟨hnil, h⟩
    · exact .inl h
    · refine .inr ⟨hnil, fun tail hline => ?_, fun tail => ?_⟩
      · rw [h, dropGap_of_line hline]
      · rw [h]
        exact dropGap_suffix true tail
  · exact .inl fun _ => rfl

def gap (f : Flags) : Reader Unit := fun cs => some ((), f.skip cs)

theorem steady_gap (f : Flags) : Steady (gap f) where
  consumes cs a rest h := by
    cases h
    exact skip_suffix f cs
  follows cs := by
    rcases skip_append f cs with h | ⟨hnil, hline, hlost⟩
    · exact .stays () _ rfl fun tail => congrArg (fun rest => some ((), rest)) (h tail)
    · refine .comments () (congrArg (fun rest => some ((), rest)) hnil) (fun tail htail => ?_) ?_
      · exact congrArg (fun rest => some ((), rest)) (hline tail htail)
      · intro tail a rest h
        cases h
        exact hlost tail

/-- What reads a text character by character, dropping the gap behind each, and keeps a state. -/
theorem steady_of_steps {σ α : Type} {f : Flags} {F : σ → Reader α} (hF : ∀ s, Consumes (F s))
    (hnil : ∀ s, Follows taken (F s) [])
    (hcons : ∀ s c, (∀ cs, Follows taken (F s) (c :: cs)) ∨ ∃ (s' : σ) (g : α → α), ∀ cs,
      F s (c :: cs) = (((gap f).andThen fun _ => F s') cs).map fun x => (g x.1, x.2)) (s : σ) :
    Steady (F s) := by
  refine ⟨hF s, fun cs => ?_⟩
  induction hn : cs.length using Nat.strongRecOn generalizing s cs with
  | ind n ih =>
      cases cs with
      | nil => exact hnil s
      | cons c cs =>
          rcases hcons s c with hstop | ⟨s', g, hstep⟩
          · exact hstop cs
          · have hbehind : Follows taken ((gap f).andThen fun _ => F s') cs := by
              refine ((steady_gap f).follows cs).andThen (fun _ => hF s') (fun _ _ _ h => h) ?_
              rintro _ rest hrest
              have hlength := ((steady_gap f).consumes _ _ _ hrest).length_le
              exact ih _ (by rw [← hn, List.length_cons]; omega) s' rest rfl
            exact (hbehind.map g fun _ _ _ h => h).of_eq (hstep cs) fun tail => hstep _

/-! ## Words and numbers -/

section Words

variable {p : Char → Bool} {cs tail : List Char}

theorem takeWhile_append_paren (hp : p ')' = false) :
    (cs ++ ')' :: tail).takeWhile p = cs.takeWhile p := by
  rw [List.takeWhile_append]
  split
  · rename_i hlength
    rw [List.takeWhile_cons_of_neg (by simp [hp]), List.append_nil]
    exact ((List.takeWhile_prefix p).eq_of_length hlength).symm
  · rfl

theorem dropWhile_append_paren (hp : p ')' = false) :
    (cs ++ ')' :: tail).dropWhile p = cs.dropWhile p ++ ')' :: tail := by
  rw [List.dropWhile_append]
  split
  · rename_i hempty
    rw [List.dropWhile_cons_of_neg (by simp [hp]), List.isEmpty_iff.mp hempty, List.nil_append]
  · rfl

/-- A head that ends within a text ends there in every longer text. -/
theorem takeWhile_append_of_stop {c : Char} {rest : List Char} (h : cs.dropWhile p = c :: rest)
    (tail : List Char) :
    (cs ++ tail).takeWhile p = cs.takeWhile p ∧ (cs ++ tail).dropWhile p = c :: rest ++ tail := by
  have hlength : (cs.takeWhile p).length ≠ cs.length := by
    intro hlength
    have happend := congrArg List.length (List.takeWhile_append_dropWhile (p := p) (l := cs))
    simp [h, hlength] at happend
  simp [List.takeWhile_append, List.dropWhile_append, h, hlength]

/-- A head that does not end within a text goes on behind it. -/
theorem takeWhile_append_of_all (h : cs.dropWhile p = []) (tail : List Char) :
    (cs ++ tail).takeWhile p = cs ++ tail.takeWhile p ∧
      (cs ++ tail).dropWhile p = tail.dropWhile p := by
  have hall : cs.takeWhile p = cs := by
    have happend := List.takeWhile_append_dropWhile (p := p) (l := cs)
    rwa [h, List.append_nil] at happend
  simp [List.takeWhile_append, List.dropWhile_append, h, hall]

def takeTo (p : Char → Bool) : Reader (List Char) := fun cs =>
  match cs.dropWhile p with
  | _ :: rest => some (cs.takeWhile p, rest)
  | [] => none

def takeWord (p : Char → Bool) : Reader (List Char) := fun cs =>
  some (cs.takeWhile p, cs.dropWhile p)

theorem steady_takeWord (hp : p ')' = false) : Steady (takeWord p) := by
  refine Aligned.steady (fun cs tail => ?_) fun cs a rest h => ?_
  · rw [takeWord, takeWhile_append_paren hp, dropWhile_append_paren hp]
    rfl
  · cases h
    exact List.dropWhile_suffix p

theorem steady_takeTo (p : Char → Bool) : Steady (takeTo p) where
  consumes cs a rest h := by
    unfold takeTo at h
    split at h
    · rename_i c rest' hdrop
      cases h
      exact ((List.suffix_cons c rest).trans (hdrop ▸ List.suffix_rfl)).trans
        (List.dropWhile_suffix p)
    · cases h
  follows cs := by
    cases hdrop : cs.dropWhile p with
    | cons c rest =>
        refine .stays (cs.takeWhile p) rest (by simp [takeTo, hdrop]) fun tail => ?_
        obtain ⟨htake, hdrop'⟩ := takeWhile_append_of_stop hdrop (')' :: tail)
        rw [takeTo, htake, hdrop']
        rfl
    | nil =>
        refine .fails (by simp [takeTo, hdrop]) fun tail x rest h => ?_
        obtain ⟨-, hdrop'⟩ := takeWhile_append_of_all hdrop (')' :: tail)
        have hsuffix : (')' :: tail).dropWhile p <:+ ')' :: tail := List.dropWhile_suffix p
        unfold takeTo at h
        split at h
        · rename_i c rest' heq
          cases h
          rw [← hdrop', heq] at hsuffix
          obtain ⟨before, hbefore⟩ := hsuffix
          cases before with
          | nil =>
              cases hbefore
              exact List.suffix_rfl
          | cons d before =>
              rw [List.cons_append, List.cons.injEq] at hbefore
              exact ⟨before ++ [c], by simpa using hbefore.2⟩
        · cases h

end Words

/-! ## Characters with gaps behind them -/

section Runs

variable {f : Flags} {p : Char → Bool} {c : Char} {cs : List Char}

theorem takeRun_cons (h : p c = true) : takeRun f p (c :: cs) =
    (c :: (takeRun f p (f.skip cs)).1, (takeRun f p (f.skip cs)).2) := by
  rw [takeRun, if_pos h]

theorem takeRun_of_not (h : p c = false) : takeRun f p (c :: cs) = ([], c :: cs) := by
  rw [takeRun, if_neg (by simp [h])]

theorem takeRun_suffix (f : Flags) (p : Char → Bool) (cs : List Char) :
    (takeRun f p cs).2 <:+ cs := by
  fun_induction takeRun f p cs with
  | case1 => exact List.suffix_rfl
  | case2 c rest _ _ run rest' heq ih =>
      rw [heq] at ih
      exact (ih.trans (skip_suffix f rest)).trans (List.suffix_cons c rest)
  | case3 => exact List.suffix_rfl

def runOf (f : Flags) (p : Char → Bool) : Reader (List Char) := fun cs => some (takeRun f p cs)

theorem steady_runOf (f : Flags) (hp : p ')' = false) : Steady (runOf f p) := by
  refine steady_of_steps (F := fun (_ : Unit) => runOf f p) (f := f) (fun _ cs x rest h => ?_)
    (fun _ => ?_) (fun _ c => ?_) ()
  · have hrest : (takeRun f p cs).2 = rest := congrArg Prod.snd (Option.some.inj h)
    exact hrest ▸ takeRun_suffix f p cs
  · refine .stays [] [] (by rw [runOf, takeRun]) fun tail => ?_
    rw [List.nil_append, runOf, takeRun_of_not hp]
  · cases hc : p c with
    | true => exact .inr ⟨(), (c :: ·), fun cs => by rw [runOf, takeRun_cons hc]; rfl⟩
    | false =>
        refine .inl fun cs => .stays [] (c :: cs) (by rw [runOf, takeRun_of_not hc]) fun tail => ?_
        rw [List.cons_append, runOf, takeRun_of_not hc]

def toBrace (f : Flags) : Reader (List Char) := fun cs =>
  match takeRun f (· != '}') cs with
  | (inside, _ :: rest) => some (inside, rest)
  | (_, []) => none

theorem takeBraced_eq (f : Flags) : takeBraced f = (gap f).andThen fun _ => toBrace f := rfl

theorem consumes_toBrace (f : Flags) : Consumes (toBrace f) := by
  intro cs inside rest h
  have hsuffix := takeRun_suffix f (· != '}') cs
  unfold toBrace at h
  split at h
  · rename_i heq
    cases h
    rw [heq] at hsuffix
    exact (List.suffix_cons _ _).trans hsuffix
  · cases h

theorem toBrace_cons (hc : c ≠ '}') :
    toBrace f (c :: cs) =
      (((gap f).andThen fun _ => toBrace f) cs).map fun x => (c :: x.1, x.2) := by
  change toBrace f (c :: cs) = (toBrace f (f.skip cs)).map _
  rw [toBrace, toBrace, takeRun_cons (by simpa using hc)]
  generalize takeRun f (· != '}') (f.skip cs) = run
  obtain ⟨inside, _ | ⟨d, rest⟩⟩ := run <;> rfl

theorem steady_takeBraced (f : Flags) : Steady (takeBraced f) := by
  refine takeBraced_eq f ▸ (steady_gap f).andThen fun _ =>
    steady_of_steps (F := fun (_ : Unit) => toBrace f) (f := f) (fun _ => consumes_toBrace f)
      (fun _ => ?_) (fun _ c => ?_) ()
  · refine .fails (by simp [toBrace, takeRun]) fun tail inside rest h => ?_
    rw [List.nil_append, toBrace_cons (by decide)] at h
    obtain ⟨x, hread, h⟩ := Option.map_eq_some_iff.mp h
    cases h
    exact (steady_gap f).consumes.andThen (fun _ => consumes_toBrace f) _ _ _ hread
  · by_cases hc : c = '}'
    · subst hc
      exact .inl fun cs => .stays [] cs (by rw [toBrace, takeRun_of_not rfl]) fun tail => by
        rw [List.cons_append, toBrace, takeRun_of_not rfl]
    · exact .inr ⟨(), (c :: ·), fun cs => toBrace_cons hc⟩

end Runs

def closing {α : Type} (a : Option α) : Reader α := onHead '}' (give a) (give none)

theorem steady_closing {α : Type} (a : Option α) : Steady (closing a) :=
  steady_onHead (by decide) (steady_give _) (steady_give _)

end Telemetry.Pattern
