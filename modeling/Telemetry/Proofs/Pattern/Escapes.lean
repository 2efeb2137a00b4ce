import Telemetry.Proofs.Pattern.Readers

/-!
# Escapes before a closing parenthesis

The readers of escapes follow a text before a closing parenthesis (`follows_takeEscape`), with one
exception. An edge of words with an opening brace behind it, and nothing else, is an error; with the
parenthesis it is an edge, and the brace belongs to what comes next (`OpensEdge`).
-/

namespace Telemetry.Pattern

/-! ## Numbers and properties -/

theorem steady_takeHexDigits (f : Flags) (n : Nat) : Steady (takeHexDigits f n) := by
  have hstep {n : Nat} {c : Char} (hc : (Written.hexDigit? c).isSome = true) (cs : List Char) :
      takeHexDigits f (n + 1) (c :: cs) =
        (((gap f).andThen fun _ => takeHexDigits f n) cs).map fun x => (c :: x.1, x.2) := by
    rw [takeHexDigits, if_pos hc]
    rfl
  have hstop {n : Nat} {c : Char} (hc : ¬(Written.hexDigit? c).isSome = true) (cs : List Char) :
      takeHexDigits f (n + 1) (c :: cs) = none := by
    rw [takeHexDigits, if_neg hc]
  refine steady_of_steps (f := f) (fun n => ?_) (fun n => ?_) (fun n c => ?_) n
  · induction n with
    | zero => exact (steady_give (some [])).consumes
    | succ n ih =>
        intro cs digits rest h
        cases cs with
        | nil => cases h
        | cons c cs =>
            by_cases hc : (Written.hexDigit? c).isSome = true
            · rw [hstep hc] at h
              obtain ⟨x, hread, h⟩ := Option.map_eq_some_iff.mp h
              cases h
              exact ((steady_gap f).consumes.andThen (fun _ => ih) _ _ _ hread).trans
                (List.suffix_cons c cs)
            · rw [hstop hc] at h
              cases h
  · cases n with
    | zero => exact (aligned_give (some [])).follows []
    | succ n =>
        refine .fails rfl fun tail digits rest h => ?_
        rw [List.nil_append, hstop (by decide)] at h
        cases h
  · cases n with
    | zero => exact .inl fun cs => (aligned_give (some [])).follows (c :: cs)
    | succ n =>
        by_cases hc : (Written.hexDigit? c).isSome = true
        · exact .inr ⟨n, (c :: ·), hstep hc⟩
        · refine .inl fun cs => .fails (hstop hc cs) fun tail digits rest h => ?_
          rw [List.cons_append, hstop hc] at h
          cases h

def bracedOr {α : Type} (f : Flags) (make : List Char → Option α) (other : Reader α) : Reader α :=
  onHead '{' (Reader.andThen (takeBraced f) fun inside => give (make inside)) other

theorem steady_bracedOr {α : Type} (f : Flags) (make : List Char → Option α) {other : Reader α}
    (h : Steady other) : Steady (bracedOr f make other) :=
  steady_onHead (by decide) ((steady_takeBraced f).andThen fun _ => steady_give _) h

def hexDigits (f : Flags) (digits : Nat) : Reader Char :=
  Reader.andThen (takeHexDigits f digits) fun inside =>
    give ((hexNumber inside).filter fun c => 2 < digits || f.admits c)

theorem takeHex_eq (f : Flags) (digits : Nat) : takeHex f digits =
    (gap f).andThen fun _ => bracedOr f hexNumber (hexDigits f digits) := by
  funext cs
  simp only [takeHex, Reader.andThen, gap, Option.bind_some, bracedOr]
  split
  · rename_i heq
    rw [heq, onHead_self]
    rfl
  · rename_i hother
    rw [onHead_of_forall hother]
    rfl

theorem steady_takeHex (f : Flags) (digits : Nat) : Steady (takeHex f digits) :=
  takeHex_eq f digits ▸ (steady_gap f).andThen fun _ => steady_bracedOr f hexNumber
    ((steady_takeHexDigits f digits).andThen fun _ => steady_give _)

section Properties

variable [Library]

def propertyLetter (f : Flags) (negated : Bool) : Reader CharSet
  | [] => none
  | c :: rest =>
    give (if c = '\\' then none else f.propertySet? negated ⟨false, [c], none⟩) rest

theorem takeProperty_eq (f : Flags) (negated : Bool) : takeProperty f negated =
    (gap f).andThen fun _ => bracedOr f (fun inside => f.propertySet? negated (.ofText inside))
      (propertyLetter f negated) := by
  funext cs
  simp only [takeProperty, Reader.andThen, gap, Option.bind_some]
  split
  · rename_i hskip
    rw [hskip, bracedOr, onHead_self]
    rfl
  · rename_i c rest hother hskip
    rw [hskip, bracedOr, onHead_of_ne (by simpa using hother), propertyLetter]
    split <;> rfl
  · rename_i hskip
    rw [hskip]
    rfl

theorem steady_takeProperty (f : Flags) (negated : Bool) : Steady (takeProperty f negated) :=
  takeProperty_eq f negated ▸ (steady_gap f).andThen fun _ => steady_bracedOr f _
    (steady_uncons rfl (fun _ _ => rfl) fun _ => steady_give _)

end Properties

/-! ## Edges of words -/

def edgeName (f : Flags) : Reader Escape :=
  (runOf f isEdgeChar).andThen fun name =>
    closing ((namedEdge? f.wordSet (String.ofList name)).map .anchor)

theorem steady_edgeName (f : Flags) : Steady (edgeName f) :=
  (steady_runOf f (by decide)).andThen fun _ => steady_closing _

theorem takeEdge_brace (f : Flags) (inside : List Char) : takeEdge f ('{' :: inside) =
    match f.skip inside with
    | [] => none
    | c :: rest =>
      if isEdgeChar c then edgeName f (c :: rest)
      else some (.anchor (.wordEdge f.wordSet), '{' :: inside) := by
  rw [takeEdge]
  cases f.skip inside with
  | nil => rfl
  | cons c rest =>
      dsimp only
      split
      · simp only [edgeName, Reader.andThen, runOf, Option.bind_some]
        split
        · rename_i heq
          rw [heq, closing, onHead_self, give, Option.map_map]
          rfl
        · rename_i hopen
          rw [closing, onHead_of_forall fun rest heq => hopen _ rest (Prod.ext rfl heq)]
          rfl
      · rfl

theorem takeEdge_other (f : Flags) {cs : List Char} (h : cs.head? ≠ some '{') :
    takeEdge f cs = some (.anchor (.wordEdge f.wordSet), cs) := by
  unfold takeEdge
  split
  · exact absurd rfl h
  · rfl

theorem consumes_takeEdge (f : Flags) : Consumes (takeEdge f) := by
  intro cs e rest h
  by_cases hcs : cs.head? = some '{'
  · obtain ⟨inside, rfl⟩ := List.head?_eq_some_iff.mp hcs
    rw [takeEdge_brace] at h
    split at h
    · cases h
    · rename_i c rest' hskip
      split at h
      · exact (((steady_edgeName f).consumes _ _ _ h).trans (hskip ▸ skip_suffix f inside)).trans
          (List.suffix_cons _ _)
      · cases h
        exact List.suffix_rfl
  · rw [takeEdge_other f hcs] at h
    cases h
    exact List.suffix_rfl

/-- An edge of words follows a text, unless a brace that nothing follows stands behind it. -/
theorem follows_takeEdge (f : Flags) {cs : List Char}
    (h : ∀ inside, cs = '{' :: inside → f.skip inside ≠ []) : Follows taken (takeEdge f) cs := by
  by_cases hcs : cs.head? = some '{'
  · obtain ⟨inside, rfl⟩ := List.head?_eq_some_iff.mp hcs
    have hbrace := takeEdge_brace f
    rcases skip_append f inside with hskip' | ⟨hnil, -⟩
    · cases hskip : f.skip inside with
      | nil => exact absurd hskip (h inside rfl)
      | cons c rest =>
          rw [hskip] at hskip'
          by_cases hc : isEdgeChar c
          · refine ((steady_edgeName f).follows (c :: rest)).of_eq ?_ fun tail => ?_
            · simp [hbrace, hskip, hc]
            · simp [hbrace, hskip', hc]
          · refine .stays (.anchor (.wordEdge f.wordSet)) ('{' :: inside) ?_ fun tail => ?_
            · simp [hbrace, hskip, hc]
            · simp [hbrace, hskip', hc]
    · exact absurd hnil (h inside rfl)
  · exact .stays _ _ (takeEdge_other f hcs) fun tail =>
      takeEdge_other f (head?_append_paren (by decide) hcs tail)

theorem isAnchor_takeEdge (f : Flags) {cs rest : List Char} {e : Escape}
    (h : takeEdge f cs = some (e, rest)) : ∃ a, e = .anchor a := by
  by_cases hcs : cs.head? = some '{'
  · obtain ⟨inside, rfl⟩ := List.head?_eq_some_iff.mp hcs
    rw [takeEdge_brace] at h
    split at h
    · cases h
    · split at h
      · rw [edgeName, Reader.andThen] at h
        obtain ⟨⟨name, rest'⟩, -, h⟩ := Option.bind_eq_some_iff.mp h
        dsimp only at h
        unfold closing onHead at h
        split at h
        · obtain ⟨a, ha, h⟩ := Option.map_eq_some_iff.mp h
          cases h
          obtain ⟨a, -, rfl⟩ := Option.map_eq_some_iff.mp ha
          exact ⟨a, rfl⟩
        · cases h
      · cases h
        exact ⟨_, rfl⟩
  · rw [takeEdge_other f hcs] at h
    cases h
    exact ⟨_, rfl⟩

variable [Library]

/-- Behind a backslash and a letter that is no `b`. -/
theorem steady_takeEscape_cons (f : Flags) {c : Char} (hc : c ≠ 'b') :
    Steady fun cs => takeEscape f (c :: cs) := by
  have hhex (digits : Nat) : Steady fun cs => (takeHex f digits cs).map fun x =>
      (Escape.char x.1, x.2) := (steady_takeHex f digits).map _
  have hproperty (negated : Bool) : Steady fun cs => (takeProperty f negated cs).map fun x =>
      (Escape.set x.1, x.2) := (steady_takeProperty f negated).map _
  by_cases hx : c = 'x'
  · exact hx ▸ hhex 2
  by_cases hu : c = 'u'
  · exact hu ▸ hhex 4
  by_cases hU : c = 'U'
  · exact hU ▸ hhex 8
  by_cases hp : c = 'p'
  · exact hp ▸ hproperty false
  by_cases hP : c = 'P'
  · exact hP ▸ hproperty true
  -- any other letter stands for itself
  have hgive : (fun cs => takeEscape f (c :: cs)) = give ((takeEscape f [c]).map Prod.fst) := by
    funext cs
    simp only [takeEscape, give]
    split
    case h_12 =>
      cases f.letterSet? c with
      | some s => rfl
      | none =>
          cases controlChar? c with
          | some c' => rfl
          | none =>
              dsimp only
              split <;> rfl
    all_goals first | contradiction | rfl
  exact hgive ▸ steady_give _

/-! ## What follows a backslash -/

/-- An edge of words, and behind it an opening brace that nothing but a gap follows. -/
def OpensEdge (f : Flags) (cs : List Char) : Prop :=
  ∃ inside, cs = 'b' :: '{' :: inside ∧ f.skip inside = []

theorem consumes_takeEscape (f : Flags) : Consumes (takeEscape f) := by
  intro cs e rest h
  cases cs with
  | nil => cases h
  | cons c cs =>
      refine .trans ?_ (List.suffix_cons c cs)
      by_cases hc : c = 'b'
      · subst hc
        exact consumes_takeEdge f cs e rest h
      · exact (steady_takeEscape_cons f hc).consumes cs e rest h

theorem follows_takeEscape (f : Flags) {cs : List Char} (h : ¬OpensEdge f cs) :
    Follows taken (takeEscape f) cs := by
  cases cs with
  | nil =>
      refine .fails rfl fun tail e rest hread => ?_
      exact (steady_takeEscape_cons f (by decide)).consumes tail e rest hread
  | cons c cs =>
      by_cases hc : c = 'b'
      · subst hc
        have hedge : ∀ inside, cs = '{' :: inside → f.skip inside ≠ [] := by
          rintro inside rfl hskip
          exact h ⟨inside, rfl, hskip⟩
        exact (follows_takeEdge f hedge).of_eq rfl fun tail => rfl
      · exact ((steady_takeEscape_cons f hc).follows cs).of_eq rfl fun tail => rfl

theorem takeEscape_of_opensEdge {f : Flags} {cs : List Char} (h : OpensEdge f cs) :
    takeEscape f cs = none := by
  obtain ⟨inside, rfl, hskip⟩ := h
  change takeEdge f ('{' :: inside) = none
  rw [takeEdge_brace, hskip]

/-- With the parenthesis behind it, the brace is left to what comes next. -/
theorem rest_of_opensEdge {f : Flags} {inside tail rest : List Char} {e : Escape}
    (hskip : f.skip inside = [])
    (h : takeEscape f ('b' :: '{' :: inside ++ ')' :: tail) = some (e, rest)) :
    (∃ a, e = .anchor a) ∧ (rest = '{' :: inside ++ ')' :: tail ∨ rest <:+ tail) := by
  change takeEdge f ('{' :: (inside ++ ')' :: tail)) = some (e, rest) at h
  refine ⟨isAnchor_takeEdge f h, ?_⟩
  rw [takeEdge_brace] at h
  have hgap : f.skip (inside ++ ')' :: tail) = ')' :: tail ∨
      f.skip (inside ++ ')' :: tail) <:+ tail := by
    rcases skip_append f inside with hstays | ⟨-, -, hlost⟩
    · exact .inl (by rw [hstays, hskip, List.nil_append])
    · exact .inr (hlost tail)
  split at h
  · cases h
  · rename_i c rest' hc
    split at h
    · rename_i hletter
      right
      rcases hgap with hgap | hgap
      · rw [hgap, List.cons.injEq] at hc
        rw [← hc.1] at hletter
        exact absurd hletter (by decide)
      · exact ((steady_edgeName f).consumes _ _ _ h).trans (hc ▸ hgap)
    · cases h
      exact .inl rfl

end Telemetry.Pattern
