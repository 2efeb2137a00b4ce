import Telemetry.Proofs.Pattern.Escapes

/-!
# Classes before a closing parenthesis

In brackets a closing parenthesis is a member like any other. So a class that the text leaves open
may take it; but then the class goes on behind it, for it is not closed by it. Whole classes are
read in pieces, each from behind a gap (`takePiece`, `takeBracket_eq`), and while a piece may leave
the parenthesis to the next one, the class takes it (`follows_takeBracket`).
-/

namespace Telemetry.Pattern

/-! ## Named classes -/

theorem namedSet?_eq_none {name : List Char} (h : ')' ∈ name) :
    namedSet? (String.ofList name) = none := by
  have hne {known : String} (hknown : ')' ∉ known.toList) : String.ofList name ≠ known := by
    rintro rfl
    exact hknown (by simpa using h)
  unfold namedSet?
  split
  case h_15 => rfl
  all_goals rename_i heq; exact absurd heq (hne (by decide))

/-- The name of a class, from behind its first colon. -/
def className (negated : Bool) : Reader (Bool × CharSet) := fun cs =>
  match cs.dropWhile (· != ':') with
  | ':' :: ']' :: tail =>
    (namedSet? (String.ofList (cs.takeWhile (· != ':')))).map fun s => ((negated, s), tail)
  | _ => none

theorem aligned_className (negated : Bool) : Aligned (className negated) := by
  intro cs tail
  cases hdrop : cs.dropWhile (· != ':') with
  | nil =>
      -- the name would hold the parenthesis
      obtain ⟨htake, -⟩ := takeWhile_append_of_all hdrop (')' :: tail)
      have hname : ')' ∈ (cs ++ ')' :: tail).takeWhile (· != ':') := by simp [htake]
      have hnone : className negated cs = none := by simp [className, hdrop]
      rw [hnone, className, namedSet?_eq_none hname]
      split <;> rfl
  | cons c rest =>
      obtain ⟨htake, hdrop'⟩ := takeWhile_append_of_stop hdrop (')' :: tail)
      unfold className
      rw [hdrop, htake, hdrop']
      match rest with
      | [] => simp
      | d :: rest =>
          by_cases hend : c = ':' ∧ d = ']'
          · obtain ⟨rfl, rfl⟩ := hend
            simp only [List.cons_append]
            cases namedSet? (String.ofList (cs.takeWhile (· != ':'))) <;> rfl
          · simp only [List.cons_append]
            split <;> split <;> simp_all

theorem consumes_className (negated : Bool) : Consumes (className negated) := by
  intro cs s rest h
  unfold className at h
  split at h
  · rename_i heq
    obtain ⟨x, -, h⟩ := Option.map_eq_some_iff.mp h
    cases h
    have hsuffix : ':' :: ']' :: rest <:+ cs := heq ▸ List.dropWhile_suffix _
    exact ((List.suffix_cons _ _).trans (List.suffix_cons _ _)).trans hsuffix
  · cases h

def signedClassName : Reader (Bool × CharSet)
  | '^' :: cs => className true cs
  | cs => className false cs

theorem takeNamed_colon (cs : List Char) : takeNamed (':' :: cs) = signedClassName cs := by
  unfold signedClassName
  split
  · rfl
  · rename_i hother
    unfold takeNamed
    split
    · rename_i heq
      cases heq
      split
      rename_i heq
      split at heq
      · simp_all
      · cases heq
        rfl
    · simp_all

theorem takeNamed_other {cs : List Char} (h : cs.head? ≠ some ':') : takeNamed cs = none := by
  unfold takeNamed
  split
  · exact absurd rfl h
  · rfl

theorem aligned_takeNamed : Aligned takeNamed := by
  intro cs tail
  by_cases hcs : cs.head? = some ':'
  · obtain ⟨cs, rfl⟩ := List.head?_eq_some_iff.mp hcs
    rw [List.cons_append, takeNamed_colon, takeNamed_colon]
    cases cs with
    | nil => exact aligned_className false [] tail
    | cons c cs =>
        by_cases hc : c = '^'
        · subst hc
          exact aligned_className true cs tail
        · have hother (more : List Char) : signedClassName (c :: more) =
              className false (c :: more) := by
            unfold signedClassName
            split
            · simp_all
            · rfl
          rw [List.cons_append, hother, hother]
          exact aligned_className false (c :: cs) tail
  · rw [takeNamed_other hcs, takeNamed_other (head?_append_paren (by decide) hcs tail)]
    rfl

theorem consumes_takeNamed : Consumes takeNamed := by
  intro cs s rest h
  by_cases hcs : cs.head? = some ':'
  · obtain ⟨cs, rfl⟩ := List.head?_eq_some_iff.mp hcs
    rw [takeNamed_colon] at h
    refine .trans ?_ (List.suffix_cons _ _)
    unfold signedClassName at h
    split at h
    · exact (consumes_className true _ _ _ h).trans (List.suffix_cons _ _)
    · exact consumes_className false _ _ _ h
  · rw [takeNamed_other hcs] at h
    cases h

/-! ## What opens a class -/

abbrev spared {α : Type} : α → List Char → List Char → Prop :=
  fun _ tail rest => rest <:+ ')' :: tail

def negation (f : Flags) : Reader Bool :=
  onHead '^' ((gap f).andThen fun _ => give (some true)) (give (some false))

theorem steady_negation (f : Flags) : Steady (negation f) :=
  steady_onHead (by decide) ((steady_gap f).andThen fun _ => steady_give _) (steady_give _)

def minuses (f : Flags) (b : Bracket) : Reader Bracket := fun cs => some (leadingMinus f b cs)

theorem minuses_minus (f : Flags) (b : Bracket) (cs : List Char) : minuses f b ('-' :: cs) =
    (gap f).andThen (fun _ => minuses f (b.add (.leaf (.single '-')))) cs := by
  rw [minuses, leadingMinus, if_pos rfl]
  rfl

theorem minuses_other (f : Flags) (b : Bracket) {c : Char} (hc : c ≠ '-') (cs : List Char) :
    minuses f b (c :: cs) = some (b, c :: cs) := by
  rw [minuses, leadingMinus, if_neg hc]

theorem leadingMinus_suffix (f : Flags) (b : Bracket) (cs : List Char) :
    (leadingMinus f b cs).2 <:+ cs := by
  fun_induction leadingMinus f b cs with
  | case1 => exact List.suffix_rfl
  | case2 b rest _ ih => exact (ih.trans (skip_suffix f rest)).trans (List.suffix_cons _ rest)
  | case3 => exact List.suffix_rfl

theorem consumes_minuses (f : Flags) (b : Bracket) : Consumes (minuses f b) := by
  intro cs x rest h
  have hrest : (leadingMinus f b cs).2 = rest := congrArg Prod.snd (Option.some.inj h)
  exact hrest ▸ leadingMinus_suffix f b cs

theorem steady_minuses (f : Flags) (b : Bracket) : Steady (minuses f b) := by
  refine steady_of_steps (f := f) (consumes_minuses f) (fun b => ?_) (fun b c => ?_) b
  · exact .stays b [] (by rw [minuses, leadingMinus]) fun tail => minuses_other f b (by decide) tail
  · by_cases hc : c = '-'
    · subst hc
      refine .inr ⟨b.add (.leaf (.single '-')), id, fun cs => ?_⟩
      rw [minuses_minus]
      exact Option.map_id'.symm
    · exact .inl fun cs => .stays b (c :: cs) (minuses_other f b hc cs) fun tail =>
        minuses_other f b hc _

/-- A closing bracket at the very head of a class is a member. -/
def firstMember (f : Flags) (b : Bracket) : Reader Bracket := fun cs =>
  match b.items, cs with
  | _, [] => none
  | [], ']' :: rest =>
    if (f.skip rest).isEmpty then none else some (b.add (.leaf (.single ']')), f.skip rest)
  | _, cs => some (b, cs)

theorem openBracket_eq (f : Flags) : openBracket f =
    (gap f).andThen fun _ => (negation f).andThen fun negated =>
      (minuses f ⟨negated, none, []⟩).andThen (firstMember f) := by
  funext cs
  have hnegation (ds : List Char) : negation f ds = some (match ds with
      | '^' :: rest => (true, f.skip rest)
      | ds => (false, ds)) := by
    split
    · exact onHead_self _
    · rename_i hother
      exact onHead_of_forall hother
  simp only [Reader.andThen, gap, minuses, hnegation, Option.bind_some]
  rfl

theorem consumes_firstMember (f : Flags) (b : Bracket) : Consumes (firstMember f b) := by
  intro cs x rest h
  unfold firstMember at h
  split at h
  · cases h
  · split at h
    · cases h
    · cases h
      exact (skip_suffix f _).trans (List.suffix_cons _ _)
  · cases h
    exact List.suffix_rfl

theorem follows_firstMember (f : Flags) (b : Bracket) (cs : List Char) :
    Follows spared (firstMember f b) cs := by
  cases cs with
  | nil =>
      refine .fails ?_ fun tail x rest h => consumes_firstMember f b _ _ _ h
      unfold firstMember
      split <;> simp_all
  | cons c cs =>
      by_cases hclose : b.items = [] ∧ c = ']'
      · obtain ⟨hitems, rfl⟩ := hclose
        have hfirst (cs : List Char) : firstMember f b (']' :: cs) =
            if (f.skip cs).isEmpty then none
            else some (b.add (.leaf (.single ']')), f.skip cs) := by
          simp only [firstMember, hitems]
        have hrest {cs : List Char} {x : Bracket} {rest : List Char}
            (h : firstMember f b (']' :: cs) = some (x, rest)) : rest = f.skip cs := by
          rw [hfirst] at h
          split at h
          · cases h
          · cases h
            rfl
        by_cases hnil : f.skip cs = []
        · refine .fails (by simp [hfirst, hnil]) fun tail x rest h => ?_
          have hx : rest = f.skip (cs ++ ')' :: tail) := hrest h
          rcases skip_append f cs with hskip | ⟨-, -, hlost⟩
          · rw [hx, hskip, hnil]
            exact List.suffix_rfl
          · exact hx ▸ (hlost tail).trans (List.suffix_cons _ _)
        · rcases skip_append f cs with hskip | ⟨hcomment, -⟩
          · refine .stays (b.add (.leaf (.single ']'))) (f.skip cs) (by simp [hfirst, hnil])
              fun tail => ?_
            simp [hfirst, hskip]
          · exact absurd hcomment hnil
      · have hmember (cs : List Char) : firstMember f b (c :: cs) = some (b, c :: cs) := by
          unfold firstMember
          split <;> simp_all
        exact .stays b (c :: cs) (hmember cs) fun tail => hmember _

theorem consumes_openBracket (f : Flags) : Consumes (openBracket f) :=
  openBracket_eq f ▸ (steady_gap f).consumes.andThen fun _ =>
    (steady_negation f).consumes.andThen fun negated =>
      (consumes_minuses f ⟨negated, none, []⟩).andThen (consumes_firstMember f)

theorem follows_openBracket (f : Flags) (cs : List Char) : Follows spared (openBracket f) cs := by
  have hpass (b : Bracket) (tail rest : List Char) (h : rest <:+ tail) : rest <:+ ')' :: tail :=
    h.trans (List.suffix_cons _ _)
  rw [openBracket_eq]
  refine ((steady_gap f).follows cs).andThen (fun _ => ?_) hpass fun _ cs _ => ?_
  · exact (steady_negation f).consumes.andThen fun negated =>
      (consumes_minuses f ⟨negated, none, []⟩).andThen (consumes_firstMember f)
  refine ((steady_negation f).follows cs).andThen (fun negated => ?_) hpass fun negated cs _ => ?_
  · exact (consumes_minuses f ⟨negated, none, []⟩).andThen (consumes_firstMember f)
  exact ((steady_minuses f _).follows cs).andThen (consumes_firstMember f) hpass fun b cs _ =>
    follows_firstMember f b cs

/-! ## Members and ranges -/

theorem rangeSet?_anchor (f : Flags) (low : Escape) (a : Anchor) :
    rangeSet? f low (.anchor a) = none := by
  cases low <;> rfl

theorem peek?_append_paren (f : Flags) (cs tail : List Char) :
    f.peek? (cs ++ ')' :: tail) = f.peek? cs ∨
      f.peek? (cs ++ ')' :: tail) = some ')' ∧ f.peek? cs = none := by
  have hhead (cs : List Char) : (cs ++ ')' :: tail).head? = cs.head? ∨
      (cs ++ ')' :: tail).head? = some ')' ∧ cs.head? = none := by
    cases cs <;> simp
  have hblank : Text.isBlank ')' = false := by decide
  unfold Flags.peek?
  split
  · rw [dropWhile_append_paren hblank]
    cases hdrop : cs.dropWhile Text.isBlank with
    | nil => exact .inr ⟨rfl, rfl⟩
    | cons c rest =>
        rw [List.cons_append]
        by_cases hc : c = '#'
        · subst hc
          simpa only [dropWhile_append_paren hblank] using hhead (rest.dropWhile Text.isBlank)
        · exact .inl (by simp [hc])
  · exact hhead cs

theorem standsAlone_minus (f : Flags) (cs : List Char) :
    standsAlone f ('-' :: cs) = (f.peek? cs == some ']' || f.peek? cs == some '-') := rfl

/-- A parenthesis is as good as the end of a text. -/
theorem standsAlone_append_paren (f : Flags) (c : Char) (cs tail : List Char) :
    standsAlone f (c :: (cs ++ ')' :: tail)) = standsAlone f (c :: cs) := by
  by_cases hc : c = '-'
  · subst hc
    rcases peek?_append_paren f cs tail with h | ⟨h, hnone⟩
    · rw [standsAlone_minus, standsAlone_minus, h]
    · rw [standsAlone_minus, standsAlone_minus, h, hnone]
      rfl
  · have halone (cs : List Char) : standsAlone f (c :: cs) = true := by
      unfold standsAlone
      split <;> simp_all
    rw [halone, halone]

variable [Library]

theorem consumes_takeMember (f : Flags) : Consumes (takeMember f) := by
  intro cs e rest h
  unfold takeMember at h
  split at h
  · cases h
  · exact (consumes_takeEscape f _ _ _ h).trans (List.suffix_cons _ _)
  · cases h
    exact List.suffix_cons _ _

theorem follows_takeMember (f : Flags) {cs : List Char}
    (h : ∀ rest, cs = '\\' :: rest → ¬OpensEdge f rest) : Follows taken (takeMember f) cs := by
  cases cs with
  | nil =>
      refine .fails rfl fun tail e rest hread => ?_
      cases hread
      exact List.suffix_rfl
  | cons c cs =>
      by_cases hc : c = '\\'
      · subst hc
        exact (follows_takeEscape f (h cs rfl)).of_eq rfl fun tail => rfl
      · have hchar (cs : List Char) : takeMember f (c :: cs) = some (.char c, cs) := by
          unfold takeMember
          split <;> simp_all
        exact .stays (.char c) cs (hchar cs) fun tail => hchar _

/-- A member, and behind it what has no use for an edge of words. -/
theorem follows_takeMember_andThen {β : Type} {loses : β → List Char → List Char → Prop}
    {f : Flags} {G : Escape → Reader β} (hG : ∀ e, Consumes (G e))
    (hanchor : ∀ a cs, G (.anchor a) cs = none)
    (hpass : ∀ c tail rest, rest <:+ tail → loses c tail rest)
    (hfollows : ∀ e rest, Follows loses (G e) rest) (cs : List Char) :
    Follows loses (Reader.andThen (takeMember f) G) cs := by
  by_cases hedge : ∃ rest, cs = '\\' :: rest ∧ OpensEdge f rest
  · obtain ⟨rest, rfl, hedge⟩ := hedge
    refine .fails ?_ fun tail c more h => ?_
    · have hnone : takeMember f ('\\' :: rest) = none := takeEscape_of_opensEdge hedge
      rw [Reader.andThen, hnone, Option.bind_none]
    · obtain ⟨⟨e, more'⟩, hread, h⟩ := Option.bind_eq_some_iff.mp h
      obtain ⟨inside, rfl, hskip⟩ := hedge
      obtain ⟨⟨a, rfl⟩, -⟩ := rest_of_opensEdge hskip hread
      rw [hanchor] at h
      cases h
  · exact Follows.andThen (follows_takeMember f fun rest hcs hopens => hedge ⟨rest, hcs, hopens⟩)
      hG hpass fun e rest _ => hfollows e rest

def rangeEnd (f : Flags) (low : Escape) : Reader CharSet :=
  (gap f).andThen fun _ => Reader.andThen (takeMember f) fun high => give (rangeSet? f low high)

/-- What follows the first member of a range, or a member that is none. -/
def afterMember (f : Flags) (low : Escape) : Reader CharSet := fun cs =>
  if cs.isEmpty then none
  else if standsAlone f cs then give (loneSet? f low) cs
  else rangeEnd f low (cs.drop 1)

theorem takeRange_eq (f : Flags) : takeRange f =
    Reader.andThen (takeMember f) fun low => (gap f).andThen fun _ => afterMember f low := rfl

theorem consumes_rangeEnd (f : Flags) (low : Escape) : Consumes (rangeEnd f low) :=
  (steady_gap f).consumes.andThen fun _ =>
    (consumes_takeMember f).andThen fun _ => (steady_give _).consumes

theorem consumes_afterMember (f : Flags) (low : Escape) : Consumes (afterMember f low) := by
  intro cs s rest h
  unfold afterMember at h
  split at h
  · cases h
  · split at h
    · exact (steady_give _).consumes _ _ _ h
    · exact (consumes_rangeEnd f low _ _ _ h).trans (List.drop_suffix 1 cs)

theorem consumes_takeRange (f : Flags) : Consumes (takeRange f) :=
  takeRange_eq f ▸ (consumes_takeMember f).andThen fun low =>
    (steady_gap f).consumes.andThen fun _ => consumes_afterMember f low

theorem steady_rangeEnd (f : Flags) (low : Escape) : Steady (rangeEnd f low) := by
  refine (steady_gap f).andThen fun _ => ⟨?_, ?_⟩
  · exact (consumes_takeMember f).andThen fun _ => (steady_give _).consumes
  · refine follows_takeMember_andThen (fun _ => (steady_give _).consumes) (fun a cs => ?_)
      (fun _ _ _ h => h) fun high rest => (steady_give _).follows rest
    rw [rangeSet?_anchor]
    rfl

/-- An edge of words is no member. -/
theorem afterMember_anchor (f : Flags) (a : Anchor) (cs : List Char) :
    afterMember f (.anchor a) cs = none := by
  unfold afterMember
  split
  · rfl
  · split
    · rfl
    · simp only [rangeEnd, Reader.andThen, gap, Option.bind_some]
      cases takeMember f (f.skip (cs.drop 1)) <;> rfl

theorem follows_afterMember (f : Flags) (low : Escape) (cs : List Char) :
    Follows spared (afterMember f low) cs := by
  cases cs with
  | nil =>
      exact .fails rfl fun tail s rest h => consumes_afterMember f low _ _ _ h
  | cons c cs =>
      have halone := standsAlone_append_paren f c cs
      cases hlow : standsAlone f (c :: cs) with
      | true =>
          refine ((aligned_give (loneSet? f low)).follows (c :: cs)).of_eq ?_ fun tail => ?_
          · simp [afterMember, hlow]
          · simp [afterMember, halone, hlow]
      | false =>
          refine (((steady_rangeEnd f low).follows cs).of_eq ?_ fun tail => ?_).mono
            fun s tail rest h => h.trans (List.suffix_cons _ _)
          · simp [afterMember, hlow]
          · simp [afterMember, halone, hlow]

theorem follows_takeRange (f : Flags) (cs : List Char) : Follows spared (takeRange f) cs := by
  have hconsumes (low : Escape) := (steady_gap f).consumes.andThen fun _ =>
    consumes_afterMember f low
  have hpass (s : CharSet) (tail rest : List Char) (h : rest <:+ tail) : rest <:+ ')' :: tail :=
    h.trans (List.suffix_cons _ _)
  rw [takeRange_eq]
  refine follows_takeMember_andThen hconsumes (fun a cs => afterMember_anchor f a _) hpass
    (fun low rest => ?_) cs
  exact ((steady_gap f).follows rest).andThen (fun _ => consumes_afterMember f low) hpass
    fun _ rest _ => follows_afterMember f low rest

/-! ## Whole classes -/

/-- What a piece of a class does to the classes that are open. -/
inductive Piece
  | closed (s : Nested CharSet)
  | goesOn (b : Bracket) (outer : List Bracket)

def Piece.ofClosed (outer : List Bracket) (s : Nested CharSet) : Piece :=
  match outer with
  | [] => .closed s
  | around :: outer => .goesOn (around.add s) outer

def namedPiece? (f : Flags) (b : Bracket) (outer : List Bracket) (named : Bool × CharSet) :
    Option Piece :=
  (f.signed? named.1 named.2).map fun s => .goesOn (b.add (.leaf s)) outer

def takePiece (f : Flags) (b : Bracket) (outer : List Bracket) : Reader Piece := fun cs =>
  match cs with
  | [] => none
  | '[' :: rest =>
    match takeNamed rest with
    | some (named, rest) => give (namedPiece? f b outer named) rest
    | none => (openBracket f rest).map fun (inner, rest) => (.goesOn inner (b :: outer), rest)
  | ']' :: rest => give ((b.closed? f).map (.ofClosed outer)) rest
  | '&' :: '&' :: rest => some (.goesOn (b.operate f .inter) outer, rest)
  | '-' :: '-' :: rest => some (.goesOn (b.operate f .diff) outer, rest)
  | '~' :: '~' :: rest => some (.goesOn (b.operate f .symmDiff) outer, rest)
  | cs => (takeRange f cs).map fun (s, rest) => (.goesOn (b.add (.leaf s)) outer, rest)

theorem takePiece_bracket (f : Flags) (b : Bracket) (outer : List Bracket) (rest : List Char) :
    takePiece f b outer ('[' :: rest) = match takeNamed rest with
      | some (named, rest) => give (namedPiece? f b outer named) rest
      | none => (openBracket f rest).map fun (inner, rest) => (.goesOn inner (b :: outer), rest) :=
  rfl

theorem takeBracket_eq (f : Flags) (b : Bracket) (outer : List Bracket) (cs : List Char) :
    takeBracket f b outer cs = (takePiece f b outer (f.skip cs)).bind fun (piece, rest) =>
      match piece with
      | .closed s => some (s, rest)
      | .goesOn b outer =>
        if rest.length < cs.length then takeBracket f b outer rest else none := by
  rw [takeBracket]
  split
  · rename_i hskip
    rw [hskip]
    rfl
  · rename_i rest hskip
    rw [hskip, takePiece_bracket]
    cases takeNamed rest with
    | some x =>
        obtain ⟨⟨negated, s⟩, rest⟩ := x
        simp only [namedPiece?, give]
        cases f.signed? negated s <;> rfl
    | none => cases openBracket f rest <;> rfl
  · rename_i rest hskip
    have hclose : takePiece f b outer (']' :: rest) =
        give ((b.closed? f).map (.ofClosed outer)) rest := rfl
    rw [hskip, hclose]
    cases b.closed? f with
    | none => rfl
    | some s => cases outer <;> rfl
  · rename_i hskip
    rw [hskip]
    rfl
  · rename_i hskip
    rw [hskip]
    rfl
  · rename_i hskip
    rw [hskip]
    rfl
  · have hother : takePiece f b outer (f.skip cs) =
        (takeRange f (f.skip cs)).map fun (s, rest) => (.goesOn (b.add (.leaf s)) outer, rest) := by
      unfold takePiece
      split <;> simp_all
    rw [hother]
    cases takeRange f (f.skip cs) <;> rfl

theorem takePiece_other (f : Flags) (b : Bracket) (outer : List Bracket) {cs : List Char}
    (hopen : cs.head? ≠ some '[') (hclose : cs.head? ≠ some ']')
    (hoperator : ∀ c ∈ ['&', '-', '~'], ∀ rest, cs ≠ c :: c :: rest) :
    takePiece f b outer cs =
      (takeRange f cs).map fun x => (.goesOn (b.add (.leaf x.1)) outer, x.2) := by
  unfold takePiece
  split
  · rfl
  · simp at hopen
  · simp at hclose
  · exact absurd rfl (hoperator '&' (by simp) _)
  · exact absurd rfl (hoperator '-' (by simp) _)
  · exact absurd rfl (hoperator '~' (by simp) _)
  · rfl

theorem consumes_takePiece (f : Flags) (b : Bracket) (outer : List Bracket) :
    Consumes (takePiece f b outer) := by
  intro cs piece rest h
  unfold takePiece at h
  split at h
  · cases h
  · refine .trans ?_ (List.suffix_cons _ _)
    split at h
    · rename_i hnamed
      exact ((steady_give _).consumes _ _ _ h).trans (consumes_takeNamed _ _ _ hnamed)
    · obtain ⟨x, hread, h⟩ := Option.map_eq_some_iff.mp h
      cases h
      exact consumes_openBracket f _ _ _ hread
  · exact ((steady_give _).consumes _ _ _ h).trans (List.suffix_cons _ _)
  · cases h
    exact (List.suffix_cons _ _).trans (List.suffix_cons _ _)
  · cases h
    exact (List.suffix_cons _ _).trans (List.suffix_cons _ _)
  · cases h
    exact (List.suffix_cons _ _).trans (List.suffix_cons _ _)
  · obtain ⟨x, hread, h⟩ := Option.map_eq_some_iff.mp h
    cases h
    exact consumes_takeRange f _ _ _ hread

/-- What a piece may leave: a class is not closed by the parenthesis. -/
def pieceLeaves : Piece → List Char → List Char → Prop
  | .closed _, tail, rest => rest <:+ tail
  | .goesOn _ _, tail, rest => rest <:+ ')' :: tail

theorem follows_takePiece (f : Flags) (b : Bracket) (outer : List Bracket) (cs : List Char) :
    Follows pieceLeaves (takePiece f b outer) cs := by
  by_cases hopen : cs.head? = some '['
  · obtain ⟨rest, rfl⟩ := List.head?_eq_some_iff.mp hopen
    have hnamed := aligned_takeNamed rest
    cases htake : takeNamed rest with
    | some x =>
        obtain ⟨named, rest'⟩ := x
        refine ((aligned_give (namedPiece? f b outer named)).follows rest').of_eq ?_ fun tail => ?_
        · rw [takePiece_bracket, htake]
        · rw [List.cons_append, takePiece_bracket, hnamed, htake]
          rfl
    | none =>
        refine ((follows_openBracket f rest).map (.goesOn · (b :: outer)) fun _ _ _ h => h).of_eq
          ?_ fun tail => ?_
        · rw [takePiece_bracket, htake]
        · rw [List.cons_append, takePiece_bracket, hnamed, htake]
          rfl
  by_cases hclose : cs.head? = some ']'
  · obtain ⟨rest, rfl⟩ := List.head?_eq_some_iff.mp hclose
    exact ((aligned_give ((b.closed? f).map (.ofClosed outer))).follows rest).of_eq rfl
      fun tail => rfl
  by_cases hoperator : ∃ c ∈ ['&', '-', '~'], ∃ rest, cs = c :: c :: rest
  · obtain ⟨c, hc, rest, rfl⟩ := hoperator
    simp only [List.mem_cons, List.not_mem_nil, or_false] at hc
    rcases hc with rfl | rfl | rfl
    · exact .stays (.goesOn (b.operate f .inter) outer) rest rfl fun tail => rfl
    · exact .stays (.goesOn (b.operate f .diff) outer) rest rfl fun tail => rfl
    · exact .stays (.goesOn (b.operate f .symmDiff) outer) rest rfl fun tail => rfl
  refine ((follows_takeRange f cs).map (fun s => .goesOn (b.add (.leaf s)) outer)
    fun _ _ _ h => h).of_eq
    (takePiece_other f b outer hopen hclose fun c hc rest heq => hoperator ⟨c, hc, rest, heq⟩)
    fun tail => takePiece_other f b outer ?_ ?_ fun c hc rest heq => ?_
  · exact head?_append_paren (by decide) hopen tail
  · exact head?_append_paren (by decide) hclose tail
  · have hparen : c ≠ ')' := by
      rintro rfl
      simp at hc
    exact hoperator ⟨c, hc, exists_eq_of_append_paren hparen heq⟩

theorem length_takeMember {f : Flags} {cs rest : List Char} {e : Escape}
    (h : takeMember f cs = some (e, rest)) : rest.length < cs.length := by
  unfold takeMember at h
  split at h
  · cases h
  · exact Nat.lt_succ_of_le (consumes_takeEscape f _ _ _ h).length_le
  · cases h
    exact Nat.lt_succ_self _

theorem length_takeRange {f : Flags} {cs rest : List Char} {s : CharSet}
    (h : takeRange f cs = some (s, rest)) : rest.length < cs.length := by
  rw [takeRange_eq] at h
  obtain ⟨⟨low, rest'⟩, hread, h⟩ := Option.bind_eq_some_iff.mp h
  have hbehind := (steady_gap f).consumes.andThen (fun _ => consumes_afterMember f low) _ _ _ h
  exact Nat.lt_of_le_of_lt hbehind.length_le (length_takeMember hread)

theorem length_takePiece {f : Flags} {b : Bracket} {outer : List Bracket} {cs rest : List Char}
    {piece : Piece} (h : takePiece f b outer cs = some (piece, rest)) :
    rest.length < cs.length := by
  unfold takePiece at h
  split at h
  · cases h
  · split at h
    · rename_i hnamed
      have hrest := ((steady_give _).consumes _ _ _ h).trans (consumes_takeNamed _ _ _ hnamed)
      exact Nat.lt_succ_of_le hrest.length_le
    · obtain ⟨x, hread, h⟩ := Option.map_eq_some_iff.mp h
      cases h
      exact Nat.lt_succ_of_le (consumes_openBracket f _ _ _ hread).length_le
  · exact Nat.lt_succ_of_le ((steady_give _).consumes _ _ _ h).length_le
  · cases h
    exact Nat.lt_trans (Nat.lt_succ_self _) (Nat.lt_succ_self _)
  · cases h
    exact Nat.lt_trans (Nat.lt_succ_self _) (Nat.lt_succ_self _)
  · cases h
    exact Nat.lt_trans (Nat.lt_succ_self _) (Nat.lt_succ_self _)
  · obtain ⟨x, hread, h⟩ := Option.map_eq_some_iff.mp h
    cases h
    exact length_takeRange hread

def afterPiece (f : Flags) : Piece → Reader (Nested CharSet)
  | .closed s => give (some s)
  | .goesOn b outer => takeBracket f b outer

/-- A class is read piece by piece. -/
theorem takeBracket_eq_andThen (f : Flags) (b : Bracket) (outer : List Bracket) :
    takeBracket f b outer =
      (gap f).andThen fun _ => (takePiece f b outer).andThen (afterPiece f) := by
  funext cs
  rw [takeBracket_eq]
  simp only [Reader.andThen, gap, Option.bind_some]
  cases hread : takePiece f b outer (f.skip cs) with
  | none => rfl
  | some x =>
      obtain ⟨piece, rest⟩ := x
      cases piece with
      | closed s => rfl
      | goesOn b' outer' =>
          have hlength := (skip_suffix f cs).length_le
          exact if_pos (Nat.lt_of_lt_of_le (length_takePiece hread) hlength)

/-- A class ends behind its closing bracket. -/
theorem takeBracket_shorter {f : Flags} {b : Bracket} {outer : List Bracket} {cs rest : List Char}
    {s : Nested CharSet} (h : takeBracket f b outer cs = some (s, rest)) :
    rest <:+ cs ∧ rest.length < cs.length := by
  rw [takeBracket_eq_andThen] at h
  change (takePiece f b outer).andThen (afterPiece f) (f.skip cs) = _ at h
  obtain ⟨⟨piece, rest'⟩, hpiece, h⟩ := Option.bind_eq_some_iff.mp h
  have hskip := skip_suffix f cs
  have hrest := (consumes_takePiece f b outer _ _ _ hpiece).trans hskip
  have hlt : rest'.length < cs.length :=
    Nat.lt_of_lt_of_le (length_takePiece hpiece) hskip.length_le
  cases piece with
  | closed s =>
      cases h
      exact ⟨hrest, hlt⟩
  | goesOn b' outer' =>
      have ih := takeBracket_shorter h
      exact ⟨ih.1.trans hrest, Nat.lt_trans ih.2 hlt⟩
termination_by cs.length

theorem consumes_afterPiece (f : Flags) (piece : Piece) : Consumes (afterPiece f piece) := by
  cases piece with
  | closed s => exact (steady_give _).consumes
  | goesOn b outer => exact fun _ _ _ h => (takeBracket_shorter h).1

/-- A class that goes on where the parenthesis stands takes it. -/
theorem taken_of_spared {f : Flags} {b : Bracket} {outer : List Bracket}
    {tail cs rest : List Char} {s : Nested CharSet} (hspared : cs <:+ ')' :: tail)
    (h : takeBracket f b outer cs = some (s, rest)) : rest <:+ tail := by
  obtain ⟨hrest, hlt⟩ := takeBracket_shorter h
  have hlength := hspared.length_le
  rcases List.suffix_cons_iff.mp (hrest.trans hspared) with rfl | hrest
  · omega
  · exact hrest

/-- A class that a text leaves open takes the parenthesis. -/
theorem follows_takeBracket (f : Flags) (b : Bracket) (outer : List Bracket) (cs : List Char) :
    Follows taken (takeBracket f b outer) cs := by
  have hconsumes := (consumes_takePiece f b outer).andThen (consumes_afterPiece f)
  rw [takeBracket_eq_andThen]
  refine ((steady_gap f).follows cs).andThen (fun _ => hconsumes) (fun _ _ _ h => h) ?_
  rintro _ left hleft
  have hskip : left.length ≤ cs.length := ((steady_gap f).consumes _ _ _ hleft).length_le
  refine (follows_takePiece f b outer left).andThen_of (consumes_afterPiece f)
    (fun _ _ _ h => h) (fun piece tail rest s rest' hleaves h => ?_) fun piece rest hpiece => ?_
  · cases piece with
    | closed s =>
        cases h
        exact hleaves
    | goesOn b' outer' => exact taken_of_spared hleaves h
  · cases piece with
    | closed s => exact (steady_give _).follows rest
    | goesOn b' outer' =>
        have hlt : rest.length < cs.length := Nat.lt_of_lt_of_le (length_takePiece hpiece) hskip
        exact follows_takeBracket f b' outer' rest
termination_by cs.length

def readClass (f : Flags) : Reader (Nested CharSet) :=
  Reader.andThen (openBracket f) fun b => takeBracket f b []

theorem steady_readClass (f : Flags) : Steady (readClass f) where
  consumes := (consumes_openBracket f).andThen fun _ _ _ _ h => (takeBracket_shorter h).1
  follows cs := (follows_openBracket f cs).andThen_of (fun _ _ _ _ h => (takeBracket_shorter h).1)
    (fun _ _ _ h => h) (fun _ _ _ _ _ hspared h => taken_of_spared hspared h)
    fun b rest _ => follows_takeBracket f b [] rest

end Telemetry.Pattern
