import Telemetry.Json.Numeral

/-!
# JSON text

A text is cut into tokens, and the tokens are folded into a tree by a machine that keeps the
containers still open. The tree is the text *as written*: members in their order, repeated names
kept, and a number or a string that stands for no value marked as such. So a reader that passes
over a member need not care whether all of it has a value.

Main definitions: `Written.read?` (strict grammar) and `Written.toJson?` (the value: bounded
nesting, the last of several members with one name).
-/

namespace Telemetry

/-- A JSON text as written. -/
inductive Written
  | null
  | bool (b : Bool)
  /-- `none` for a number beyond the doubles. -/
  | number (n : Option Number)
  /-- `none` for a string with half of a surrogate pair. -/
  | string (s : Option String)
  | array (items : List Written)
  | object (members : List (Option String × Written))
  deriving Repr

namespace Written

/-! ## Strings -/

/-- What a string is written with: characters, and 16-bit units written as `\uXXXX`. -/
inductive Part
  | char (c : Char)
  | unit (n : Nat)
  deriving DecidableEq, Repr

def hexDigit? (c : Char) : Option Nat :=
  if '0' ≤ c ∧ c ≤ '9' then some (c.toNat - '0'.toNat)
  else if 'a' ≤ c ∧ c ≤ 'f' then some (c.toNat - 'a'.toNat + 10)
  else if 'A' ≤ c ∧ c ≤ 'F' then some (c.toNat - 'A'.toNat + 10)
  else none

def unit? (a b c d : Char) : Option Nat := do
  let a ← hexDigit? a
  let b ← hexDigit? b
  let c ← hexDigit? c
  let d ← hexDigit? d
  return 4096 * a + 256 * b + 16 * c + d

/-- The characters that a backslash and one letter stand for. -/
def escaped? : Char → Option Char
  | '"' => some '"'
  | '\\' => some '\\'
  | '/' => some '/'
  | 'b' => some '\x08'
  | 'f' => some '\x0c'
  | 'n' => some '\n'
  | 'r' => some '\r'
  | 't' => some '\t'
  | _ => none

/-- Puts a part in front of the parts read after it. -/
def after (p : Part) (tail : Option (List Part × List Char)) : Option (List Part × List Char) :=
  tail.map fun t => (p :: t.1, t.2)

/-- The parts of a string up to its closing quote, and what follows. -/
def takeString : List Char → Option (List Part × List Char)
  | [] => none
  | '"' :: rest => some ([], rest)
  | '\\' :: 'u' :: a :: b :: c :: d :: rest =>
    (unit? a b c d).bind fun n => after (.unit n) (takeString rest)
  | '\\' :: e :: rest => (escaped? e).bind fun c => after (.char c) (takeString rest)
  | c :: rest =>
    if c.toNat < 0x20 ∨ c = '\\' then none else after (.char c) (takeString rest)

/-- Joins surrogate pairs. -/
def joinParts? : List Part → Option (List Char)
  | [] => some []
  | .char c :: rest => (joinParts? rest).map (c :: ·)
  | .unit n :: rest =>
    if n < 0xD800 ∨ 0xDFFF < n then (joinParts? rest).map (Char.ofNat n :: ·)
    else if 0xDC00 ≤ n then none
    else match rest with
      | .unit low :: rest =>
        if 0xDC00 ≤ low ∧ low ≤ 0xDFFF then
          (joinParts? rest).map
            (Char.ofNat (0x10000 + 1024 * (n - 0xD800) + (low - 0xDC00)) :: ·)
        else none
      | _ => none

theorem length_of_after {p : Part} {tail : Option (List Part × List Char)}
    {parts : List Part} {rest : List Char} {n : Nat} (h : after p tail = some (parts, rest))
    (ih : ∀ {parts rest}, tail = some (parts, rest) → rest.length < n) : rest.length < n := by
  obtain ⟨⟨q, r⟩, htail, heq⟩ := Option.map_eq_some_iff.1 h
  simp only [Prod.mk.injEq] at heq
  exact heq.2 ▸ ih htail

theorem takeString_length {cs : List Char} {parts : List Part} {rest : List Char}
    (h : takeString cs = some (parts, rest)) : rest.length < cs.length := by
  fun_induction takeString cs generalizing parts rest with
  | case1 => simp at h
  | case2 r =>
    simp only [Option.some.injEq, Prod.mk.injEq] at h
    simp [← h.2]
  | case3 a b c d r ih =>
    obtain ⟨n, _, h⟩ := Option.bind_eq_some_iff.1 h
    have := length_of_after h ih
    simp only [List.length_cons]
    omega
  | case4 e r _ ih =>
    obtain ⟨c, _, h⟩ := Option.bind_eq_some_iff.1 h
    have := length_of_after h ih
    simp only [List.length_cons]
    omega
  | case5 => simp at h
  | case6 c r _ _ _ _ ih =>
    have := length_of_after h ih
    simp only [List.length_cons]
    omega

/-! ## Tokens -/

inductive Token
  | openArray
  | closeArray
  | openObject
  | closeObject
  | comma
  | colon
  | word (w : Option Bool)
  | number (n : Option Number)
  | string (s : Option String)
  deriving Repr

/-- The blanks allowed between tokens. -/
def isGap (c : Char) : Bool := c = ' ' || c = '\t' || c = '\n' || c = '\r'

/-- The tokens that need no more than a fixed spelling. -/
def fixedToken? : List Char → Option (Token × List Char)
  | '[' :: rest => some (.openArray, rest)
  | ']' :: rest => some (.closeArray, rest)
  | '{' :: rest => some (.openObject, rest)
  | '}' :: rest => some (.closeObject, rest)
  | ',' :: rest => some (.comma, rest)
  | ':' :: rest => some (.colon, rest)
  | 'n' :: 'u' :: 'l' :: 'l' :: rest => some (.word none, rest)
  | 't' :: 'r' :: 'u' :: 'e' :: rest => some (.word (some true), rest)
  | 'f' :: 'a' :: 'l' :: 's' :: 'e' :: rest => some (.word (some false), rest)
  | _ => none

theorem fixedToken_length {cs : List Char} {t : Token} {rest : List Char}
    (h : fixedToken? cs = some (t, rest)) : rest.length < cs.length := by
  revert h
  fun_cases fixedToken? cs <;> simp +contextual <;> omega

variable [NumeralReader]

/-- The token at the head of a text that begins with no gap. -/
def takeToken (cs : List Char) : Option (Token × List Char) :=
  match cs with
  | '"' :: rest =>
    (takeString rest).map fun t => (.string ((joinParts? t.1).map String.ofList), t.2)
  | cs =>
    (fixedToken? cs).or ((takeNumeral cs).map fun t => (.number t.1.number?, t.2))

theorem takeToken_length {cs : List Char} {t : Token} {rest : List Char}
    (h : takeToken cs = some (t, rest)) : rest.length < cs.length := by
  revert h
  fun_cases takeToken cs with
  | case1 tail =>
    intro h
    obtain ⟨⟨p, r⟩, hp, heq⟩ := Option.map_eq_some_iff.1 h
    simp only [Prod.mk.injEq] at heq
    have := takeString_length hp
    simp only [List.length_cons, ← heq.2]
    omega
  | case2 =>
    intro h
    rcases Option.or_eq_some_iff.1 h with h | ⟨_, h⟩
    · exact fixedToken_length h
    · obtain ⟨⟨p, r⟩, hp, heq⟩ := Option.map_eq_some_iff.1 h
      simp only [Prod.mk.injEq] at heq
      exact heq.2 ▸ takeNumeral_length hp

def tokens? (cs : List Char) : Option (List Token) :=
  match cs with
  | [] => some []
  | c :: rest =>
    if isGap c then tokens? rest
    else match h : takeToken (c :: rest) with
      | none => none
      | some (t, rest') =>
        have : rest'.length < rest.length + 1 := takeToken_length h
        (tokens? rest').map (t :: ·)
termination_by cs.length

/-! ## Trees -/

/-- A container that is still open, with what it holds so far, the last first. -/
inductive Frame
  | array (items : List Written)
  | object (members : List (Option String × Written)) (name : Option String)
  deriving Repr

/-- What may come next, within the containers that are open. -/
inductive State
  | item (mayClose : Bool) (outer : List Frame)
  | name (mayClose : Bool) (members : List (Option String × Written)) (outer : List Frame)
  | colon (frame : Frame) (outer : List Frame)
  | next (frame : Frame) (outer : List Frame)
  | done (w : Written)
  deriving Repr

/-- A finished tree takes its place in the innermost container. -/
def place (w : Written) : List Frame → State
  | [] => .done w
  | .array items :: outer => .next (.array (w :: items)) outer
  | .object members name :: outer => .next (.object ((name, w) :: members) none) outer

def step : State → Token → Option State
  | .item _ outer, .word none => some (place .null outer)
  | .item _ outer, .word (some b) => some (place (.bool b) outer)
  | .item _ outer, .number n => some (place (.number n) outer)
  | .item _ outer, .string s => some (place (.string s) outer)
  | .item _ outer, .openArray => some (.item true (.array [] :: outer))
  | .item _ outer, .openObject => some (.name true [] outer)
  | .item true (.array items :: outer), .closeArray =>
    some (place (.array items.reverse) outer)
  | .name _ members outer, .string s => some (.colon (.object members s) outer)
  | .name true members outer, .closeObject => some (place (.object members.reverse) outer)
  | .colon frame outer, .colon => some (.item false (frame :: outer))
  | .next (.array items) outer, .comma => some (.item false (.array items :: outer))
  | .next (.array items) outer, .closeArray => some (place (.array items.reverse) outer)
  | .next (.object members _) outer, .comma => some (.name false members outer)
  | .next (.object members _) outer, .closeObject =>
    some (place (.object members.reverse) outer)
  | _, _ => none

def ofTokens? (ts : List Token) : Option Written :=
  match ts.foldlM step (.item false []) with
  | some (.done w) => some w
  | _ => none

/-- The tree that a whole text spells. -/
def read? (s : String) : Option Written := (tokens? s.toList).bind ofTokens?

/-! ## Values -/

mutual

/-- The value of a text that has one: containers nest at most `levels` deep, all scalars have
values, and of several members with one name the last holds. -/
def toJson? (levels : Nat) : Written → Option Json
  | .null => some .null
  | .bool b => some (.bool b)
  | .number n => n.map .number
  | .string s => s.map .string
  | .array items =>
    match levels with
    | 0 => none
    | levels + 1 => (itemsToJson? levels items).map .array
  | .object members =>
    match levels with
    | 0 => none
    | levels + 1 => (membersToJson? levels members).map fun ms =>
      .object (NameMap.ofList ms).entries

def itemsToJson? (levels : Nat) : List Written → Option (List Json)
  | [] => some []
  | w :: rest => do return (← w.toJson? levels) :: (← itemsToJson? levels rest)

def membersToJson? (levels : Nat) : List (Option String × Written) →
    Option (List (String × Json))
  | [] => some []
  | (name, w) :: rest => do
    return (← name, ← w.toJson? levels) :: (← membersToJson? levels rest)

end

end Written

/-- How deep the containers of a document may nest. -/
def Json.maxLevels : Nat := 127

/-- The document that a text spells. -/
def Json.read? (s : String) : Option Json :=
  (Written.read? s).bind (Written.toJson? Json.maxLevels)

end Telemetry
