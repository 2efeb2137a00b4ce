import Telemetry.Json.Written
import Telemetry.Power
import Telemetry.Pattern.Library

/-!
# What pattern texts are made of

Flags, gaps, escapes and numbers. All readers take the text from its head and give back the rest;
`none` is an error.
-/

namespace Telemetry.Pattern

structure Flags where
  ignoreCase : Bool
  multiLine : Bool
  dotAll : Bool
  swapGreed : Bool
  unicode : Bool
  withReturn : Bool
  verbose : Bool
  deriving DecidableEq, Repr

def Flags.default : Flags := ⟨false, false, false, false, true, false, false⟩

/-- Sets the flag that a letter stands for. -/
def Flags.set? (f : Flags) (letter : Char) (on : Bool) : Option Flags :=
  match letter with
  | 'i' => some { f with ignoreCase := on }
  | 'm' => some { f with multiLine := on }
  | 's' => some { f with dotAll := on }
  | 'U' => some { f with swapGreed := on }
  | 'u' => some { f with unicode := on }
  | 'R' => some { f with withReturn := on }
  | 'x' => some { f with verbose := on }
  | _ => none

/-- Flag letters up to `:` or `)`, a minus once before those to be switched off. Gives the flags,
the closing character and the rest. -/
def takeFlags (f : Flags) (seen : List Char) (negated : Bool) :
    List Char → Option (Flags × List Char × Char × List Char)
  | [] => none
  | c :: rest =>
    if c = ':' ∨ c = ')' then
      if seen.head? = some '-' then none else some (f, seen, c, rest)
    else if seen.contains c then none
    else if c = '-' then takeFlags f ('-' :: seen) true rest
    else (f.set? c (!negated)).bind fun f => takeFlags f (c :: seen) negated rest

/-- Drops blanks and comments, which run from a `#` to the end of the line. -/
def dropGap (inComment : Bool) : List Char → List Char
  | [] => []
  | c :: rest =>
    if inComment then dropGap (c != '\n') rest
    else if Text.isBlank c then dropGap false rest
    else if c = '#' then dropGap true rest
    else c :: rest

/-- In verbose mode gaps count for nothing. -/
def Flags.skip (f : Flags) (cs : List Char) : List Char :=
  if f.verbose then dropGap false cs else cs

theorem length_dropGap (inComment : Bool) (cs : List Char) :
    (dropGap inComment cs).length ≤ cs.length := by
  fun_induction dropGap inComment cs with
  | case1 => exact Nat.le_refl _
  | case2 _ _ ih => exact Nat.le_succ_of_le ih
  | case3 _ _ _ _ _ ih => exact Nat.le_succ_of_le ih
  | case4 _ _ _ _ ih => exact Nat.le_succ_of_le ih
  | case5 => exact Nat.le_refl _

theorem Flags.length_skip (f : Flags) (cs : List Char) : (f.skip cs).length ≤ cs.length := by
  unfold Flags.skip
  split
  · exact length_dropGap false cs
  · exact Nat.le_refl _

/-- The next character, behind blanks in verbose mode. Of a comment only the sign and the blanks
behind it are passed over. -/
def Flags.peek? (f : Flags) (cs : List Char) : Option Char :=
  if f.verbose then
    match cs.dropWhile Text.isBlank with
    | '#' :: rest => (rest.dropWhile Text.isBlank).head?
    | cs => cs.head?
  else cs.head?

/-- The characters at the head of a text that pass a test, each with a gap behind it. -/
def takeRun (f : Flags) (p : Char → Bool) : List Char → List Char × List Char
  | [] => ([], [])
  | c :: rest =>
    if p c then
      have := f.length_skip rest
      let (run, rest) := takeRun f p (f.skip rest)
      (c :: run, rest)
    else ([], c :: rest)
termination_by cs => cs.length

/-- A decimal number with blanks around it, below 2^32. -/
def takeCount (f : Flags) (cs : List Char) : Option (Nat × List Char) :=
  let (digits, rest) := takeRun f Char.isDigit (cs.dropWhile Text.isBlank)
  let n := digits.foldl (fun n c => 10 * n + (c.toNat - '0'.toNat)) 0
  if digits.isEmpty ∨ greatestOf 32 < n then none
  else some (n, rest.dropWhile Text.isBlank)

/-! ## Escapes -/

/-- What an escape stands for. -/
inductive Escape
  | char (c : Char)
  | set (s : CharSet)
  | anchor (a : Anchor)

def isScalar (n : Nat) : Bool := n < 0xD800 || (0xDFFF < n && n < 0x110000)

def hexNumber (cs : List Char) : Option Char := do
  let digits ← cs.mapM Written.hexDigit?
  let n := digits.foldl (fun n d => 16 * n + d) 0
  if digits.isEmpty || !isScalar n then none else some (Char.ofNat n)

/-- So many hexadecimal digits, each with a gap behind it. -/
def takeHexDigits (f : Flags) : Nat → List Char → Option (List Char × List Char)
  | 0, cs => some ([], cs)
  | _ + 1, [] => none
  | n + 1, c :: rest =>
    if (Written.hexDigit? c).isSome then
      (takeHexDigits f n (f.skip rest)).map fun (digits, rest) => (c :: digits, rest)
    else none

/-- What stands in braces, from behind the opening one. -/
def takeBraced (f : Flags) (cs : List Char) : Option (List Char × List Char) :=
  match takeRun f (· != '}') (f.skip cs) with
  | (inside, _ :: rest) => some (inside, rest)
  | (_, []) => none

/-- Without Unicode, members of classes are of ASCII, and so is what two digits stand for. -/
def Flags.admits (f : Flags) (c : Char) : Bool := f.unicode || c.toNat < 0x80

/-- A code point in hexadecimal: within braces, or of a fixed number of digits. -/
def takeHex (f : Flags) (digits : Nat) (cs : List Char) : Option (Char × List Char) :=
  match f.skip cs with
  | '{' :: rest =>
    (takeBraced f rest).bind fun (inside, rest) => (hexNumber inside).map (·, rest)
  | cs =>
    (takeHexDigits f digits cs).bind fun (inside, rest) =>
      ((hexNumber inside).filter fun c => 2 < digits || f.admits c).map (·, rest)

def asciiWord : CharSet :=
  .ofList [.range '0' '9', .range 'A' 'Z', .single '_', .range 'a' 'z']

def asciiBlank : CharSet := .ofList [.range '\t' '\r', .single ' ']

def Flags.wordSet (f : Flags) : CharSet := if f.unicode then .word else asciiWord

/-- The sets that a letter after a backslash stands for. What is not in an ASCII set need not be
a character. -/
def Flags.letterSet? (f : Flags) (letter : Char) : Option CharSet :=
  let complement (s : CharSet) := if f.unicode then some (.compl s) else none
  let digits : CharSet := if f.unicode then .digit else .range '0' '9'
  let blanks : CharSet := if f.unicode then .blank else asciiBlank
  match letter with
  | 'd' => some digits
  | 'D' => complement digits
  | 's' => some blanks
  | 'S' => complement blanks
  | 'w' => some f.wordSet
  | 'W' => complement f.wordSet
  | _ => none

/-- A set as the flags have it. Without Unicode, letters differ in case within ASCII only. -/
def Flags.cased (f : Flags) (s : CharSet) : CharSet :=
  if !f.ignoreCase then s
  else if f.unicode then .anyCase s
  else .inter (.anyCase s) (.range '\x00' '\x7f')

/-- A set or its complement. Without Unicode, what is not in a set of ASCII need not be a
character. -/
def Flags.signed? (f : Flags) (negated : Bool) (s : CharSet) : Option CharSet :=
  if !negated then some (f.cased s)
  else if f.unicode then some (.compl (f.cased s))
  else none

variable [Library]

/-- The set of a property, or its complement. -/
def Flags.propertySet? (f : Flags) (negated : Bool) (p : Property) : Option CharSet :=
  if f.unicode then
    (Library.property? p.name p.value).bind (f.signed? (negated != p.unequal))
  else none

/-- A property of characters: one letter, or a text within braces. -/
def takeProperty (f : Flags) (negated : Bool) (cs : List Char) : Option (CharSet × List Char) :=
  match f.skip cs with
  | '{' :: rest =>
    (takeBraced f rest).bind fun (inside, rest) =>
      (f.propertySet? negated (.ofText inside)).map (·, rest)
  | c :: rest =>
    if c = '\\' then none else (f.propertySet? negated ⟨false, [c], none⟩).map (·, rest)
  | [] => none

/-- The characters that a letter after a backslash stands for. -/
def controlChar? : Char → Option Char
  | 'a' => some '\x07'
  | 'f' => some '\x0c'
  | 't' => some '\t'
  | 'n' => some '\n'
  | 'r' => some '\r'
  | 'v' => some '\x0b'
  | _ => none

/-- Characters that a backslash makes literal: those of ASCII that are no letter, digit or angle
bracket. -/
def isEscapable (c : Char) : Bool :=
  c.toNat < 0x80 && !c.isAlphanum && c != '<' && c != '>'

/-- The edges of words that a name in braces stands for. -/
def namedEdge? (w : CharSet) : String → Option Anchor
  | "start" => some (.wordStart w)
  | "end" => some (.wordEnd w)
  | "start-half" => some (.wordStartHalf w)
  | "end-half" => some (.wordEndHalf w)
  | _ => none

def isEdgeChar (c : Char) : Bool := c.isAlpha || c = '-'

/-- What follows `\b`: braces around a name make a special edge, other braces a repetition. -/
def takeEdge (f : Flags) (cs : List Char) : Option (Escape × List Char) :=
  let plain := some (Escape.anchor (.wordEdge f.wordSet), cs)
  match cs with
  | '{' :: inside =>
    match f.skip inside with
    | [] => none
    | c :: rest =>
      if isEdgeChar c then
        match takeRun f isEdgeChar (c :: rest) with
        | (name, '}' :: rest) => (namedEdge? f.wordSet (String.ofList name)).map (.anchor ·, rest)
        | _ => none
      else plain
  | _ => plain

/-- What follows a backslash. -/
def takeEscape (f : Flags) : List Char → Option (Escape × List Char)
  | [] => none
  | c :: rest =>
    let anchor (a : Anchor) := some (Escape.anchor a, rest)
    match c with
    | 'x' => (takeHex f 2 rest).map fun (c, rest) => (.char c, rest)
    | 'u' => (takeHex f 4 rest).map fun (c, rest) => (.char c, rest)
    | 'U' => (takeHex f 8 rest).map fun (c, rest) => (.char c, rest)
    | 'p' | 'P' => (takeProperty f (c = 'P') rest).map fun (s, rest) => (.set s, rest)
    | 'A' => anchor .textStart
    | 'z' => anchor .textEnd
    | 'b' => takeEdge f rest
    | 'B' => anchor (.noWordEdge f.wordSet)
    | '<' => anchor (.wordStart f.wordSet)
    | '>' => anchor (.wordEnd f.wordSet)
    | c =>
      match f.letterSet? c, controlChar? c with
      | some s, _ => some (.set s, rest)
      | _, some c => some (.char c, rest)
      | _, _ => if isEscapable c then some (.char c, rest) else none

end Telemetry.Pattern
