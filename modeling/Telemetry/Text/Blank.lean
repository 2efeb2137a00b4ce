/-!
# Blanks, words and lines

Text is cut at *blanks*, the characters with the Unicode property White_Space. Nothing here
depends on a locale.
-/

namespace Telemetry.Text

/-- The characters with the property White_Space. -/
def isBlank (c : Char) : Bool :=
  let n := c.toNat
  (9 ≤ n && n ≤ 13) || n == 0x20 || n == 0x85 || n == 0xA0 || n == 0x1680 ||
    (0x2000 ≤ n && n ≤ 0x200A) || n == 0x2028 || n == 0x2029 || n == 0x202F || n == 0x205F ||
    n == 0x3000

def trimChars (s : List Char) : List Char :=
  ((s.dropWhile isBlank).reverse.dropWhile isBlank).reverse

/-- The text without the blanks at its two ends. -/
def trim (s : String) : String := String.ofList (trimChars s.toList)

/-- Cuts at every character that `sep` accepts; `n` cuts give `n + 1` pieces. -/
def splitChars (sep : Char → Bool) : List Char → List (List Char)
  | [] => [[]]
  | c :: rest =>
    if sep c then [] :: splitChars sep rest
    else match splitChars sep rest with
      | [] => [[c]]
      | piece :: pieces => (c :: piece) :: pieces

def split (sep : Char → Bool) (s : String) : List String :=
  (splitChars sep s.toList).map String.ofList

/-- The longest runs of characters that are not blank. -/
def words (s : String) : List String :=
  (split isBlank s).filter fun w => !w.isEmpty

/-- A line feed ends a line, also the last one; a carriage return before it belongs to it. -/
def lines (s : String) : List String :=
  let pieces := splitChars (· == '\n') s.toList
  let ended := pieces.dropLast.map fun l =>
    if l.getLast? = some '\r' then l.dropLast else l
  let open? := match pieces.getLast? with
    | some [] | none => []
    | some l => [l]
  (ended ++ open?).map String.ofList

/-- The text on either side of the first `sep`. -/
def splitOnce (sep : Char) (s : String) : Option (String × String) :=
  let cs := s.toList
  match cs.dropWhile (· != sep) with
  | [] => none
  | _ :: rest => some (String.ofList (cs.takeWhile (· != sep)), String.ofList rest)

/-- The rest of the text after `start`, if it begins with it. -/
def dropStart? (start : String) (s : String) : Option String :=
  if start.toList.isPrefixOf s.toList then
    some (String.ofList (s.toList.drop start.toList.length))
  else none

end Telemetry.Text
