import Telemetry.Json.Basic

/-!
# Writing documents

The compact text has no blanks; the indented text puts every item and member on a line of its
own, two blanks further in than its container. A double that is no number is written `null`.
-/

namespace Telemetry.Json

def hexDigit (n : Nat) : Char := (Nat.toDigits 16 n).headD '0'

/-- How a character is written within quotes: control characters, quotes and backslashes are
escaped, all others stand for themselves. -/
def escape (c : Char) : List Char :=
  match c with
  | '"' => ['\\', '"']
  | '\\' => ['\\', '\\']
  | '\x08' => ['\\', 'b']
  | '\x0c' => ['\\', 'f']
  | '\n' => ['\\', 'n']
  | '\r' => ['\\', 'r']
  | '\t' => ['\\', 't']
  | c =>
    if c.toNat < 0x20 then
      ['\\', 'u', '0', '0', hexDigit (c.toNat / 16), hexDigit (c.toNat % 16)]
    else [c]

def quoted (s : String) : List Char := '"' :: s.toList.flatMap escape ++ ['"']

def numberChars : Number → List Char
  | .double x => if x.isFinite then (Number.double x).text.toList else "null".toList
  | n => n.text.toList

mutual

def compactChars : Json → List Char
  | .null => "null".toList
  | .bool b => (toString b).toList
  | .number n => numberChars n
  | .string s => quoted s
  | .array items => '[' :: compactItems items ++ [']']
  | .object members => '{' :: compactMembers members ++ ['}']

def compactItems : List Json → List Char
  | [] => []
  | [v] => v.compactChars
  | v :: rest => v.compactChars ++ ',' :: compactItems rest

def compactMembers : List (String × Json) → List Char
  | [] => []
  | [(name, v)] => quoted name ++ ':' :: v.compactChars
  | (name, v) :: rest => quoted name ++ ':' :: v.compactChars ++ ',' :: compactMembers rest

end

def compact (v : Json) : String := String.ofList v.compactChars

def newLine (depth : Nat) : List Char := '\n' :: List.replicate (2 * depth) ' '

mutual

def indentedChars (depth : Nat) : Json → List Char
  | .array [] => ['[', ']']
  | .array items => '[' :: indentedItems (depth + 1) items ++ newLine depth ++ [']']
  | .object [] => ['{', '}']
  | .object members => '{' :: indentedMembers (depth + 1) members ++ newLine depth ++ ['}']
  | .null => "null".toList
  | .bool b => (toString b).toList
  | .number n => numberChars n
  | .string s => quoted s

def indentedItems (depth : Nat) : List Json → List Char
  | [] => []
  | [v] => newLine depth ++ v.indentedChars depth
  | v :: rest => newLine depth ++ v.indentedChars depth ++ ',' :: indentedItems depth rest

def indentedMembers (depth : Nat) : List (String × Json) → List Char
  | [] => []
  | [(name, v)] => newLine depth ++ quoted name ++ ':' :: ' ' :: v.indentedChars depth
  | (name, v) :: rest => newLine depth ++ quoted name ++ ':' :: ' ' :: v.indentedChars depth ++
      ',' :: indentedMembers depth rest

end

def indented (v : Json) : String := String.ofList (v.indentedChars 0)

end Telemetry.Json
