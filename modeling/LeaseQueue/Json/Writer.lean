/-
Writing JSON texts.

* `Json.write`: a value on one line without spaces;
* `Json.pretty`: a value with one item or member per line, two spaces deeper at each level.

A string escapes the quote, the backslash and the control characters below the space; a number
that is not whole is written with the fewest digits that read back, positionally when its first
digit stands for a power of ten from -5 to 15.
-/
import LeaseQueue.Json.Basic
import LeaseQueue.Number.Shortest

namespace LeaseQueue.Json

namespace Writer

/-- A hexadecimal digit in lower case. -/
def hexDigit (n : Nat) : Char := if n < 10 then Char.ofNat (48 + n) else Char.ofNat (87 + n)

/-- A character of a string. -/
def escape (c : Char) : List Char :=
  match c with
  | '"' => ['\\', '"']
  | '\\' => ['\\', '\\']
  | '\x08' => ['\\', 'b']
  | '\x0c' => ['\\', 'f']
  | '\n' => ['\\', 'n']
  | '\r' => ['\\', 'r']
  | '\t' => ['\\', 't']
  | c =>
    if c.toNat < 0x20 then
      ['\\', 'u', '0', '0', hexDigit (c.toNat / 16), hexDigit (c.toNat % 16)]
    else [c]

/-- A quoted string. -/
def quoted (s : String) : List Char := '"' :: s.toList.flatMap escape ++ ['"']

/-- Numbers that are not whole have a sign on every exponent. -/
def realLayout : Shortest.Layout := ⟨-5, 15, "+"⟩

/-- A value that is neither an array nor an object. -/
def scalar : Json → List Char
  | .null => "null".toList
  | .bool true => "true".toList
  | .bool false => "false".toList
  | .whole n => Decimal.ofInt n
  | .real x => (Shortest.text realLayout x).toList
  | .string s => quoted s
  | .array _ => []
  | .object _ => []

mutual

/-- A value without spaces. -/
def compact : Json → List Char
  | .array items => '[' :: compactItems items
  | .object members => '\x7b' :: compactMembers members
  | v => scalar v

/-- Items and the closing bracket. -/
def compactItems : List Json → List Char
  | [] => [']']
  | [v] => compact v ++ [']']
  | v :: rest => compact v ++ ',' :: compactItems rest

/-- Members and the closing brace. -/
def compactMembers : List (String × Json) → List Char
  | [] => ['\x7d']
  | [(k, v)] => quoted k ++ ':' :: compact v ++ ['\x7d']
  | (k, v) :: rest => quoted k ++ ':' :: compact v ++ ',' :: compactMembers rest

end

/-- A line break and the indentation of a level. -/
def lineBreak (level : Nat) : List Char := '\n' :: List.replicate (2 * level) ' '

mutual

/-- A value over several lines; `level` counts the arrays and objects around it. -/
def indented (level : Nat) : Json → List Char
  | .array [] => ['[', ']']
  | .array items => '[' :: indentedItems level items
  | .object [] => ['\x7b', '\x7d']
  | .object members => '\x7b' :: indentedMembers level members
  | v => scalar v

/-- Items, one per line, and the closing bracket. -/
def indentedItems (level : Nat) : List Json → List Char
  | [] => lineBreak level ++ [']']
  | [v] => lineBreak (level + 1) ++ indented (level + 1) v ++ lineBreak level ++ [']']
  | v :: rest =>
    lineBreak (level + 1) ++ indented (level + 1) v ++ ',' :: indentedItems level rest

/-- Members, one per line, and the closing brace. -/
def indentedMembers (level : Nat) : List (String × Json) → List Char
  | [] => lineBreak level ++ ['\x7d']
  | [(k, v)] =>
    lineBreak (level + 1) ++ quoted k ++ ':' :: ' ' :: indented (level + 1) v ++
      lineBreak level ++ ['\x7d']
  | (k, v) :: rest =>
    lineBreak (level + 1) ++ quoted k ++ ':' :: ' ' :: indented (level + 1) v ++
      ',' :: indentedMembers level rest

end

end Writer

/-- The text of a value on one line. -/
def write (v : Json) : String := String.ofList (Writer.compact v)

/-- The text of a value over several lines. -/
def pretty (v : Json) : String := String.ofList (Writer.indented 0 v)

end LeaseQueue.Json
