/-
Writing YAML texts.

* `Yaml.Writer.form`: how a text is written: plain if it then reads as the same text, else in single
  quotes, else in double quotes; a text of several lines is a literal block where that is possible;
* `Json.yaml`: a value in block style, two spaces deeper at each level; items of a sequence below a
  key stand as deep as the key.
-/
import LeaseQueue.Yaml.Cursor
import LeaseQueue.Json.Writer

namespace LeaseQueue

namespace Yaml.Writer

/-! ### What a text is made of -/

/-- Whether a character can be written as it is. -/
def isPrintable (c : Char) : Bool :=
  let n := c.toNat
  n == 0x0a || (0x20 ≤ n && n ≤ 0x7e) || (0xa0 ≤ n && n ≤ 0xfffd && n != 0xfeff)

/-- Whether a character separates words. -/
def isGap (c : Char) : Bool := isBlank c || isBreak c

/-- Whether a word is over. -/
def endsWord (cs : List Char) : Bool := cs.head?.all isGap

/-- Whether the beginning of a text has a meaning of its own. -/
def opensMark (cs : List Char) : Bool :=
  "---".toList.isPrefixOf cs || "...".toList.isPrefixOf cs ||
    match cs with
    | [] => false
    | c :: rest =>
      "#,[]\x7b\x7d&*!|>\x27\"%@\x60".toList.contains c ||
        ("?:-".toList.contains c && endsWord rest)

/-- Whether a later part of a text has a meaning of its own: a colon at the end of a word, or a
number sign at the start of one. -/
def holdsMark : List Char → Bool
  | c :: d :: rest =>
    (d == ':' && endsWord rest) || (d == '#' && isGap c) || holdsMark (d :: rest)
  | _ => false

/-- Whether a character of one class is followed by one of another. -/
def follows (p q : Char → Bool) (cs : List Char) : Bool :=
  (cs.zip cs.tail).any fun e => p e.1 && q e.2

/-- Whether a text has spaces or line breaks at an end. -/
def isRagged (cs : List Char) : Bool :=
  let edge := fun c => c == ' ' || isBreak c
  cs.head?.any edge || cs.getLast?.any edge

/-- Whether some character can only be written in double quotes. -/
def isSpecial (cs : List Char) : Bool :=
  cs.any (!isPrintable ·) || follows (· == ' ') isBreak cs

/-- The words that some readers take for truth values. -/
def oldTruths : List String :=
  ["y", "Y", "yes", "Yes", "YES", "n", "N", "no", "No", "NO", "on", "On", "ON", "off", "Off", "OFF"]

/-- Whether a text written plainly would read as something else. -/
def isAmbiguous (s : String) : Bool :=
  oldTruths.contains s || Scalar.isPadded (Scalar.unsigned s.toList) ||
    match Scalar.plainContent? s with
    | some (.text _) => false
    | _ => true

/-! ### Forms -/

/-- How a text is written. -/
inductive Form where
  | plain
  | single
  | double
  | literal
deriving DecidableEq, Repr

/-- The form of a text; a key before its colon takes one line. -/
def form (isKey : Bool) (s : String) : Form :=
  let cs := s.toList
  let quoted := if isSpecial cs || follows isBreak (· == ' ') cs then Form.double else .single
  if cs.contains '\n' then
    if isKey || isSpecial cs || cs.getLast? == some ' ' then .double else .literal
  else if isAmbiguous s || isRagged cs || cs.any isBreak || opensMark cs || holdsMark cs then quoted
  else if isSpecial cs then .double
  else .plain

example : form false "PENDING" = .plain := by decide +kernel
example : form false "007" = .single := by decide +kernel
example : form false "no" = .single := by decide +kernel
example : form false "key: value" = .single := by decide +kernel
example : form false "a\tb" = .double := by decide +kernel
example : form false "a\nb" = .literal := by decide +kernel

/-! ### Characters -/

/-- The indentation at a depth. -/
def pad (depth : Nat) : List Char := List.replicate depth ' '

/-- The last `width` hexadecimal digits of a number, in upper case. -/
def hex : (width : Nat) → Nat → List Char
  | 0, _ => []
  | width + 1, n => hex width (n / 16) ++ [(Json.Writer.hexDigit (n % 16)).toUpper]

/-- A character in double quotes. -/
def escape (c : Char) : List Char :=
  match c with
  | '\x00' => ['\\', '0']
  | '\x07' => ['\\', 'a']
  | '\x08' => ['\\', 'b']
  | '\t' => ['\\', 't']
  | '\n' => ['\\', 'n']
  | '\x0b' => ['\\', 'v']
  | '\x0c' => ['\\', 'f']
  | '\r' => ['\\', 'r']
  | '\x1b' => ['\\', 'e']
  | '"' => ['\\', '"']
  | '\\' => ['\\', '\\']
  | '\u0085' => ['\\', 'N']
  | '\u2028' => ['\\', 'L']
  | '\u2029' => ['\\', 'P']
  | c =>
    let n := c.toNat
    if isPrintable c then [c]
    else if n ≤ 0xff then '\\' :: 'x' :: hex 2 n
    else if n ≤ 0xffff then '\\' :: 'u' :: hex 4 n
    else '\\' :: 'U' :: hex 8 n

/-- The characters of a text of several lines: every line that is not empty is indented, the first
only if `fresh`. -/
def lines (depth : Nat) (write : Char → List Char) : (fresh : Bool) → List Char → List Char
  | _, [] => []
  | fresh, c :: rest =>
    if isBreak c then c :: lines depth write true rest
    else (if fresh then pad depth else []) ++ write c ++ lines depth write false rest

/-- A text in single quotes, where a quote is written twice. -/
def single (depth : Nat) (cs : List Char) : List Char :=
  let body := lines depth (fun c => if c = '\x27' then [c, c] else [c]) false cs
  '\x27' :: body ++ (if cs.getLast?.any isBreak then pad depth else []) ++ ['\x27']

/-- The marks at the head of a literal block: the depth if the text does not show it, and what
becomes of the line breaks at the end. -/
def literalMarks (cs : List Char) : List Char :=
  let depth := if cs.head?.any fun c => c == ' ' || isBreak c then ['2'] else []
  let ending := match cs.reverse with
    | [] => ['-']
    | [c] => if isBreak c then ['+'] else ['-']
    | c :: d :: _ => if !isBreak c then ['-'] else if isBreak d then ['+'] else []
  '|' :: depth ++ ending

/-- A text in its form. -/
def text (depth : Nat) (isKey : Bool) (s : String) : List Char :=
  let cs := s.toList
  match form isKey s with
  | .plain => cs
  | .single => single depth cs
  | .double => '"' :: cs.flatMap escape ++ ['"']
  | .literal => literalMarks cs ++ '\n' :: lines depth (fun c => [c]) true cs

/-- The end of a line, unless the text has ended it. -/
def endLine (cs : List Char) : List Char := if cs.getLast?.any isBreak then cs else cs ++ ['\n']

/-! ### Values -/

/-- Whether a text can stand before its colon on one line. -/
def isSimpleKey (s : String) : Bool := s.utf8ByteSize ≤ 128 && !s.toList.any isBreak

/-- A key with its colon. -/
def key (depth : Nat) (s : String) : List Char :=
  if isSimpleKey s then text (depth + 2) true s ++ [':']
  else '?' :: ' ' :: endLine (text (depth + 2) false s) ++ pad depth ++ [':']

/-- A value that is neither a sequence nor a mapping. -/
def scalar (depth : Nat) : Json → List Char
  | .string s => text depth false s
  | v => Json.Writer.scalar v

mutual

/-- A value behind a key at a depth. -/
def afterKey (depth : Nat) : Json → List Char
  | .array [] => " []\n".toList
  | .array items => '\n' :: sequence depth items
  | .object [] => " \x7b\x7d\n".toList
  | .object members => '\n' :: mapping (depth + 2) members
  | v => ' ' :: endLine (scalar (depth + 2) v)

/-- A value behind the dash of a sequence at a depth. -/
def afterDash (depth : Nat) : Json → List Char
  | .array [] => " []\n".toList
  | .array items => ' ' :: (sequence (depth + 2) items).drop (depth + 2)
  | .object [] => " \x7b\x7d\n".toList
  | .object members => ' ' :: (mapping (depth + 2) members).drop (depth + 2)
  | v => ' ' :: endLine (scalar (depth + 2) v)

/-- The items of a sequence at a depth. -/
def sequence (depth : Nat) : List Json → List Char
  | [] => []
  | v :: rest => pad depth ++ '-' :: afterDash depth v ++ sequence depth rest

/-- The members of a mapping at a depth. -/
def mapping (depth : Nat) : List (String × Json) → List Char
  | [] => []
  | (k, v) :: rest => pad depth ++ key depth k ++ afterKey depth v ++ mapping depth rest

end

/-- A whole text. -/
def document : Json → List Char
  | .array [] => "[]\n".toList
  | .array items => sequence 0 items
  | .object [] => "\x7b\x7d\n".toList
  | .object members => mapping 0 members
  | v => endLine (scalar 0 v)

end Yaml.Writer

/-- The YAML text of a value. -/
def Json.yaml (v : Json) : String := String.ofList (Yaml.Writer.document v)

end LeaseQueue
