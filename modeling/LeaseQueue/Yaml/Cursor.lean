/-
A place in a YAML text, and the scalars that start there.

* `Yaml.Cursor`: the characters that are left, with the bytes, lines and columns before them;
* `Cursor.gap?`: the white space between words of a scalar, and the text it folds to;
* `Cursor.quoted?`, `plain?`, `block?`: the text of a scalar in each style, and the place after it.

A single break between words folds to a space, and of more than one the first is dropped. A text
is gathered with its last character first, so that adding to it takes no longer as it grows. All
loops run on fuel, and the size of the text is always enough.
-/
import LeaseQueue.Yaml.Basic

namespace LeaseQueue.Yaml

/-- A place in a text. -/
structure Cursor where
  rest : List Char
  /-- The bytes of the characters in front. -/
  index : Nat
  line : Nat
  /-- The characters in front on this line. -/
  column : Nat
  /-- A bound for the number of steps through the text. -/
  fuel : Nat
deriving Repr

/-! ### Characters -/

/-- Characters that end a line. -/
def isBreak (c : Char) : Bool :=
  c == '\n' || c == '\r' || c == '\u0085' || c == '\u2028' || c == '\u2029'

/-- A space or a tab. -/
def isBlank (c : Char) : Bool := c == ' ' || c == '\t'

/-- Characters of names and handles. -/
def isWord (c : Char) : Bool := (c.isAlphanum && c.toNat < 128) || c == '_' || c == '-'

/-- Characters that may stand in a text. -/
def isAllowed (c : Char) : Bool :=
  let n := c.toNat
  n == 0x09 || n == 0x0A || n == 0x0D || (0x20 ≤ n && n ≤ 0x7E) || n == 0x85
    || (0xA0 ≤ n && n ≤ 0xD7FF) || (0xE000 ≤ n && n ≤ 0xFFFD) || 0x10000 ≤ n

namespace Cursor

/-- The start of a text. -/
def start (text : String) : Cursor := ⟨text.toList, 0, 0, 0, text.length + 1⟩

/-- The bytes of characters. -/
def byteCount (cs : List Char) : Nat := cs.foldl (fun n c => n + c.utf8Size) 0

/-- Whether the character at an offset is missing or satisfies a condition. -/
def endsOr (c : Cursor) (offset : Nat) (p : Char → Bool) : Bool := (c.rest[offset]?).all p

/-- Whether the character at an offset is a blank, a break or missing. -/
def spaceAt (c : Cursor) (offset : Nat) : Bool := c.endsOr offset fun x => isBlank x || isBreak x

/-- Whether the next characters are the given ones. -/
def sees (c : Cursor) (cs : List Char) : Bool := cs.isPrefixOf c.rest

/-- Whether a mark between documents stands here. -/
def atMark (c : Cursor) : Bool :=
  c.column == 0 && (c.sees ['-', '-', '-'] || c.sees ['.', '.', '.']) && c.spaceAt 3

/-- Move over characters that are no breaks. -/
def advance (c : Cursor) (n : Nat) : Cursor :=
  { c with
    rest := c.rest.drop n
    index := c.index + byteCount (c.rest.take n)
    column := c.column + n }

/-- Move over the break that stands here; the text it counts as, of at most one character. -/
def takeBreak (c : Cursor) : List Char × Cursor :=
  let next (n : Nat) : Cursor := { c.advance n with line := c.line + 1, column := 0 }
  match c.rest with
  | '\r' :: '\n' :: _ => (['\n'], next 2)
  | '\u2028' :: _ => (['\u2028'], next 1)
  | '\u2029' :: _ => (['\u2029'], next 1)
  | [] => ([], c)
  | _ => (['\n'], next 1)

/-- Move over the characters that satisfy a condition, none of them a break. -/
def span (c : Cursor) (p : Char → Bool) : List Char × Cursor :=
  let taken := c.rest.takeWhile p
  (taken, c.advance taken.length)

/-- Move over blanks. -/
def skipBlanks (c : Cursor) : Cursor := (c.span isBlank).2

/-- Move over a comment, if one stands here. -/
def skipComment (c : Cursor) : Cursor :=
  if c.sees ['#'] then (c.span fun x => !isBreak x).2 else c

/-- Move over blanks and a comment to the end of the line, and over its break; none when something
else stands there. -/
def finishLine? (c : Cursor) : Option Cursor :=
  let c := c.skipBlanks.skipComment
  if c.endsOr 0 isBreak then some c.takeBreak.2 else none

/-! ### Gaps -/

/-- White space between words, each part with its last character first. -/
structure Gap where
  /-- Blanks before the first break. -/
  blanks : List Char
  /-- The first break. -/
  first : List Char
  /-- The breaks after the first. -/
  more : List Char
  /-- Whether there is a break. -/
  broken : Bool

/-- No white space. -/
def Gap.empty : Gap := ⟨[], [], [], false⟩

/-- The gap behind an escaped break, which counts for nothing. -/
def Gap.escaped : Gap := ⟨[], [], [], true⟩

/-- What a gap folds to, last character first. -/
def Gap.text (g : Gap) : List Char :=
  if !g.broken then g.blanks
  else if g.first = ['\n'] then if g.more.isEmpty then [' '] else g.more
  else g.more ++ g.first

/-- Move over blanks and breaks. A tab before column `indent` of a later line is refused. -/
def gap? (indent : Nat) : Nat → Gap → Cursor → Option (Gap × Cursor)
  | 0, _, _ => none
  | fuel + 1, g, c =>
    match c.rest with
    | [] => some (g, c)
    | x :: _ =>
      if isBlank x then
        if g.broken then
          if x = '\t' ∧ c.column < indent then none else gap? indent fuel g (c.advance 1)
        else gap? indent fuel { g with blanks := x :: g.blanks } (c.advance 1)
      else if isBreak x then
        let (text, c) := c.takeBreak
        if g.broken then gap? indent fuel { g with more := text ++ g.more } c
        else gap? indent fuel { g with blanks := [], first := text, broken := true } c
      else some (g, c)

/-! ### Quoted scalars -/

/-- The character of one letter after a backslash. -/
def escape? : Char → Option Char
  | '0' => some '\x00'
  | 'a' => some '\x07'
  | 'b' => some '\x08'
  | 't' | '\t' => some '\t'
  | 'n' => some '\n'
  | 'v' => some '\x0b'
  | 'f' => some '\x0c'
  | 'r' => some '\r'
  | 'e' => some '\x1b'
  | ' ' => some ' '
  | '"' => some '"'
  | '/' => some '/'
  | '\\' => some '\\'
  | 'N' => some '\u0085'
  | '_' => some '\u00a0'
  | 'L' => some '\u2028'
  | 'P' => some '\u2029'
  | _ => none

/-- The number of hexadecimal digits after a letter. -/
def escapeWidth? : Char → Option Nat
  | 'x' => some 2
  | 'u' => some 4
  | 'U' => some 8
  | _ => none

/-- The character of a backslash and what follows it. -/
def takeEscape? (c : Cursor) : Option (Char × Cursor) :=
  match c.rest with
  | '\\' :: e :: rest =>
    match escapeWidth? e with
    | none => (escape? e).map fun x => (x, c.advance 2)
    | some width => do
      let ds := rest.take width
      if ds.length < width then failure
      let n ← Scalar.natural? 16 ds
      if n.isValidChar then return (Char.ofNat n, c.advance (2 + width)) else failure
  | _ => none

/-- What ends a word between quotes. -/
inductive WordEnd where
  | quote
  | space
  | escapedBreak

/-- The characters of a word between quotes, up to the quote, to white space or over an escaped
break; the last one first. -/
def quotedWord? (single : Bool) : Nat → List Char → Cursor → Option (List Char × WordEnd × Cursor)
  | 0, _, _ => none
  | fuel + 1, acc, c =>
    match c.rest with
    | [] => none
    | x :: rest =>
      if isBlank x || isBreak x then some (acc, .space, c)
      else if single then
        if x = '\x27' then
          if rest.head? = some '\x27' then quotedWord? single fuel ('\x27' :: acc) (c.advance 2)
          else some (acc, .quote, c.advance 1)
        else quotedWord? single fuel (x :: acc) (c.advance 1)
      else if x = '"' then some (acc, .quote, c.advance 1)
      else if x = '\\' then
        if rest.head?.any isBreak then
          some (acc, .escapedBreak, (c.advance 1).takeBreak.2)
        else
          match c.takeEscape? with
          | some (e, c) => quotedWord? single fuel (e :: acc) c
          | none => none
      else quotedWord? single fuel (x :: acc) (c.advance 1)

/-- The text of a quoted scalar after its opening quote, last character first. -/
def quoted? (single : Bool) : Nat → List Char → Cursor → Option (List Char × Cursor)
  | 0, _, _ => none
  | fuel + 1, acc, c =>
    if c.atMark then none
    else
      match quotedWord? single (c.fuel) [] c with
      | none => none
      | some (word, .quote, c) => some (word ++ acc, c)
      | some (word, stop, c) =>
        let before := match stop with
          | .escapedBreak => Gap.escaped
          | _ => Gap.empty
        match gap? 0 (c.fuel) before c with
        | none => none
        | some (g, c) => quoted? single fuel (g.text ++ word ++ acc) c

/-! ### Plain scalars -/

/-- The characters that delimit the items of flow collections. -/
def isFlowMark (c : Char) : Bool :=
  c == ',' || c == '[' || c == ']' || c == '\x7b' || c == '\x7d'

/-- The characters of a plain word, the last one first; none when a colon stands where it must
not. -/
def plainWord? (flow : Bool) : Nat → List Char → Cursor → Option (List Char × Cursor)
  | 0, _, _ => none
  | fuel + 1, acc, c =>
    match c.rest with
    | [] => some (acc, c)
    | x :: rest =>
      if isBlank x || isBreak x then some (acc, c)
      else if flow && x == ':' && rest.head?.any (fun y => isFlowMark y || y == '?') then none
      else if (x == ':' && c.spaceAt 1) || (flow && isFlowMark x) then some (acc, c)
      else plainWord? flow fuel (x :: acc) (c.advance 1)

/-- The text of a plain scalar whose later lines stand at `indent` or to the right of it, last
character first, the place after it and whether that is on a new line. `acc` is the text so far and
`g` the gap after it. -/
def plain? (flow : Bool) (indent : Nat) :
    Nat → List Char → Gap → Cursor → Option (List Char × Cursor × Bool)
  | 0, _, _, _ => none
  | fuel + 1, acc, g, c =>
    if c.atMark || c.sees ['#'] then some (acc, c, g.broken)
    else
      match plainWord? flow (c.fuel) [] c with
      | none => none
      | some (word, c) =>
        let (acc, g) := if word.isEmpty then (acc, g) else (word ++ g.text ++ acc, Gap.empty)
        if !(c.rest.head?.any fun x => isBlank x || isBreak x) then some (acc, c, g.broken)
        else
          match gap? indent (c.fuel) g c with
          | none => none
          | some (g, c) =>
            if !flow && c.column < indent then some (acc, c, g.broken)
            else plain? flow indent fuel acc g c

/-! ### Block scalars -/

/-- What becomes of the breaks at the end of a block scalar. -/
inductive Chomp where
  | strip
  | clip
  | keep
deriving DecidableEq

/-- The chomping and the indentation given in the head of a block scalar, in either order. -/
def blockHead? (c : Cursor) : Option (Chomp × Nat × Cursor) :=
  let chomp? : Char → Option Chomp
    | '+' => some .keep
    | '-' => some .strip
    | _ => none
  let digit? (x : Char) : Option (Option Nat) :=
    if x = '0' then some none else if x.isDigit then some (some (x.toNat - 48)) else none
  match c.rest with
  | x :: rest =>
    match chomp? x with
    | some chomp =>
      match rest.head?.bind digit? with
      | some (some n) => some (chomp, n, c.advance 2)
      | some none => none
      | none => some (chomp, 0, c.advance 1)
    | none =>
      match digit? x with
      | some (some n) =>
        match rest.head?.bind chomp? with
        | some chomp => some (chomp, n, c.advance 2)
        | none => some (.clip, n, c.advance 1)
      | some none => none
      | none => some (.clip, 0, c)
  | [] => some (.clip, 0, c)

/-- Move over empty lines and the indentation of the next line. With `indent` zero every space is
indentation. The greatest column seen, the breaks, the last one first, and the place after them. -/
def blockBreaks? (indent : Nat) : Nat → Nat → List Char → Cursor → Option (Nat × List Char × Cursor)
  | 0, _, _, _ => none
  | fuel + 1, widest, breaks, c =>
    let spaces := (c.rest.takeWhile (· == ' ')).length
    let c := c.advance (if indent = 0 then spaces else min spaces (indent - c.column))
    let widest := max widest c.column
    match c.rest with
    | [] => some (widest, breaks, c)
    | x :: _ =>
      if x = '\t' ∧ (indent = 0 ∨ c.column < indent) then none
      else if isBreak x then
        let (text, c) := c.takeBreak
        blockBreaks? indent fuel widest (text ++ breaks) c
      else some (widest, breaks, c)

/-- A block scalar between two of its lines, each part with its last character first. -/
structure BlockText where
  text : List Char
  /-- The break after the last line. -/
  last : List Char
  /-- The breaks of empty lines after it. -/
  empties : List Char
  /-- Whether the last line starts with a blank. -/
  blank : Bool

/-- What the breaks before a line become, last character first. -/
def BlockText.join (b : BlockText) (fold : Bool) (blank : Bool) : List Char :=
  if fold && b.last = ['\n'] && !b.blank && !blank then
    if b.empties.isEmpty then [' '] else b.empties
  else b.empties ++ b.last

/-- The lines of a block scalar. -/
def blockLines? (fold : Bool) (indent : Nat) :
    Nat → BlockText → Cursor → Option (BlockText × Cursor)
  | 0, _, _ => none
  | fuel + 1, b, c =>
    match c.rest with
    | [] => some (b, c)
    | x :: _ =>
      if c.column ≠ indent then some (b, c)
      else
        let blank := isBlank x
        let (line, c) := c.span fun x => !isBreak x
        let (last, c) := c.takeBreak
        match blockBreaks? indent (c.fuel) 0 [] c with
        | none => none
        | some (_, empties, c) =>
          let text := line.reverse ++ b.join fold blank ++ b.text
          let b := { text, last, empties, blank }
          blockLines? fold indent fuel b c

/-- The text of a block scalar after its first character, last character first; `parent` is the
indentation around it. -/
def block? (fold : Bool) (parent : Int) (c : Cursor) : Option (List Char × Cursor) := do
  let (chomp, given, c) ← c.blockHead?
  let c ← c.finishLine?
  let known := if given = 0 then 0 else (max parent 0).toNat + given
  let (widest, empties, c) ← blockBreaks? known c.fuel 0 [] c
  let indent := if known = 0 then max (max widest (parent + 1).toNat) 1 else known
  let (b, c) ← blockLines? fold indent c.fuel ⟨[], [], empties, false⟩ c
  let tail := match chomp with
    | .strip => []
    | .clip => b.last
    | .keep => b.empties ++ b.last
  return (tail ++ b.text, c)

end Cursor

end LeaseQueue.Yaml
