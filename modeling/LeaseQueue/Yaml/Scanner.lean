/-
YAML texts as tokens.

* `Yaml.Token`: the tokens, with the ends of block collections made explicit;
* `Yaml.Scanner`: the tokens so far, the indentation of the open block collections, and the tokens
  that may turn out to be keys, one of the block context and one of every open flow collection;
* `Yaml.tokens?`: all tokens of a text, or none when the text breaks a rule.

A key without a question mark is noticed at its colon. Its mark is then put in front of it, together
with the start of a block mapping when it stands to the right of the current indentation.
-/
import LeaseQueue.Yaml.Cursor

namespace LeaseQueue.Yaml

/-- The parts of a text. -/
inductive Token where
  | streamEnd
  | version (major minor : Nat)
  | tagHandle (handle : String) (meaning : List UInt8)
  | documentStart
  | documentEnd
  | blockSequence
  | blockMapping
  | blockEnd
  | flowSequence
  | flowSequenceEnd
  | flowMapping
  | flowMappingEnd
  | blockEntry
  | flowEntry
  | key
  | value
  | alias (name : String)
  | anchor (name : String)
  | tag (handle : String) (suffix : List UInt8)
  | scalar (text : String) (style : Style)
deriving DecidableEq, Repr

/-- A token that may turn out to be a key. -/
structure Candidate where
  /-- Whether it has to be one, for it starts a line of a block mapping. -/
  required : Bool
  /-- Where its mark would go among the tokens. -/
  place : Nat
  index : Nat
  line : Nat
  column : Nat
deriving Repr

/-- What has been read of a text. -/
structure Scanner where
  cursor : Cursor
  tokens : Array Token
  /-- The column of the innermost block collection, `-1` outside of all. -/
  indent : Int
  /-- The columns of the block collections around it. -/
  outer : List Int
  /-- Whether a key may start here. -/
  keyAllowed : Bool
  /-- The candidate of the block context. -/
  candidate : Option Candidate
  /-- The candidates of the open flow collections, innermost first. -/
  flow : List (Option Candidate)

namespace Scanner

/-- Nothing has been read. -/
def start (text : String) : Scanner := ⟨.start text, #[], -1, [], true, none, []⟩

/-- Whether a flow collection is open. -/
def inFlow (s : Scanner) : Bool := !s.flow.isEmpty

/-- Add a token. -/
def emit (s : Scanner) (t : Token) : Scanner := { s with tokens := s.tokens.push t }

/-- Move over characters that are no breaks. -/
def advance (s : Scanner) (n : Nat) : Scanner := { s with cursor := s.cursor.advance n }

/-- Set whether a key may start here. -/
def allowKey (s : Scanner) (b : Bool) : Scanner := { s with keyAllowed := b }

/-! ### Keys -/

/-- The candidate of the innermost collection. -/
def innermost (s : Scanner) : Option Candidate :=
  match s.flow with
  | c :: _ => c
  | [] => s.candidate

/-- Set the candidate of the innermost collection. -/
def setInnermost (s : Scanner) (c : Option Candidate) : Scanner :=
  match s.flow with
  | _ :: rest => { s with flow := c :: rest }
  | [] => { s with candidate := c }

/-- Give up the candidate of the innermost collection, which must not be required. -/
def dropCandidate? (s : Scanner) : Option Scanner :=
  if s.innermost.any (·.required) then none else some (s.setInnermost none)

/-- Make the token that starts here a candidate, if a key may start here. -/
def saveCandidate? (s : Scanner) : Option Scanner :=
  if !s.keyAllowed then some s
  else
    let c := s.cursor
    let required := !s.inFlow && s.indent == (c.column : Int)
    s.dropCandidate?.map fun s =>
      s.setInnermost (some ⟨required, s.tokens.size, c.index, c.line, c.column⟩)

/-- Whether a key must be over: it may not go beyond its line, nor beyond 1024 bytes. -/
def isStale (s : Scanner) (c : Candidate) : Bool :=
  c.line < s.cursor.line || c.index + 1024 < s.cursor.index

/-- Give up the candidate of the block context if it is over, which must not be required. The
candidates of flow collections are never required, and whether they are over is seen at their
colon. -/
def dropStale? (s : Scanner) : Option Scanner :=
  match s.candidate with
  | some c =>
    if !s.isStale c then some s
    else if c.required then none
    else some { s with candidate := none }
  | none => some s

/-! ### Indentation -/

/-- Open a block collection at a column to the right of the current one; its token goes to a given
place. -/
def openBlock (s : Scanner) (column : Nat) (place : Nat) (t : Token) : Scanner :=
  if !s.inFlow && s.indent < column then
    { s with
      indent := column
      outer := s.indent :: s.outer
      tokens := s.tokens.insertIdxIfInBounds place t }
  else s

/-- The block collections that end at a column: the innermost one left, the ones around it, and
how many have ended. -/
def unwind (column : Int) : Int → List Int → Int × List Int × Nat
  | indent, [] => (indent, [], 0)
  | indent, next :: outer =>
    if column < indent then
      let (indent, outer, n) := unwind column next outer
      (indent, outer, n + 1)
    else (indent, next :: outer, 0)

/-- Close the block collections to the right of a column. -/
def closeBlocks (s : Scanner) (column : Int) : Scanner :=
  if s.inFlow then s
  else
    let (indent, outer, n) := unwind column s.indent s.outer
    { s with indent, outer, tokens := s.tokens ++ Array.replicate n .blockEnd }

/-! ### Between tokens -/

/-- Move to the next token. A byte order mark may start a line, and tabs may not stand where a key
may start in a block. -/
def skipSpace : Nat → Scanner → Scanner
  | 0, s => s
  | fuel + 1, s =>
    let tabs := s.inFlow || !s.keyAllowed
    let c := s.cursor
    let c := if c.column == 0 && c.sees ['\ufeff'] then c.advance 1 else c
    let c := (c.span fun x => x == ' ' || (tabs && x == '\t')).2.skipComment
    if c.rest.head?.any isBreak then
      skipSpace fuel { s with cursor := c.takeBreak.2, keyAllowed := !s.inFlow || s.keyAllowed }
    else { s with cursor := c }

/-! ### Tokens -/

/-- A start of a new document, in which nothing is open. -/
def reset? (s : Scanner) : Option Scanner :=
  ((s.closeBlocks (-1)).dropCandidate?).map (·.allowKey false)

/-- A character that opens a flow collection. -/
def openFlow? (s : Scanner) (t : Token) : Option Scanner :=
  s.saveCandidate?.map fun s =>
    (({ s with flow := none :: s.flow }.allowKey true).advance 1).emit t

/-- A character that closes a flow collection. -/
def closeFlow? (s : Scanner) (t : Token) : Option Scanner :=
  s.dropCandidate?.map fun s =>
    (({ s with flow := s.flow.drop 1 }.allowKey false).advance 1).emit t

/-- The comma between items of a flow collection. -/
def flowEntry? (s : Scanner) : Option Scanner :=
  s.dropCandidate?.map fun s => ((s.allowKey true).advance 1).emit .flowEntry

/-- The dash before an item of a block sequence. -/
def blockEntry? (s : Scanner) : Option Scanner := do
  if !s.inFlow && !s.keyAllowed then failure
  let s ← (s.openBlock s.cursor.column s.tokens.size .blockSequence).dropCandidate?
  return ((s.allowKey true).advance 1).emit .blockEntry

/-- The question mark before a key. -/
def key? (s : Scanner) : Option Scanner := do
  if !s.inFlow && !s.keyAllowed then failure
  let s ← (s.openBlock s.cursor.column s.tokens.size .blockMapping).dropCandidate?
  return ((s.allowKey !s.inFlow).advance 1).emit .key

/-- The colon before a value. -/
def value? (s : Scanner) : Option Scanner :=
  match s.innermost.filter (!s.isStale ·) with
  | some c =>
    let s := s.setInnermost none
    let s := { s with tokens := s.tokens.insertIdxIfInBounds c.place .key }
    some ((((s.openBlock c.column c.place .blockMapping).allowKey false).advance 1).emit .value)
  | none =>
    if !s.inFlow && !s.keyAllowed then none
    else
      let s := s.openBlock s.cursor.column s.tokens.size .blockMapping
      some (((s.allowKey !s.inFlow).advance 1).emit .value)

/-- The name after the mark of an anchor or an alias. -/
def name? (s : Scanner) (token : String → Token) : Option Scanner := do
  let s ← s.saveCandidate?
  let (name, c) := (s.cursor.advance 1).span isWord
  let after (x : Char) : Bool :=
    isBlank x || isBreak x || ['?', ':', ',', ']', '\x7d', '%', '@', '\x60'].contains x
  if name.isEmpty || !c.endsOr 0 after then failure
  return ({ s with cursor := c }.allowKey false).emit (token (String.ofList name))

/-- A block scalar. -/
def blockScalar? (s : Scanner) (style : Style) : Option Scanner := do
  let s ← s.dropCandidate?
  let (text, c) ← (s.cursor.advance 1).block? (style == .folded) s.indent
  return ({ s with cursor := c }.allowKey true).emit (.scalar (String.ofList text.reverse) style)

/-- A quoted scalar. -/
def quotedScalar? (s : Scanner) (single : Bool) : Option Scanner := do
  let s ← s.saveCandidate?
  let (text, c) ← (s.cursor.advance 1).quoted? single (s.cursor.fuel) []
  return ({ s with cursor := c }.allowKey false).emit (.scalar (String.ofList text.reverse) .quoted)

/-- A plain scalar. -/
def plainScalar? (s : Scanner) : Option Scanner := do
  let s ← s.saveCandidate?
  let fuel := s.cursor.fuel
  let (text, c, newLine) ← s.cursor.plain? s.inFlow (s.indent + 1).toNat fuel [] .empty
  let s := { s with cursor := c }.allowKey newLine
  return s.emit (.scalar (String.ofList text.reverse) .plain)

/-! ### Tags -/

/-- Characters of the suffix of a tag. -/
def isTagChar (verbatim : Bool) (c : Char) : Bool :=
  isWord c || ";/?:@&=+$.!~*\x27()".contains c || (verbatim && ",[]".contains c)

/-- A byte written as a percent sign and two digits. -/
def percentByte? : List Char → Option UInt8
  | '%' :: a :: b :: _ => (Scalar.natural? 16 [a, b]).map UInt8.ofNat
  | _ => none

/-- The number of bytes of the character that a byte starts. -/
def byteWidth? (b : UInt8) : Option Nat :=
  let n := b.toNat
  if n < 0x80 then some 1
  else if n / 0x20 = 0x06 then some 2
  else if n / 0x10 = 0x0E then some 3
  else if n / 0x08 = 0x1E then some 4
  else none

/-- So many bytes that go on with a character. -/
def moreBytes? : Nat → Cursor → Option (List UInt8 × Cursor)
  | 0, c => some ([], c)
  | n + 1, c => do
    let b ← percentByte? c.rest
    if b.toNat / 0x40 ≠ 2 then failure
    let (bs, c) ← moreBytes? n (c.advance 3)
    return (b :: bs, c)

/-- The bytes of one character, each with a percent sign. -/
def percentChar? (c : Cursor) : Option (List UInt8 × Cursor) := do
  let b ← percentByte? c.rest
  let (bs, c) ← moreBytes? ((← byteWidth? b) - 1) (c.advance 3)
  return (b :: bs, c)

/-- The suffix of a tag: its characters with percent signs decoded, last first, and the place after
it. -/
def suffixBytes? (verbatim : Bool) : Nat → List UInt8 → Cursor → Option (List UInt8 × Cursor)
  | 0, _, _ => none
  | fuel + 1, acc, c =>
    match c.rest with
    | x :: _ =>
      if x = '%' then
        match percentChar? c with
        | some (bs, c) => suffixBytes? verbatim fuel (bs.reverse ++ acc) c
        | none => none
      else if isTagChar verbatim x then
        suffixBytes? verbatim fuel (x.toNat.toUInt8 :: acc) (c.advance 1)
      else some (acc, c)
    | [] => some (acc, c)

/-- The suffix of a tag, which ends before a zero byte, whether anything is written, and the place
after it. -/
def suffix? (verbatim : Bool) (c : Cursor) : Option (List UInt8 × Bool × Cursor) :=
  (suffixBytes? verbatim c.fuel [] c).map fun (bs, c) =>
    (bs.reverse.takeWhile (· != 0), !bs.isEmpty, c)

/-- The handle of a tag: marks around a word, or the mark alone; whether it ends with a mark of its
own. -/
def handle (c : Cursor) : String × Bool × Cursor :=
  let (word, after) := (c.advance 1).span isWord
  if after.sees ['!'] then (String.ofList ('!' :: word ++ ['!']), true, after.advance 1)
  else (String.ofList ('!' :: word), false, after)

/-- The handle and the suffix of a tag. -/
def tagParts? (c : Cursor) : Option (String × List UInt8 × Cursor) := do
  if c.sees ['!', '<'] then
    let (suffix, written, c) ← suffix? true (c.advance 2)
    if !written || !c.sees ['>'] then failure
    return ("", suffix, c.advance 1)
  else
    let (h, closed, after) := handle c
    if closed then
      let (suffix, written, after) ← suffix? false after
      if !written then failure
      return (h, suffix, after)
    else
      let (suffix, _, after) ← suffix? false (c.advance 1)
      if suffix.isEmpty then return ("", [Tag.mark], after) else return ("!", suffix, after)

/-- A tag. -/
def tag? (s : Scanner) : Option Scanner := do
  let s ← s.saveCandidate?
  let (h, suffix, c) ← tagParts? s.cursor
  if !(c.spaceAt 0 || (s.inFlow && c.sees [','])) then failure
  return ({ s with cursor := c }.allowKey false).emit (.tag h suffix)

/-! ### Directives -/

/-- A number of at most nine digits. -/
def versionNumber? (c : Cursor) : Option (Nat × Cursor) :=
  let (ds, c) := c.span Char.isDigit
  if ds.isEmpty || 9 < ds.length then none else some (Nat.ofDigitChars 10 ds 0, c)

/-- What follows the name of a directive. -/
def directiveBody? (name : String) (c : Cursor) : Option (Token × Cursor) := do
  let c := c.skipBlanks
  match name with
  | "YAML" =>
    let (major, c) ← versionNumber? c
    if !c.sees ['.'] then failure
    let (minor, c) ← versionNumber? (c.advance 1)
    return (.version major minor, c)
  | "TAG" =>
    if !c.sees ['!'] then failure
    let (h, closed, c) := handle c
    if !closed && h != "!" then failure
    if c.rest.head?.all (!isBlank ·) then failure
    let c := c.skipBlanks
    let (meaning, written, c) ← suffix? true c
    if !written || !c.spaceAt 0 then failure
    return (.tagHandle h meaning, c)
  | _ => failure

/-- A line that starts with a percent sign. -/
def directive? (s : Scanner) : Option Scanner := do
  let s ← s.reset?
  let (name, c) := (s.cursor.advance 1).span isWord
  if name.isEmpty || !c.spaceAt 0 then failure
  let (t, c) ← directiveBody? (String.ofList name) c
  let c ← c.finishLine?
  return { s with cursor := c }.emit t

/-! ### The whole text -/

/-- Whether a plain scalar may start here. -/
def startsPlain (s : Scanner) : Bool :=
  match s.cursor.rest with
  | [] => false
  | x :: rest =>
    let blankNext := rest.head?.any isBlank
    !(isBlank x || isBreak x || "-?:,[]\x7b\x7d#&*!|>\x27\"%@\x60".contains x)
      || (x == '-' && !blankNext)
      || (!s.inFlow && (x == '?' || x == ':') && !s.cursor.spaceAt 1)

/-- The token that starts with a character. -/
def token? (s : Scanner) (x : Char) : Option Scanner :=
  let c := s.cursor
  let atSpace := c.spaceAt 1
  if c.column == 0 && x == '%' then s.directive?
  else if c.atMark then
    s.reset?.map fun s =>
      (s.advance 3).emit (if x == '-' then .documentStart else .documentEnd)
  else if x == '[' then s.openFlow? .flowSequence
  else if x == '\x7b' then s.openFlow? .flowMapping
  else if x == ']' then s.closeFlow? .flowSequenceEnd
  else if x == '\x7d' then s.closeFlow? .flowMappingEnd
  else if x == ',' then s.flowEntry?
  else if x == '-' && atSpace then s.blockEntry?
  else if x == '?' && (s.inFlow || atSpace) then s.key?
  else if x == ':' && (s.inFlow || atSpace) then s.value?
  else if x == '*' then s.name? .alias
  else if x == '&' then s.name? .anchor
  else if x == '!' then s.tag?
  else if x == '|' && !s.inFlow then s.blockScalar? .literal
  else if x == '>' && !s.inFlow then s.blockScalar? .folded
  else if x == '\x27' then s.quotedScalar? true
  else if x == '"' then s.quotedScalar? false
  else if s.startsPlain then s.plainScalar?
  else none

/-- The tokens up to the end of the text. -/
def run? : Nat → Scanner → Option (Array Token)
  | 0, _ => none
  | fuel + 1, s =>
    match (skipSpace (s.cursor.fuel) s).dropStale? with
    | none => none
    | some s =>
      let s := s.closeBlocks s.cursor.column
      match s.cursor.rest with
      | [] => s.reset?.map fun s => (s.emit .streamEnd).tokens
      | x :: _ =>
        match s.token? x with
        | none => none
        | some s => run? fuel s

end Scanner

/-- All tokens of a text. -/
def tokens? (text : String) : Option (List Token) :=
  if text.toList.all isAllowed then
    (Scanner.run? (text.length + 2) (.start text)).map Array.toList
  else none

end LeaseQueue.Yaml
