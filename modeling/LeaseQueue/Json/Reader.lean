/-
Reading JSON texts.

* `Json.Reader.value`: one value at the head of a list of characters, with what follows it;
* `Json.parse?`: a text that holds one value, members in their written order;
* `Json.read?`: the same in canonical form;
* `Json.parseFields?`: the members of an object of which only some keys matter; the other values
  need only be well formed, at any depth and of any size.

A text is refused for a number beyond the range of 64-bit floating point, for nesting beyond
`Json.maxDepth`, for a surrogate without its partner, for a control character in a string and for
anything after the value.
-/
import LeaseQueue.Json.Basic

namespace LeaseQueue.Json

/-- The greatest number of arrays and objects around a value. -/
def maxDepth : Nat := 127

namespace Reader

/-- How much of a value is checked. -/
inductive Care where
  /-- Everything: the value is wanted. -/
  | full
  /-- Only the form: the value is passed over. -/
  | form
deriving DecidableEq

/-! ### White space -/

/-- The four characters allowed between tokens. -/
def isSpace (c : Char) : Bool := c == ' ' || c == '\n' || c == '\t' || c == '\r'

/-- Drop the white space at the head. -/
def skip (cs : List Char) : List Char := cs.dropWhile isSpace

/-! ### Strings -/

/-- The value of a hexadecimal digit. -/
def hexDigit? (c : Char) : Option Nat :=
  if '0' ≤ c ∧ c ≤ '9' then some (c.toNat - 48)
  else if 'a' ≤ c ∧ c ≤ 'f' then some (c.toNat - 87)
  else if 'A' ≤ c ∧ c ≤ 'F' then some (c.toNat - 55)
  else none

/-- The code unit written by four hexadecimal digits. -/
def hexUnit? (a b c d : Char) : Option Nat := do
  let a ← hexDigit? a
  let b ← hexDigit? b
  let c ← hexDigit? c
  let d ← hexDigit? d
  return ((a * 16 + b) * 16 + c) * 16 + d

/-- The character meant by a letter after a backslash. -/
def escaped? (c : Char) : Option Char :=
  match c with
  | '"' => some '"'
  | '\\' => some '\\'
  | '/' => some '/'
  | 'b' => some '\x08'
  | 'f' => some '\x0c'
  | 'n' => some '\n'
  | 'r' => some '\r'
  | 't' => some '\t'
  | _ => none

/-- Put a character in front of a string that has been read. -/
def push (c : Char) (r : Option (List Char × List Char)) : Option (List Char × List Char) :=
  r.map fun (s, rest) => (c :: s, rest)

/-- The rest of a string after its opening quote, and what follows the closing quote. -/
def stringBody (care : Care) : List Char → Option (List Char × List Char)
  | [] => none
  | '"' :: rest => some ([], rest)
  | '\\' :: 'u' :: a :: b :: c :: d :: rest =>
    match hexUnit? a b c d with
    | none => none
    | some n =>
      if care = .form then push (Char.ofNat n) (stringBody care rest)
      else if 0xD800 ≤ n ∧ n < 0xDC00 then
        match rest with
        | '\\' :: 'u' :: e :: f :: g :: h :: rest =>
          match hexUnit? e f g h with
          | none => none
          | some m =>
            if 0xDC00 ≤ m ∧ m < 0xE000 then
              push (Char.ofNat (0x10000 + (n - 0xD800) * 0x400 + (m - 0xDC00)))
                (stringBody care rest)
            else none
        | _ => none
      else if 0xDC00 ≤ n ∧ n < 0xE000 then none
      else push (Char.ofNat n) (stringBody care rest)
  | '\\' :: e :: rest =>
    match escaped? e with
    | none => none
    | some c => push c (stringBody care rest)
  | c :: rest => if c.toNat < 0x20 then none else push c (stringBody care rest)

/-! ### Numbers -/

/-- Add digits to a number for as long as it stays below `2 ^ 64`; also how many were added. -/
def absorb (n : Nat) : List Char → Nat × Nat
  | [] => (n, 0)
  | c :: rest =>
    let next := n * 10 + (c.toNat - 48)
    if next < UInt64.size then
      let (m, k) := absorb next rest
      (m, k + 1)
    else (n, 0)

/-- The quotient `x / 10 ^ n` by divisions through `10 ^ 308`, each of them rounded, until zero is
reached. -/
def scaleDown (x : Binary64) (n : Nat) : Nat → Option Binary64
  | 0 => some x
  | steps + 1 =>
    if n ≤ 308 then (Binary64.ofScientific? false 1 n).bind x.div?
    else if x.isZero then some x
    else ((Binary64.ofScientific? false 1 308).bind x.div?).bind (scaleDown · (n - 308) steps)

/-- The number `m · 10 ^ e` with `m < 2 ^ 64`: `m` and the power are rounded before their product
or quotient is. -/
def fromParts? (m : Nat) (e : Int) : Option Binary64 :=
  (Binary64.ofNat? false m).bind fun x =>
    if e < 0 then scaleDown x e.natAbs 4
    else if x.isZero then some x
    else if e ≤ 308 then (Binary64.ofScientific? false 1 e).bind x.mul?
    else none

/-- The digits at the head. -/
def digits (cs : List Char) : List Char × List Char := cs.span Char.isDigit

/-- The fraction at the head, if a point stands there. -/
def fraction? : List Char → Option (Option (List Char) × List Char)
  | '.' :: rest =>
    let (ds, rest) := digits rest
    if ds.isEmpty then none else some (some ds, rest)
  | cs => some (none, cs)

/-- The power of ten at the head, if there is one. -/
def exponent? : List Char → Option (Option Int × List Char)
  | c :: rest =>
    if c = 'e' ∨ c = 'E' then
      let (negative, rest) := match rest with
        | '+' :: rest => (false, rest)
        | '-' :: rest => (true, rest)
        | rest => (false, rest)
      let (ds, rest) := digits rest
      if ds.isEmpty then none
      else
        let n : Int := Nat.ofDigitChars 10 ds 0
        some (some (if negative then -n else n), rest)
    else some (none, c :: rest)
  | [] => some (none, [])

/-- The value of a number from its parts; none when it is out of range. -/
def numberValue? (negative : Bool) (ds : List Char) (frac : Option (List Char))
    (exp : Option Int) : Option Json :=
  let (n, kept) := absorb 0 ds
  let signed (x : Binary64) : Json := .real { x with negative }
  if frac.isNone && exp.isNone && kept == ds.length then
    if !negative then some (.whole n)
    else if 0 < n ∧ n ≤ Nat.pow 2 63 then some (.whole (-(n : Int)))
    else (Binary64.ofNat? false n).map signed
  else
    let (m, places) := absorb n (frac.getD [])
    let e : Int := (ds.length - kept : Nat) - (places : Int) + exp.getD 0
    (fromParts? m e).map signed

/-- A number without its sign: no leading zero, at least one digit in every part. -/
def number (care : Care) (negative : Bool) (cs : List Char) : Option (Json × List Char) := do
  let (ds, rest) := digits cs
  if ds.isEmpty || (ds.head? == some '0' && 1 < ds.length) then failure
  let (frac, rest) ← fraction? rest
  let (exp, rest) ← exponent? rest
  match care with
  | .full => return (← numberValue? negative ds frac exp, rest)
  | .form => return (.null, rest)

/-! ### Values -/

/-- A value that is neither an array nor an object. -/
def scalar (care : Care) : List Char → Option (Json × List Char)
  | 'n' :: 'u' :: 'l' :: 'l' :: rest => some (.null, rest)
  | 't' :: 'r' :: 'u' :: 'e' :: rest => some (.bool true, rest)
  | 'f' :: 'a' :: 'l' :: 's' :: 'e' :: rest => some (.bool false, rest)
  | '"' :: rest => (stringBody care rest).map fun (s, rest) => (.string (String.ofList s), rest)
  | '-' :: rest => number care true rest
  | cs => number care false cs

/-- Items after the opening bracket or a comma, up to the closing bracket. -/
def items (value : List Char → Option (Json × List Char)) :
    Nat → List Char → Option (List Json × List Char)
  | 0, _ => none
  | fuel + 1, cs => do
    let (v, rest) ← value cs
    match skip rest with
    | ',' :: rest =>
      let (vs, rest) ← items value fuel rest
      return (v :: vs, rest)
    | ']' :: rest => return ([v], rest)
    | _ => failure

/-- A key with its colon. -/
def key (care : Care) (cs : List Char) : Option (String × List Char) :=
  match skip cs with
  | '"' :: rest => do
    let (k, rest) ← stringBody care rest
    match skip rest with
    | ':' :: rest => return (String.ofList k, rest)
    | _ => failure
  | _ => none

/-- Members after the opening brace or a comma, up to the closing brace; the way a value is read
may depend on its key. -/
def members (care : Care) (value : String → List Char → Option (Json × List Char)) :
    Nat → List Char → Option (List (String × Json) × List Char)
  | 0, _ => none
  | fuel + 1, cs => do
    let (k, rest) ← key care cs
    let (v, rest) ← value k rest
    match skip rest with
    | ',' :: rest =>
      let (vs, rest) ← members care value fuel rest
      return ((k, v) :: vs, rest)
    | '\x7d' :: rest => return ([(k, v)], rest)
    | _ => failure

/-- The items of an array after its opening bracket; `fuel` bounds how many there are. -/
def arrayBody (value : List Char → Option (Json × List Char)) (fuel : Nat) (cs : List Char) :
    Option (List Json × List Char) :=
  match skip cs with
  | ']' :: rest => some ([], rest)
  | rest => items value fuel rest

/-- The members of an object after its opening brace; `fuel` bounds how many there are. -/
def objectBody (care : Care) (value : String → List Char → Option (Json × List Char))
    (fuel : Nat) (cs : List Char) : Option (List (String × Json) × List Char) :=
  match skip cs with
  | '\x7d' :: rest => some ([], rest)
  | rest => members care value fuel rest

/-- A value with at most `depth` arrays and objects around its innermost value. No array or object
has more than `fuel` parts; the length of the text is always enough. -/
def value (care : Care) (fuel : Nat) : Nat → List Char → Option (Json × List Char)
  | 0 => fun cs => scalar care (skip cs)
  | depth + 1 => fun cs =>
    match skip cs with
    | '[' :: rest =>
      (arrayBody (value care fuel depth) fuel rest).map fun (vs, rest) => (.array vs, rest)
    | '\x7b' :: rest =>
      (objectBody care (fun _ => value care fuel depth) fuel rest).map fun (ms, rest) =>
        (.object ms, rest)
    | rest => scalar care rest

/-- The result of a reading after which only white space remains. -/
def finish {α : Type} : Option (α × List Char) → Option α
  | some (v, rest) => if (skip rest).isEmpty then some v else none
  | none => none

end Reader

open Reader in
/-- The value of a text, members as written. -/
def parse? (text : String) : Option Json :=
  finish (value .full text.length maxDepth text.toList)

/-- The canonical value of a text. -/
def read? (text : String) : Option Json := (parse? text).map canonical

/-- What stands in a text that describes a structure with named fields. -/
inductive Fields where
  /-- Named values, in written order. -/
  | named (members : List (String × Json))
  /-- Values without names. -/
  | listed (items : List Json)

open Reader in
/-- The fields of a structure. A value whose name is not among `known` is passed over. -/
def parseFields? (known : List String) (text : String) : Option Fields :=
  let fuel := text.length
  let wanted := value .full fuel (maxDepth - 1)
  let ignored := value .form fuel fuel
  match skip text.toList with
  | '\x7b' :: rest =>
    (finish (objectBody .full
      (fun k => if known.contains k then wanted else ignored) fuel rest)).map .named
  | '[' :: rest => (finish (arrayBody wanted fuel rest)).map .listed
  | _ => none

end LeaseQueue.Json
