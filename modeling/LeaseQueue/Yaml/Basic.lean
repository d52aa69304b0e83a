/-
YAML nodes and the meaning of scalars.

* `Yaml`: scalars, sequences and mappings, each with its tag, and aliases; a scalar remembers how it
  is written;
* `Yaml.Document`: a node together with the nodes that its aliases stand for;
* `Yaml.Scalar.asBool?`, `asUnsigned?`, `asSigned?`: the plain scalars that stand for truth values
  and whole numbers;
* `Yaml.Scalar.content?`: what a scalar says when no type is asked of it.

A whole number may have a sign and one of the bases `0x`, `0o` and `0b`; digits behind a leading
zero are text.
-/
import LeaseQueue.Number.Scientific
import LeaseQueue.Text.Utf8

namespace LeaseQueue

/-- How a scalar is written. -/
inductive Yaml.Style where
  | plain
  | quoted
  | literal
  | folded
deriving DecidableEq, Repr

/-- A name for the kind of a node: bytes, which need not be text. -/
structure Yaml.Tag where
  bytes : List UInt8
deriving DecidableEq, Repr

/-- A scalar. -/
structure Yaml.Scalar where
  text : String
  style : Yaml.Style
  tag : Option Yaml.Tag
deriving DecidableEq, Repr

/-- A YAML node. -/
inductive Yaml where
  | scalar (s : Yaml.Scalar)
  | sequence (tag : Option Yaml.Tag) (items : List Yaml)
  /-- Keys and values in written order. -/
  | mapping (tag : Option Yaml.Tag) (pairs : List (Yaml × Yaml))
  /-- A reference to the node of a number. -/
  | alias (target : Nat)
deriving Inhabited, Repr

/-- A text as nodes. -/
structure Yaml.Document where
  root : Yaml
  /-- The nodes that aliases refer to, by number. -/
  targets : Array Yaml

namespace Yaml

/-- The node where nothing is written. -/
def absent : Yaml := .scalar ⟨"", .plain, none⟩

mutual

/-- The number of steps in which a node is written: one for a scalar or an alias, and two for the
ends of a collection besides what it holds. -/
def steps : Yaml → Nat
  | .scalar _ | .alias _ => 1
  | .sequence _ items => itemSteps items + 2
  | .mapping _ pairs => pairSteps pairs + 2

/-- The steps of the items of a sequence. -/
def itemSteps : List Yaml → Nat
  | [] => 0
  | v :: rest => v.steps + itemSteps rest

/-- The steps of the keys and values of a mapping. -/
def pairSteps : List (Yaml × Yaml) → Nat
  | [] => 0
  | (k, v) :: rest => k.steps + v.steps + pairSteps rest

end

/-! ### Tags -/

namespace Tag

/-- The tag that a text names. -/
def ofText (s : String) : Tag := ⟨s.toUTF8.toList⟩

/-- The tag of truth values. -/
def bool : Tag := ofText "tag:yaml.org,2002:bool"

/-- The tag of whole numbers. -/
def int : Tag := ofText "tag:yaml.org,2002:int"

/-- The tag of floating-point numbers. -/
def float : Tag := ofText "tag:yaml.org,2002:float"

/-- The tag of the absent value. -/
def null : Tag := ofText "tag:yaml.org,2002:null"

/-- The mark in front of the tags of applications. -/
def mark : UInt8 := 0x21

/-- Whether a tag starts with the mark of applications. -/
def isMarked (t : Tag) : Bool := t.bytes.head? == some mark

/-- Whether a tag belongs to an application rather than to YAML: the mark with text behind it. -/
def isLocal (t : Tag) : Bool :=
  t.isMarked && (Text.utf8Fault? ⟨(t.bytes.drop 1).toArray⟩).isNone

end Tag

namespace Scalar

/-! ### Whole numbers -/

/-- The value of a digit, up to base sixteen. -/
def digit? (c : Char) : Option Nat :=
  if c.isDigit then some (c.toNat - 48)
  else if 'a' ≤ c ∧ c ≤ 'f' then some (c.toNat - 87)
  else if 'A' ≤ c ∧ c ≤ 'F' then some (c.toNat - 55)
  else none

/-- At least one digit of a base, as a number. -/
def natural? (base : Nat) (cs : List Char) : Option Nat :=
  if cs.isEmpty then none
  else
    cs.foldl (fun n c => do
      let d ← digit? c
      if d < base then return (← n) * base + d else none) (some 0)

/-- The base named at the head of a number. -/
def base? : List Char → Option (Nat × List Char)
  | '0' :: 'x' :: rest => some (16, rest)
  | '0' :: 'o' :: rest => some (8, rest)
  | '0' :: 'b' :: rest => some (2, rest)
  | _ => none

/-- A text without the sign in front of it. -/
def unsigned : List Char → List Char
  | '-' :: rest => rest
  | '+' :: rest => rest
  | cs => cs

/-- Digits behind a leading zero, which are no number. -/
def isPadded : List Char → Bool
  | '0' :: rest => !rest.isEmpty && rest.all Char.isDigit
  | _ => false

/-- The number of digits without a sign. -/
def magnitude? (cs : List Char) : Option Nat :=
  match base? cs with
  | some (base, rest) => natural? base rest
  | none => if isPadded cs then none else natural? 10 cs

/-- A whole number with an optional sign; whether it has a minus, and its magnitude. -/
def integer? (s : String) : Option (Bool × Nat) :=
  match s.toList with
  | '-' :: rest => (magnitude? rest).map fun n => (true, n)
  | '+' :: rest => (magnitude? rest).map fun n => (false, n)
  | cs => (magnitude? cs).map fun n => (false, n)

/-! ### Other plain scalars -/

/-- The truth value that a text names. -/
def boolOf? (s : String) : Option Bool :=
  if s ∈ ["true", "True", "TRUE"] then some true
  else if s ∈ ["false", "False", "FALSE"] then some false
  else none

/-- Whether a text names the absent value. -/
def isNull (s : String) : Bool := s ∈ ["null", "Null", "NULL", "~"]

/-- Whether a text is a floating-point number: decimal digits, or one of the names of infinity and
of no number. -/
def isFloat (s : String) : Bool :=
  let digits := unsigned s.toList
  s ∈ [".nan", ".NaN", ".NAN"] || String.ofList digits ∈ [".inf", ".Inf", ".INF"]
    || (Scientific.nearest? false digits).isSome

/-! ### Typed readings -/

/-- Whether a scalar can stand for a value of a type: a plain one, or a literal one with the tag. -/
def stands (s : Scalar) (tag : Tag) : Bool :=
  s.style == .plain || (s.style == .literal && s.tag == some tag)

/-- A truth value. -/
def asBool? (s : Scalar) : Option Bool := if s.stands .bool then boolOf? s.text else none

/-- A whole number without minus, below a bound. -/
def asUnsigned? (s : Scalar) (bound : Nat) : Option Nat :=
  if s.stands .int then
    match integer? s.text with
    | some (false, n) => if n < bound then some n else none
    | _ => none
  else none

/-- A whole number of 64 bits with sign. -/
def asSigned? (s : Scalar) : Option Int64 :=
  if s.stands .int then
    match integer? s.text with
    | some (negative, n) =>
      let v : Int := if negative then -(n : Int) else n
      if Int64.minValue.toInt ≤ v ∧ v ≤ Int64.maxValue.toInt then some (Int64.ofInt v) else none
    | none => none
  else none

/-! ### Readings without a type -/

end Scalar

/-- What a node says when no type is asked of it, as far as it can name anything. -/
inductive Content where
  | text (s : String)
  /-- A whole number of 64 bits without minus. -/
  | index (n : Nat)
  /-- A truth value, another number, nothing, or a collection. -/
  | other
deriving DecidableEq, Repr

namespace Scalar

/-- A whole number, which must fit in 64 bits with or without sign. -/
def wholeContent? (v : Bool × Nat) : Option Content :=
  let (negative, n) := v
  if negative then if n ≤ Nat.pow 2 63 then some .other else none
  else if n < UInt64.size then some (.index n) else none

/-- Whether a number exceeds even 128 bits, where it counts as text or floating point. -/
def isHuge (v : Bool × Nat) : Bool := if v.1 then Nat.pow 2 127 < v.2 else Nat.pow 2 128 ≤ v.2

/-- What a plain text says. -/
def plainContent? (s : String) : Option Content :=
  if s = "" || isNull s || (boolOf? s).isSome then some .other
  else
    match (integer? s).filter (!isHuge ·) with
    | some v => wholeContent? v
    | none =>
      if !isPadded (unsigned s.toList) && isFloat s then some .other else some (.text s)

/-- What a scalar says; tags of applications are refused. -/
def content? (s : Scalar) : Option Content :=
  match s.tag with
  | none => if s.style = .plain then plainContent? s.text else some (.text s.text)
  | some t =>
    if t.isLocal then none
    else if t = .bool then (boolOf? s.text).map fun _ => .other
    else if t = .int then (integer? s.text).bind wholeContent?
    else if t = .float then if isFloat s.text then some .other else none
    else if t = .null then if isNull s.text then some .other else none
    else if t.isMarked && s.style = .plain then plainContent? s.text
    else some (.text s.text)

end Scalar

end Yaml

end LeaseQueue
