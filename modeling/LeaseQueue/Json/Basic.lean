/-
JSON values.

* `Json`: null, truth values, numbers, strings, arrays and objects; an object lists its members
  as they stand in a text, so a key may occur twice and in any order;
* `Json.canonical`: the value with the members of every object in increasing order of keys, the
  last of equal keys kept;
* `Json.depth`: how many arrays and objects are nested in one another;
* `Json.asString?`, `asInt64?`, `asFields?` and others: values of a known type.
-/
import LeaseQueue.SortedMap
import LeaseQueue.Number.Binary64

namespace LeaseQueue

/-- A JSON value. -/
inductive Json where
  | null
  | bool (b : Bool)
  /-- A number written without fraction and exponent. -/
  | whole (n : Int)
  /-- Any other number. -/
  | real (x : Binary64)
  | string (s : String)
  | array (items : List Json)
  | object (members : List (String × Json))
deriving Inhabited, Repr

namespace Json

mutual

/-- Members sorted by key at every level, the last of equal keys kept. -/
def canonical : Json → Json
  | .array items => .array (canonicalItems items)
  | .object members => .object (SortedMap.ofList (canonicalMembers members)).entries
  | v => v

/-- The function `canonical` on the items of an array. -/
def canonicalItems : List Json → List Json
  | [] => []
  | v :: rest => canonical v :: canonicalItems rest

/-- The function `canonical` on the values of an object, the members left where they are. -/
def canonicalMembers : List (String × Json) → List (String × Json)
  | [] => []
  | (k, v) :: rest => (k, canonical v) :: canonicalMembers rest

end

mutual

/-- The number of arrays and objects around the innermost value. -/
def depth : Json → Nat
  | .array items => depthItems items + 1
  | .object members => depthMembers members + 1
  | _ => 0

/-- The greatest depth among the items of an array. -/
def depthItems : List Json → Nat
  | [] => 0
  | v :: rest => max (depth v) (depthItems rest)

/-- The greatest depth among the values of an object. -/
def depthMembers : List (String × Json) → Nat
  | [] => 0
  | (_, v) :: rest => max (depth v) (depthMembers rest)

end

/-- The object of a map. -/
def ofMap (m : SortedMap Json) : Json := .object m.entries

/-- The object of a map from texts to texts. -/
def ofTexts (m : SortedMap String) : Json := ofMap (m.map .string)

/-- The members of an object as a map, the last of equal keys kept. -/
def asMap? : Json → Option (SortedMap Json)
  | .object members => some (SortedMap.ofList members)
  | _ => none

/-- A string's text. -/
def asString? : Json → Option String
  | .string s => some s
  | _ => none

/-- An object whose values are all strings, the last of equal keys kept. -/
def asTexts? : Json → Option (SortedMap String)
  | .object members =>
    (members.mapM fun m => (asString? m.2).map fun s => (m.1, s)).map SortedMap.ofList
  | _ => none

/-- A whole number of 64 bits with sign. -/
def asInt64? : Json → Option Int64
  | .whole n =>
    if Int64.minValue.toInt ≤ n ∧ n ≤ Int64.maxValue.toInt then some (Int64.ofInt n) else none
  | _ => none

/-- A whole number of 32 bits without sign. -/
def asUInt32? : Json → Option UInt32
  | .whole n => if 0 ≤ n ∧ n < UInt32.size then some (UInt32.ofNat n.toNat) else none
  | _ => none

/-- A whole number of 32 bits with sign. -/
def asInt32? : Json → Option Int32
  | .whole n =>
    if Int32.minValue.toInt ≤ n ∧ n ≤ Int32.maxValue.toInt then some (Int32.ofInt n) else none
  | _ => none

/-- A truth value. -/
def asBool? : Json → Option Bool
  | .bool b => some b
  | _ => none

/-- A string, or null for none. -/
def asOptionalString? : Json → Option (Option String)
  | .null => some none
  | .string s => some (some s)
  | _ => none

/-- The items of an array, each read in the same way. -/
def asList? {α : Type} (item : Json → Option α) : Json → Option (List α)
  | .array items => items.mapM item
  | _ => none

/-- The values of a structure's fields in order: an object binds them by name, null where a name is
missing, and an array lists all of them. -/
def asFields? (names : List String) : Json → Option (List Json)
  | .object members => some (names.map fun name => (members.reverse.lookup name).getD .null)
  | .array items => if items.length = names.length then some items else none
  | _ => none

/-- One of several names: a string, or an object that binds nothing but the name, to null. -/
def asName? : Json → Option String
  | .string s => some s
  | .object [(s, .null)] => some s
  | _ => none

end Json

end LeaseQueue
