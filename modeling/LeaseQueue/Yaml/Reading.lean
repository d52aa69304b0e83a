/-
Values read out of a YAML document.

* `Yaml.Reading`: a reading, which may follow a bounded number of aliases;
* `Yaml.follow`: the node that an alias stands for;
* `Yaml.text`, `flag`, `unsigned`, `signed`, `members`: nodes of a known type;
* `Yaml.content`: nodes of any type.

Every alias that is followed counts, a hundred of them for every step of the document, and a value
without type has a bounded depth, so that a document which refers to itself comes to an end.
-/
import LeaseQueue.Yaml.Basic

namespace LeaseQueue.Yaml

/-- A reading of a document. Its state is the number of aliases that may still be followed. -/
abbrev Reading := ReaderT Document (StateT Nat Option)

/-- The result of a reading. -/
def Document.read? {α : Type} (d : Document) (r : Reading α) : Option α :=
  (r d (100 * d.root.steps)).map (·.1)

/-- The node that an alias stands for, and any other node itself. -/
def follow : Yaml → Reading Yaml
  | .alias target => do
    match ← get with
    | 0 => failure
    | more + 1 =>
      set more
      match (← read).targets[target]? with
      | some v => return v
      | none => failure
  | v => return v

/-- A value that may be missing. -/
def require {α : Type} : Option α → Reading α
  | some a => return a
  | none => failure

/-! ### Known types -/

/-- A scalar. -/
def asScalar (v : Yaml) : Reading Scalar := do
  match ← follow v with
  | .scalar s => return s
  | _ => failure

/-- The text of a scalar, however it is written. -/
def text (v : Yaml) : Reading String := return (← asScalar v).text

/-- A truth value. -/
def flag (v : Yaml) : Reading Bool := do require (← asScalar v).asBool?

/-- A whole number without minus, below a bound. -/
def unsigned (bound : Nat) (v : Yaml) : Reading Nat := do require ((← asScalar v).asUnsigned? bound)

/-- A whole number of 64 bits with sign. -/
def signed (v : Yaml) : Reading Int64 := do require (← asScalar v).asSigned?

/-- The named values of a mapping. Nothing at all is a mapping without values. -/
def members (v : Yaml) : Reading (List (String × Yaml)) := do
  match ← follow v with
  | .mapping _ pairs => pairs.mapM fun (k, v) => return (← text k, v)
  | .scalar s => if s.text = "" ∧ s.style = .plain then return [] else failure
  | _ => failure

/-- The member of a name, `usual` where the name is missing. A name that occurs twice is
refused. -/
def member {α : Type} (members : List (String × Yaml)) (name : String) (read : Yaml → Reading α)
    (usual : α) : Reading α :=
  match members.filter (·.1 == name) with
  | [] => return usual
  | [(_, v)] => read v
  | _ => failure

/-! ### Any type -/

/-- A node of any type, in which collections are nested at most so deep. -/
def content (depth : Nat) (v : Yaml) : Reading Content := do
  match ← follow v with
  | .scalar s => require s.content?
  | .sequence tag items =>
    match depth with
    | 0 => failure
    | depth + 1 =>
      if tag.any (·.isLocal) then failure
      items.forM fun v => do discard <| content depth v
      return .other
  | .mapping tag pairs =>
    match depth with
    | 0 => failure
    | depth + 1 =>
      if tag.any (·.isLocal) then failure
      pairs.forM fun (k, v) => do
        discard <| content depth k
        discard <| content depth v
      return .other
  | .alias _ => failure

end LeaseQueue.Yaml
