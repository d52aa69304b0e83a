/-
YAML texts as documents.

* `Yaml.Parser`: the tokens that are left, with the tag handles and the anchors known so far;
* `Yaml.Parser.node?`: the node at the head of the tokens;
* `Yaml.parse?`: the document of a text, none for a text without a document.

An anchor gets the number of names known before it, so that the anchor of a known name and that of
the next new name share a number. An alias keeps the number that its name has where it stands, and
means the node of that number which starts last in the document; this may be a node around it.
-/
import LeaseQueue.Yaml.Scanner

namespace LeaseQueue.Yaml

/-- What is known in the middle of a text. -/
structure Parser where
  tokens : List Token
  /-- Tag handles and their meanings. -/
  handles : List (String × List UInt8)
  /-- The names of anchors, with the number that each has now. -/
  names : List (String × Nat)
  /-- For each number, the place among the named nodes of the one which has started last. -/
  latest : Array Nat
  /-- The named nodes in the order of their starts. -/
  named : Array Yaml

namespace Parser

/-- The next token, the end of the text after the last one. -/
def next (p : Parser) : Token := p.tokens.headD .streamEnd

/-- Move over the next token. -/
def skip (p : Parser) : Parser := { p with tokens := p.tokens.drop 1 }

/-! ### Names and tags -/

/-- Name a node that has only begun; its place among the named nodes. -/
def beginAnchor (p : Parser) (name : String) : Nat × Parser :=
  let number := p.names.length
  let place := p.named.size
  (place,
    { p with
      names := (name, number) :: p.names.filter (·.1 != name)
      latest :=
        if number < p.latest.size then p.latest.setIfInBounds number place
        else p.latest.push place
      named := p.named.push absent })

/-- Give a named node its value. -/
def endAnchor (p : Parser) (place : Nat) (v : Yaml) : Parser :=
  { p with named := p.named.setIfInBounds place v }

/-- The reference that a name stands for. -/
def alias? (p : Parser) (name : String) : Option Yaml := (p.names.lookup name).map .alias

/-- A document of what has been read. -/
def document (p : Parser) (root : Yaml) : Document :=
  ⟨root, p.latest.map fun place => p.named.getD place absent⟩

/-- The meaning of a tag. -/
def resolve? (p : Parser) (handle : String) (suffix : List UInt8) : Option Tag :=
  if handle = "" then some ⟨suffix⟩
  else (p.handles.lookup handle).map fun meaning => ⟨meaning ++ suffix⟩

/-- The anchor and the tag in front of a node, in either order, each at most once. -/
def properties? (p : Parser) : Option (Option String × Option Tag × Parser) :=
  match p.next with
  | .anchor name =>
    let p := p.skip
    match p.next with
    | .tag h s => (p.resolve? h s).map fun t => (some name, some t, p.skip)
    | _ => some (some name, none, p)
  | .tag h s => do
    let t ← p.resolve? h s
    let p := p.skip
    match p.next with
    | .anchor name => return (some name, some t, p.skip)
    | _ => return (none, some t, p)
  | _ => some (none, none, p)

/-! ### Nodes -/

/-- Where a node stands. -/
structure Place where
  /-- Block collections may start here. -/
  block : Bool
  /-- A block sequence may start here without indentation. -/
  dashes : Bool

/-- Inside flow collections. -/
def Place.flow : Place := ⟨false, false⟩

/-- An item of a block sequence, or the whole document. -/
def Place.item : Place := ⟨true, false⟩

/-- A key or a value of a block mapping. -/
def Place.member : Place := ⟨true, true⟩

mutual

/-- The node that starts with the next token. -/
def node? : Nat → Place → Parser → Option (Yaml × Parser)
  | 0, _, _ => none
  | fuel + 1, place, p =>
    match p.next with
    | .alias name => (p.alias? name).map (·, p.skip)
    | _ =>
      match p.properties? with
      | none => none
      | some (anchor, tag, p) =>
        let (named, p) := match anchor with
          | some name => p.beginAnchor name
          | none => (p.named.size, p)
        let bare := anchor.isNone && tag.isNone
        match content? fuel place bare tag p with
        | none => none
        | some (v, p) => some (v, if anchor.isSome then p.endAnchor named v else p)

/-- The node after its anchor and tag; without them it may not be empty. -/
def content? : Nat → Place → Bool → Option Tag → Parser → Option (Yaml × Parser)
  | 0, _, _, _, _ => none
  | fuel + 1, place, bare, tag, p =>
    match p.next with
    | .scalar text style => some (.scalar ⟨text, style, tag⟩, p.skip)
    | .flowSequence =>
      (flowItems? fuel true [] p.skip).map fun (items, p) => (.sequence tag items, p)
    | .flowMapping =>
      (flowPairs? fuel true [] p.skip).map fun (pairs, p) => (.mapping tag pairs, p)
    | .blockEntry =>
      if place.dashes then
        (dashItems? fuel [] p).map fun (items, p) => (.sequence tag items, p)
      else if bare then none
      else some (.scalar ⟨"", .plain, tag⟩, p)
    | .blockSequence =>
      if place.block then
        (blockItems? fuel [] p.skip).map fun (items, p) => (.sequence tag items, p)
      else if bare then none
      else some (.scalar ⟨"", .plain, tag⟩, p)
    | .blockMapping =>
      if place.block then
        (blockPairs? fuel [] p.skip).map fun (pairs, p) => (.mapping tag pairs, p)
      else if bare then none
      else some (.scalar ⟨"", .plain, tag⟩, p)
    | _ => if bare then none else some (.scalar ⟨"", .plain, tag⟩, p)

/-- The items of a block sequence up to its end. -/
def blockItems? : Nat → List Yaml → Parser → Option (List Yaml × Parser)
  | 0, _, _ => none
  | fuel + 1, acc, p =>
    match p.next with
    | .blockEntry =>
      let p := p.skip
      match p.next with
      | .blockEntry | .blockEnd => blockItems? fuel (absent :: acc) p
      | _ =>
        match node? fuel .item p with
        | none => none
        | some (v, p) => blockItems? fuel (v :: acc) p
    | .blockEnd => some (acc.reverse, p.skip)
    | _ => none

/-- The items of a block sequence that stands in the column of the mapping around it. -/
def dashItems? : Nat → List Yaml → Parser → Option (List Yaml × Parser)
  | 0, _, _ => none
  | fuel + 1, acc, p =>
    match p.next with
    | .blockEntry =>
      let p := p.skip
      match p.next with
      | .blockEntry | .key | .value | .blockEnd => dashItems? fuel (absent :: acc) p
      | _ =>
        match node? fuel .item p with
        | none => none
        | some (v, p) => dashItems? fuel (v :: acc) p
    | _ => some (acc.reverse, p)

/-- A key or a value of a block mapping after its mark. -/
def blockMember? : Nat → Parser → Option (Yaml × Parser)
  | 0, _ => none
  | fuel + 1, p =>
    match p.next with
    | .key | .value | .blockEnd => some (absent, p)
    | _ => node? fuel .member p

/-- The pairs of a block mapping up to its end. -/
def blockPairs? : Nat → List (Yaml × Yaml) → Parser → Option (List (Yaml × Yaml) × Parser)
  | 0, _, _ => none
  | fuel + 1, acc, p =>
    match p.next with
    | .key =>
      match blockMember? fuel p.skip with
      | none => none
      | some (k, p) =>
        match p.next with
        | .value =>
          match blockMember? fuel p.skip with
          | none => none
          | some (v, p) => blockPairs? fuel ((k, v) :: acc) p
        | _ => blockPairs? fuel ((k, absent) :: acc) p
    | .blockEnd => some (acc.reverse, p.skip)
    | _ => none

/-- A value of a flow collection, if a colon stands here. -/
def flowValue? : Nat → Parser → Option (Yaml × Parser)
  | 0, _ => none
  | fuel + 1, p =>
    match p.next with
    | .value =>
      let p := p.skip
      match p.next with
      | .flowEntry | .flowMappingEnd | .flowSequenceEnd => some (absent, p)
      | _ => node? fuel .flow p
    | _ => some (absent, p)

/-- The items of a flow sequence up to its end; a pair is a mapping of its own. -/
def flowItems? : Nat → Bool → List Yaml → Parser → Option (List Yaml × Parser)
  | 0, _, _, _ => none
  | fuel + 1, first, acc, p =>
    if p.next = .flowSequenceEnd then some (acc.reverse, p.skip)
    else if !first && p.next ≠ .flowEntry then none
    else
      let p := if first then p else p.skip
      match p.next with
      | .flowSequenceEnd => some (acc.reverse, p.skip)
      | .key =>
        let p := p.skip
        let key := match p.next with
          -- What stands in the place of an empty key is passed over.
          | .value | .flowEntry | .flowSequenceEnd => some (absent, p.skip)
          | _ => node? fuel .flow p
        match key with
        | none => none
        | some (k, p) =>
          match flowValue? fuel p with
          | none => none
          | some (v, p) => flowItems? fuel false (.mapping none [(k, v)] :: acc) p
      | _ =>
        match node? fuel .flow p with
        | none => none
        | some (v, p) => flowItems? fuel false (v :: acc) p

/-- The pairs of a flow mapping up to its end; a node without a mark is a key without a value. -/
def flowPairs? : Nat → Bool → List (Yaml × Yaml) → Parser → Option (List (Yaml × Yaml) × Parser)
  | 0, _, _, _ => none
  | fuel + 1, first, acc, p =>
    if p.next = .flowMappingEnd then some (acc.reverse, p.skip)
    else if !first && p.next ≠ .flowEntry then none
    else
      let p := if first then p else p.skip
      match p.next with
      | .flowMappingEnd => some (acc.reverse, p.skip)
      | .key =>
        let p := p.skip
        let key := match p.next with
          | .value | .flowEntry | .flowMappingEnd => some (absent, p)
          | _ => node? fuel .flow p
        match key with
        | none => none
        | some (k, p) =>
          match flowValue? fuel p with
          | none => none
          | some (v, p) => flowPairs? fuel false ((k, v) :: acc) p
      | _ =>
        match node? fuel .flow p with
        | none => none
        | some (k, p) => flowPairs? fuel false ((k, absent) :: acc) p

end

/-! ### Documents -/

/-- The handles that need no directive. -/
def standardHandles : List (String × List UInt8) :=
  [("!", [Tag.mark]), ("!!", (Tag.ofText "tag:yaml.org,2002:").bytes)]

/-- The directives in front of a document: at most one version, which must be known, and every
handle once. -/
def directives? : Bool → List (String × List UInt8) → List Token →
    Option (List (String × List UInt8) × List Token)
  | versioned, handles, .version major minor :: rest =>
    if versioned || major ≠ 1 || (minor ≠ 1 && minor ≠ 2) then none
    else directives? true handles rest
  | versioned, handles, .tagHandle h meaning :: rest =>
    if handles.any (·.1 == h) then none else directives? versioned ((h, meaning) :: handles) rest
  | _, handles, rest => some (handles, rest)

/-- A document and the tokens after it. -/
def document? (tokens : List Token) : Option (Document × List Token) := do
  let (handles, rest) ← directives? false [] tokens
  let explicit := rest.head? == some .documentStart
  if !explicit && rest.length ≠ tokens.length then failure
  let p : Parser :=
    ⟨if explicit then rest.drop 1 else rest, handles ++ standardHandles, [], #[], #[]⟩
  match explicit, p.next with
  | true, .version _ _ | true, .tagHandle _ _ | true, .documentStart | true, .documentEnd
  | true, .streamEnd => return (p.document absent, p.tokens)
  | _, _ =>
    let (v, p) ← node? (8 * (p.tokens.length + 1)) .item p
    return (p.document v, p.tokens)

end Parser

/-- The document of a text that holds at most one. -/
def parse? (text : String) : Option (Option Document) := do
  let tokens ← tokens? text
  if tokens.head? == some .streamEnd then return none
  let (d, rest) ← Parser.document? tokens
  if rest.dropWhile (· == .documentEnd) == [.streamEnd] then return some d else failure

end LeaseQueue.Yaml
