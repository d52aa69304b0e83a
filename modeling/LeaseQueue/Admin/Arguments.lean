/-
Command lines: options, one operand, subcommands.

* `OptionSpec`, `OperandSpec`, `CommandSpec`: what a command accepts, and what to say about it;
* `UsageError`: how a command line can be wrong;
* `Arguments`: the values given for options and the operand;
* `CommandSpec.parse`: reading a command line up to its end or up to a subcommand.

The value of an option may be attached to it or be the next word. In the latter case the option is
open until another word shows that no more belongs to it; only then its value is checked.
-/
import LeaseQueue.Number.Decimal
import LeaseQueue.Json.Reader

namespace LeaseQueue

/-! ### Specifications -/

/-- What is allowed as a value. -/
inductive ValueKind where
  | text
  /-- A whole number of 64 bits without sign. -/
  | number
  /-- One of some words. -/
  | word (allowed : List String)
deriving DecidableEq, Repr

/-- What an option does. -/
inductive OptionKind where
  /-- It is there or not. -/
  | flag
  /-- It has one value and is given at most once. -/
  | single (kind : ValueKind)
  /-- It has one value each time it is given. -/
  | repeated
  /-- It asks for an explanation of a command; the program itself is the command without a name. -/
  | help (topic : String)
deriving DecidableEq, Repr

/-- An option of a command. -/
structure OptionSpec where
  /-- The name after two dashes. -/
  long : String
  /-- The letter after one dash. -/
  short : Option Char
  kind : OptionKind
  /-- What it is for. -/
  summary : String
  /-- What its value is called, if not after the option. -/
  placeholder : Option String := none
  /-- What holds when it is not given. -/
  standard : Option String := none
  /-- The environment variable that gives its value when the command line does not. -/
  setBy : Option String := none
deriving DecidableEq, Repr

/-- The option that every command has. -/
def OptionSpec.help (topic : String) : OptionSpec where
  long := "help"
  short := some 'h'
  kind := .help topic
  summary := "Print help"

/-- Whether an option has a value. -/
def OptionSpec.takesValue (o : OptionSpec) : Bool :=
  match o.kind with
  | .single _ | .repeated => true
  | .flag | .help _ => false

/-- The operand of a command. -/
structure OperandSpec where
  name : String
  /-- What it is. -/
  summary : String
deriving DecidableEq, Repr

/-- What a command accepts. -/
structure CommandSpec where
  /-- Its name; the program itself has none. -/
  name : String
  /-- What it does. -/
  summary : String
  options : List OptionSpec
  /-- The operand, if there is one. -/
  operand : Option OperandSpec
  /-- The names of the subcommands; one of them must be given if there are any. -/
  subcommands : List String
  /-- The options and operands that must be given. -/
  required : List String
  /-- Pairs of options that exclude each other. -/
  conflicts : List (String × String)
deriving DecidableEq, Repr

/-! ### Errors -/

/-- How a command line can be wrong. -/
inductive UsageError where
  | unknownArgument
  | invalidSubcommand
  | missingSubcommand
  | missingRequiredArgument
  | argumentConflict
  | tooManyValues
  | invalidValue
  | valueValidation
  /-- An explanation of a command is asked for. -/
  | displayHelp (topic : String)
  /-- Nothing at all is given. -/
  | displayHelpOnMissing
deriving DecidableEq, Repr

namespace UsageError

/-- The name of an error. -/
def name : UsageError → String
  | unknownArgument => "UnknownArgument"
  | invalidSubcommand => "InvalidSubcommand"
  | missingSubcommand => "MissingSubcommand"
  | missingRequiredArgument => "MissingRequiredArgument"
  | argumentConflict => "ArgumentConflict"
  | tooManyValues => "TooManyValues"
  | invalidValue => "InvalidValue"
  | valueValidation => "ValueValidation"
  | displayHelp _ => "DisplayHelp"
  | displayHelpOnMissing => "DisplayHelpOnMissingArgumentOrSubcommand"

/-- The status a program ends with: asking for an explanation is no failure. -/
def exitCode : UsageError → Nat
  | displayHelp _ => 0
  | _ => 2

end UsageError

/-! ### Values -/

/-- A whole number of 64 bits without sign, a plus in front allowed. -/
def readNumber? (s : String) : Option Nat :=
  let ds := match s.toList with
    | '+' :: rest => rest
    | cs => cs
  if ds.isEmpty || !ds.all Char.isDigit then none
  else
    let n := Nat.ofDigitChars 10 ds 0
    if n < UInt64.size then some n else none

/-- Check a value. -/
def ValueKind.check (k : ValueKind) (v : String) : Except UsageError Unit :=
  match k with
  | text => .ok ()
  | number => if (readNumber? v).isSome then .ok () else .error .valueValidation
  | word allowed => if allowed.contains v then .ok () else .error .invalidValue

/-- What has been read of a command line. -/
structure Arguments where
  /-- The values by option or operand, in the order given; a flag has the empty text. -/
  values : List (String × String)
  /-- The option that is open, with its value if it has come. -/
  pending : Option (OptionSpec × Option String)
deriving Repr

namespace Arguments

/-- Nothing has been read. -/
def empty : Arguments := ⟨[], none⟩

/-- Whether an option or operand has been given. -/
def has (a : Arguments) (name : String) : Bool := a.values.any (·.1 == name)

/-- The value of an option or operand. -/
def get? (a : Arguments) (name : String) : Option String :=
  (a.values.find? (·.1 == name)).map (·.2)

/-- All values of an option. -/
def getAll (a : Arguments) (name : String) : List String :=
  (a.values.filter (·.1 == name)).map (·.2)

/-- Add a value. -/
def add (a : Arguments) (name value : String) : Arguments :=
  { a with values := a.values ++ [(name, value)] }

/-- Take in an option with its value. -/
def accept (a : Arguments) (o : OptionSpec) (value : Option String) :
    Except UsageError Arguments :=
  match o.kind, value with
  | .help topic, _ => .error (.displayHelp topic)
  | .flag, _ => if a.has o.long then .error .argumentConflict else .ok (a.add o.long "")
  | .single _, none | .repeated, none => .error .invalidValue
  | .single kind, some v =>
    if a.has o.long then .error .argumentConflict else (kind.check v).map fun _ => a.add o.long v
  | .repeated, some v => .ok (a.add o.long v)

/-- Take in the option that is open. -/
def settle (a : Arguments) : Except UsageError Arguments :=
  match a.pending with
  | none => .ok a
  | some (o, value) => { a with pending := none }.accept o value

/-- Take in an option whose value, if any, is attached to it. -/
def react (a : Arguments) (o : OptionSpec) (value : Option String) :
    Except UsageError Arguments :=
  a.settle.bind fun a => a.accept o value

/-- Open an option whose value is the next word. -/
def await (a : Arguments) (o : OptionSpec) : Except UsageError Arguments :=
  a.settle.map fun a => { a with pending := some (o, none) }

/-- Whether the next word is the value of an open option. -/
def awaits (a : Arguments) : Bool := a.pending.any (·.2.isNone)

/-- Give the open option its value. -/
def supply (a : Arguments) (v : String) : Arguments :=
  { a with pending := a.pending.map fun p => (p.1, some v) }

end Arguments

/-! ### Reading -/

namespace CommandSpec

/-- The option with a name. -/
def long? (c : CommandSpec) (name : String) : Option OptionSpec :=
  c.options.find? (·.long == name)

/-- The option with a letter. -/
def short? (c : CommandSpec) (letter : Char) : Option OptionSpec :=
  c.options.find? (·.short == some letter)

/-- A word that starts with two dashes, without them. -/
def readLong (c : CommandSpec) (a : Arguments) (word : List Char) :
    Except UsageError Arguments :=
  let (name, rest) := word.span (· ≠ '=')
  let value := match rest with
    | '=' :: v => some (String.ofList v)
    | _ => none
  match c.long? (String.ofList name) with
  | none => .error .unknownArgument
  | some o =>
    if o.takesValue then if value.isSome then a.react o value else a.await o
    else if value.isSome then .error .tooManyValues
    else a.react o none

/-- The letters of a word that starts with one dash. -/
def readShort (c : CommandSpec) (a : Arguments) : List Char → Except UsageError Arguments
  | [] => .ok a
  | letter :: rest =>
    match c.short? letter with
    | none => .error .unknownArgument
    | some o =>
      if o.takesValue then
        match rest with
        | [] => a.await o
        | '=' :: v => a.react o (some (String.ofList v))
        | v => a.react o (some (String.ofList v))
      else
        match a.react o none with
        | .error e => .error e
        | .ok a => readShort c a rest

/-- A word that is neither an option nor the value of one. -/
def readOperand (c : CommandSpec) (a : Arguments) (afterDashes : Bool) (word : String) :
    Except UsageError Arguments :=
  match c.operand with
  | some o =>
    if a.has o.name then .error .unknownArgument
    else a.settle.map fun a => a.add o.name word
  | none =>
    if c.subcommands.isEmpty || (afterDashes && c.subcommands.contains word) then
      .error .unknownArgument
    else .error .invalidSubcommand

/-- The words of a command up to its end, or up to a subcommand, which comes with the words after
it. -/
def read (c : CommandSpec) : Arguments → List String →
    Except UsageError (Arguments × Option (String × List String))
  | a, [] => .ok (a, none)
  | a, word :: rest =>
    if !a.awaits && c.subcommands.contains word then .ok (a, some (word, rest))
    else
      match word.toList with
      | ['-', '-'] =>
        (rest.foldlM (fun a w => c.readOperand a true w) a).map fun a => (a, none)
      | '-' :: '-' :: name =>
        match c.readLong a name with
        | .error e => .error e
        | .ok a => c.read a rest
      | '-' :: letter :: letters =>
        match c.readShort a (letter :: letters) with
        | .error e => .error e
        | .ok a => c.read a rest
      | _ =>
        if a.awaits then c.read (a.supply word) rest
        else
          match c.readOperand a false word with
          | .error e => .error e
          | .ok a => c.read a rest

/-- What must hold of a command line as a whole. -/
def validate (c : CommandSpec) (a : Arguments) (subcommand : Bool) : Except UsageError Unit :=
  if !c.subcommands.isEmpty && !subcommand then
    .error (if a.values.isEmpty then .displayHelpOnMissing else .missingSubcommand)
  else if c.conflicts.any fun p => a.has p.1 && a.has p.2 then .error .argumentConflict
  else if c.required.all a.has then .ok ()
  else .error .missingRequiredArgument

/-- The end of a command line. -/
def finish (c : CommandSpec) (a : Arguments) (subcommand : Bool) : Except UsageError Arguments := do
  let a ← a.settle
  c.validate a subcommand
  return a

end CommandSpec

end LeaseQueue
