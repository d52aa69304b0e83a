/-
What the administration program says about itself.

* `OptionSpec.shape`, `OptionSpec.explanation`: an option as it is written, and what it is for;
* `fill`: a text in lines of limited width;
* `Explained`, `explain`: a titled list of things with what is said about each, in two columns;
* `CommandSpec.usage`: how a command is written;
* `Admin.help`: the whole explanation of a command.

The second column of a list starts where the widest entry of the first ends, and the lines of its
texts are broken so that no line is wider than `lineWidth` if its words allow it.
-/
import LeaseQueue.Admin.Command
import LeaseQueue.Text.Width

namespace LeaseQueue

/-! ### Options -/

/-- A name in capitals, with underscores for its dashes. -/
def capitals (name : String) : String :=
  name.map fun c => if c = '-' then '_' else c.toUpper

namespace OptionSpec

/-- What the value of an option is called. -/
def valueName (o : OptionSpec) : String := o.placeholder.getD (capitals o.long)

/-- An option with its value, as it is written on a command line. -/
def shape (o : OptionSpec) : String :=
  "--" ++ o.long ++ (if o.takesValue then " <" ++ o.valueName ++ ">" else "")

/-- An option in the first column of a list: the letter, or as many blanks, and the name. -/
def entry (o : OptionSpec) : String :=
  (match o.short with
    | some c => "-" ++ c.toString ++ ", "
    | none => "    ") ++ o.shape

/-- What else there is to know about the value of an option: the variable that gives it, with the
value it has in the environment, the value that holds otherwise, and the values it may have. -/
def notes (o : OptionSpec) (environment : String → Option String) : List String :=
  (o.setBy.map fun v => "[env: " ++ v ++ "=" ++ (environment v).getD "" ++ "]").toList
    ++ (o.standard.map fun v => "[default: " ++ v ++ "]").toList
    ++ (match o.kind with
      | .single (.word allowed) => ["[possible values: " ++ ", ".intercalate allowed ++ "]"]
      | _ => [])

/-- What is said about an option. -/
def explanation (o : OptionSpec) (environment : String → Option String) : String :=
  " ".intercalate (o.summary :: o.notes environment)

end OptionSpec

/-- An operand, as it is written on a command line. -/
def OperandSpec.shape (o : OperandSpec) : String := "<" ++ capitals o.name ++ ">"

/-! ### Lines -/

/-- How wide a line may be. -/
def lineWidth : Nat := 100

/-- A text in lines that have no word more than fits in `limit`. -/
def fill (limit : Nat) (text : String) : List String :=
  let put : List String → String → List String
    | [], word => [word]
    | line :: done, word =>
      if Text.width line + 1 + Text.width word ≤ limit then (line ++ " " ++ word) :: done
      else word :: line :: done
  ((text.splitOn " ").foldl put []).reverse

/-- A thing and what is said about it. -/
structure Explained where
  entry : String
  text : String
deriving DecidableEq, Repr

/-- Blanks that make a text as wide as asked for. -/
def blanksAfter (width : Nat) (s : String) : String :=
  String.ofList (List.replicate (width - Text.width s) ' ')

/-- A titled list of things in two columns. -/
def explain (title : String) (things : List Explained) : String :=
  let wide := things.foldl (fun w t => max w (Text.width t.entry)) 0
  let gap := "\n" ++ String.ofList (List.replicate (wide + 4) ' ')
  let lines := things.map fun t =>
    "  " ++ t.entry ++ blanksAfter wide t.entry ++ "  "
      ++ gap.intercalate (fill (lineWidth - (wide + 4)) t.text)
  title ++ ":\n" ++ "\n".intercalate lines

/-! ### Commands -/

namespace CommandSpec

/-- Whether there is an option that may be left out, apart from asking for an explanation. -/
def hasOptional (c : CommandSpec) : Bool :=
  c.options.any fun o =>
    match o.kind with
    | .help _ => false
    | _ => !c.required.contains o.long

/-- How a command is written, after the name of the program. -/
def usage (program : String) (c : CommandSpec) : String :=
  let words := [program, c.name].filter (· ≠ "")
    ++ (if c.hasOptional then ["[OPTIONS]"] else [])
    ++ (c.options.filter fun o => c.required.contains o.long).map OptionSpec.shape
    ++ (c.operand.map OperandSpec.shape).toList
    ++ (if c.subcommands.isEmpty then [] else ["<COMMAND>"])
  "Usage: " ++ " ".intercalate words

end CommandSpec

namespace Admin

/-- The name of the program. -/
def program : String := "tq-admin"

/-- What `help` does. -/
def helpSummary : String := "Print this message or the help of the given subcommand(s)"

/-- The commands, and what each does. -/
def commands : List Explained :=
  topSpec.subcommands.map fun name =>
    ⟨name, if name = "help" then helpSummary else (commandSpec name).summary⟩

/-- The explanation of `help` itself. -/
def helpOfHelp : List String :=
  [helpSummary, "Usage: " ++ program ++ " help [COMMAND]...",
    explain "Arguments" [⟨"[COMMAND]...", "Print help for the subcommand(s)"⟩]]

/-- The explanation of what a command accepts. -/
def helpOfSpec (environment : String → Option String) (c : CommandSpec) : List String :=
  [c.summary, c.usage program]
    ++ (if c.subcommands.isEmpty then [] else [explain "Commands" commands])
    ++ (c.operand.map fun o => explain "Arguments" [⟨o.shape, o.summary⟩]).toList
    ++ [explain "Options" (c.options.map fun o => ⟨o.entry, o.explanation environment⟩)]

/-- The explanation of a command, or of the program. -/
def help (environment : String → Option String) (topic : String) : String :=
  let parts := match topic with
    | "" => helpOfSpec environment topSpec
    | "help" => helpOfHelp
    | name => helpOfSpec environment (commandSpec name)
  "\n\n".intercalate parts ++ "\n"

end Admin

end LeaseQueue
