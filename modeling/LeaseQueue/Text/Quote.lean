/-
Texts between quotes, for people who look for what is wrong.

* `Text.quote`: the text with quotes, backslashes and everything invisible written as escapes.
-/
import LeaseQueue.Text.Extender
import LeaseQueue.Text.Hidden

namespace LeaseQueue.Text

/-- Whether a character is written as an escape: it shows nothing, or only together with the
character before it. -/
def isEscaped (c : Char) : Bool := CharClass.extender.contains c || CharClass.hidden.contains c

/-- One character between quotes. -/
def quoteChar (c : Char) : List Char :=
  match c with
  | '\x00' => ['\\', '0']
  | '\t' => ['\\', 't']
  | '\n' => ['\\', 'n']
  | '\r' => ['\\', 'r']
  | '"' => ['\\', '"']
  | '\\' => ['\\', '\\']
  | c =>
    if isEscaped c then ['\\', 'u', '\x7b'] ++ Nat.toDigits 16 c.toNat ++ ['\x7d'] else [c]

/-- A text between quotes. -/
def quote (s : String) : String := String.ofList ('"' :: s.toList.flatMap quoteChar ++ ['"'])

end LeaseQueue.Text
