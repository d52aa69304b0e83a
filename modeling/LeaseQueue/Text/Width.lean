/-
How many columns of a terminal a text takes.

* `Text.charWidth`: the columns of a character by itself;
* `Text.Context`: what follows a character, as far as its columns depend on it;
* `Text.prepend`: the columns that a character adds in front of a text;
* `Text.width`: the columns of a text, which is read from its end.

Wide characters take two columns, marks and ignored characters none, all others one. A selector
behind a character chooses how that is drawn, and letters or emoji that join count once.
-/
import LeaseQueue.Text.Columns
import LeaseQueue.Text.Emoji
import LeaseQueue.Text.Extender
import LeaseQueue.Text.Ligature

namespace LeaseQueue.Text

/-! ### Single characters -/

/-- The columns of a character. -/
def charWidth (c : Char) : Nat :=
  let n := c.toNat
  if n ≤ 0xA0 ∨ n = 0x2D7F ∨ n = 0xFF9E ∨ n = 0xFF9F then 1
  else if n = 0x115F ∨ n = 0x17A4 then 2
  else if n = 0x17D8 then 3
  else if CharClass.extender.contains c || CharClass.unseen.contains c then 0
  else if CharClass.wide.contains c then 2
  else 1

/-- Quotation marks that a selector can widen. -/
def isCurlyQuote (c : Char) : Bool := "\u2018\u2019\u201c\u201d".toList.contains c

/-- Whether a selector can turn an emoji into text of one column. Ideographs in frames keep their
columns. -/
def isTextBase (c : Char) : Bool :=
  CharClass.varied.contains c && CharClass.pictured.contains c
    && !(0x1F200 ≤ c.toNat && c.toNat ≤ 0x1F2FF)

/-! ### Characters in front of a text -/

/-- What the selector at the start of a text asks for. -/
inductive Selector where
  /-- There is none. -/
  | absent
  | text
  | emoji
  /-- The wide form of a quotation mark. -/
  | widened
deriving DecidableEq, Repr

/-- The selector that a character is. -/
def Selector.ofChar? (c : Char) : Option Selector :=
  match c.toNat with
  | 0xFE01 => some .widened
  | 0xFE0E => some .text
  | 0xFE0F => some .emoji
  | _ => none

/-- What a text starts with. -/
inductive Opening where
  /-- Nothing that another character could join. -/
  | plain
  | lineFeed
  /-- The Kirat Rai vowel signs E and AI, of which the second is the first one twice. -/
  | vowelE
  | vowelAI
  | ligature (l : Ligature)
  | emoji (e : Emoji)
deriving DecidableEq, Repr

/-- What follows a character. -/
structure Context where
  opening : Opening
  selector : Selector
deriving DecidableEq, Repr

namespace Context

/-- A text to which its neighbours do not matter. -/
def plain : Context := ⟨.plain, .absent⟩

/-- A text that starts in some way, without a selector. -/
def of (o : Opening) : Context := ⟨o, .absent⟩

/-- A whole emoji. -/
def emoji : Context := of (.emoji .whole)

/-- Whether the text starts with letters that may join. -/
def isLigature (k : Context) : Bool :=
  match k.opening with
  | .ligature _ => true
  | _ => false

/-- Whether the text is the end of a picture whose next part stands alone before the selector. -/
def isPicture (k : Context) : Bool := k.opening = .emoji .joined || k.opening = .emoji .joinedKey

/-- A text behind a selector. Selectors do not keep letters apart, nor the parts of a picture. -/
def behind (k : Context) (s : Selector) : Context :=
  if k.isLigature || (s = .emoji && k.isPicture) then { k with selector := s }
  else ⟨.plain, s⟩

/-- A text whose selector does not go with the character in front. -/
def unselected (k : Context) : Context :=
  if k.selector = .absent || k.isLigature then { k with selector := .absent } else plain

end Context

/-- The columns of a character by itself, and the context that it makes. -/
def alone (c : Char) : Int × Context :=
  let single : Int × Context := (charWidth c, .plain)
  match c.toNat with
  | 0x16D67 => (1, .of .vowelE)
  | 0x16D68 => (1, .of .vowelAI)
  | _ =>
    match Selector.ofChar? c, Emoji.starting? c, Ligature.starting? c with
    | some s, _, _ => (0, ⟨.plain, s⟩)
    | none, some (n, e), _ => (n, .of (.emoji e))
    | none, none, some (n, l) => (n, .of (.ligature l))
    | none, none, none => single

/-- The columns that a character adds in front of a text without selector, when it joins. -/
def joined? (o : Opening) (c : Char) : Option (Int × Context) :=
  match o with
  | .plain | .lineFeed => none
  | .vowelE =>
    match c.toNat with
    | 0x16D63 | 0x16D69 => some (0, .plain)
    | 0x16D67 => some (0, .of .vowelAI)
    | 0x16D68 => some (1, .of .vowelE)
    | _ => none
  | .vowelAI => if c.toNat = 0x16D63 then some (0, .plain) else none
  | .ligature l =>
    (l.join? (charWidth c == 0) c).map fun (n, l) => (n, .of ((l.map .ligature).getD .plain))
  | .emoji e => (e.join? c).map fun (n, e) => (n, .of (.emoji e))

/-- What a selector makes of the character in front of it, if it goes with that. -/
def selected? (k : Context) (c : Char) : Option (Int × Context) :=
  match k.selector with
  | .absent => none
  | .text => if isTextBase c then some (1, .plain) else none
  | .emoji =>
    if CharClass.varied.contains c then some (if k.isPicture then 0 else 2, .emoji) else none
  | .widened => if isCurlyQuote c then some (2, .plain) else none

/-- The columns that a character adds in front of a text, and the context that it makes. -/
def prepend (c : Char) (k : Context) : Int × Context :=
  match selected? k c with
  | some r => r
  | none =>
    let k := k.unselected
    if c.toNat ≤ 0xA0 then
      if c = '\n' then (1, .of .lineFeed)
      else if c = '\r' ∧ k.opening = .lineFeed then (0, .plain)
      else (1, .plain)
    else
      match Selector.ofChar? c with
      | some s => (0, k.behind s)
      | none => (joined? k.opening c).getD (alone c)

/-- The columns of a text. -/
def width (s : String) : Nat :=
  (s.toList.foldr (fun c (n, k) =>
    let (m, k) := prepend c k
    (n + m, k)) ((0 : Int), Context.plain)).1.toNat

example : width "日本x" = 5 := by decide +kernel
example : width "e\u0301" = 1 := by decide +kernel
example : width "👩\u200d💻" = 2 := by decide +kernel
example : width "❤\ufe0f" = 2 := by decide +kernel
example : width "\r\n" = 1 := by decide +kernel

end LeaseQueue.Text
