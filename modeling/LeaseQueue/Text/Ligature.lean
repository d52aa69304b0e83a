/-
Letters that are drawn as one.

* `Ligature`: what a text starts with, as far as a letter in front of it may join;
* `Ligature.starting?`: a letter by itself;
* `Ligature.join?`: one more character in front.

Texts are read from their end, and the last letter of a ligature takes the column. Marks between the
letters do not keep them apart.
-/
import LeaseQueue.Text.CharClass
import LeaseQueue.Text.Emoji

namespace LeaseQueue.Text

/-- Characters without width that keep the letters at their sides apart. -/
def CharClass.separating : CharClass :=
  ⟨#[(0x605, 0x605), (0x890, 0x891), (0x8E2, 0x8E2), (0x9BE, 0x9BE), (0x9D7, 0x9D7),
    (0xB3E, 0xB3E), (0xB57, 0xB57), (0xBBE, 0xBBE), (0xBD7, 0xBD7), (0xCC0, 0xCC0),
    (0xCC2, 0xCC2), (0xCC7, 0xCC8), (0xCCA, 0xCCB), (0xCD5, 0xCD6), (0xD3E, 0xD3E),
    (0xD4E, 0xD4E), (0xD57, 0xD57), (0xDCF, 0xDCF), (0xDDF, 0xDDF), (0x1160, 0x11FF),
    (0x1715, 0x1715), (0x1734, 0x1734), (0x180E, 0x180E), (0x1B35, 0x1B35), (0x1B3B, 0x1B3B),
    (0x1B3D, 0x1B3D), (0x1B43, 0x1B44), (0x1BAA, 0x1BAA), (0x1BF2, 0x1BF3), (0x200C, 0x200D),
    (0x2065, 0x2069), (0x302E, 0x302F), (0x3164, 0x3164), (0xA8FA, 0xA8FA), (0xA953, 0xA953),
    (0xA9C0, 0xA9C0), (0xD7B0, 0xD7C6), (0xD7CB, 0xD7FB), (0xFFA0, 0xFFA0), (0xFFF0, 0xFFF8),
    (0x111C0, 0x111C0), (0x111C2, 0x111C3), (0x11235, 0x11235), (0x1133E, 0x1133E),
    (0x1134D, 0x1134D), (0x11357, 0x11357), (0x113B8, 0x113B8), (0x113C2, 0x113C2),
    (0x113C5, 0x113C5), (0x113C7, 0x113C9), (0x113CF, 0x113CF), (0x113D1, 0x113D1),
    (0x114B0, 0x114B0), (0x114BD, 0x114BD), (0x115AF, 0x115AF), (0x116B6, 0x116B6),
    (0x11930, 0x11930), (0x1193D, 0x1193D), (0x1193F, 0x1193F), (0x11941, 0x11941),
    (0x11A3A, 0x11A3A), (0x11A84, 0x11A89), (0x11D46, 0x11D46), (0x11F02, 0x11F02),
    (0x11F41, 0x11F41), (0x16FF0, 0x16FF1), (0x1D165, 0x1D166), (0x1D16D, 0x1D172),
    (0xE0000, 0xE0000), (0xE0002, 0xE001F), (0xE0080, 0xE00FF), (0xE01F0, 0xE0FFF)]⟩

/-- Marks that are ignored by default. -/
def ignoredMarks : CharClass :=
  ⟨#[(0x34F, 0x34F), (0x17B4, 0x17B5), (0x180B, 0x180D), (0x180F, 0x180F), (0xFE00, 0xFE0F),
    (0xE0100, 0xE01EF)]⟩

/-- Arabic letters that join with an alef. -/
def lams : CharClass :=
  ⟨#[(0x644, 0x644), (0x6B5, 0x6B8), (0x76A, 0x76A), (0x8A6, 0x8A6), (0x8C7, 0x8C7)]⟩

/-- The forms of the Arabic alef. -/
def alefs : CharClass :=
  ⟨#[(0x622, 0x623), (0x625, 0x625), (0x627, 0x627), (0x671, 0x673), (0x675, 0x675),
    (0x773, 0x774), (0x870, 0x882)]⟩

/-- Khmer letters that are written below the letter in front of them, behind a sign for that. -/
def khmerSubscripts : CharClass :=
  ⟨#[(0x1780, 0x1782), (0x1784, 0x1787), (0x1789, 0x178C), (0x178E, 0x1793), (0x1795, 0x1798),
    (0x179B, 0x179D), (0x17A0, 0x17A0), (0x17A2, 0x17A2), (0x17A7, 0x17A7), (0x17AB, 0x17AC),
    (0x17AF, 0x17AF)]⟩

/-- The consonants of the Tifinagh script. -/
def tifinaghConsonants : CharClass := ⟨#[(0x2D31, 0x2D65), (0x2D6F, 0x2D6F)]⟩

/-- The start of a text, as far as a letter in front of it may join. -/
inductive Ligature where
  /-- An Arabic alef. -/
  | alef
  /-- A Hebrew lamed, and whether a joiner is in front of it. -/
  | lamed (joined : Bool)
  /-- A Buginese ya, and whether a joiner is in front of it. -/
  | ya (joined : Bool)
  /-- A Buginese vowel sign in front of a joined ya. -/
  | vowelYa
  /-- A Tifinagh consonant, and whether a joiner is in front of it. -/
  | tifinagh (joined : Bool)
  /-- A Tifinagh consonant behind the joiner of that script. -/
  | tifinaghPair
  /-- A Lisu tone letter of the second group. -/
  | lisuTone
  /-- An Orkhon letter, and whether a joiner is in front of it. -/
  | orkhon (joined : Bool)
  /-- A Khmer letter that can be a subscript. -/
  | khmer
deriving DecidableEq, Repr

namespace Ligature

/-- The columns of a letter by itself. -/
def starting? (c : Char) : Option (Int × Ligature) :=
  let n := c.toNat
  if alefs.contains c then some (1, alef)
  else if n = 0x5DC then some (1, lamed false)
  else if n = 0x1A10 then some (1, ya false)
  else if tifinaghConsonants.contains c then some (1, tifinagh false)
  else if n = 0xA4FC ∨ n = 0xA4FD then some (1, lisuTone)
  else if n = 0x10C03 then some (1, orkhon false)
  else if khmerSubscripts.contains c then some (1, khmer)
  else none

/-- The same letters with a joiner in front. -/
def behindJoiner : Ligature → Ligature
  | lamed _ => lamed true
  | ya _ => ya true
  | tifinagh _ => tifinagh true
  | orkhon _ => orkhon true
  | l => l

/-- The columns that a letter in front adds, when it joins. -/
def joinLetter? (l : Ligature) (c : Char) : Option (Int × Option Ligature) :=
  let n := c.toNat
  match l with
  | alef => if lams.contains c then some (0, none) else none
  | lamed true => if n = 0x5D0 then some (0, none) else none
  | ya true => if n = 0x1A17 then some (0, some vowelYa) else none
  | vowelYa => if n = 0x1A15 then some (0, none) else none
  | tifinagh joined =>
    if n = 0x2D7F then some (1, some tifinaghPair)
    else if joined && tifinaghConsonants.contains c then some (0, none)
    else none
  | tifinaghPair => if tifinaghConsonants.contains c then some (-1, none) else none
  | lisuTone => if 0xA4F8 ≤ n ∧ n ≤ 0xA4FB then some (0, none) else none
  | orkhon true => if n = 0x10C32 then some (0, none) else none
  | khmer => if n = 0x17D2 then some (-1, none) else none
  | lamed false | ya false | orkhon false => none

/-- The columns that a character in front adds, when it joins or lets other letters join. `unseen`
tells whether it has no width of its own. -/
def join? (l : Ligature) (unseen : Bool) (c : Char) : Option (Int × Option Ligature) :=
  if l = alef then
    match l.joinLetter? c with
    | some r => some r
    | none =>
      if unseen && !CharClass.separating.contains c then some (0, some l) else none
  else if c = joiner then some (0, some l.behindJoiner)
  else if ignoredMarks.contains c then some (0, some l)
  else l.joinLetter? c

end Ligature

end LeaseQueue.Text
