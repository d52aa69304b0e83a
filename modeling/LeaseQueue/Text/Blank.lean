/-
White space and blank texts.

* `Text.isBlankChar`: the characters with the Unicode property `White_Space`;
* `Text.isBlank`: texts that hold nothing else, the empty text included.
-/

namespace LeaseQueue.Text

/-- The ranges of code points with the property `White_Space`, in increasing order. -/
def blankRanges : List (Nat × Nat) :=
  [(0x09, 0x0D), (0x20, 0x20), (0x85, 0x85), (0xA0, 0xA0), (0x1680, 0x1680), (0x2000, 0x200A),
   (0x2028, 0x2029), (0x202F, 0x202F), (0x205F, 0x205F), (0x3000, 0x3000)]

/-- Whether a character is white space. -/
def isBlankChar (c : Char) : Bool :=
  blankRanges.any fun (low, high) => low ≤ c.toNat && c.toNat ≤ high

/-- Whether a text has no character other than white space. -/
def isBlank (s : String) : Bool := s.toList.all isBlankChar

example : isBlank "" = true ∧ isBlank " \t\u3000" = true := by decide
example : isBlank "\u200b" = false := by decide

end LeaseQueue.Text
