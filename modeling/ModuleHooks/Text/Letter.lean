import ModuleHooks.Text.LetterTable

/-!
Letters and digits of all scripts: the character classes that decide which characters make a word
of code.
-/
namespace ModuleHooks

def inRanges (ranges : List (Nat × Nat)) (n : Nat) : Bool :=
  ranges.any fun (lo, hi) => lo ≤ n && n ≤ hi

/-- Whether the character has the Unicode property Alphabetic. -/
def isLetter (c : Char) : Bool :=
  if c.toNat < 0x80 then c.isAlpha else inRanges alphabeticRanges c.toNat

/-- Whether the character is a number of any script. -/
def isNumeral (c : Char) : Bool :=
  if c.toNat < 0x80 then c.isDigit else inRanges numericRanges c.toNat

def isLetterOrNumeral (c : Char) : Bool := isLetter c || isNumeral c

end ModuleHooks
