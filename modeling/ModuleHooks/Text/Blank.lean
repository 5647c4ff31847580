import ModuleHooks.Text.Basic

/-!
Blank characters and trimming. Two notions of blank are in use: the Unicode property, by which code
and list lines are read, and the four characters that JSON allows between tokens.
-/
namespace ModuleHooks

/-- The code points of the Unicode property White_Space. -/
def blankCodePoints : List Nat :=
  [0x09, 0x0A, 0x0B, 0x0C, 0x0D, 0x20, 0x85, 0xA0, 0x1680, 0x2000, 0x2001, 0x2002, 0x2003, 0x2004,
    0x2005, 0x2006, 0x2007, 0x2008, 0x2009, 0x200A, 0x2028, 0x2029, 0x202F, 0x205F, 0x3000]

/-- Whether the character has the Unicode property White_Space. -/
def isBlank (c : Char) : Bool := blankCodePoints.contains c.toNat

namespace Text

def trimStart (s : Text) : Text := s.dropWhile isBlank

def trimEnd (s : Text) : Text := (s.reverse.dropWhile isBlank).reverse

def trim (s : Text) : Text := trimEnd (trimStart s)

/-- The lines among the pieces between newlines: a carriage return before a newline belongs to the
line's end, and an empty last piece is no line. -/
def linesOf : List Text → List Text
  | [] => []
  | [last] => if last.isEmpty then [] else [last]
  | piece :: pieces => (before? ['\r'] piece).getD piece :: linesOf pieces

def lines (s : Text) : List Text := linesOf (splitAt '\n' s)

end Text
end ModuleHooks
