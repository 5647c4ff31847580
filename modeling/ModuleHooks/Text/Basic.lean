/-!
Text as a list of characters, with the cutting operations every other module reads text by. Each
operation looks at its argument from the front, so laws about it go by induction on the text.
-/
namespace ModuleHooks

/-- Text is read character by character; a character is a Unicode scalar value. -/
abbrev Text := List Char

namespace Text

/-- What follows `lead` in `s`, when `s` starts with it. -/
def after? (lead s : Text) : Option Text := lead.isPrefixOf? s

/-- What precedes `tail` in `s`, when `s` ends with it. -/
def before? (tail s : Text) : Option Text := (after? tail.reverse s.reverse).map List.reverse

def startsWith (s lead : Text) : Bool := lead.isPrefixOf s

def endsWith (s tail : Text) : Bool := tail.isSuffixOf s

/-- Whether `needle` occurs somewhere in `s`. -/
def hasInfix (needle : Text) : Text → Bool
  | [] => needle.isEmpty
  | c :: r => needle.isPrefixOf (c :: r) || hasInfix needle r

/-- The pieces between the occurrences of `mark`; there is always one more piece than marks. -/
def splitAt (mark : Char) : Text → List Text
  | [] => [[]]
  | c :: r =>
    if c = mark then [] :: splitAt mark r
    else
      match splitAt mark r with
      | [] => [[c]]
      | piece :: pieces => (c :: piece) :: pieces

/-- The text before and after the first `mark`. -/
def cutAt? (mark : Char) : Text → Option (Text × Text)
  | [] => none
  | c :: r =>
    if c = mark then some ([], r)
    else (cutAt? mark r).map fun (before, rest) => (c :: before, rest)

/-- The text before the first `mark`, or all of it. -/
def upTo (mark : Char) (s : Text) : Text := s.takeWhile (· != mark)

/-- The pieces joined again with `mark` between neighbours. -/
def joinWith (mark : Char) : List Text → Text
  | [] => []
  | [piece] => piece
  | piece :: pieces => piece ++ mark :: joinWith mark pieces

def replaceChar (old new : Char) (s : Text) : Text := s.map fun c => if c = old then new else c

/-- The text with every `mark` replaced by the text `filling`. -/
def fill (mark : Char) (filling s : Text) : Text :=
  s.flatMap fun c => if c = mark then filling else [c]

/-- The text with its first `mark`, if any, replaced by `filling`. -/
def fillFirst (mark : Char) (filling s : Text) : Text :=
  match cutAt? mark s with
  | none => s
  | some (before, rest) => before ++ filling ++ rest

/-- The text without the run of `mark` at its end. -/
def trimEndOf (mark : Char) (s : Text) : Text := (s.reverse.dropWhile (· == mark)).reverse

/-- Dictionary order on code points. -/
def order : Text → Text → Ordering
  | [], [] => .eq
  | [], _ :: _ => .lt
  | _ :: _, [] => .gt
  | a :: r, b :: t => (compare a.toNat b.toNat).then (order r t)

/-- Whether the two texts agree up to the case of ASCII letters. -/
def sameIgnoringCase (a b : Text) : Bool := a.map Char.toLower == b.map Char.toLower

/-- The digits of `n` in base ten. -/
def ofNat (n : Nat) : Text := (toString n).toList

end Text
end ModuleHooks
