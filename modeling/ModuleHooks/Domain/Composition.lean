import ModuleHooks.Domain.CompositionTable
import ModuleHooks.Text.Packed

/-!
The composed normal form of texts whose characters can stand in a domain name: composites are taken
apart, marks are put in the order of their classes, and what can be composed is composed again.
Syllables of the Korean script are computed, all else is looked up.
-/
namespace ModuleHooks.Domain

/-- The classes of marks. -/
def classEntries : List ((Nat × Nat) × Nat) :=
  (Packed.entries classWords).map fun (place, s) => (place, Hexadecimal.number s)

/-- The combining class of a character; zero where it has none. -/
def combiningClass (c : Char) : Nat := (Packed.value? classEntries c).getD 0

/-- The composites with the two characters that each stands for. -/
def composites : List (Char × Char × Char) :=
  (Packed.rows compositeWords).filterMap fun (code, texts) =>
    match texts with
    | [[first, second]] => some (Char.ofNat code, first, second)
    | _ => none

namespace Syllable

/-- The first syllable. -/
def base : Nat := 0xAC00
/-- The first leading consonant. -/
def leadBase : Nat := 0x1100
/-- The first vowel. -/
def vowelBase : Nat := 0x1161
/-- The code point before the first trailing consonant. -/
def trailBase : Nat := 0x11A7
/-- The number of leading consonants. -/
def leads : Nat := 19
/-- The number of vowels. -/
def vowels : Nat := 21
/-- The number of ways to end a syllable. -/
def trails : Nat := 28

/-- The parts of a syllable: one without a trailing consonant is a consonant and a vowel, any other
is that and its trailing consonant. -/
def parts? (c : Char) : Option (Char × Char) :=
  let index := c.toNat - base
  if c.toNat < base ∨ leads * vowels * trails ≤ index then none
  else if index % trails = 0 then
    some (Char.ofNat (leadBase + index / (vowels * trails)),
      Char.ofNat (vowelBase + index / trails % vowels))
  else some (Char.ofNat (c.toNat - index % trails), Char.ofNat (trailBase + index % trails))

/-- The syllable that two parts make. -/
def compose? (first second : Char) : Option Char :=
  let lead := first.toNat - leadBase
  let vowel := second.toNat - vowelBase
  let syllable := first.toNat - base
  let trail := second.toNat - trailBase
  if leadBase ≤ first.toNat ∧ lead < leads ∧ vowelBase ≤ second.toNat ∧ vowel < vowels then
    some (Char.ofNat (base + (lead * vowels + vowel) * trails))
  else if base ≤ first.toNat ∧ syllable < leads * vowels * trails ∧ syllable % trails = 0
      ∧ trailBase < second.toNat ∧ trail < trails then
    some (Char.ofNat (first.toNat + trail))
  else none

end Syllable

/-- The two characters that a composite stands for. -/
def parts? (c : Char) : Option (Char × Char) :=
  (composites.lookup c).or (Syllable.parts? c)

/-- The composite of two characters. -/
def compose? (first second : Char) : Option Char :=
  ((composites.find? fun (_, pair) => pair == (first, second)).map (·.1)).or
    (Syllable.compose? first second)

/-- A character taken apart, at most so many times in a row. -/
def takeApart : Nat → Char → Text
  | 0, c => [c]
  | fuel + 1, c =>
    match parts? c with
    | some (first, second) => takeApart fuel first ++ [second]
    | none => [c]

def greatestDepth : Nat := 4

/-- Puts a character in front of ordered ones: a mark goes behind the marks of lower classes. -/
def insertMark (c : Char) : Text → Text
  | [] => [c]
  | d :: rest =>
    if 0 < combiningClass d ∧ combiningClass d < combiningClass c then d :: insertMark c rest
    else c :: d :: rest

/-- A text taken apart, with the marks on each character in the order of their classes. -/
def decomposed (s : Text) : Text := (s.flatMap (takeApart greatestDepth)).foldr insertMark []

/-- A text in the course of being composed: what is done, last first, the character that marks still
compose with, and the marks that do not, last first. -/
structure Composing where
  done : Text := []
  starter : Option Char := none
  marks : Text := []

namespace Composing

/-- All that has been composed, last first. -/
def all (w : Composing) : Text := w.marks ++ w.starter.toList ++ w.done

/-- The composite with the starter, unless a mark of the same class or none stands between. -/
def composite? (w : Composing) (c : Char) : Option Char :=
  match w.marks with
  | [] => w.starter.bind (compose? · c)
  | m :: _ =>
    if combiningClass m < combiningClass c then w.starter.bind (compose? · c) else none

/-- Takes one character. -/
def take (w : Composing) (c : Char) : Composing :=
  match w.composite? c with
  | some composite => { w with starter := some composite }
  | none =>
    if combiningClass c = 0 then { done := w.all, starter := some c }
    else { w with marks := c :: w.marks }

end Composing

def composed (s : Text) : Text := ((decomposed s).foldl Composing.take {}).all.reverse

end ModuleHooks.Domain
