import ModuleHooks.Domain.Composition
import ModuleHooks.Domain.JoiningTable

/-!
The rules on marks and on the two characters that join letters or keep them apart: a label starts
with no mark, and those two stand only where they change what is seen.
-/
namespace ModuleHooks.Domain

def markRanges : List (Nat × Nat) := Packed.ranges markWords

def bothSidesRanges : List (Nat × Nat) := Packed.ranges bothSidesWords

def afterRanges : List (Nat × Nat) := Packed.ranges afterWords

def beforeRanges : List (Nat × Nat) := Packed.ranges beforeWords

def transparentRanges : List (Nat × Nat) := Packed.ranges transparentWords

def nonJoiner : Char := '\u200C'

def joiner : Char := '\u200D'

/-- The combining class of the signs that take the vowel off a letter. -/
def viramaClass : Nat := 9

/-- Whether joining goes on from a character to what comes after it. -/
def joinsAfter (c : Char) : Bool := Packed.holds bothSidesRanges c || Packed.holds afterRanges c

/-- Whether joining goes on from a character to what comes before it. -/
def joinsBefore (c : Char) : Bool := Packed.holds bothSidesRanges c || Packed.holds beforeRanges c

/-- Whether the first character that joining does not pass over has a property. -/
def reaches (p : Char → Bool) (s : Text) : Bool :=
  match s.dropWhile (Packed.holds transparentRanges) with
  | [] => false
  | c :: _ => p c

/-- Whether the joining characters of a label stand where they may, given the characters before,
last first. Either may follow the sign that takes the vowel off; the one that keeps apart may also
stand between letters that would join. -/
def keepsJoining (before : Text) : Text → Bool
  | [] => true
  | c :: rest =>
    let follows := (before.head?.map fun d => combiningClass d == viramaClass).getD false
    let allowed :=
      if c = nonJoiner then follows || (reaches joinsAfter before && reaches joinsBefore rest)
      else if c = joiner then follows
      else true
    allowed && keepsJoining (c :: before) rest

def startsWithMark (label : Text) : Bool :=
  (label.head?.map (Packed.holds markRanges)).getD false

end ModuleHooks.Domain
