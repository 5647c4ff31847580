import ModuleHooks.Domain.MappingTable
import ModuleHooks.Text.Packed

/-!
The first step in reading a domain name: every character is kept, dropped, written as others or
refused. Letters come out in lower case, and compatible forms as the plain one.
-/
namespace ModuleHooks.Domain

/-- What becomes of a character of a domain name. -/
inductive Fate
  | kept
  | dropped
  | written (s : Text)
  | refused
deriving DecidableEq, Repr

def refusedRanges : List (Nat × Nat) := Packed.ranges refusedWords

def droppedRanges : List (Nat × Nat) := Packed.ranges droppedWords

def writtenRows : List (Nat × List Text) := Packed.rows writtenWords

/-- What becomes of a character. -/
def fate (c : Char) : Fate :=
  match Packed.text? writtenRows c with
  | some s => .written s
  | none =>
    if Packed.holds droppedRanges c then .dropped
    else if Packed.holds refusedRanges c then .refused
    else .kept

/-- What a character is written as. -/
def Fate.text? (c : Char) : Fate → Option Text
  | .kept => some [c]
  | .dropped => some []
  | .written s => some s
  | .refused => none

/-- A name with every character taken as its fate is, unless one is refused. -/
def mapped? (name : Text) : Option Text :=
  (name.mapM fun c => (fate c).text? c).map List.flatten

def isKept (c : Char) : Bool := fate c == .kept

end ModuleHooks.Domain
