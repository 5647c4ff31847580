import ModuleHooks.Domain.DirectionTable
import ModuleHooks.Text.Packed

/-!
The rule on direction: in a name with letters from right to left, each label runs in one direction,
so that it reads the same wherever it stands.
-/
namespace ModuleHooks.Domain

/-- The direction of a character. -/
inductive Direction
  | left
  | right
  | arabicNumber
  | europeanNumber
  | neutral
  /-- The direction of what the mark stands on. -/
  | attached
deriving DecidableEq, Repr

namespace Direction

/-- The ranges of each direction but the usual one. -/
def ranges : List (Direction × List (Nat × Nat)) :=
  [(right, Packed.ranges rightWords), (arabicNumber, Packed.ranges arabicNumberWords),
    (europeanNumber, Packed.ranges europeanNumberWords), (neutral, Packed.ranges neutralWords),
    (attached, Packed.ranges attachedWords)]

/-- The direction of a character. -/
def ofChar (c : Char) : Direction :=
  ((ranges.find? fun (_, r) => Packed.holds r c).map (·.1)).getD left

/-- Whether a name that holds this direction has to keep the rule. -/
def isRightward : Direction → Bool
  | right | arabicNumber => true
  | _ => false

end Direction

/-- Whether a label that starts with these directions keeps the rule: one from left to right has
nothing of the other direction and ends in a letter or a digit, and so does one from right to left,
whose numbers are of one kind. -/
def keepsDirection (directions : List Direction) : Bool :=
  match directions with
  | [] => true
  | .left :: _ =>
    let last := (directions.reverse.dropWhile (· == .attached)).head?
    directions.all (fun d => d != .right && d != .arabicNumber)
      && (last == some .left || last == some .europeanNumber)
  | .right :: _ =>
    let last := (directions.reverse.dropWhile (· == .attached)).head?
    directions.all (· != .left)
      && (last == some .right || last == some .arabicNumber || last == some .europeanNumber)
      && !(directions.contains .arabicNumber && directions.contains .europeanNumber)
  | _ => false

/-- Whether the labels of a name keep the rule, if any of them calls for it. -/
def keepDirection (labels : List Text) : Bool :=
  let directions := labels.map fun label => label.map Direction.ofChar
  !(directions.any fun ds => ds.any Direction.isRightward) || directions.all keepsDirection

end ModuleHooks.Domain
