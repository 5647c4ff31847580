import ModuleHooks.Text.Basic

/-!
Numbers in base sixteen, with digits of either case.
-/
namespace ModuleHooks.Hexadecimal

/-- The value of a digit. -/
def digit? (c : Char) : Option Nat :=
  if c.isDigit then some (c.toNat - '0'.toNat)
  else if 'a' ≤ c ∧ c ≤ 'f' then some (c.toNat - 'a'.toNat + 10)
  else if 'A' ≤ c ∧ c ≤ 'F' then some (c.toNat - 'A'.toNat + 10)
  else none

def isDigit (c : Char) : Bool := (digit? c).isSome

/-- The number that digits spell; other characters count as zero. -/
def number (s : Text) : Nat := s.foldl (fun n c => n * 16 + (digit? c).getD 0) 0

end ModuleHooks.Hexadecimal
