import ModuleHooks.Decimal.Binary64
import ModuleHooks.Text.Basic

/-!
The shortest decimal that reads back as a given binary number, and its spelling. Among the decimals
that round to the number those with the fewest digits are taken, and of them the nearest; an exact
tie goes to the even last digit.
-/
namespace ModuleHooks

/-- The decimal `digits · 10 ^ exponent`. -/
structure Decimal where
  digits : Nat
  exponent : Int
deriving DecidableEq, Repr

namespace Decimal

/-- The same decimal without zeros at its end; `fuel` bounds their number. -/
def trimZeros : Nat → Decimal → Decimal
  | 0, d => d
  | fuel + 1, d =>
    if d.digits ≠ 0 ∧ d.digits % 10 = 0 then trimZeros fuel ⟨d.digits / 10, d.exponent + 1⟩ else d

/-- The number of decimal digits of `n`; zero has none. -/
def width (n : Nat) : Nat := if n = 0 then 0 else (Nat.toDigits 10 n).length

/-- The exponent of the first decimal digit of `num / den`, both positive. -/
def leadingExponent (num den : Nat) : Int :=
  if den ≤ num then (width (num / den) : Int) - 1 else -(width ((den - 1) / num) : Int)

/-- What a decimal `c · 10 ^ k` and a quarter step `x · 2 ^ (exponent - 2)` are multiplied by to be
compared as whole numbers. -/
def scales (x : Magnitude) (k : Int) : Nat × Nat :=
  (tenTo k.toNat * twoTo (2 - x.exponent).toNat, tenTo (-k).toNat * twoTo (x.exponent - 2).toNat)

/-- Whether `c · 10 ^ k` rounds to `x`: it lies no further than half a step away, where the step
below a power of two is half the step above it and the ends belong to an even mantissa. -/
def roundsTo (x : Magnitude) (c : Nat) (k : Int) : Bool :=
  let (cs, xs) := scales x k
  let below := if x.mantissa = twoTo 52 ∧ Magnitude.lowestExponent < x.exponent then 1 else 2
  let lo := (4 * x.mantissa - below) * xs
  let hi := (4 * x.mantissa + 2) * xs
  if x.mantissa % 2 = 0 then lo ≤ c * cs && c * cs ≤ hi else lo < c * cs && c * cs < hi

/-- The decimal with `n` digits next to `x`, if it rounds to `x`. -/
def withDigits? (x : Magnitude) (n : Nat) : Option Decimal :=
  let (num, den) := x.ratio
  let k := leadingExponent num den - (n - 1 : Int)
  let (cs, xs) := scales x k
  let below := 4 * x.mantissa * xs / cs
  let above := below + 1
  let gapBelow := 4 * x.mantissa * xs - below * cs
  let gapAbove := above * cs - 4 * x.mantissa * xs
  match roundsTo x below k, roundsTo x above k with
  | false, false => none
  | true, false => some ⟨below, k⟩
  | false, true => some ⟨above, k⟩
  | true, true =>
    if gapBelow < gapAbove then some ⟨below, k⟩
    else if gapAbove < gapBelow then some ⟨above, k⟩
    else if below % 2 = 0 then some ⟨below, k⟩ else some ⟨above, k⟩

/-- The shortest decimal that reads back as `x`. Seventeen digits always do. -/
def shortest (x : Magnitude) : Decimal :=
  if x.mantissa = 0 then ⟨0, 0⟩
  else
    match (List.range 17).findSome? fun i => withDigits? x (i + 1) with
    | some d => trimZeros 17 d
    | none => ⟨0, 0⟩

/-- Where a spelling changes from positional to scientific. -/
structure Spelling where
  /-- The least exponent of a first digit that is written positionally. -/
  leastPositional : Int
  /-- The least exponent above that which no longer is. -/
  leastScientific : Int

/-- The positional spelling of nonempty digits, the first standing for `10 ^ lead`. -/
def positional (digits : Text) (lead : Int) : Text :=
  if lead < 0 then '0' :: '.' :: (List.replicate (-lead - 1).toNat '0' ++ digits)
  else
    let whole := lead.toNat + 1
    if digits.length ≤ whole then digits ++ List.replicate (whole - digits.length) '0' ++ ['.', '0']
    else digits.take whole ++ '.' :: digits.drop whole

/-- The scientific spelling: one digit, a point if more follow, and a signed exponent. -/
def scientific (digits : Text) (lead : Int) : Text :=
  let mantissa :=
    match digits with
    | d :: r@(_ :: _) => d :: '.' :: r
    | ds => ds
  mantissa ++ 'e' :: (if lead < 0 then '-' else '+') :: Text.ofNat lead.natAbs

/-- The text of a decimal in a spelling. -/
def write (style : Spelling) (d : Decimal) : Text :=
  let digits := Text.ofNat d.digits
  let lead := d.exponent + (digits.length - 1 : Int)
  if style.leastPositional ≤ lead ∧ lead < style.leastScientific then positional digits lead
  else scientific digits lead

end Decimal
end ModuleHooks
