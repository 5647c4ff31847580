/-!
Binary floating point numbers of 64 bits, as whole numbers times powers of two, computed exactly.
Every operation is the exact one followed by one rounding to the nearest number of the format.
-/
namespace ModuleHooks

/-- A magnitude `mantissa · 2 ^ exponent` of the format: at most 53 bits, no exponent below -1074,
and all 53 bits in use unless the exponent is the lowest. -/
structure Magnitude where
  mantissa : Nat
  exponent : Int
deriving DecidableEq, Repr

/-- A finite number of the format. -/
structure Binary64 where
  negative : Bool
  magnitude : Magnitude
deriving DecidableEq, Repr

def twoTo (n : Nat) : Nat := Nat.pow 2 n

def tenTo (n : Nat) : Nat := Nat.pow 10 n

namespace Magnitude

def lowestExponent : Int := -1074

def highestExponent : Int := 971

def zero : Magnitude := ⟨0, lowestExponent⟩

/-- The nearest whole number to `num / den`, of two the even one. -/
def roundRatio (num den : Nat) : Nat :=
  let q := num / den
  let r := num % den
  if 2 * r < den then q
  else if den < 2 * r then q + 1
  else if q % 2 = 0 then q else q + 1

/-- The ratio `num / (den · 2 ^ e)`, as a numerator and a denominator. -/
def scaled (num den : Nat) (e : Int) : Nat × Nat :=
  if 0 ≤ e then (num, den * twoTo e.toNat) else (num * twoTo (-e).toNat, den)

/-- The exponent that leaves 53 bits before the point of `num / den`, both positive. -/
def fullExponent (num den : Nat) : Int :=
  let e : Int := (Nat.log2 num : Int) - Nat.log2 den - 52
  let (n, d) := scaled num den e
  if n / d < twoTo 52 then e - 1 else e

/-- The number of the format nearest to `num / den`, of two the one with an even mantissa; `none`
when that is beyond the largest. -/
def ofRatio? (num den : Nat) : Option Magnitude :=
  if num = 0 then some zero
  else
    let e := max (fullExponent num den) lowestExponent
    let (n, d) := scaled num den e
    let m := roundRatio n d
    let rounded : Magnitude := if m = twoTo 53 then ⟨twoTo 52, e + 1⟩ else ⟨m, e⟩
    if rounded.exponent ≤ highestExponent then some rounded else none

/-- The nearest number to a whole number. -/
def ofNat? (n : Nat) : Option Magnitude := ofRatio? n 1

/-- The numerator and denominator of a magnitude. -/
def ratio (x : Magnitude) : Nat × Nat :=
  if 0 ≤ x.exponent then (x.mantissa * twoTo x.exponent.toNat, 1)
  else (x.mantissa, twoTo (-x.exponent).toNat)

/-- The rounded product. -/
def mul? (x y : Magnitude) : Option Magnitude :=
  ofRatio? (x.ratio.1 * y.ratio.1) (x.ratio.2 * y.ratio.2)

/-- The rounded quotient, by a divisor that is not zero. -/
def div? (x y : Magnitude) : Option Magnitude :=
  ofRatio? (x.ratio.1 * y.ratio.2) (x.ratio.2 * y.ratio.1)

/-- The nearest number to a power of ten. -/
def powerOfTen (n : Nat) : Magnitude := (ofNat? (tenTo n)).getD zero

/-- The largest power of ten below the largest number. -/
def largestPower : Nat := 308

/-- Divides by ten `n` times, by the largest power as long as `n` is above it. -/
def divPowerOfTen (x : Magnitude) (n : Nat) : Magnitude :=
  if n ≤ largestPower then (x.div? (powerOfTen n)).getD zero
  else if x.mantissa = 0 then x
  else divPowerOfTen ((x.div? (powerOfTen largestPower)).getD zero) (n - largestPower)
termination_by n
decreasing_by
  have : largestPower = 308 := rfl
  omega

/-- The magnitude that is read for `significand · 10 ^ exponent`: the significand is rounded, then
multiplied or divided by a rounded power of ten, each step rounded; `none` when it is too large. -/
def ofDecimal? (significand : Nat) (exponent : Int) : Option Magnitude :=
  (ofNat? significand).bind fun x =>
    if exponent < 0 then some (x.divPowerOfTen (-exponent).toNat)
    else if exponent ≤ largestPower then x.mul? (powerOfTen exponent.toNat)
    else if x.mantissa = 0 then some x else none

end Magnitude
end ModuleHooks
