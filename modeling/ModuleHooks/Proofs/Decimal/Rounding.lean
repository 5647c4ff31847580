import Mathlib.Algebra.Order.Field.Power
import Mathlib.Data.Nat.Log
import Mathlib.Tactic.FieldSimp
import Mathlib.Tactic.Linarith
import Mathlib.Tactic.NormNum
import Mathlib.Tactic.Positivity
import Mathlib.Tactic.Ring
import ModuleHooks.Decimal.Binary64

/-!
Rounding to the binary format. A ratio rounds to no more than a number of the format that bounds it
(`value_le_of_ofRatio?`), and it rounds to something as long as it is nearer to the largest number than to the
one that would come next (`ofRatio?_isSome`).
-/
namespace ModuleHooks.Magnitude

/-- The number that a magnitude is. -/
def value (x : Magnitude) : ℚ := x.mantissa * 2 ^ x.exponent

/-- Halfway between the largest number of the format and the one that would come next. -/
def overflow : ℚ := (2 ^ 54 - 1) * 2 ^ 970

/-! ## Powers of two -/

theorem cast_twoTo (n : Nat) : (twoTo n : ℚ) = 2 ^ n := by
  unfold twoTo
  exact Nat.cast_pow 2 n

theorem twoTo_pos (n : Nat) : 0 < twoTo n := Nat.pow_pos (by decide)

/-- A power as a fraction: one of the two parts is one. -/
theorem zpow_toNat {base : ℚ} (other : base ≠ 0) (e : Int) : base ^ e = base ^ e.toNat / base ^ (-e).toNat := by
  rw [← zpow_natCast, ← zpow_natCast, ← zpow_sub₀ other]
  congr 1
  omega

theorem zpow_eq_div (e : Int) : (2 : ℚ) ^ e = twoTo e.toNat / twoTo (-e).toNat := by
  rw [cast_twoTo, cast_twoTo]
  exact zpow_toNat (by norm_num) e

theorem scaled_pos {den : Nat} (positive : 0 < den) (num : Nat) (e : Int) : 0 < (scaled num den e).2 := by
  unfold scaled
  split
  · exact Nat.mul_pos positive (twoTo_pos _)
  · exact positive

theorem scaled_div (num den : Nat) (e : Int) :
    ((scaled num den e).1 : ℚ) / (scaled num den e).2 = num / den / 2 ^ e := by
  unfold scaled
  split
  case isTrue above =>
    have nothing : (-e).toNat = 0 := by omega
    rw [zpow_eq_div, nothing, cast_twoTo 0, Nat.cast_mul, pow_zero, div_one, div_div]
  case isFalse below =>
    have nothing : e.toNat = 0 := by omega
    rw [zpow_eq_div, nothing, cast_twoTo 0, Nat.cast_mul, pow_zero, one_div, div_inv_eq_mul]
    exact mul_div_right_comm _ _ _

theorem ratio_pos (x : Magnitude) : 0 < x.ratio.2 := by
  unfold ratio
  split
  · exact Nat.one_pos
  · exact twoTo_pos _

theorem ratio_div (x : Magnitude) : (x.ratio.1 : ℚ) / x.ratio.2 = x.value := by
  unfold ratio value
  split
  case isTrue above =>
    have nothing : (-x.exponent).toNat = 0 := by omega
    rw [zpow_eq_div, nothing, cast_twoTo 0, Nat.cast_mul, pow_zero, Nat.cast_one, div_one, div_one]
  case isFalse below =>
    have nothing : x.exponent.toNat = 0 := by omega
    rw [zpow_eq_div, nothing, cast_twoTo 0, pow_zero, mul_one_div]

/-! ## The exponent -/

theorem two_pow_log2 {n : Nat} (positive : 0 < n) :
    (2 : ℚ) ^ (n.log2 : Int) ≤ n ∧ (n : ℚ) < 2 ^ (n.log2 + 1 : Int) := by
  have low : 2 ^ n.log2 ≤ n := Nat.log2_self_le (Nat.ne_of_gt positive)
  have high : n < 2 ^ (n.log2 + 1) := Nat.lt_log2_self
  constructor
  · rw [zpow_natCast]
    exact_mod_cast low
  · rw [show (n.log2 + 1 : Int) = ((n.log2 + 1 : Nat) : Int) by push_cast; rfl, zpow_natCast]
    exact_mod_cast high

/-- The exponent leaves 53 bits before the point. -/
theorem fullExponent_bounds {num den : Nat} (some : 0 < num) (positive : 0 < den) :
    (2 : ℚ) ^ (52 + fullExponent num den) ≤ num / den ∧
      (num / den : ℚ) < 2 ^ (53 + fullExponent num den) := by
  have two : (2 : ℚ) ≠ 0 := by norm_num
  obtain ⟨numLow, numHigh⟩ := two_pow_log2 some
  obtain ⟨denLow, denHigh⟩ := two_pow_log2 positive
  have den' : (0 : ℚ) < den := by exact_mod_cast positive
  let e : Int := (num.log2 : Int) - den.log2 - 52
  have low : (2 : ℚ) ^ (51 + e) ≤ num / den := by
    rw [le_div_iff₀ den']
    calc (2 : ℚ) ^ (51 + e) * den ≤ 2 ^ (51 + e) * 2 ^ (den.log2 + 1 : Int) := by gcongr
      _ = 2 ^ (num.log2 : Int) := by
        rw [← zpow_add₀ two]
        congr 1
        omega
      _ ≤ num := numLow
  have high : (num / den : ℚ) < 2 ^ (53 + e) := by
    rw [div_lt_iff₀ den']
    calc (num : ℚ) < 2 ^ (num.log2 + 1 : Int) := numHigh
      _ = 2 ^ (53 + e) * 2 ^ (den.log2 : Int) := by
        rw [← zpow_add₀ two]
        congr 1
        omega
      _ ≤ 2 ^ (53 + e) * den := by gcongr
  have scaledDen : (0 : ℚ) < (scaled num den e).2 := by exact_mod_cast scaled_pos positive num e
  have compares : (scaled num den e).1 / (scaled num den e).2 < twoTo 52 ↔
      (num / den : ℚ) < 2 ^ (52 + e) := by
    rw [Nat.div_lt_iff_lt_mul (scaled_pos positive num e), zpow_add₀ two, ← div_lt_iff₀ (by positivity),
      ← scaled_div, div_lt_iff₀ scaledDen, ← Nat.cast_lt (α := ℚ), Nat.cast_mul, cast_twoTo]
    norm_num
  have chosen : fullExponent num den =
      if (scaled num den e).1 / (scaled num den e).2 < twoTo 52 then e - 1 else e := rfl
  rw [chosen]
  split
  case isTrue small =>
    have below := compares.1 small
    refine ⟨?_, ?_⟩
    · rwa [show (52 : Int) + (e - 1) = 51 + e by ring]
    · rwa [show (53 : Int) + (e - 1) = 52 + e by ring]
  case isFalse large =>
    have above := not_lt.1 (mt compares.2 large)
    exact ⟨above, high⟩

/-! ## The mantissa -/

/-- What is less than half beyond a whole number rounds to no more than that. -/
theorem roundRatio_le {num den m : Nat} (near : 2 * num < (2 * m + 1) * den) : roundRatio num den ≤ m := by
  have whole := Nat.div_add_mod num den
  have positive : 0 < den := by
    by_contra nothing
    simp [Nat.eq_zero_of_not_pos nothing] at near
  have rest := Nat.mod_lt num positive
  have low : num / den ≤ m := by
    by_contra beyond
    have more : den * (m + 1) ≤ den * (num / den) := Nat.mul_le_mul_left den (by omega)
    have twice : (2 * m + 1) * den + den = 2 * (den * (m + 1)) := by ring
    omega
  obtain same | less := Nat.eq_or_lt_of_le low
  · have half : 2 * (num % den) < den := by
      rw [same] at whole
      have twice : (2 * m + 1) * den = 2 * (den * m) + den := by ring
      omega
    unfold roundRatio
    simp [half, low]
  · unfold roundRatio
    dsimp only
    split
    · exact low
    · split
      · exact less
      · split
        · exact low
        · exact less

/-- A ratio with 53 bits before the point rounds to 53 bits, or to the next power of two. -/
theorem roundRatio_le_of_div {num den m : Nat} {e : Int} (positive : 0 < den)
    (near : (num / den : ℚ) / 2 ^ e < m + 1 / 2) :
    roundRatio (scaled num den e).1 (scaled num den e).2 ≤ m := by
  apply roundRatio_le
  rw [← scaled_div, div_lt_iff₀ (by exact_mod_cast scaled_pos positive num e)] at near
  have twice : (2 * (scaled num den e).1 : ℚ) < (2 * m + 1) * (scaled num den e).2 := by linarith
  exact_mod_cast twice

/-- The magnitudes of the format, as far as their size goes. -/
structure IsFinite (x : Magnitude) : Prop where
  mantissa_lt : x.mantissa < 2 ^ 53
  exponent_le : x.exponent ≤ highestExponent

/-- With the unit that is chosen, 53 bits or the next power of two are left. -/
theorem roundRatio_le_full {num : Nat} (some : 0 < num) (den : Nat) :
    let e := max (fullExponent num den) lowestExponent
    roundRatio (scaled num den e).1 (scaled num den e).2 ≤ 2 ^ 53 := by
  intro e
  obtain rfl | positive := Nat.eq_zero_or_pos den
  · have nothing : (scaled num 0 e).2 = 0 := by
      unfold scaled
      split
      · exact Nat.zero_mul _
      · rfl
    have small (n : Nat) : roundRatio n 0 ≤ 1 := by
      unfold roundRatio
      simp only [Nat.div_zero, Nat.mod_zero]
      split_ifs <;> omega
    rw [nothing]
    exact (small _).trans (by decide)
  · have two : (2 : ℚ) ≠ 0 := by norm_num
    apply roundRatio_le_of_div positive
    rw [div_lt_iff₀ (by positivity)]
    calc (num / den : ℚ) < 2 ^ (53 + fullExponent num den) := (fullExponent_bounds some positive).2
      _ ≤ 2 ^ (53 + e) := zpow_le_zpow_right₀ (by norm_num) (by omega)
      _ = 2 ^ 53 * 2 ^ e := by rw [zpow_add₀ two]; norm_num
      _ ≤ (((2 ^ 53 : Nat) : ℚ) + 1 / 2) * 2 ^ e := by gcongr; norm_num

/-- What a ratio rounds to with so many bits below the point, where the next power of two is written with one
bit less. -/
theorem ofRatio?_eq {num : Nat} (some : 0 < num) (den : Nat) :
    ∃ (e : Int) (m : Nat) (x : Magnitude), e = max (fullExponent num den) lowestExponent ∧
      m = roundRatio (scaled num den e).1 (scaled num den e).2 ∧ x.value = m * 2 ^ e ∧
      x.mantissa < 2 ^ 53 ∧ x.exponent ≤ e + 1 ∧ (m < 2 ^ 53 → x.exponent = e) ∧
      ofRatio? num den = if x.exponent ≤ highestExponent then Option.some x else none := by
  have two : (2 : ℚ) ≠ 0 := by norm_num
  let e : Int := max (fullExponent num den) lowestExponent
  let m : Nat := roundRatio (scaled num den e).1 (scaled num den e).2
  have bound : m ≤ 2 ^ 53 := roundRatio_le_full some den
  have rounded : ofRatio? num den =
      let x : Magnitude := if m = twoTo 53 then ⟨twoTo 52, e + 1⟩ else ⟨m, e⟩
      if x.exponent ≤ highestExponent then Option.some x else none := by
    have other : num ≠ 0 := by omega
    unfold ofRatio?
    rw [if_neg other]
  by_cases full : m = twoTo 53
  · refine ⟨e, m, ⟨twoTo 52, e + 1⟩, rfl, rfl, ?_, ?_, le_refl _, ?_, ?_⟩
    · rw [full, value, zpow_add₀ two, cast_twoTo, cast_twoTo]
      ring
    · show twoTo 52 < 2 ^ 53
      decide
    · intro less
      exact absurd less (by rw [full]; decide)
    · rw [rounded, if_pos full]
  · refine ⟨e, m, ⟨m, e⟩, rfl, rfl, rfl, lt_of_le_of_ne bound full, by simp, fun _ => rfl, ?_⟩
    rw [rounded, if_neg full]

theorem isFinite_of_ofRatio? {num den : Nat} {x : Magnitude}
    (rounded : ofRatio? num den = some x) : x.IsFinite := by
  obtain nothing | some := Nat.eq_zero_or_pos num
  · rw [nothing] at rounded
    obtain rfl : zero = x := Option.some.inj rounded
    exact ⟨by decide, by decide⟩
  · obtain ⟨e, m, y, -, -, -, small, -, -, result⟩ := ofRatio?_eq some den
    rw [rounded] at result
    split at result
    case isTrue inside =>
      obtain rfl := Option.some.inj result
      exact ⟨small, inside⟩
    case isFalse => exact nomatch result

/-- A ratio that does not exceed a number of the format rounds to no more than that number. -/
theorem value_le_of_ofRatio? {num den m s : Nat} {x : Magnitude} (positive : 0 < den) (bits : m ≤ 2 ^ 53)
    (bound : (num / den : ℚ) ≤ m * 2 ^ s) (rounded : ofRatio? num den = some x) : x.value ≤ m * 2 ^ s := by
  obtain nothing | some := Nat.eq_zero_or_pos num
  · rw [nothing] at rounded
    obtain rfl : zero = x := Option.some.inj rounded
    have same : zero.value = 0 := by simp [value, zero]
    rw [same]
    positivity
  · obtain ⟨e, n, y, exponent, mantissa, same, -, -, -, result⟩ := ofRatio?_eq some den
    rw [rounded] at result
    split at result
    case isFalse => exact nomatch result
    obtain rfl := Option.some.inj result
    rw [same]
    have two : (2 : ℚ) ≠ 0 := by norm_num
    obtain below | above := le_or_gt e (s : Int)
    · -- The bound is a whole number of units.
      have units : (m : ℚ) * 2 ^ s / 2 ^ e = ((m * 2 ^ (s - e).toNat : Nat) : ℚ) := by
        rw [Nat.cast_mul, Nat.cast_pow, Nat.cast_ofNat, mul_div_assoc, ← zpow_natCast, ← zpow_natCast,
          ← zpow_sub₀ two]
        congr 2
        omega
      have most : n ≤ m * 2 ^ (s - e).toNat := by
        rw [mantissa]
        apply roundRatio_le_of_div positive
        rw [← units]
        have small : (num / den : ℚ) / 2 ^ e ≤ m * 2 ^ s / 2 ^ e := by gcongr
        linarith
      calc (n : ℚ) * 2 ^ e ≤ ((m * 2 ^ (s - e).toNat : Nat) : ℚ) * 2 ^ e := by gcongr
        _ = m * 2 ^ s := by rw [← units, div_mul_cancel₀ _ (zpow_ne_zero _ two)]
    · -- The unit is larger than that of the bound, so both are the same power of two.
      have lowest : lowestExponent < 0 := by decide
      have full : e = fullExponent num den := by omega
      have low := (fullExponent_bounds some positive).1
      rw [← full] at low
      have high : (m : ℚ) * 2 ^ s ≤ 2 ^ (52 + e) := by
        calc (m : ℚ) * 2 ^ s ≤ 2 ^ 53 * 2 ^ s := by
              gcongr
              exact_mod_cast bits
          _ = 2 ^ ((53 + s : Nat) : Int) := by rw [zpow_natCast, pow_add]
          _ ≤ 2 ^ (52 + e) := zpow_le_zpow_right₀ (by norm_num) (by omega)
      have most : n ≤ 2 ^ 52 := by
        rw [mantissa]
        apply roundRatio_le_of_div positive
        rw [div_lt_iff₀ (by positivity)]
        calc (num / den : ℚ) ≤ 2 ^ (52 + e) := le_trans bound high
          _ = 2 ^ 52 * 2 ^ e := by rw [zpow_add₀ two]; norm_num
          _ < (((2 ^ 52 : Nat) : ℚ) + 1 / 2) * 2 ^ e := by gcongr; norm_num
      calc (n : ℚ) * 2 ^ e ≤ ((2 ^ 52 : Nat) : ℚ) * 2 ^ e := by gcongr
        _ = 2 ^ (52 + e) := by rw [zpow_add₀ two]; norm_num
        _ ≤ m * 2 ^ s := le_trans low bound

/-- A ratio is rounded as long as it is below half beyond the largest number. -/
theorem ofRatio?_isSome {num den : Nat} (positive : 0 < den) (bound : (num / den : ℚ) < overflow) :
    (ofRatio? num den).isSome = true := by
  obtain nothing | some := Nat.eq_zero_or_pos num
  · rw [nothing]
    rfl
  · obtain ⟨e, m, x, exponent, mantissa, -, -, next, within, result⟩ := ofRatio?_eq some den
    have inside : x.exponent ≤ highestExponent := by
      have highest : highestExponent = 971 := rfl
      have lowest : lowestExponent = -1074 := rfl
      have two : (2 : ℚ) ≠ 0 := by norm_num
      have most : e ≤ 971 := by
        by_contra beyond
        have full : e = fullExponent num den := by omega
        have low := (fullExponent_bounds some positive).1
        rw [← full] at low
        have high : (2 : ℚ) ^ (1024 : Int) ≤ 2 ^ (52 + e) := zpow_le_zpow_right₀ (by norm_num) (by omega)
        have limit : overflow < (2 : ℚ) ^ (1024 : Int) := by
          rw [show (1024 : Int) = ((54 + 970 : Nat) : Int) from rfl, zpow_natCast, pow_add, overflow]
          gcongr
          norm_num
        linarith
      obtain less | same := lt_or_eq_of_le most
      · omega
      · -- In the highest place the largest mantissa is still rounded to.
        have small : m ≤ 2 ^ 53 - 1 := by
          rw [mantissa]
          apply roundRatio_le_of_div positive
          rw [div_lt_iff₀ (by positivity), same]
          have limit : overflow = (((2 ^ 53 - 1 : Nat) : ℚ) + 1 / 2) * 2 ^ (971 : Int) := by
            rw [show (971 : Int) = ((1 + 970 : Nat) : Int) from rfl, zpow_natCast, pow_add, overflow, ← mul_assoc]
            congr 1
            norm_num
          rwa [← limit]
        have one := within (by omega)
        omega
    rw [result, if_pos inside]
    rfl

end ModuleHooks.Magnitude
