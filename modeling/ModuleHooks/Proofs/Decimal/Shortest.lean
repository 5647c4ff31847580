import ModuleHooks.Decimal.Shortest
import ModuleHooks.Proofs.Decimal.Reading

/-!
The shortest decimal of a number can be read again (`ofDecimal?_shortest`): it has seventeen digits at most, and it
is no further above the number than half a step.
-/
namespace ModuleHooks.Decimal

/-- The number that a decimal is. -/
def value (d : Decimal) : ℚ := d.digits * 10 ^ d.exponent

/-! ## Zeros at the end -/

theorem value_trimZeros (fuel : Nat) (d : Decimal) : (trimZeros fuel d).value = d.value := by
  induction fuel generalizing d with
  | zero => rfl
  | succ fuel ih =>
    unfold trimZeros
    split
    case isFalse => rfl
    case isTrue zero =>
      have tenfold : d.digits = d.digits / 10 * 10 := by omega
      have cast : (d.digits : ℚ) = (d.digits / 10 : Nat) * 10 := by exact_mod_cast tenfold
      rw [ih, value, value, zpow_add_one₀ (by norm_num), cast]
      ring

theorem digits_trimZeros_le (fuel : Nat) (d : Decimal) : (trimZeros fuel d).digits ≤ d.digits := by
  induction fuel generalizing d with
  | zero => exact le_refl _
  | succ fuel ih =>
    unfold trimZeros
    split
    case isFalse => exact le_refl _
    case isTrue => exact (ih _).trans (Nat.div_le_self _ _)

/-! ## The number of digits -/

theorem lt_pow_width (n : Nat) : n < 10 ^ width n := by
  unfold width
  split
  case isTrue nothing => omega
  case isFalse some =>
    have written : 0 < (Nat.toDigits 10 n).length := List.length_pos_iff.2 Nat.toDigits_ne_nil
    exact (Nat.length_toDigits_le_iff (by decide) written).1 (le_refl _)

theorem pow_le_of_width {n w : Nat} (some : 0 < n) (wide : width n = w + 1) : 10 ^ w ≤ n := by
  obtain rfl | more := Nat.eq_zero_or_pos w
  · exact some
  · by_contra less
    have short := (Nat.length_toDigits_le_iff (b := 10) (by decide) more).2 (Nat.lt_of_not_le less)
    unfold width at wide
    rw [if_neg (by omega)] at wide
    omega

theorem width_pos {n : Nat} (some : 0 < n) : 0 < width n := by
  unfold width
  rw [if_neg (by omega)]
  exact List.length_pos_iff.2 Nat.toDigits_ne_nil

/-- No digit of a ratio stands before the leading one. -/
theorem lt_leadingExponent {num den : Nat} (some : 0 < num) (positive : 0 < den) :
    (num / den : ℚ) < 10 ^ (leadingExponent num den + 1) := by
  have den' : (0 : ℚ) < den := by exact_mod_cast positive
  unfold leadingExponent
  split
  case isTrue large =>
    have less : num < 10 ^ width (num / den) * den := (Nat.div_lt_iff_lt_mul positive).1 (lt_pow_width _)
    rw [sub_add_cancel, zpow_natCast, div_lt_iff₀ den']
    exact_mod_cast less
  case isFalse small =>
    have one : 0 < (den - 1) / num := Nat.div_pos (by omega) some
    obtain ⟨w, wide⟩ := Nat.exists_eq_add_of_le' (width_pos one)
    have least : 10 ^ w * num ≤ den - 1 := (Nat.le_div_iff_mul_le some).1 (pow_le_of_width one wide)
    have less : num * 10 ^ w < den := by
      rw [Nat.mul_comm]
      omega
    have exponent : -(width ((den - 1) / num) : Int) + 1 = -(w : Int) := by omega
    rw [exponent, zpow_neg, zpow_natCast, div_lt_iff₀ den', inv_mul_eq_div, lt_div_iff₀ (by positivity)]
    exact_mod_cast less

/-! ## The decimals that round to a number -/

theorem cast_tenTo (n : Nat) : (tenTo n : ℚ) = 10 ^ n := by
  unfold tenTo
  exact Nat.cast_pow 10 n

theorem scales_pos (x : Magnitude) (k : Int) : 0 < (scales x k).1 :=
  Nat.mul_pos (Nat.pow_pos (by decide)) (Magnitude.twoTo_pos _)

/-- The scales have the ratio of a quarter of a step to the last digit. -/
theorem scales_div (x : Magnitude) (k : Int) :
    ((scales x k).2 : ℚ) / (scales x k).1 = 2 ^ (x.exponent - 2) / 10 ^ k := by
  have ten := Magnitude.zpow_toNat (show (10 : ℚ) ≠ 0 by norm_num) k
  have two := Magnitude.zpow_toNat (show (2 : ℚ) ≠ 0 by norm_num) (x.exponent - 2)
  rw [neg_sub] at two
  unfold scales
  rw [Nat.cast_mul, Nat.cast_mul, cast_tenTo, cast_tenTo, Magnitude.cast_twoTo, Magnitude.cast_twoTo, ten, two,
    div_div_div_eq, mul_comm, mul_comm (10 ^ k.toNat : ℚ)]

/-- A decimal that rounds to a number is no further above it than half a step. -/
theorem value_le_of_roundsTo {x : Magnitude} {c : Nat} {k : Int} (rounds : roundsTo x c k = true) :
    value ⟨c, k⟩ ≤ (4 * x.mantissa + 2 : Nat) * 2 ^ (x.exponent - 2) := by
  have most : c * (scales x k).1 ≤ (4 * x.mantissa + 2) * (scales x k).2 := by
    unfold roundsTo at rounds
    dsimp only at rounds
    split at rounds
    · simp only [Bool.and_eq_true, decide_eq_true_eq] at rounds
      exact rounds.2
    · simp only [Bool.and_eq_true, decide_eq_true_eq] at rounds
      exact Nat.le_of_lt rounds.2
  have scale : (0 : ℚ) < (scales x k).1 := by exact_mod_cast scales_pos x k
  have cast : (c * (scales x k).1 : ℚ) ≤ (4 * x.mantissa + 2 : Nat) * (scales x k).2 := by exact_mod_cast most
  rw [← le_div_iff₀ scale, mul_div_assoc, scales_div, ← mul_div_assoc, le_div_iff₀ (by positivity)] at cast
  exact cast

/-- A decimal with so many digits rounds to the number, and it has no more digits, or is the next power of ten. -/
theorem digits_le_of_withDigits? {x : Magnitude} {n : Nat} {d : Decimal} (some : x.mantissa ≠ 0)
    (found : withDigits? x n = Option.some d) : d.digits ≤ 10 ^ n ∧ roundsTo x d.digits d.exponent = true := by
  let lead := leadingExponent x.ratio.1 x.ratio.2
  let k := lead - (n - 1 : Int)
  let below := 4 * x.mantissa * (scales x k).2 / (scales x k).1
  have positive : 0 < x.ratio.1 := by
    unfold Magnitude.ratio
    split
    · exact Nat.mul_pos (Nat.pos_of_ne_zero some) (Magnitude.twoTo_pos _)
    · exact Nat.pos_of_ne_zero some
  have bound : below < 10 ^ n := by
    have scale : (0 : ℚ) < (scales x k).1 := by exact_mod_cast scales_pos x k
    have limit : x.value < 10 ^ (lead + 1) := by
      rw [← Magnitude.ratio_div]
      exact lt_leadingExponent positive (Magnitude.ratio_pos x)
    have power : (10 : ℚ) ^ (lead + 1) = 10 ^ n * 10 ^ k := by
      rw [← zpow_natCast, ← zpow_add₀ (by norm_num)]
      congr 1
      omega
    have quarters : (4 * x.mantissa : ℚ) * 2 ^ (x.exponent - 2) = x.value := by
      rw [Magnitude.value, zpow_sub₀ (by norm_num)]
      ring
    apply (Nat.div_lt_iff_lt_mul (scales_pos x k)).2
    have cast : (4 * x.mantissa : ℚ) * (scales x k).2 < 10 ^ n * (scales x k).1 := by
      rw [← div_lt_iff₀ scale, mul_div_assoc, scales_div, ← mul_div_assoc, quarters, div_lt_iff₀ (by positivity),
        ← power]
      exact limit
    exact_mod_cast cast
  have either : (d = ⟨below, k⟩ ∧ roundsTo x below k = true) ∨
      (d = ⟨below + 1, k⟩ ∧ roundsTo x (below + 1) k = true) := by
    unfold withDigits? at found
    grind
  obtain ⟨rfl, rounds⟩ | ⟨rfl, rounds⟩ := either
  · exact ⟨Nat.le_of_lt bound, rounds⟩
  · exact ⟨bound, rounds⟩

theorem exists_of_shortest {x : Magnitude} (some : x.mantissa ≠ 0) :
    shortest x = ⟨0, 0⟩ ∨ ∃ d, shortest x = trimZeros 17 d ∧ d.digits ≤ 10 ^ 17 ∧
      roundsTo x d.digits d.exponent = true := by
  unfold shortest
  rw [if_neg some]
  split
  case h_1 d found =>
    obtain ⟨i, member, found⟩ := List.exists_of_findSome?_eq_some found
    obtain ⟨digits, rounds⟩ := digits_le_of_withDigits? some found
    have small : i + 1 ≤ 17 := List.mem_range.1 member
    exact .inr ⟨d, rfl, digits.trans (Nat.pow_le_pow_right (by decide) small), rounds⟩
  case h_2 => exact .inl rfl

/-- The shortest decimal has seventeen digits at most, or is the next power of ten. -/
theorem digits_shortest_le (x : Magnitude) : (shortest x).digits ≤ 10 ^ 17 := by
  by_cases nothing : x.mantissa = 0
  · unfold shortest
    rw [if_pos nothing]
    exact Nat.zero_le _
  · obtain same | ⟨d, same, digits, -⟩ := exists_of_shortest nothing
    · rw [same]
      exact Nat.zero_le _
    · rw [same]
      exact (digits_trimZeros_le 17 d).trans digits

/-- The shortest decimal is no further above the number than half a step. -/
theorem value_shortest_le (x : Magnitude) :
    (shortest x).value ≤ (4 * x.mantissa + 2 : Nat) * 2 ^ (x.exponent - 2) := by
  have zero : value ⟨0, 0⟩ ≤ (4 * x.mantissa + 2 : Nat) * 2 ^ (x.exponent - 2) := by
    have nothing : value ⟨0, 0⟩ = 0 := by simp [value]
    rw [nothing]
    positivity
  by_cases nothing : x.mantissa = 0
  · unfold shortest
    rw [if_pos nothing]
    exact zero
  · obtain same | ⟨d, same, -, rounds⟩ := exists_of_shortest nothing
    · rw [same]
      exact zero
    · rw [same, value_trimZeros]
      exact value_le_of_roundsTo rounds

/-! ## Reading again -/

/-- The largest number of the format. -/
def largest : Magnitude := ⟨2 ^ 53 - 1, Magnitude.highestExponent⟩

/-- Half a step above any number but the largest is not above the middle between the two largest. -/
theorem halfStep_le {x : Magnitude} (finite : x.IsFinite) (other : x ≠ largest) :
    ((4 * x.mantissa + 2 : Nat) : ℚ) * 2 ^ (x.exponent - 2) ≤ Magnitude.nearLargest := by
  obtain ⟨mantissa, exponent⟩ := x
  obtain ⟨bits, high⟩ := finite
  dsimp only at bits high ⊢
  have highest : Magnitude.highestExponent = 971 := rfl
  have product {a s : Nat} (factor : 4 * mantissa + 2 ≤ a) (power : exponent - 2 ≤ s)
      (inside : a * 2 ^ s ≤ Magnitude.nearLargest) :
      ((4 * mantissa + 2 : Nat) : ℚ) * 2 ^ (exponent - 2) ≤ Magnitude.nearLargest := by
    have step : (2 : ℚ) ^ (exponent - 2) ≤ 2 ^ s := by
      rw [← zpow_natCast]
      exact zpow_le_zpow_right₀ (by norm_num) power
    have cast : ((4 * mantissa + 2 : Nat) : ℚ) ≤ a := Nat.cast_le.2 factor
    calc ((4 * mantissa + 2 : Nat) : ℚ) * 2 ^ (exponent - 2) ≤ (a : ℚ) * 2 ^ s :=
          mul_le_mul cast step (by positivity) (Nat.cast_nonneg a)
      _ ≤ Magnitude.nearLargest := by exact_mod_cast inside
  by_cases full : mantissa = 2 ^ 53 - 1
  · have lower : exponent ≠ 971 := by
      rintro rfl
      exact other (by rw [full]; rfl)
    apply product (a := 2 ^ 55 - 2) (s := 968)
    · omega
    · omega
    · decide +kernel
  · apply product (a := 2 ^ 55 - 6) (s := 969)
    · omega
    · omega
    · decide +kernel

/-- The shortest decimal of a number can be read. -/
theorem ofDecimal?_shortest {x : Magnitude} (finite : x.IsFinite) :
    (Magnitude.ofDecimal? (shortest x).digits (shortest x).exponent).isSome = true := by
  by_cases last : x = largest
  · subst last
    decide +kernel
  · apply Magnitude.ofDecimal?_isSome (digits_shortest_le x)
    intro positive
    have bound := (value_shortest_le x).trans (halfStep_le finite last)
    rw [value, ← Int.toNat_of_nonneg positive, zpow_natCast] at bound
    exact_mod_cast bound

end ModuleHooks.Decimal
