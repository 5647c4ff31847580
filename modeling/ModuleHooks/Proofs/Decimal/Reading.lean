import ModuleHooks.Proofs.Decimal.Rounding

/-!
Reading decimals. Whatever is read is a number of the format (`isFinite_of_ofDecimal?`), and a decimal of seventeen
digits is read whenever it lies below the middle between the two largest numbers (`ofDecimal?_isSome`). Multiplying
by a rounded power of ten cannot lead beyond the largest number then.
-/
namespace ModuleHooks.Magnitude

/-- The middle between the two largest numbers of the format. -/
def nearLargest : Nat := (2 ^ 55 - 6) * 2 ^ 969

/-! ## Numbers of the format -/

theorem isFinite_zero : zero.IsFinite := ⟨by decide, by decide⟩

theorem isFinite_getD {rounded : Option Magnitude} (finite : ∀ x, rounded = some x → x.IsFinite) :
    (rounded.getD zero).IsFinite := by
  cases rounded with
  | none => exact isFinite_zero
  | some x => exact finite x rfl

theorem isFinite_divPowerOfTen {x : Magnitude} (finite : x.IsFinite) (n : Nat) :
    (x.divPowerOfTen n).IsFinite := by
  induction x, n using divPowerOfTen.induct with
  | case1 x n small =>
    unfold divPowerOfTen
    rw [if_pos small]
    exact isFinite_getD fun _ => isFinite_of_ofRatio?
  | case2 x n large nothing =>
    unfold divPowerOfTen
    rw [if_neg large, if_pos nothing]
    exact finite
  | case3 x n large some ih =>
    unfold divPowerOfTen
    rw [if_neg large, if_neg some]
    exact ih (isFinite_getD fun _ => isFinite_of_ofRatio?)

/-- What is read is a number of the format. -/
theorem isFinite_of_ofDecimal? {significand : Nat} {exponent : Int} {x : Magnitude}
    (read : ofDecimal? significand exponent = some x) : x.IsFinite := by
  obtain ⟨y, rounded, read⟩ := Option.bind_eq_some_iff.1 read
  have finite : y.IsFinite := isFinite_of_ofRatio? rounded
  split at read
  · obtain rfl := Option.some.inj read
    exact isFinite_divPowerOfTen finite _
  · split at read
    · exact isFinite_of_ofRatio? read
    · split at read
      · obtain rfl := Option.some.inj read
        exact finite
      · exact nomatch read

/-! ## Decimals that are not too large -/

theorem mul?_isSome {x y : Magnitude} (bound : x.value * y.value < overflow) : (x.mul? y).isSome = true := by
  apply ofRatio?_isSome (Nat.mul_pos x.ratio_pos y.ratio_pos)
  rw [Nat.cast_mul, Nat.cast_mul, ← div_mul_div_comm, ratio_div, ratio_div]
  exact bound

theorem ofNat?_isSome {n : Nat} (bound : n < 2 ^ 64) : (ofNat? n).isSome = true := by
  apply ofRatio?_isSome Nat.one_pos
  have small : (n : ℚ) < 2 ^ 64 := by exact_mod_cast bound
  have large : (2 : ℚ) ^ 64 ≤ overflow := by
    rw [overflow, show 970 = 64 + 906 from rfl, pow_add, ← mul_assoc, mul_comm _ (2 ^ 64), mul_assoc]
    apply le_mul_of_one_le_right (by positivity)
    exact one_le_mul_of_one_le_of_one_le (by norm_num) (one_le_pow₀ (by norm_num))
  rw [Nat.cast_one, div_one]
  linarith

/-- A whole number that does not exceed one of the format rounds to no more than that. -/
theorem value_le_of_ofNat? {n m s : Nat} {x : Magnitude} (bits : m ≤ 2 ^ 53) (bound : n ≤ m * 2 ^ s)
    (rounded : ofNat? n = some x) : x.value ≤ m * 2 ^ s := by
  apply value_le_of_ofRatio? Nat.one_pos bits _ rounded
  rw [Nat.cast_one, div_one]
  exact_mod_cast bound

theorem value_nonneg (x : Magnitude) : 0 ≤ x.value := by
  unfold value
  positivity

theorem value_powerOfTen_le {n m s : Nat} (bits : m ≤ 2 ^ 53) (bound : 10 ^ n ≤ m * 2 ^ s) :
    (powerOfTen n).value ≤ m * 2 ^ s := by
  unfold powerOfTen
  cases rounded : ofNat? (tenTo n) with
  | none =>
    have same : zero.value = 0 := by simp [value, zero]
    rw [Option.getD_none, same]
    positivity
  | some x => exact value_le_of_ofNat? bits bound rounded

theorem overflow_eq : overflow = (((2 ^ 54 - 1) * 2 ^ 970 : Nat) : ℚ) := by
  rw [overflow, Nat.cast_mul, Nat.cast_pow, Nat.cast_ofNat]
  norm_num

/-- For each of the highest powers of ten the largest whole number whose product with it is not too large, as a
number of the format: even when the power is rounded the product is below what is too large. -/
theorem highest_powers : ∀ i < 17,
    let n := 292 + i
    let most := nearLargest / 10 ^ n
    let s := if i = 0 then 1 else 0
    most / 2 ^ s ≤ 2 ^ 53 ∧ most ≤ most / 2 ^ s * 2 ^ s ∧
      most / 2 ^ s * 2 ^ s * (powerOfTen n).ratio.1 < (2 ^ 54 - 1) * 2 ^ 970 * (powerOfTen n).ratio.2 := by
  decide +kernel

theorem mul?_powerOfTen_isSome {significand n : Nat} (digits : significand ≤ 10 ^ 17)
    (bound : significand * 10 ^ n ≤ nearLargest) (small : n ≤ largestPower) {x : Magnitude}
    (rounded : ofNat? significand = some x) : (x.mul? (powerOfTen n)).isSome = true := by
  apply mul?_isSome
  have highest : largestPower = 308 := rfl
  obtain low | high := Nat.lt_or_ge n 292
  · have first : x.value ≤ (762939453125 : Nat) * 2 ^ 17 :=
      value_le_of_ofNat? (by decide) (digits.trans (by decide)) rounded
    have second : (powerOfTen n).value ≤ (10 ^ 291 / 2 ^ 914 + 1 : Nat) * 2 ^ 914 := by
      apply value_powerOfTen_le (by decide +kernel)
      calc 10 ^ n ≤ 10 ^ 291 := Nat.pow_le_pow_right (by decide) (by omega)
        _ ≤ (10 ^ 291 / 2 ^ 914 + 1) * 2 ^ 914 := by decide +kernel
    have product : ((762939453125 : Nat) * 2 ^ 17 : ℚ) * ((10 ^ 291 / 2 ^ 914 + 1 : Nat) * 2 ^ 914) < overflow := by
      rw [overflow_eq]
      have less : 762939453125 * 2 ^ 17 * ((10 ^ 291 / 2 ^ 914 + 1) * 2 ^ 914) < (2 ^ 54 - 1) * 2 ^ 970 := by
        decide +kernel
      exact_mod_cast less
    exact (mul_le_mul first second (value_nonneg _) (by positivity)).trans_lt product
  · obtain ⟨i, rfl⟩ := Nat.exists_eq_add_of_le high
    obtain ⟨bits, whole, product⟩ := highest_powers i (by omega)
    have most : significand ≤ nearLargest / 10 ^ (292 + i) :=
      (Nat.le_div_iff_mul_le (Nat.pow_pos (by decide))).2 bound
    have first := value_le_of_ofNat? bits (most.trans whole) rounded
    have divisor : (0 : ℚ) < (powerOfTen (292 + i)).ratio.2 := by exact_mod_cast ratio_pos _
    refine (mul_le_mul_of_nonneg_right first (value_nonneg _)).trans_lt ?_
    rw [← ratio_div, ← mul_div_assoc, div_lt_iff₀ divisor, overflow_eq]
    exact_mod_cast product

/-- A decimal of seventeen digits is read if it lies below the middle between the two largest numbers. -/
theorem ofDecimal?_isSome {significand : Nat} {exponent : Int} (digits : significand ≤ 10 ^ 17)
    (bound : 0 ≤ exponent → significand * 10 ^ exponent.toNat ≤ nearLargest) :
    (ofDecimal? significand exponent).isSome = true := by
  obtain ⟨x, rounded⟩ := Option.isSome_iff_exists.1
    (ofNat?_isSome (n := significand) (digits.trans_lt (by decide)))
  unfold ofDecimal?
  rw [rounded, Option.bind_some]
  split
  case isTrue => rfl
  case isFalse positive =>
    have inside := bound (by omega)
    split
    case isTrue small => exact mul?_powerOfTen_isSome digits inside (by omega) rounded
    case isFalse large =>
      -- Only nothing is small enough in front of such a power.
      have nothing : significand = 0 := by
        by_contra some
        have power : 10 ^ (largestPower + 1) ≤ 10 ^ exponent.toNat := by
          apply Nat.pow_le_pow_right (by decide)
          omega
        have beyond : nearLargest < 10 ^ (largestPower + 1) := by decide +kernel
        have least : 10 ^ exponent.toNat ≤ significand * 10 ^ exponent.toNat :=
          Nat.le_mul_of_pos_left _ (Nat.pos_of_ne_zero some)
        exact Nat.not_le_of_lt beyond (power.trans (least.trans inside))
      subst nothing
      obtain rfl : zero = x := Option.some.inj rounded
      rfl

end ModuleHooks.Magnitude
