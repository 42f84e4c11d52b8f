import Mathlib.Algebra.Order.Ring.Nat
import SceneBridge.Number.Binary

/-!
# Integers as doubles

Which integers lie beyond the largest double: those of a size that is rounded up to the
next power of two, which no double reaches.
-/

namespace SceneBridge.Number

/-- The smallest size of an integer that is beyond the largest double, which is
`2 ^ 1024 - 2 ^ 971`: half way to the next power of two. -/
def tooLarge : Nat :=
  2 ^ 1024 - 2 ^ 970

theorem le_roundHalfEven (n d : Nat) : n / d ≤ roundHalfEven n d := by
  unfold roundHalfEven
  dsimp only
  split
  · exact Nat.le_refl _
  · split <;> omega

theorem roundHalfEven_le (n d : Nat) : roundHalfEven n d ≤ n / d + 1 := by
  unfold roundHalfEven
  dsimp only
  split
  · exact Nat.le_succ _
  · split <;> omega

/-! ## Sizes -/

/-- The quotient by `2 ^ (log2 n - k)` has at least `k + 1` binary digits. -/
theorem le_scaled {n : Nat} (hn : n ≠ 0) (k : Nat) :
    2 ^ k ≤ n * 2 ^ (k - n.log2) / 2 ^ (n.log2 - k) := by
  have hlow : 2 ^ n.log2 ≤ n := Nat.log2_self_le hn
  rw [Nat.le_div_iff_mul_le (Nat.two_pow_pos _), ← Nat.pow_add]
  calc 2 ^ (k + (n.log2 - k)) = 2 ^ (n.log2 + (k - n.log2)) := by congr 1; omega
    _ = 2 ^ n.log2 * 2 ^ (k - n.log2) := Nat.pow_add 2 _ _
    _ ≤ n * 2 ^ (k - n.log2) := Nat.mul_le_mul_right _ hlow

/-- The quotient by `2 ^ (log2 n - k)` has at most `k + 1` binary digits. -/
theorem scaled_lt {n : Nat} (k : Nat) :
    n * 2 ^ (k - n.log2) / 2 ^ (n.log2 - k) < 2 ^ (k + 1) := by
  have hhigh : n < 2 ^ (n.log2 + 1) := Nat.lt_log2_self
  rw [Nat.div_lt_iff_lt_mul (Nat.two_pow_pos _), ← Nat.pow_add]
  calc n * 2 ^ (k - n.log2) < 2 ^ (n.log2 + 1) * 2 ^ (k - n.log2) :=
        Nat.mul_lt_mul_of_pos_right hhigh (Nat.two_pow_pos _)
    _ = 2 ^ (n.log2 + 1 + (k - n.log2)) := (Nat.pow_add 2 _ _).symm
    _ = 2 ^ (k + 1 + (n.log2 - k)) := by congr 1; omega

/-- The mantissa of the double nearest to an integer. -/
def mantissaOf (n : Nat) : Nat :=
  roundHalfEven (n * 2 ^ (52 - n.log2)) (2 ^ (n.log2 - 52))

theorem le_mantissaOf {n : Nat} (hn : n ≠ 0) : 2 ^ 52 ≤ mantissaOf n :=
  Nat.le_trans (le_scaled hn 52) (le_roundHalfEven _ _)

theorem mantissaOf_le (n : Nat) : mantissaOf n ≤ 2 ^ 53 :=
  Nat.le_trans (roundHalfEven_le _ _) (scaled_lt 52)

theorem nearestBits?_one {n : Nat} (hn : n ≠ 0) :
    nearestBits? n 1 =
      if (n.log2 + 1022) * 2 ^ 52 + mantissaOf n < 0x7FF * 2 ^ 52 then
        some ((n.log2 + 1022) * 2 ^ 52 + mantissaOf n).toUInt64
      else none := by
  have hone : Nat.log2 1 = 0 := by decide
  -- The first guess at the exponent is one too low, since the quotient has 54 digits.
  have hguess : ¬ n * 2 ^ (53 - n.log2) / 2 ^ (n.log2 - 53) < 2 ^ 53 := Nat.not_lt.2 (le_scaled hn 53)
  have hdown (k : Nat) : (-((n.log2 : Int) - k)).toNat = k - n.log2 := by omega
  have hup (k : Nat) : ((n.log2 : Int) - k).toNat = n.log2 - k := by omega
  have hnext : (n.log2 : Int) - (53 : Nat) + 1 = (n.log2 : Int) - (52 : Nat) := by omega
  have hmax : max ((n.log2 : Int) - (52 : Nat)) (-1074) = (n.log2 : Int) - (52 : Nat) := by omega
  have hexponent : ((n.log2 : Int) - (52 : Nat) + 1074).toNat = n.log2 + 1022 := by omega
  have hnormal : ¬ mantissaOf n < 2 ^ 52 := Nat.not_lt.2 (le_mantissaOf hn)
  unfold nearestBits?
  simp only [hone, Nat.pow_eq, Nat.one_mul]
  have hzero : (n.log2 : Int) - ((0 : Nat) : Int) - 53 = (n.log2 : Int) - (53 : Nat) := by omega
  -- The mantissa has its 53 digits, so the number is a normal one.
  rw [hzero, hdown, hup, if_neg hguess, hnext, hmax, hdown, hup, hexponent]
  rw [mantissaOf] at hnormal ⊢
  rw [if_neg hnormal]

/-! ## Beyond the largest double -/

/-- A quotient of 53 binary digits is rounded up to 54 from half way before the next power on. -/
theorem roundHalfEven_eq_iff {n d : Nat} (hd : 0 < d) (hn : n < 2 ^ 53 * (2 * d)) :
    roundHalfEven n (2 * d) = 2 ^ 53 ↔ 2 ^ 53 * (2 * d) - d ≤ n := by
  have hquotient : n / (2 * d) < 2 ^ 53 := by
    rw [Nat.div_lt_iff_lt_mul (by omega)]
    exact hn
  have hdivision : 2 * d * (n / (2 * d)) + n % (2 * d) = n := Nat.div_add_mod n (2 * d)
  have hremainder : n % (2 * d) < 2 * d := Nat.mod_lt n (by omega)
  -- Only the last quotient of 53 digits can be rounded to the next power.
  by_cases hlast : n / (2 * d) = 2 ^ 53 - 1
  · rw [hlast] at hdivision
    unfold roundHalfEven
    rw [hlast]
    dsimp only
    split
    · omega
    · split <;> omega
  · have hbelow : n < (2 ^ 53 - 1) * (2 * d) := by
      rw [← Nat.div_lt_iff_lt_mul (by omega)]
      omega
    have hround := roundHalfEven_le n (2 * d)
    omega

/-- Whether an integer is beyond the largest double depends on its size only. -/
theorem nearestBits?_eq_none_iff (n : Nat) : nearestBits? n 1 = none ↔ tooLarge ≤ n := by
  have hpowers (k : Nat) : 0 < 2 ^ k := Nat.two_pow_pos k
  have hpos := hpowers 970
  have hhalf : 2 ^ 971 = 2 * 2 ^ 970 := by rw [← Nat.pow_succ']
  have hbelow : 2 ^ 1023 = 2 ^ 53 * 2 ^ 970 := by rw [← Nat.pow_add]
  have hpower : 2 ^ 1024 = 2 ^ 53 * (2 * 2 ^ 970) := by rw [← hhalf, ← Nat.pow_add]
  rw [tooLarge, hpower]
  by_cases hn : n = 0
  · have hzero : nearestBits? 0 1 = some 0 := by decide
    rw [hn, hzero]
    generalize 2 ^ 970 = half at *
    simp only [reduceCtorEq, false_iff]
    omega
  have hlog (k : Nat) : n.log2 < k ↔ n < 2 ^ k := Nat.log2_lt hn
  have hlow := le_mantissaOf hn
  have hhigh := mantissaOf_le n
  rw [nearestBits?_one hn]
  -- The integers with 1024 binary digits are rounded to 53 digits, or to the next power of two.
  rcases Nat.lt_trichotomy n.log2 1023 with hsmall | hequal | hlarge
  · have hsize := (hlog 1023).1 hsmall
    rw [hbelow] at hsize
    generalize 2 ^ 970 = half at *
    rw [if_pos (by omega)]
    simp only [reduceCtorEq, false_iff]
    omega
  · have hsize : n < 2 ^ (n.log2 + 1) := Nat.lt_log2_self
    have hmantissa : mantissaOf n = roundHalfEven (n * 2 ^ (52 - n.log2)) (2 ^ (n.log2 - 52)) := rfl
    have hnext : 1023 + 1 = 1024 := rfl
    have hnone : 52 - 1023 = 0 := rfl
    have hshift : 1023 - 52 = 971 := rfl
    rw [hequal, hnext, hpower] at hsize
    rw [hequal, hnone, hshift, hhalf, Nat.pow_zero, Nat.mul_one] at hmantissa
    rw [← roundHalfEven_eq_iff hpos hsize, ← hmantissa, hequal]
    split
    · simp only [reduceCtorEq, false_iff]
      omega
    · simp only [true_iff]
      omega
  · have hsize := mt (hlog 1024).2 (Nat.not_lt.2 hlarge)
    rw [hpower] at hsize
    generalize 2 ^ 970 = half at *
    rw [if_neg (by omega)]
    simp only [true_iff]
    omega

theorem ofInt?_eq_none_iff (n : Int) : ofInt? n = none ↔ tooLarge ≤ n.natAbs := by
  rw [ofInt?, Option.map_eq_none_iff, nearestBits?_eq_none_iff]

end SceneBridge.Number
