import Mathlib

/-!
# XClone.Js.Number — JavaScript numbers

A JavaScript number is an IEEE 754 double. The finite doubles are rationals, so
a number is `NaN`, a signed infinity, or a rational value; arithmetic computes
the exact rational and rounds it (`JsNumber.ofRat`), as the standard does. The
sign of zero is not kept: nothing in the services reads it.
-/

namespace XClone.Js

/-- A JavaScript `number`. -/
inductive JsNumber where
  | nan
  | infinity (negative : Bool)
  | finite (value : ℚ)
deriving DecidableEq

namespace JsNumber

/-- `number < bound`; false for `NaN`. -/
def lt : JsNumber → ℕ → Bool
  | .nan, _ => false
  | .infinity negative, _ => negative
  | .finite value, bound => value < bound

/-- `number >= bound`; false for `NaN`. -/
def ge : JsNumber → ℕ → Bool
  | .nan, _ => false
  | .infinity negative, _ => !negative
  | .finite value, bound => (bound : ℚ) ≤ value

/-- The number as the key of a table of natural numbers. -/
def key : JsNumber → Option ℕ
  | .finite value => if value.den = 1 ∧ 0 ≤ value.num then some value.num.toNat else none
  | _ => none

@[simp] theorem ge_natCast (n bound : ℕ) : (JsNumber.finite n).ge bound = decide (bound ≤ n) := by
  simp [ge]

@[simp] theorem key_natCast (n : ℕ) : (JsNumber.finite n).key = some n := by
  simp [key]

/-! ## Rounding -/

/-- Round to the nearest integer, ties to even. -/
def roundHalfEven (q : ℚ) : ℤ :=
  if q - ⌊q⌋ < 1 / 2 then ⌊q⌋
  else if 1 / 2 < q - ⌊q⌋ then ⌊q⌋ + 1
  else if ⌊q⌋ % 2 = 0 then ⌊q⌋ else ⌊q⌋ + 1

/-- The exponent of the last bit of the double nearest to `q`: 53 significant
bits, and never below the subnormal spacing `2 ^ (-1074)`. -/
def lastBitExponent (q : ℚ) : ℤ := max (Int.log 2 |q| - 52) (-1074)

/-- The double nearest to a rational. -/
def ofRat (q : ℚ) : JsNumber :=
  let spacing : ℚ := 2 ^ lastBitExponent q
  let rounded : ℚ := roundHalfEven (q / spacing) * spacing
  if 2 ^ 1024 ≤ |rounded| then .infinity (q < 0) else .finite rounded

/-- `a * b`. -/
def mul : JsNumber → JsNumber → JsNumber
  | .finite a, .finite b => ofRat (a * b)
  | .infinity s, .infinity t => .infinity (s != t)
  | .infinity s, .finite b => if b = 0 then .nan else .infinity (s != decide (b < 0))
  | .finite a, .infinity t => if a = 0 then .nan else .infinity (decide (a < 0) != t)
  | .nan, _ => .nan
  | _, .nan => .nan

/-- `a / b` for a divisor that is a nonzero finite number. -/
def div : JsNumber → ℚ → JsNumber
  | .finite a, b => ofRat (a / b)
  | .infinity s, b => .infinity (s != decide (b < 0))
  | .nan, _ => .nan

/-- `Math.floor`. -/
def floor : JsNumber → JsNumber
  | .finite value => .finite ⌊value⌋
  | other => other

@[simp] theorem roundHalfEven_intCast (n : ℤ) : roundHalfEven (n : ℚ) = n := by
  simp [roundHalfEven]

/-- A nonzero integer below `2 ^ 53` is a whole number of last-bit units. -/
theorem int_div_spacing {n : ℤ} (h0 : n ≠ 0) (h : |n| < 2 ^ 53) :
    ∃ k : ℤ, (n : ℚ) / 2 ^ lastBitExponent n = k := by
  have habs : (|(n : ℚ)|) = ((|n| : ℤ) : ℚ) := by simp
  have hpos : (0 : ℚ) < |(n : ℚ)| := by
    rw [abs_pos]
    exact_mod_cast h0
  have hlog : Int.log 2 |(n : ℚ)| < 53 := by
    rw [← Int.lt_zpow_iff_log_lt (by norm_num) hpos, habs]
    exact_mod_cast h
  have hexp : lastBitExponent n ≤ 0 := by
    unfold lastBitExponent
    omega
  refine ⟨n * 2 ^ (-lastBitExponent n).toNat, ?_⟩
  have hneg : (2 : ℚ) ^ lastBitExponent n = (2 ^ (-lastBitExponent n).toNat)⁻¹ := by
    rw [← zpow_natCast, ← zpow_neg]
    congr 1
    omega
  rw [hneg]
  push_cast
  rw [div_inv_eq_mul]

/-- Integers below `2 ^ 53` are doubles, so rounding keeps them. -/
theorem ofRat_intCast {n : ℤ} (h : |n| < 2 ^ 53) : ofRat (n : ℚ) = .finite n := by
  by_cases h0 : n = 0
  · subst h0
    simp [ofRat, roundHalfEven]
  · rcases int_div_spacing h0 h with ⟨k, hk⟩
    have hspacing : (2 : ℚ) ^ lastBitExponent n ≠ 0 := zpow_ne_zero _ (by norm_num)
    have hround : (roundHalfEven ((n : ℚ) / 2 ^ lastBitExponent n) : ℚ) * 2 ^ lastBitExponent n
        = n := by
      rw [hk, roundHalfEven_intCast, ← hk, div_mul_cancel₀ _ hspacing]
    have hsmall : ¬ (2 : ℚ) ^ 1024 ≤ |(n : ℚ)| := by
      have hlt : |(n : ℚ)| < 2 ^ 53 := by exact_mod_cast h
      have hle : (2 : ℚ) ^ 53 ≤ 2 ^ 1024 := pow_le_pow_right₀ (by norm_num) (by norm_num)
      exact not_le.mpr (lt_of_lt_of_le hlt hle)
    simp only [ofRat, hround, if_neg hsmall]

/-- Rounding to an integer moves by at most a half. -/
theorem abs_roundHalfEven_sub_le (q : ℚ) : |(roundHalfEven q : ℚ) - q| ≤ 1 / 2 := by
  have hfloor := Int.floor_le q
  have hlt := Int.lt_floor_add_one q
  unfold roundHalfEven
  split
  · rw [abs_le]
    constructor <;> linarith
  split
  · push_cast
    rw [abs_le]
    constructor <;> linarith
  split
  · rw [abs_le]
    constructor <;> linarith
  · push_cast
    rw [abs_le]
    constructor <;> linarith

/-- A rational below `2 ^ 43` has a double within `2 ^ (-11)` of it. -/
theorem ofRat_near {q : ℚ} (h : |q| < 2 ^ 43) (h0 : q ≠ 0) :
    ∃ r : ℚ, ofRat q = .finite r ∧ |r - q| ≤ 1 / 2 ^ 11 := by
  -- below 2^43 the last of the 53 bits weighs at most 2^-10
  have hlog : Int.log 2 |q| < 43 := by
    rw [← Int.lt_zpow_iff_log_lt (by norm_num) (abs_pos.mpr h0)]
    exact_mod_cast h
  have hexp : lastBitExponent q ≤ -10 := by
    unfold lastBitExponent
    omega
  have hpos : (0 : ℚ) < 2 ^ lastBitExponent q := zpow_pos (by norm_num) _
  have hspacing : (2 : ℚ) ^ lastBitExponent q ≤ 1 / 2 ^ 10 := by
    calc (2 : ℚ) ^ lastBitExponent q ≤ 2 ^ (-10 : ℤ) := zpow_le_zpow_right₀ (by norm_num) hexp
      _ = 1 / 2 ^ 10 := by norm_num
  have hnear : |(roundHalfEven (q / 2 ^ lastBitExponent q) : ℚ) * 2 ^ lastBitExponent q - q|
      ≤ 1 / 2 ^ 11 := by
    have hunits := abs_roundHalfEven_sub_le (q / 2 ^ lastBitExponent q)
    have hscale : (roundHalfEven (q / 2 ^ lastBitExponent q) : ℚ) * 2 ^ lastBitExponent q - q =
        ((roundHalfEven (q / 2 ^ lastBitExponent q) : ℚ) - q / 2 ^ lastBitExponent q) *
          2 ^ lastBitExponent q := by
      field_simp
    rw [hscale, abs_mul, abs_of_pos hpos]
    calc _ ≤ 1 / 2 * (1 / 2 ^ 10) :=
          mul_le_mul hunits hspacing (le_of_lt hpos) (by norm_num)
      _ ≤ 1 / 2 ^ 11 := by norm_num
  refine ⟨_, ?_, hnear⟩
  -- and the rounded value is far from overflowing
  have hsmall : |(roundHalfEven (q / 2 ^ lastBitExponent q) : ℚ) * 2 ^ lastBitExponent q|
      < 2 ^ 1024 := by
    have htri := abs_sub_abs_le_abs_sub
      ((roundHalfEven (q / 2 ^ lastBitExponent q) : ℚ) * 2 ^ lastBitExponent q) q
    calc _ ≤ |q| + 1 / 2 ^ 11 := by linarith
      _ < 2 ^ 44 := by linarith
      _ ≤ 2 ^ 1024 := pow_le_pow_right₀ (by norm_num) (by norm_num)
  simp only [ofRat, if_neg (not_le.mpr hsmall)]

/-- A finite double is the number rounded to its last bit. -/
theorem ofRat_finite {q r : ℚ} (h : ofRat q = .finite r) :
    r = roundHalfEven (q / 2 ^ lastBitExponent q) * 2 ^ lastBitExponent q := by
  unfold ofRat at h
  simp only at h
  split at h
  · cases h
  · exact (JsNumber.finite.inj h).symm

/-- Rounding to an integer keeps a number of size `n` at least that size. -/
theorem le_abs_roundHalfEven {q : ℚ} {n : ℤ} (h : (n : ℚ) ≤ |q|) : n ≤ |roundHalfEven q| := by
  have hnear := abs_roundHalfEven_sub_le q
  have htri := abs_sub_abs_le_abs_sub q (roundHalfEven q : ℚ)
  rw [abs_sub_comm] at htri
  have hlt : (n : ℚ) < ((|roundHalfEven q| : ℤ) : ℚ) + 1 := by
    rw [Int.cast_abs]
    linarith
  have hint : n < |roundHalfEven q| + 1 := by exact_mod_cast hlt
  omega

/-- An integer below a rounded number is below the number. -/
theorem lt_of_lt_roundHalfEven {q : ℚ} {k : ℤ} (h : k < roundHalfEven q) : (k : ℚ) < q := by
  have hnear := (abs_le.mp (abs_roundHalfEven_sub_le q)).2
  have hone : (k : ℚ) + 1 ≤ roundHalfEven q := by exact_mod_cast h
  linarith

/-- A double below `2 ^ 53` has a last bit worth at most one. -/
theorem lastBitExponent_nonpos {q r : ℚ} (h : ofRat q = .finite r) (hr : |r| < 2 ^ 53) :
    lastBitExponent q ≤ 0 := by
  by_contra hpos
  have hlog : lastBitExponent q = Int.log 2 |q| - 52 ∧ 53 ≤ Int.log 2 |q| := by
    unfold lastBitExponent at hpos ⊢
    omega
  have hq : 0 < |q| := by
    by_contra hzero
    rw [not_lt, abs_nonpos_iff] at hzero
    rw [hzero, abs_zero, Int.log_zero_right] at hlog
    omega
  have hrounded := ofRat_finite h
  -- 53 significant bits, of which the first is set
  have hspacing : (0 : ℚ) < 2 ^ lastBitExponent q := zpow_pos (by norm_num) _
  have hbits : ((2 ^ 52 : ℤ) : ℚ) ≤ |q / 2 ^ lastBitExponent q| := by
    rw [abs_div, abs_of_pos hspacing, le_div_iff₀ hspacing]
    calc ((2 ^ 52 : ℤ) : ℚ) * 2 ^ lastBitExponent q
        = 2 ^ (52 : ℤ) * 2 ^ lastBitExponent q := by norm_num
      _ = 2 ^ Int.log 2 |q| := by
        rw [← zpow_add₀ (by norm_num : (2 : ℚ) ≠ 0), hlog.1]
        congr 1
        omega
      _ ≤ |q| := Int.zpow_log_le_self (by norm_num) hq
  have hround : ((2 ^ 52 : ℤ) : ℚ) ≤ |(roundHalfEven (q / 2 ^ lastBitExponent q) : ℚ)| := by
    exact_mod_cast le_abs_roundHalfEven hbits
  have htwo : (2 : ℚ) ≤ 2 ^ lastBitExponent q := by
    calc (2 : ℚ) = 2 ^ (1 : ℤ) := by norm_num
      _ ≤ 2 ^ lastBitExponent q := zpow_le_zpow_right₀ (by norm_num) (by omega)
  have hlarge : (2 : ℚ) ^ 53 ≤ |r| := by
    rw [hrounded, abs_mul, abs_of_pos hspacing]
    calc (2 : ℚ) ^ 53 = ((2 ^ 52 : ℤ) : ℚ) * 2 := by norm_num
      _ ≤ _ := mul_le_mul hround htwo (by norm_num) (abs_nonneg _)
  exact absurd hr (not_lt.mpr hlarge)

/-- Rounding to a double crosses no integer: one below the double is below the number. -/
theorem lt_of_lt_ofRat {n : ℤ} {q r : ℚ} (h : ofRat q = .finite r) (hr : |r| < 2 ^ 53)
    (hlt : (n : ℚ) < r) : (n : ℚ) < q := by
  have hexp := lastBitExponent_nonpos h hr
  have hspacing : (0 : ℚ) < 2 ^ lastBitExponent q := zpow_pos (by norm_num) _
  have hrounded := ofRat_finite h
  -- the integer is a whole number of last-bit units
  have hunits : (n : ℚ) / 2 ^ lastBitExponent q =
      ((n * 2 ^ (-lastBitExponent q).toNat : ℤ) : ℚ) := by
    have hneg : (2 : ℚ) ^ lastBitExponent q = (2 ^ (-lastBitExponent q).toNat)⁻¹ := by
      rw [← zpow_natCast, ← zpow_neg]
      congr 1
      omega
    rw [hneg, div_inv_eq_mul]
    push_cast
    rfl
  rw [hrounded, ← div_lt_iff₀ hspacing, hunits, Int.cast_lt] at hlt
  have hbelow := lt_of_lt_roundHalfEven hlt
  rw [← hunits, div_lt_div_iff_of_pos_right hspacing] at hbelow
  exact hbelow

/-- Rounding to an integer keeps the order. -/
theorem roundHalfEven_mono {p q : ℚ} (h : p ≤ q) : roundHalfEven p ≤ roundHalfEven q := by
  have bounds (r : ℚ) : ⌊r⌋ ≤ roundHalfEven r ∧ roundHalfEven r ≤ ⌊r⌋ + 1 := by
    unfold roundHalfEven
    split
    · omega
    split
    · omega
    split <;> omega
  rcases lt_or_eq_of_le (Int.floor_le_floor h) with hlt | hsame
  · have hp := (bounds p).2
    have hq := (bounds q).1
    omega
  · -- between the same two integers: the fraction decides
    unfold roundHalfEven
    rw [← hsame]
    split_ifs <;> first | omega | (exfalso; linarith)

/-! ## Integers -/

/-- The bits of an integer a double has no room for. -/
def lostBits (n : ℤ) : ℕ := n.natAbs.log2 - 52

/-- The double nearest to an integer, ties to even, where there is one that large. -/
def nearest (n : ℤ) : ℤ := roundHalfEven (n / 2 ^ lostBits n) * 2 ^ lostBits n

theorem lostBits_le {n : ℤ} {e : ℕ} (h : |n| < 2 ^ (53 + e)) : lostBits n ≤ e := by
  unfold lostBits
  by_cases h0 : n.natAbs = 0
  · rw [h0]
    exact Nat.zero_le _
  · have hnat : n.natAbs < 2 ^ (53 + e) := by
      have hcast : ((n.natAbs : ℕ) : ℤ) < ((2 ^ (53 + e) : ℕ) : ℤ) := by
        rw [Int.natCast_natAbs]
        exact_mod_cast h
      exact_mod_cast hcast
    have hlog := (Nat.log2_lt h0).mpr hnat
    omega

/-- Integers of 53 significant bits are doubles. -/
theorem nearest_of_lt {k : ℤ} {e : ℕ} (h : |k| < 2 ^ 53) : nearest (k * 2 ^ e) = k * 2 ^ e := by
  have hsize : |k * 2 ^ e| < 2 ^ (53 + e) := by
    rw [abs_mul, abs_of_pos (by positivity : (0 : ℤ) < 2 ^ e), pow_add]
    exact mul_lt_mul_of_pos_right h (by positivity)
  have hbits := lostBits_le hsize
  -- so it is a whole number of units of its last bit
  have hunits : ((k * 2 ^ e : ℤ) : ℚ) / 2 ^ lostBits (k * 2 ^ e) =
      ((k * 2 ^ (e - lostBits (k * 2 ^ e)) : ℤ) : ℚ) := by
    rw [div_eq_iff (by positivity)]
    push_cast
    rw [mul_assoc, ← pow_add, Nat.sub_add_cancel hbits]
  unfold nearest
  rw [hunits, roundHalfEven_intCast, mul_assoc, ← pow_add, Nat.sub_add_cancel hbits]

theorem nearest_of_le {k : ℤ} {e : ℕ} (h : |k| ≤ 2 ^ 53) : nearest (k * 2 ^ e) = k * 2 ^ e := by
  rcases lt_or_eq_of_le h with hlt | heq
  · exact nearest_of_lt hlt
  · -- a power of two needs one bit only
    rcases eq_or_eq_neg_of_abs_eq heq with hk | hk
    · have hdouble : k * 2 ^ e = 1 * 2 ^ (53 + e) := by
        rw [hk, pow_add]
        ring
      rw [hdouble]
      exact nearest_of_lt (by norm_num)
    · have hdouble : k * 2 ^ e = -1 * 2 ^ (53 + e) := by
        rw [hk, pow_add]
        ring
      rw [hdouble]
      exact nearest_of_lt (by norm_num)

/-- Integers up to `2 ^ 53` are doubles. -/
theorem nearest_of_small {n : ℤ} (h : |n| ≤ 2 ^ 53) : nearest n = n := by
  have hexact := @nearest_of_le n 0 h
  rwa [pow_zero, mul_one] at hexact

theorem nearest_pow (e : ℕ) : nearest (2 ^ e) = 2 ^ e := by
  have hexact := @nearest_of_le 1 e (by norm_num)
  rwa [one_mul] at hexact

/-- The integers with as many lost bits are of one size. -/
theorem lt_of_lostBits (n : ℤ) : |n| < 2 ^ (53 + lostBits n) := by
  rw [← Int.natCast_natAbs]
  by_cases h0 : n.natAbs = 0
  · rw [h0]
    positivity
  · have hlog := (Nat.log2_lt (k := 53 + lostBits n) h0).mp (by unfold lostBits; omega)
    exact_mod_cast hlog

theorem le_of_lostBits {n : ℤ} (h : 0 < lostBits n) : 2 ^ (52 + lostBits n) ≤ |n| := by
  rw [← Int.natCast_natAbs]
  have h0 : n.natAbs ≠ 0 := by
    intro h0
    unfold lostBits at h
    rw [h0] at h
    exact absurd h (by decide)
  have hlog := (Nat.le_log2 (k := 52 + lostBits n) h0).mp (by unfold lostBits at h ⊢; omega)
  exact_mod_cast hlog

/-- Rounding to a whole number of units does not cross one. -/
theorem round_units_le {n k : ℤ} {e : ℕ} (h : n ≤ k * 2 ^ e) :
    roundHalfEven (n / 2 ^ e) * 2 ^ e ≤ k * 2 ^ e := by
  apply mul_le_mul_of_nonneg_right _ (by positivity)
  rw [← roundHalfEven_intCast k]
  apply roundHalfEven_mono
  rw [div_le_iff₀ (by positivity)]
  exact_mod_cast h

theorem le_round_units {n k : ℤ} {e : ℕ} (h : k * 2 ^ e ≤ n) :
    k * 2 ^ e ≤ roundHalfEven (n / 2 ^ e) * 2 ^ e := by
  apply mul_le_mul_of_nonneg_right _ (by positivity)
  rw [← roundHalfEven_intCast k]
  apply roundHalfEven_mono
  rw [le_div_iff₀ (by positivity)]
  exact_mod_cast h

/-- What is nearest has 53 significant bits, so nothing is lost of it. -/
theorem nearest_nearest (n : ℤ) : nearest (nearest n) = nearest n := by
  have hsize := abs_lt.mp (lt_of_lostBits n)
  have hlow : (-2 ^ 53 : ℤ) * 2 ^ lostBits n ≤ nearest n := le_round_units (by
    rw [neg_mul, ← pow_add]
    exact hsize.1.le)
  have hhigh : nearest n ≤ (2 ^ 53 : ℤ) * 2 ^ lostBits n := round_units_le (by
    rw [← pow_add]
    exact hsize.2.le)
  apply nearest_of_le
  rw [abs_le]
  exact ⟨le_of_mul_le_mul_right hlow (by positivity), le_of_mul_le_mul_right hhigh (by positivity)⟩

/-- Rounding to the nearest double keeps the order. -/
theorem nearest_mono {n m : ℤ} (h : n ≤ m) : nearest n ≤ nearest m := by
  rcases lt_trichotomy (lostBits n) (lostBits m) with hlt | hsame | hgt
  · -- a power of two lies between them, and neither rounds past it
    have hm := le_of_lostBits (Nat.zero_lt_of_lt hlt)
    have hn : |n| < 2 ^ (52 + lostBits m) :=
      lt_of_lt_of_le (lt_of_lostBits n) (pow_le_pow_right₀ (by norm_num) (by omega))
    have hpos : 0 ≤ m := by
      by_contra hneg
      rw [abs_of_neg (not_le.mp hneg)] at hm
      have hle := (abs_lt.mp hn).1
      omega
    rw [abs_of_nonneg hpos] at hm
    calc nearest n ≤ (2 ^ (52 + lostBits m - lostBits n) : ℤ) * 2 ^ lostBits n :=
          round_units_le (by
            rw [← pow_add, Nat.sub_add_cancel (by omega)]
            exact (abs_lt.mp hn).2.le)
      _ = (2 ^ 52 : ℤ) * 2 ^ lostBits m := by
        rw [← pow_add, ← pow_add, Nat.sub_add_cancel (by omega)]
      _ ≤ nearest m := le_round_units (by rwa [← pow_add])
  · unfold nearest
    rw [hsame]
    apply mul_le_mul_of_nonneg_right _ (by positivity)
    apply roundHalfEven_mono
    rw [div_le_div_iff_of_pos_right (by positivity)]
    exact_mod_cast h
  · have hn := le_of_lostBits (Nat.zero_lt_of_lt hgt)
    have hm : |m| < 2 ^ (52 + lostBits n) :=
      lt_of_lt_of_le (lt_of_lostBits m) (pow_le_pow_right₀ (by norm_num) (by omega))
    have hneg : n < 0 := by
      by_contra hpos
      rw [abs_of_nonneg (not_lt.mp hpos)] at hn
      have hle := (abs_lt.mp hm).2
      omega
    rw [abs_of_neg hneg] at hn
    calc nearest n ≤ (-2 ^ 52 : ℤ) * 2 ^ lostBits n :=
          round_units_le (by
            rw [neg_mul, ← pow_add]
            omega)
      _ = (-2 ^ (52 + lostBits n - lostBits m) : ℤ) * 2 ^ lostBits m := by
        rw [neg_mul, neg_mul, ← pow_add, ← pow_add, Nat.sub_add_cancel (by omega)]
      _ ≤ nearest m := le_round_units (by
        rw [neg_mul, ← pow_add, Nat.sub_add_cancel (by omega)]
        exact (abs_lt.mp hm).1.le)

/-- Next to an integer up to `2 ^ 53` it keeps them apart. -/
theorem nearest_lt {n m : ℤ} (h : n < m) (hsmall : |n| < 2 ^ 53 ∨ |m| < 2 ^ 53) :
    nearest n < nearest m := by
  rcases hsmall with hn | hm
  · rw [abs_lt] at hn
    have hstep : nearest (n + 1) = n + 1 := nearest_of_small (by rw [abs_le]; omega)
    have hle := nearest_mono (show n + 1 ≤ m by omega)
    rw [nearest_of_small (abs_lt.mpr hn).le]
    omega
  · rw [abs_lt] at hm
    have hstep : nearest (m - 1) = m - 1 := nearest_of_small (by rw [abs_le]; omega)
    have hle := nearest_mono (show n ≤ m - 1 by omega)
    rw [nearest_of_small (abs_lt.mpr hm).le]
    omega

/-- It is the number an integer is rounded to, where that does not overflow. -/
theorem ofRat_int {n : ℤ} (h : |nearest n| < 2 ^ 1024) : ofRat n = .finite (nearest n) := by
  by_cases hsmall : |n| < 2 ^ 53
  · rw [ofRat_intCast hsmall, nearest_of_small hsmall.le]
  · have hbits : lastBitExponent n = (lostBits n : ℤ) := by
      have hcast : |(n : ℚ)| = ((n.natAbs : ℕ) : ℚ) := by
        rw [← Int.cast_abs, ← Int.natCast_natAbs, Int.cast_natCast]
      have hlost : 0 < lostBits n := by
        by_contra hzero
        have hlt := lt_of_lostBits n
        rw [Nat.eq_zero_of_not_pos hzero] at hlt
        exact hsmall hlt
      unfold lastBitExponent lostBits at *
      rw [hcast, Int.log_natCast, ← Nat.log2_eq_log_two]
      omega
    have hrounded : (roundHalfEven ((n : ℚ) / 2 ^ lastBitExponent n) : ℚ) * 2 ^ lastBitExponent n =
        ((nearest n : ℤ) : ℚ) := by
      rw [hbits, zpow_natCast]
      unfold nearest
      push_cast
      rfl
    have hfinite : ¬ (2 : ℚ) ^ 1024 ≤ |((nearest n : ℤ) : ℚ)| := by
      rw [not_le, ← Int.cast_abs]
      calc ((|nearest n| : ℤ) : ℚ) < ((2 ^ 1024 : ℤ) : ℚ) := Int.cast_lt.mpr h
        _ = 2 ^ 1024 := by rw [Int.cast_pow, Int.cast_ofNat]
    simp only [ofRat, hrounded, if_neg hfinite]

/-- `Number.MAX_VALUE`. -/
def maxValue : ℤ := (2 ^ 53 - 1) * 2 ^ 971

/-- No integer that is a double is larger. -/
theorem le_maxValue {n : ℤ} (hdouble : nearest n = n) (h : |n| < 2 ^ 1024) : |n| ≤ maxValue := by
  by_cases hsmall : |n| < 2 ^ (53 + 970)
  · exact hsmall.le.trans (by decide +kernel)
  · have hbits : lostBits n = 971 := by
      apply le_antisymm
      · exact @lostBits_le n 971 h
      · by_contra hless
        have hlt := lt_of_lostBits n
        have hpow : (2 : ℤ) ^ (53 + lostBits n) ≤ 2 ^ (53 + 970) :=
          pow_le_pow_right₀ (by norm_num) (by omega)
        exact hsmall (lt_of_lt_of_le hlt hpow)
    -- so it is less than `2 ^ 53` units
    unfold nearest at hdouble
    rw [hbits] at hdouble
    rw [← hdouble, abs_mul, abs_of_pos (by positivity : (0 : ℤ) < 2 ^ 971)] at h ⊢
    have hunits : |roundHalfEven ((n : ℚ) / 2 ^ 971)| < 2 ^ 53 := by
      by_contra hge
      have hover := mul_le_mul_of_nonneg_right (not_lt.mp hge) (by positivity : (0 : ℤ) ≤ 2 ^ 971)
      rw [← pow_add] at hover
      exact absurd h (not_lt.mpr hover)
    unfold maxValue
    exact mul_le_mul_of_nonneg_right (by omega) (by positivity)

/-- The difference of an integer double and an integer too small to overflow it. -/
theorem ofRat_sub {a c : ℤ} (hdouble : nearest a = a) (h : |a| < 2 ^ 1024) (hc : |c| ≤ 2 ^ 969) :
    ofRat ((a - c : ℤ) : ℚ) = .finite (nearest (a - c)) := by
  have ha := abs_le.mp (le_maxValue hdouble h)
  rw [abs_le] at hc
  have hhigh : nearest (maxValue + 2 ^ 969) = maxValue := by decide +kernel
  have hlow : nearest (-(maxValue + 2 ^ 969)) = -maxValue := by decide +kernel
  have hle : nearest (a - c) ≤ maxValue := hhigh ▸ nearest_mono (by omega)
  have hge : -maxValue ≤ nearest (a - c) := hlow ▸ nearest_mono (by omega)
  exact ofRat_int (lt_of_le_of_lt (abs_le.mpr ⟨hge, hle⟩) (by decide +kernel))

end JsNumber

/-! ## Dates -/

/-- A time value: milliseconds since the Unix epoch. -/
abbrev Date := ℤ

/-- The largest distance from the epoch a `Date` can hold, 100 million days. -/
def maxTime : ℤ := 8640000000000000

/-- The time values a `Date` can hold. -/
def ValidDate (t : Date) : Prop := |t| ≤ maxTime

instance (t : Date) : Decidable (ValidDate t) := inferInstanceAs (Decidable (_ ≤ _))

/-- Truncation toward zero. -/
def truncate (q : ℚ) : ℤ := if 0 ≤ q then ⌊q⌋ else ⌈q⌉

/-- `new Date(value)`: `none` is an Invalid Date, whose time value is `NaN`. -/
def newDate : JsNumber → Option Date
  | .finite value => if |value| ≤ maxTime then some (truncate value) else none
  | _ => none

/-- An instant before a number truncated is before the number. -/
theorem lt_of_lt_truncate {n : ℤ} {q : ℚ} (h : n < truncate q) : (n : ℚ) < q := by
  unfold truncate at h
  split at h
  · exact lt_of_lt_of_le (by exact_mod_cast h) (Int.floor_le q)
  · exact Int.lt_ceil.mp h

theorem abs_truncate_le (q : ℚ) : (|truncate q| : ℚ) ≤ |q| := by
  unfold truncate
  split
  · rename_i hq
    have hfloor : (0 : ℚ) ≤ ⌊q⌋ := by exact_mod_cast Int.floor_nonneg.mpr hq
    rw [abs_of_nonneg hfloor, abs_of_nonneg hq]
    exact Int.floor_le q
  · rename_i hq
    have hceil : (⌈q⌉ : ℚ) ≤ 0 := by exact_mod_cast Int.ceil_nonpos.mpr (le_of_not_ge hq)
    rw [abs_of_nonpos hceil, abs_of_nonpos (le_of_not_ge hq)]
    exact neg_le_neg (Int.le_ceil q)

theorem newDate_intCast {t : ℤ} (h : ValidDate t) : newDate (.finite t) = some t := by
  have habs : |(t : ℚ)| ≤ (maxTime : ℚ) := by exact_mod_cast h
  simp [newDate, habs, truncate]

/-- A valid `Date` made of a product: an instant before it is before the exact product, for
neither the rounding nor the truncation crosses a whole millisecond. -/
theorem newDate_mul {a b : ℚ} {t : Date}
    (h : newDate ((JsNumber.finite a).mul (.finite b)) = some t) :
    ValidDate t ∧ ∀ {n : ℤ}, n < t → (n : ℚ) < a * b := by
  have hproduct : newDate (JsNumber.ofRat (a * b)) = some t := h
  unfold newDate at hproduct
  split at hproduct
  · rename_i r hround
    split at hproduct
    · rename_i hrange
      cases hproduct
      have hvalid : ((|truncate r| : ℤ) : ℚ) ≤ (maxTime : ℚ) := by
        rw [Int.cast_abs]
        exact (abs_truncate_le r).trans hrange
      refine ⟨by exact_mod_cast hvalid, ?_⟩
      intro n hn
      have hsmall : |r| < 2 ^ 53 := lt_of_le_of_lt hrange (by norm_num [maxTime])
      exact JsNumber.lt_of_lt_ofRat hround hsmall (lt_of_lt_truncate hn)
    · cases hproduct
  · cases hproduct

/-- The seconds of a valid time value, rounded down: the division by 1000 rounds
to a double, but never up to a whole second the date has not reached. -/
theorem floor_div_thousand {t : ℤ} (h : ValidDate t) :
    ((JsNumber.finite t).div 1000).floor = .finite ((t / 1000 : ℤ) : ℚ) := by
  have hsize : |t / 1000| ≤ 8640000000000 := by
    have hlow : -8640000000000000 ≤ t := (abs_le.mp h).1
    have hhigh : t ≤ 8640000000000000 := (abs_le.mp h).2
    rw [abs_le]
    omega
  by_cases hwhole : t % 1000 = 0
  · -- a whole number of seconds is divided exactly
    have hq : (t : ℚ) / 1000 = ((t / 1000 : ℤ) : ℚ) := by
      have hcast : (t : ℚ) = ((t / 1000 : ℤ) : ℚ) * 1000 := by
        exact_mod_cast (Int.ediv_mul_cancel (Int.dvd_of_emod_eq_zero hwhole)).symm
      linarith
    have hround := JsNumber.ofRat_intCast (lt_of_le_of_lt hsize (by norm_num))
    simp only [JsNumber.div, hq, hround, JsNumber.floor, Int.floor_intCast]
  · -- otherwise the quotient keeps 1/1000 from both whole seconds, and rounding moves it less
    have hsplit : (t : ℚ) = 1000 * ((t / 1000 : ℤ) : ℚ) + ((t % 1000 : ℤ) : ℚ) := by
      exact_mod_cast (Int.mul_ediv_add_emod t 1000).symm
    have hlow : (1 : ℚ) ≤ ((t % 1000 : ℤ) : ℚ) := by
      have hle : (1 : ℤ) ≤ t % 1000 := by omega
      exact_mod_cast hle
    have hhigh : ((t % 1000 : ℤ) : ℚ) ≤ 999 := by
      have hle : t % 1000 ≤ 999 := by omega
      exact_mod_cast hle
    have hbound : |(t : ℚ) / 1000| < 2 ^ 43 := by
      have habs : (|((t / 1000 : ℤ) : ℚ)|) ≤ 8640000000000 := by exact_mod_cast hsize
      rw [abs_le] at habs
      rw [abs_lt]
      constructor <;> norm_num <;> linarith
    have hne : (t : ℚ) / 1000 ≠ 0 := by
      intro hzero
      have ht0 : t = 0 := by
        have hcast : (t : ℚ) = 0 := by linarith
        exact_mod_cast hcast
      exact hwhole (by rw [ht0]; rfl)
    rcases JsNumber.ofRat_near hbound hne with ⟨r, hr, hnear⟩
    rw [abs_le] at hnear
    have hfloor : ⌊r⌋ = t / 1000 := by
      rw [Int.floor_eq_iff]
      norm_num at hnear
      constructor <;> linarith
    simp only [JsNumber.div, hr, JsNumber.floor, hfloor]

/-- `a >= b` on time values; false when `b` is `NaN`. -/
def notBefore (a : Date) (b : Option Date) : Bool :=
  match b with
  | some t => t ≤ a
  | none => false

end XClone.Js
