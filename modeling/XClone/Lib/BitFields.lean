import Mathlib.Data.Int.Bitwise
import Mathlib.Tactic.Linarith
import Mathlib.Tactic.Ring

/-!
# XClone.Lib.BitFields — fields packed into an integer

Shift-and-or packing on unbounded two's-complement integers: or-ing a `k`-bit
field under a number shifted by `k` adds it, masking and shifting take the
fields back out, and packed numbers compare lexicographically. The upper field
may be negative.
-/

namespace BitFields

/-- The value of an upper field over a `k`-bit lower field. -/
def pack (k : ℕ) (hi lo : ℤ) : ℤ := hi * 2 ^ k + lo

/-- `lo` fits in `k` bits. -/
def Fits (k : ℕ) (lo : ℤ) : Prop := 0 ≤ lo ∧ lo < 2 ^ k

/-! ## Packing and unpacking -/

theorem lor_zero (a : ℤ) : Int.lor a 0 = a := by
  cases a with
  | ofNat n => exact congrArg Int.ofNat (Nat.or_zero n)
  | negSucc n =>
    have hldiff : Nat.ldiff n 0 = n := Nat.eq_of_testBit_eq fun i => by simp [Nat.testBit_ldiff]
    exact congrArg Int.negSucc hldiff

theorem land_zero (a : ℤ) : Int.land a 0 = 0 := by
  cases a with
  | ofNat n => exact congrArg Int.ofNat (Nat.and_zero n)
  | negSucc n =>
    have hldiff : Nat.ldiff 0 n = 0 := Nat.eq_of_testBit_eq fun i => by simp [Nat.testBit_ldiff]
    exact congrArg Int.ofNat hldiff

/-- Or-ing a `k`-bit field under a number whose last `k` bits are clear adds it. -/
theorem lor_shiftLeft (a : ℤ) (k : ℕ) : ∀ b : ℤ, Fits k b →
    Int.lor (a <<< k) b = pack k a b := by
  simp only [pack, Int.shiftLeft_eq]
  induction k with
  | zero =>
    rintro b ⟨hb0, hb1⟩
    have hb : b = 0 := by
      simp only [pow_zero] at hb1
      omega
    subst hb
    simp [lor_zero]
  | succ k ih =>
    rintro b ⟨hb0, hb1⟩
    -- peel the last bit: it is clear on the left and `b.bodd` on the right
    have ha : a * 2 ^ (k + 1) = Int.bit false (a * 2 ^ k) := by
      simp only [Int.bit_val, cond_false]
      ring
    have hb : b = Int.bit b.bodd b.div2 := (Int.bit_decomp b).symm
    have hdiv := Int.div2_val b
    have hfits : Fits k b.div2 := by
      rw [pow_succ] at hb1
      exact ⟨by omega, by omega⟩
    rw [ha, hb, Int.lor_bit, ih b.div2 hfits]
    simp only [Int.bit_val, Bool.false_or, cond_false]
    ring

/-- Masking with `k` ones keeps the last `k` bits. -/
theorem land_mask (k : ℕ) : ∀ a : ℤ, Int.land a (2 ^ k - 1) = a % 2 ^ k := by
  induction k with
  | zero =>
    intro a
    simp [land_zero]
  | succ k ih =>
    intro a
    have hmask : (2 : ℤ) ^ (k + 1) - 1 = Int.bit true (2 ^ k - 1) := by
      simp only [Int.bit_val, cond_true]
      ring
    have ha : a = Int.bit a.bodd a.div2 := (Int.bit_decomp a).symm
    rw [hmask, ha, Int.land_bit, ih a.div2, pow_succ]
    have hpos : (0 : ℤ) < 2 ^ k := by positivity
    have hmod := Int.emod_nonneg a.div2 hpos.ne'
    have hlt := Int.emod_lt_of_pos a.div2 hpos
    have hsplit := Int.mul_ediv_add_emod a.div2 (2 ^ k)
    simp only [Bool.and_true, Int.bit_val]
    have hbit : 0 ≤ (bif a.bodd then (1 : ℤ) else 0) ∧ (bif a.bodd then (1 : ℤ) else 0) ≤ 1 := by
      cases a.bodd <;> simp
    exact (((Int.ediv_emod_unique (by omega)).mpr
      ⟨by linarith, by linarith, by linarith⟩ : _ = a.div2 / 2 ^ k ∧ _).2).symm

variable {k : ℕ} {hi lo hi' lo' : ℤ}

theorem pack_shiftRight (h : Fits k lo) : pack k hi lo >>> k = hi := by
  have hpos : (0 : ℤ) < 2 ^ k := by positivity
  rw [Int.shiftRight_eq_div_pow, pack]
  push_cast
  rw [add_comm, Int.add_mul_ediv_right _ _ hpos.ne', Int.ediv_eq_zero_of_lt h.1 h.2, zero_add]

theorem pack_emod (h : Fits k lo) : pack k hi lo % 2 ^ k = lo := by
  rw [pack, add_comm, Int.add_mul_emod_self_right, Int.emod_eq_of_lt h.1 h.2]

theorem pack_land_mask (h : Fits k lo) : Int.land (pack k hi lo) (2 ^ k - 1) = lo := by
  rw [land_mask, pack_emod h]

theorem pack_fits {m : ℕ} (hhi : Fits m hi) (h : Fits k lo) : Fits (m + k) (pack k hi lo) := by
  have hpos : (0 : ℤ) < 2 ^ k := by positivity
  rcases hhi with ⟨h0, h1⟩
  refine ⟨by unfold pack; nlinarith [h.1], ?_⟩
  have hstep : (hi + 1) * 2 ^ k ≤ 2 ^ m * 2 ^ k := by
    apply mul_le_mul_of_nonneg_right _ hpos.le
    omega
  rw [pow_add]
  unfold pack
  linarith [h.2]

/-! ## Order -/

/-- A smaller upper field decides the comparison, whatever the lower fields. -/
theorem pack_lt_of_hi_lt (hhi : hi < hi') (h : Fits k lo) (h' : Fits k lo') :
    pack k hi lo < pack k hi' lo' := by
  have hpos : (0 : ℤ) < 2 ^ k := by positivity
  have hstep : (hi + 1) * 2 ^ k ≤ hi' * 2 ^ k := mul_le_mul_of_nonneg_right hhi hpos.le
  unfold pack
  linarith [h.2, h'.1]

theorem pack_lt_of_lo_lt (hlo : lo < lo') : pack k hi lo < pack k hi lo' := by
  unfold pack
  linarith

/-- Packed numbers are equal only field by field. -/
theorem pack_injective (h : Fits k lo) (h' : Fits k lo') (he : pack k hi lo = pack k hi' lo') :
    hi = hi' ∧ lo = lo' := by
  have hhi : hi = hi' := by
    rw [← @pack_shiftRight k hi lo h, he, pack_shiftRight h']
  have hlo : lo = lo' := by
    rw [← @pack_emod k hi lo h, he, pack_emod h']
  exact ⟨hhi, hlo⟩

end BitFields
