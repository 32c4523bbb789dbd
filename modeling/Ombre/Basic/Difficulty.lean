import Ombre.Basic.Config
import Ombre.Lib.Window

/-!
# Difficulty and proof of work

`mul128` and `div128_32` of `common/int-util.h`, computed on 32-bit halves
exactly as the source does; `next_difficulty_v1` of `difficulty.cpp`, the
weighted-timespan difficulty over a window of timestamps and cumulative
difficulties; and `check_hash`, the proof-of-work test of a 256-bit hash
against a difficulty. All arithmetic is on `UInt64`, so it wraps where the C++
wraps. The x86-64 build takes `mul` to be `mul128`.
-/

namespace Ombre

/-- `hi_dword` -/
def hiDword (v : UInt64) : UInt64 := v >>> 32

/-- `lo_dword` -/
def loDword (v : UInt64) : UInt64 := v &&& 0xFFFFFFFF

/-- `mul128`: the product as `(product_lo, product_hi)`, assembled from the four
32-bit partial products with explicit carries. -/
def mul128 (multiplier multiplicand : UInt64) : UInt64 × UInt64 :=
  let a := hiDword multiplier
  let b := loDword multiplier
  let c := hiDword multiplicand
  let d := loDword multiplicand
  let ac := a * c
  let ad := a * d
  let bc := b * c
  let bd := b * d
  let adbc := ad + bc
  let adbcCarry : UInt64 := if adbc < ad then 1 else 0
  let productLo := bd + (adbc <<< 32)
  let productLoCarry : UInt64 := if productLo < bd then 1 else 0
  (productLo, ac + (adbc >>> 32) + (adbcCarry <<< 32) + productLoCarry)

theorem toNat_hiDword (v : UInt64) : (hiDword v).toNat = v.toNat / 2 ^ 32 := by
  simp [hiDword, UInt64.toNat_shiftRight, Nat.shiftRight_eq_div_pow]

theorem toNat_loDword (v : UInt64) : (loDword v).toNat = v.toNat % 2 ^ 32 := by
  simp only [loDword, UInt64.toNat_and]
  exact Nat.and_two_pow_sub_one_eq_mod _ 32

/-- The carry out of a 64-bit addition: the sum wraps below an addend. -/
theorem add_lt_iff_carry (a b : UInt64) : a + b < a ↔ 2 ^ 64 ≤ a.toNat + b.toNat := by
  have := a.toNat_lt
  have := b.toNat_lt
  rw [UInt64.lt_iff_toNat_lt, UInt64.toNat_add]
  omega

/-- The carry the code reads off a 64-bit addition is the carry of the sum. -/
theorem toNat_carry (a b : UInt64) :
    (if a + b < a then (1 : UInt64) else 0).toNat = (a.toNat + b.toNat) / 2 ^ 64 := by
  have := a.toNat_lt
  have := b.toNat_lt
  by_cases h : a + b < a
  · rw [if_pos h, UInt64.toNat_one]
    rw [add_lt_iff_carry] at h
    omega
  · rw [if_neg h, UInt64.toNat_zero]
    rw [add_lt_iff_carry] at h
    omega

theorem toNat_add_of_lt {a b : UInt64} (h : a.toNat + b.toNat < 2 ^ 64) : (a + b).toNat = a.toNat + b.toNat := by
  rw [UInt64.toNat_add]
  exact Nat.mod_eq_of_lt h

/-- A 64-bit sum read from the values of its addends, when it fits. -/
theorem toNat_add_eq {x y : UInt64} {m n : ℕ} (hx : x.toNat = m) (hy : y.toNat = n) (h : m + n < 2 ^ 64) :
    (x + y).toNat = m + n := by
  rw [toNat_add_of_lt (by rw [hx, hy]; exact h), hx, hy]

theorem toNat_mul_of_lt {x y : UInt64} (hx : x.toNat < 2 ^ 32) (hy : y.toNat < 2 ^ 32) :
    (x * y).toNat = x.toNat * y.toNat := by
  rw [UInt64.toNat_mul, Nat.mod_eq_of_lt]
  calc x.toNat * y.toNat < 2 ^ 32 * 2 ^ 32 := Nat.mul_lt_mul'' hx hy
    _ = 2 ^ 64 := by rw [← Nat.pow_add]

/-- `mul128` computes the full 128-bit product: `product_hi * 2^64 + product_lo`. -/
theorem mul128_spec (a b : UInt64) :
    (mul128 a b).2.toNat * 2 ^ 64 + (mul128 a b).1.toNat = a.toNat * b.toNat := by
  have hA : (hiDword a).toNat < 2 ^ 32 := by rw [toNat_hiDword]; have := a.toNat_lt; omega
  have hB : (loDword a).toNat < 2 ^ 32 := by rw [toNat_loDword]; omega
  have hC : (hiDword b).toNat < 2 ^ 32 := by rw [toNat_hiDword]; have := b.toNat_lt; omega
  have hD : (loDword b).toNat < 2 ^ 32 := by rw [toNat_loDword]; omega
  -- the product over the halves, with the four partial products exact
  have hprod : a.toNat * b.toNat = (hiDword a * hiDword b).toNat * 2 ^ 64 +
      ((hiDword a * loDword b).toNat + (loDword a * hiDword b).toNat) * 2 ^ 32 +
      (loDword a * loDword b).toNat := by
    rw [toNat_mul_of_lt hA hC, toNat_mul_of_lt hA hD, toNat_mul_of_lt hB hC, toNat_mul_of_lt hB hD]
    have ha : a.toNat = (hiDword a).toNat * 2 ^ 32 + (loDword a).toNat := by
      rw [toNat_hiDword, toNat_loDword]; omega
    have hb : b.toNat = (hiDword b).toNat * 2 ^ 32 + (loDword b).toNat := by
      rw [toNat_hiDword, toNat_loDword]; omega
    rw [ha, hb]
    ring
  have hlt : a.toNat * b.toNat < 2 ^ 128 :=
    calc a.toNat * b.toNat < 2 ^ 64 * 2 ^ 64 := Nat.mul_lt_mul'' a.toNat_lt b.toNat_lt
      _ = 2 ^ 128 := by rw [← Nat.pow_add]
  generalize a.toNat * b.toNat = P at hprod hlt ⊢
  dsimp only [mul128]
  generalize hiDword a * hiDword b = ac at hprod ⊢
  generalize hiDword a * loDword b = ad at hprod ⊢
  generalize loDword a * hiDword b = bc at hprod ⊢
  generalize loDword a * loDword b = bd at hprod ⊢
  have := ad.toNat_lt
  have := bc.toNat_lt
  have := bd.toNat_lt
  have := ac.toNat_lt
  -- the two carries are those of the additions they are read off; the high
  -- word then cannot wrap, as the whole product is below `2^128`
  simp only [UInt64.toNat_add, UInt64.toNat_shiftLeft, UInt64.toNat_shiftRight, toNat_carry,
    Nat.shiftLeft_eq, Nat.shiftRight_eq_div_pow, UInt64.reduceToNat, Nat.reduceMod, Nat.reducePow]
  omega

/-- `div_with_reminder`: one step of the base-`2^32` long division; returns the
quotient and the new remainder. -/
def divWithReminder (dividend : UInt64) (divisor remainder : UInt32) : UInt64 × UInt32 :=
  let dividend := dividend ||| (remainder.toUInt64 <<< 32)
  (dividend / divisor.toUInt64, (dividend % divisor.toUInt64).toUInt32)

/-- `div128_32`: long division of `(dividend_hi, dividend_lo)` by a 32-bit
divisor, as `(quotient_hi, quotient_lo, remainder)`. -/
def div128By32 (dividendHi dividendLo : UInt64) (divisor : UInt32) : UInt64 × UInt64 × UInt32 :=
  let (q3, r3) := divWithReminder (hiDword dividendHi) divisor 0
  let (q2, r2) := divWithReminder (loDword dividendHi) divisor r3
  let (q1, r1) := divWithReminder (hiDword dividendLo) divisor r2
  let (q0, r0) := divWithReminder (loDword dividendLo) divisor r1
  ((q3 <<< 32) ||| q2, (q1 <<< 32) ||| q0, r0)

/-- A word put together by `(hi << 32) | lo`: the shift drops the top half of `hi`. -/
theorem toNat_or_shiftLeft_32_mod {hi lo : UInt64} (hlo : lo.toNat < 2 ^ 32) :
    ((hi <<< 32) ||| lo).toNat = hi.toNat % 2 ^ 32 * 2 ^ 32 + lo.toNat := by
  have hshl : (hi <<< 32).toNat = (hi.toNat % 2 ^ 32) <<< 32 := by
    rw [UInt64.toNat_shiftLeft]
    simp only [show (32 : UInt64).toNat % 64 = 32 from rfl, Nat.shiftLeft_eq]
    have := hi.toNat_lt
    omega
  rw [UInt64.toNat_or, hshl, ← Nat.shiftLeft_add_eq_or_of_lt hlo, Nat.shiftLeft_eq]

/-- Two 32-bit halves put together by `(hi << 32) | lo`. -/
theorem toNat_or_shiftLeft_32 {hi lo : UInt64} (hhi : hi.toNat < 2 ^ 32) (hlo : lo.toNat < 2 ^ 32) :
    ((hi <<< 32) ||| lo).toNat = hi.toNat * 2 ^ 32 + lo.toNat := by
  rw [toNat_or_shiftLeft_32_mod hlo, Nat.mod_eq_of_lt hhi]

/-- One step of the long division: with a remainder below the divisor and a
digit below `2 ^ 32`, the quotient is a digit and the remainder stays below the
divisor. -/
theorem divWithReminder_spec {dividend : UInt64} {divisor remainder : UInt32}
    (hd : dividend.toNat < 2 ^ 32) (hr : remainder.toNat < divisor.toNat) :
    (divWithReminder dividend divisor remainder).1.toNat * divisor.toNat +
        (divWithReminder dividend divisor remainder).2.toNat =
      remainder.toNat * 2 ^ 32 + dividend.toNat ∧
    (divWithReminder dividend divisor remainder).2.toNat < divisor.toNat ∧
    (divWithReminder dividend divisor remainder).1.toNat < 2 ^ 32 := by
  have hrem : remainder.toNat < 2 ^ 32 := remainder.toNat_lt
  have hdiv : divisor.toNat < 2 ^ 32 := divisor.toNat_lt
  have hx : (dividend ||| (remainder.toUInt64 <<< 32)).toNat = remainder.toNat * 2 ^ 32 + dividend.toNat := by
    rw [UInt64.or_comm, toNat_or_shiftLeft_32 (by simpa using hrem) hd]
    simp
  have hpos : 0 < divisor.toNat := by omega
  have hlt : remainder.toNat * 2 ^ 32 + dividend.toNat < 2 ^ 32 * divisor.toNat :=
    calc remainder.toNat * 2 ^ 32 + dividend.toNat < (remainder.toNat + 1) * 2 ^ 32 := by omega
      _ ≤ divisor.toNat * 2 ^ 32 := Nat.mul_le_mul_right _ hr
      _ = 2 ^ 32 * divisor.toNat := Nat.mul_comm _ _
  simp only [divWithReminder, UInt64.toNat_div, UInt64.toNat_mod, hx, UInt32.toNat_toUInt64,
    UInt64.toNat_toUInt32]
  have hmod : (remainder.toNat * 2 ^ 32 + dividend.toNat) % divisor.toNat < divisor.toNat :=
    Nat.mod_lt _ hpos
  refine ⟨?_, ?_, (Nat.div_lt_iff_lt_mul hpos).mpr hlt⟩
  · rw [Nat.mod_eq_of_lt (by omega)]
    exact Nat.div_add_mod' _ _
  · rw [Nat.mod_eq_of_lt (by omega)]
    exact hmod

/-- **`div128_32` is long division.** By a nonzero divisor, the two quotient words
make the quotient of the 128-bit dividend and the result is its remainder. -/
theorem div128By32_spec (hi lo : UInt64) {divisor : UInt32} (hpos : 0 < divisor.toNat) :
    (div128By32 hi lo divisor).1.toNat * 2 ^ 64 + (div128By32 hi lo divisor).2.1.toNat =
        (hi.toNat * 2 ^ 64 + lo.toNat) / divisor.toNat ∧
      (div128By32 hi lo divisor).2.2.toNat = (hi.toNat * 2 ^ 64 + lo.toNat) % divisor.toNat := by
  have hw : ∀ v : UInt64, (hiDword v).toNat < 2 ^ 32 ∧ (loDword v).toNat < 2 ^ 32 ∧
      v.toNat = (hiDword v).toNat * 2 ^ 32 + (loDword v).toNat := by
    intro v
    rw [toNat_hiDword, toNat_loDword]
    have := v.toNat_lt
    omega
  obtain ⟨h3, h2, hhi⟩ := hw hi
  obtain ⟨h1, h0, hlo⟩ := hw lo
  unfold div128By32
  dsimp only
  -- the four digits, highest first, each dividing the remainder of the one before
  obtain ⟨e3, r3, q3⟩ := @divWithReminder_spec (hiDword hi) divisor 0 h3 hpos
  generalize divWithReminder (hiDword hi) divisor 0 = s3 at e3 r3 q3 ⊢
  obtain ⟨e2, r2, q2⟩ := divWithReminder_spec h2 r3
  generalize divWithReminder (loDword hi) divisor s3.2 = s2 at e2 r2 q2 ⊢
  obtain ⟨e1, r1, q1⟩ := divWithReminder_spec h1 r2
  generalize divWithReminder (hiDword lo) divisor s2.2 = s1 at e1 r1 q1 ⊢
  obtain ⟨e0, r0, q0⟩ := divWithReminder_spec h0 r1
  generalize divWithReminder (loDword lo) divisor s1.2 = s0 at e0 r0 q0 ⊢
  rw [toNat_or_shiftLeft_32 q3 q2, toNat_or_shiftLeft_32 q1 q0]
  have hd : divisor.toNat * ((s3.1.toNat * 2 ^ 32 + s2.1.toNat) * 2 ^ 64 + (s1.1.toNat * 2 ^ 32 + s0.1.toNat)) =
      s3.1.toNat * divisor.toNat * 2 ^ 96 + s2.1.toNat * divisor.toNat * 2 ^ 64 +
        s1.1.toNat * divisor.toNat * 2 ^ 32 + s0.1.toNat * divisor.toNat := by ring
  have hX : s0.2.toNat + divisor.toNat * ((s3.1.toNat * 2 ^ 32 + s2.1.toNat) * 2 ^ 64 +
      (s1.1.toNat * 2 ^ 32 + s0.1.toNat)) = hi.toNat * 2 ^ 64 + lo.toNat := by
    rw [hd, hhi, hlo]
    simp only [UInt32.toNat_zero, Nat.zero_mul, Nat.zero_add] at e3
    omega
  obtain ⟨hq, hr⟩ := (Nat.div_mod_unique hpos).mpr ⟨hX, r0⟩
  exact ⟨hq.symm, hr.symm⟩

/-- `mul` of `difficulty.cpp` as built off x86-64: the portable product as
`(low, high)`, from the four 32-bit partial products with the carries between
the 32-bit columns added in by hand. -/
def mul (a b : UInt64) : UInt64 × UInt64 :=
  let aLow := a &&& 0xFFFFFFFF
  let aHigh := a >>> 32
  let bLow := b &&& 0xFFFFFFFF
  let bHigh := b >>> 32
  let res := aLow * bLow
  let lowRes1 := res &&& 0xFFFFFFFF
  let carry := res >>> 32
  let res := aHigh * bLow + carry
  let highResHigh1 := res >>> 32
  let highResLow1 := res &&& 0xFFFFFFFF
  let res := aLow * bHigh
  let lowRes2 := res &&& 0xFFFFFFFF
  let carry := res >>> 32
  let res := aHigh * bHigh + carry
  let highResHigh2 := res >>> 32
  let highResLow2 := res &&& 0xFFFFFFFF
  let r := highResLow1 + lowRes2
  let carry := r >>> 32
  let low := (r <<< 32) ||| lowRes1
  let r := highResHigh1 + highResLow2 + carry
  let d3 := r &&& 0xFFFFFFFF
  let carry := r >>> 32
  let r := highResHigh2 + carry
  let high := d3 ||| (r <<< 32)
  (low, high)

theorem toNat_and_0xFFFFFFFF (x : UInt64) : (x &&& 0xFFFFFFFF).toNat = x.toNat % 2 ^ 32 :=
  toNat_loDword x

theorem toNat_shiftRight_32 (x : UInt64) : (x >>> 32).toNat = x.toNat / 2 ^ 32 :=
  toNat_hiDword x

/-- The portable `mul` computes the full 128-bit product: `high * 2^64 + low`. -/
theorem mul_spec (a b : UInt64) : (mul a b).2.toNat * 2 ^ 64 + (mul a b).1.toNat = a.toNat * b.toNat := by
  have hsplit : ∀ x : UInt64, (x &&& 0xFFFFFFFF).toNat < 2 ^ 32 ∧ (x >>> 32).toNat < 2 ^ 32 ∧
      x.toNat = (x >>> 32).toNat * 2 ^ 32 + (x &&& 0xFFFFFFFF).toNat := by
    intro x
    rw [toNat_and_0xFFFFFFFF, toNat_shiftRight_32]
    have := x.toNat_lt
    omega
  obtain ⟨haL, haH, ha⟩ := hsplit a
  obtain ⟨hbL, hbH, hb⟩ := hsplit b
  dsimp only [mul]
  generalize a &&& 0xFFFFFFFF = aL at haL ha ⊢
  generalize a >>> 32 = aH at haH ha ⊢
  generalize b &&& 0xFFFFFFFF = bL at hbL hb ⊢
  generalize b >>> 32 = bH at hbH hb ⊢
  have q : ∀ x y : UInt64, x.toNat < 2 ^ 32 → y.toNat < 2 ^ 32 →
      x.toNat * y.toNat ≤ (2 ^ 32 - 1) * (2 ^ 32 - 1) :=
    fun x y hx hy => Nat.mul_le_mul (by omega) (by omega)
  have q11 := q aL bL haL hbL
  have q21 := q aH bL haH hbL
  have q12 := q aL bH haL hbH
  have q22 := q aH bH haH hbH
  -- each partial product, and each one plus the carry below it, is exact in 64 bits
  have e1 := toNat_mul_of_lt haL hbL
  generalize aL * bL = res1 at e1 ⊢
  have e2 : (aH * bL + res1 >>> 32).toNat = aH.toNat * bL.toNat + res1.toNat / 2 ^ 32 :=
    toNat_add_eq (toNat_mul_of_lt haH hbL) (toNat_shiftRight_32 res1) (by omega)
  generalize aH * bL + res1 >>> 32 = res2 at e2 ⊢
  have e3 := toNat_mul_of_lt haL hbH
  generalize aL * bH = res3 at e3 ⊢
  have e4 : (aH * bH + res3 >>> 32).toNat = aH.toNat * bH.toNat + res3.toNat / 2 ^ 32 :=
    toNat_add_eq (toNat_mul_of_lt haH hbH) (toNat_shiftRight_32 res3) (by omega)
  generalize aH * bH + res3 >>> 32 = res4 at e4 ⊢
  have hres2 := res2.toNat_lt
  have hres4 := res4.toNat_lt
  -- the column sums of the addition, whose carries go one column up
  have f1 : ((res2 &&& (0xFFFFFFFF : UInt64)) + (res3 &&& 0xFFFFFFFF)).toNat =
      res2.toNat % 2 ^ 32 + res3.toNat % 2 ^ 32 :=
    toNat_add_eq (toNat_and_0xFFFFFFFF res2) (toNat_and_0xFFFFFFFF res3) (by omega)
  generalize (res2 &&& (0xFFFFFFFF : UInt64)) + (res3 &&& 0xFFFFFFFF) = r1 at f1 ⊢
  have f2 : (res2 >>> 32 + (res4 &&& (0xFFFFFFFF : UInt64)) + r1 >>> 32).toNat =
      res2.toNat / 2 ^ 32 + res4.toNat % 2 ^ 32 + r1.toNat / 2 ^ 32 :=
    toNat_add_eq (toNat_add_eq (toNat_shiftRight_32 res2) (toNat_and_0xFFFFFFFF res4) (by omega))
      (toNat_shiftRight_32 r1) (by omega)
  generalize res2 >>> 32 + (res4 &&& (0xFFFFFFFF : UInt64)) + r1 >>> 32 = r2 at f2 ⊢
  have f3 : (res4 >>> 32 + r2 >>> 32).toNat = res4.toNat / 2 ^ 32 + r2.toNat / 2 ^ 32 :=
    toNat_add_eq (toNat_shiftRight_32 res4) (toNat_shiftRight_32 r2) (by have := r2.toNat_lt; omega)
  generalize res4 >>> 32 + r2 >>> 32 = r3 at f3 ⊢
  have hmask : ∀ x : UInt64, (x &&& 0xFFFFFFFF).toNat < 2 ^ 32 := fun x => (hsplit x).1
  rw [UInt64.or_comm (r2 &&& 0xFFFFFFFF), toNat_or_shiftLeft_32_mod (hmask _),
    toNat_or_shiftLeft_32_mod (hmask _), toNat_and_0xFFFFFFFF, toNat_and_0xFFFFFFFF]
  have hprod : a.toNat * b.toNat = aH.toNat * bH.toNat * 2 ^ 64 +
      (aH.toNat * bL.toNat + aL.toNat * bH.toNat) * 2 ^ 32 + aL.toNat * bL.toNat := by
    rw [ha, hb]
    ring
  rw [hprod]
  omega

/-- The portable `mul` and `mul128` return the same two words on every input:
both are the quotient and remainder of the product by `2 ^ 64`. -/
theorem mul_eq_mul128 (a b : UInt64) : mul a b = mul128 a b := by
  have h := mul_spec a b
  have h128 := mul128_spec a b
  have hlo := (mul a b).1.toNat_lt
  have hlo128 := (mul128 a b).1.toNat_lt
  apply Prod.ext
  · apply UInt64.toNat_inj.mp
    omega
  · apply UInt64.toNat_inj.mp
    omega

/-- The 128-bit helpers are exact: `mul128` gives the whole product, the
portable `mul` gives the same two words, and `div128_32` by a nonzero 32-bit
divisor gives a quotient and a remainder below the divisor. -/
theorem mul128_mul_div128By32_exact :
    (∀ a b : UInt64, (mul128 a b).2.toNat * 2 ^ 64 + (mul128 a b).1.toNat = a.toNat * b.toNat) ∧
    (∀ a b : UInt64, mul a b = mul128 a b) ∧
    (∀ (hi lo : UInt64) (q : UInt32), 0 < q.toNat →
      ((div128By32 hi lo q).1.toNat * 2 ^ 64 + (div128By32 hi lo q).2.1.toNat) * q.toNat +
          (div128By32 hi lo q).2.2.toNat = hi.toNat * 2 ^ 64 + lo.toNat ∧
        (div128By32 hi lo q).2.2.toNat < q.toNat) := by
  refine ⟨mul128_spec, mul_eq_mul128, ?_⟩
  intro hi lo q hq
  obtain ⟨hquot, hrem⟩ := div128By32_spec hi lo hq
  rw [hquot, hrem]
  exact ⟨Nat.div_add_mod' _ _, Nat.mod_lt _ hq⟩

theorem div128By32_exact_by_seven :
    0 < (7 : UInt32).toNat ∧
      ((div128By32 5 9 7).1.toNat * 2 ^ 64 + (div128By32 5 9 7).2.1.toNat) * (7 : UInt32).toNat +
          (div128By32 5 9 7).2.2.toNat = (5 : UInt64).toNat * 2 ^ 64 + (9 : UInt64).toNat ∧
        (div128By32 5 9 7).2.2.toNat < (7 : UInt32).toNat :=
  ⟨by decide, mul128_mul_div128By32_exact.2.2 5 9 7 (by decide)⟩

/-- `std::vector::resize(n)`: truncate, or pad with value-initialised
elements. -/
def resize {α : Type*} (l : List α) (n : ℕ) (d : α) : List α :=
  l.take n ++ List.replicate (n - l.length) d

/-- The clamped solve time between the blocks `i - 1` and `i` of the window:
at least 1, at most `10 * target_seconds`. -/
def timespanAt (timestamps : List UInt64) (targetSeconds : UInt64) (i : ℕ) : UInt64 :=
  let prev := timestamps.getD (i - 1) 0
  let cur := timestamps.getD i 0
  let timespan : UInt64 := if prev ≥ cur then 1 else cur - prev
  if timespan > 10 * targetSeconds then 10 * targetSeconds else timespan

/-- The loop `for (i = 1; i < length; i++) weighted_timespans += i * timespan`. -/
def weightedTimespans (timestamps : List UInt64) (targetSeconds : UInt64) : UInt64 :=
  (List.range' 1 (timestamps.length - 1)).foldl
    (fun acc i => acc + i.toUInt64 * timespanAt timestamps targetSeconds i) 0

/-- `next_difficulty_v1`: the difficulty the next block must meet, from the
timestamps and cumulative difficulties of the window. Returns 0 when the
128-bit product `total_work * target` does not fit in 64 bits. -/
def nextDifficultyV1 (timestamps cumulativeDifficulties : List UInt64)
    (targetSeconds : UInt64) : UInt64 :=
  -- both vectors are resized when the timestamps exceed the V1 window
  let cut := timestamps.length > difficultyBlocksCountV1
  let timestamps := if cut then resize timestamps difficultyBlocksCountV1 0 else timestamps
  let cumulativeDifficulties :=
    if cut then resize cumulativeDifficulties difficultyBlocksCountV1 0 else cumulativeDifficulties
  let length := timestamps.length
  if length ≤ 1 then 1
  else
    let weighted := weightedTimespans timestamps targetSeconds
    let target := ((length.toUInt64 + 1) / 2) * targetSeconds
    let minimumTimespan := targetSeconds * length.toUInt64 / 2
    let weighted := if weighted < minimumTimespan then minimumTimespan else weighted
    let totalWork := cumulativeDifficulties.getLastD 0 - cumulativeDifficulties.headD 0
    let (low, high) := mul128 totalWork target
    if high ≠ 0 then 0
    else if low / weighted = 0 then 1
    else low / weighted

/-- The four little-endian 64-bit words of a 256-bit hash, `((uint64_t *)&hash)[i]`
read through `swap64le` on a little-endian host. -/
def hashWord (h : Hash) (i : ℕ) : UInt64 :=
  ((h.bytes.drop (8 * i)).take 8).foldr (fun b acc => (acc <<< 8) ||| b.toUInt64) 0

/-- `cadd`: the carry out of `a + b`. -/
def cadd (a b : UInt64) : Bool := a + b < a

/-- `cadc`: the carry out of `a + b + c`. -/
def cadc (a b : UInt64) (c : Bool) : Bool := a + b < a || (c && a + b == UInt64.ofNat (2 ^ 64 - 1))

/-- `check_hash`: the proof-of-work test `hash * difficulty < 2^256`, computed
word by word from the most significant word down. -/
def checkHash (hash : Hash) (difficulty : UInt64) : Bool :=
  let (top, high) := mul128 (hashWord hash 3) difficulty
  if high ≠ 0 then false
  else
    let (_, cur) := mul128 (hashWord hash 0) difficulty
    let (low, high) := mul128 (hashWord hash 1) difficulty
    let carry := cadd cur low
    let cur := high
    let (low, high) := mul128 (hashWord hash 2) difficulty
    let carry := cadc cur low carry
    let carry := cadc high top carry
    !carry

end Ombre
