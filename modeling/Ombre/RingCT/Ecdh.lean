import Ombre.Serialization.BinaryArchive
import Ombre.Lib.Digits

/-!
# Masked amounts

The conversions of `ringct/rctTypes.cpp` between an amount, the 32-byte key
that holds it (`d2h`, `h2d`) and its 64 bits (`d2b`, `b2d`), and the masking
of an output's commitment mask and amount with a shared secret (`ecdhEncode`,
`ecdhDecode` of `ringct/rctOps.cpp`).

A key holds a scalar, its bytes read lowest first. The scalar arithmetic of
`crypto-ops.c` is not modelled byte by byte: `ScalarOps` carries `sc_add`,
`sc_sub` and `hash_to_scalar` with the one property the masking rests on, that
on scalars below the group order `l` the first two add and subtract modulo `l`
and that a hashed secret is such a scalar. `ScalarOps.modular` is that
arithmetic itself, so the assumptions can be met.

The results: decoding undoes encoding on every tuple of reduced scalars
(`ecdhDecode_ecdhEncode`), `h2d` reads the low 8 bytes of a key (`toNat_h2d`),
`b2d` reads the bits as a binary number (`toNat_b2d`), and both invert their
writers.
-/

namespace Ombre

open BinaryArchive

namespace Rct

/-! ## Scalars -/

/-- `l`, the order of the base point: scalars are kept below it. -/
def curveOrder : ℕ := 2 ^ 252 + 27742317777372353535851937790883648493

theorem curveOrder_pos : 0 < curveOrder := by
  unfold curveOrder
  positivity

theorem curveOrder_lt : curveOrder < 256 ^ 32 := by
  unfold curveOrder
  norm_num

/-- Every amount is a reduced scalar. -/
theorem toNat_lt_curveOrder (a : UInt64) : a.toNat < curveOrder :=
  a.toNat_lt.trans_le (by unfold curveOrder; norm_num)

/-- The scalar a key holds, its bytes read lowest first. -/
def scalarValue (k : RctKey) : ℕ := leValue k.bytes

/-- The key holding the scalar `n`, modulo `2 ^ 256`. -/
def ofScalar (n : ℕ) : RctKey := ⟨writeUint 32 n, length_writeUint 32 n⟩

theorem scalarValue_injective {a b : RctKey} (h : scalarValue a = scalarValue b) : a = b := by
  obtain ⟨a, ha⟩ := a
  obtain ⟨b, hb⟩ := b
  obtain rfl : a = b := leValue_injective (ha.trans hb.symm) h
  rfl

theorem scalarValue_ofScalar {n : ℕ} (h : n < curveOrder) : scalarValue (ofScalar n) = n := by
  rw [scalarValue, ofScalar, leValue_writeUint, Nat.mod_eq_of_lt (h.trans curveOrder_lt)]

/-- `sc_add`, `sc_sub` and `hash_to_scalar`, with what the masking needs of them. -/
structure ScalarOps where
  scAdd : RctKey → RctKey → RctKey
  scSub : RctKey → RctKey → RctKey
  hashToScalar : RctKey → RctKey
  scAdd_spec : ∀ a b, scalarValue a < curveOrder → scalarValue b < curveOrder →
    scalarValue (scAdd a b) = (scalarValue a + scalarValue b) % curveOrder
  scSub_spec : ∀ a b, scalarValue a < curveOrder → scalarValue b < curveOrder →
    scalarValue (scSub a b) = (scalarValue a + curveOrder - scalarValue b) % curveOrder
  hashToScalar_lt : ∀ k, scalarValue (hashToScalar k) < curveOrder

/-- Subtracting modulo `l` what was added modulo `l` gives back a reduced scalar. -/
theorem add_mod_sub_mod {l m s : ℕ} (hm : m < l) (hs : s < l) : ((m + s) % l + l - s) % l = m := by
  rcases lt_or_ge (m + s) l with h | h
  · rw [Nat.mod_eq_of_lt h, show m + s + l - s = m + l by omega, Nat.add_mod_right,
      Nat.mod_eq_of_lt hm]
  · rw [Nat.mod_eq_sub_mod h, Nat.mod_eq_of_lt (show m + s - l < l by omega),
      show m + s - l + l - s = m by omega, Nat.mod_eq_of_lt hm]

namespace ScalarOps

/-- The scalar arithmetic modulo `l`, with `hash` for the hash of a key. -/
def modular (hash : RctKey → RctKey) : ScalarOps where
  scAdd a b := ofScalar ((scalarValue a + scalarValue b) % curveOrder)
  scSub a b := ofScalar ((scalarValue a + curveOrder - scalarValue b) % curveOrder)
  hashToScalar k := ofScalar (scalarValue (hash k) % curveOrder)
  scAdd_spec _ _ _ _ := scalarValue_ofScalar (Nat.mod_lt _ curveOrder_pos)
  scSub_spec _ _ _ _ := scalarValue_ofScalar (Nat.mod_lt _ curveOrder_pos)
  hashToScalar_lt _ := by
    rw [scalarValue_ofScalar (Nat.mod_lt _ curveOrder_pos)]
    exact Nat.mod_lt _ curveOrder_pos

variable (ops : ScalarOps)

theorem scAdd_lt {a b : RctKey} (ha : scalarValue a < curveOrder) (hb : scalarValue b < curveOrder) :
    scalarValue (ops.scAdd a b) < curveOrder := by
  rw [ops.scAdd_spec a b ha hb]
  exact Nat.mod_lt _ curveOrder_pos

theorem scSub_scAdd {a b : RctKey} (ha : scalarValue a < curveOrder) (hb : scalarValue b < curveOrder) :
    ops.scSub (ops.scAdd a b) b = a := by
  apply scalarValue_injective
  rw [ops.scSub_spec _ b (ops.scAdd_lt ha hb) hb, ops.scAdd_spec a b ha hb, add_mod_sub_mod ha hb]

end ScalarOps

/-! ## Masking -/

/-- `ecdhEncode`: the mask and the amount each plus a scalar hashed from the
shared secret, the second hashed from the first. -/
def ecdhEncode (ops : ScalarOps) (unmasked : EcdhTuple) (sharedSec : RctKey) : EcdhTuple :=
  let sharedSec1 := ops.hashToScalar sharedSec
  let sharedSec2 := ops.hashToScalar sharedSec1
  { mask := ops.scAdd unmasked.mask sharedSec1
    amount := ops.scAdd unmasked.amount sharedSec2 }

/-- `ecdhDecode`: the same two scalars, subtracted. -/
def ecdhDecode (ops : ScalarOps) (masked : EcdhTuple) (sharedSec : RctKey) : EcdhTuple :=
  let sharedSec1 := ops.hashToScalar sharedSec
  let sharedSec2 := ops.hashToScalar sharedSec1
  { mask := ops.scSub masked.mask sharedSec1
    amount := ops.scSub masked.amount sharedSec2 }

/-- Decoding with the secret a tuple was encoded with gives the tuple back,
whenever both its keys are reduced scalars. -/
theorem ecdhDecode_ecdhEncode (ops : ScalarOps) {unmasked : EcdhTuple}
    (hmask : scalarValue unmasked.mask < curveOrder) (hamount : scalarValue unmasked.amount < curveOrder)
    (sharedSec : RctKey) :
    ecdhDecode ops (ecdhEncode ops unmasked sharedSec) sharedSec = unmasked := by
  have h1 := ops.hashToScalar_lt sharedSec
  have h2 := ops.hashToScalar_lt (ops.hashToScalar sharedSec)
  simp only [ecdhDecode, ecdhEncode, ops.scSub_scAdd hmask h1, ops.scSub_scAdd hamount h2]

/-! ## Amounts as keys -/

/-- The loop of `d2h`: from byte `i` on, the bytes of `val`, lowest first,
while it is not zero. -/
def d2hLoop (val : UInt64) (i : ℕ) (amounth : List UInt8) : List UInt8 :=
  if val = 0 then amounth
  else d2hLoop (val / 256) (i + 1) (amounth.set i (val &&& 0xFF).toUInt8)
termination_by val.toNat
decreasing_by
  have hv : val.toNat ≠ 0 := fun h => ‹¬val = 0› (UInt64.toNat_inj.mp h)
  rw [UInt64.toNat_div]
  simp only [UInt64.reduceToNat]
  omega

theorem length_d2hLoop (val : UInt64) (i : ℕ) (amounth : List UInt8) :
    (d2hLoop val i amounth).length = amounth.length := by
  fun_induction d2hLoop val i amounth with
  | case1 => rfl
  | case2 val i amounth _ ih => rw [ih, List.length_set]

/-- `d2h`: a zero key, then the amount's bytes from byte 0. -/
def d2h (amount : UInt64) : RctKey :=
  ⟨d2hLoop amount 0 (List.replicate 32 0), by rw [length_d2hLoop, List.length_replicate]⟩

theorem d2hLoop_zero (i : ℕ) (amounth : List UInt8) : d2hLoop 0 i amounth = amounth := by
  rw [d2hLoop, if_pos rfl]

/-- Over zero bytes after the first `i`, the loop writes `val` as `writeUint`
does. The induction is on the count of zero bytes left, which bounds `val`. -/
theorem d2hLoop_replicate : ∀ (n : ℕ) (val : UInt64) (pre : List UInt8), val.toNat < 256 ^ n →
    d2hLoop val pre.length (pre ++ List.replicate n 0) = pre ++ writeUint n val.toNat
  | 0, val, pre, h => by
    obtain rfl : val = 0 := UInt64.toNat_inj.mp (by rw [pow_zero] at h; simpa using h)
    rw [d2hLoop_zero]
    rfl
  | n + 1, val, pre, h => by
    by_cases hv : val = 0
    · rw [hv, d2hLoop_zero, UInt64.toNat_zero, writeUint_zero]
    have hbyte : (val &&& 0xFF).toUInt8 = val.toNat.toUInt8 := by
      apply UInt8.toNat_inj.mp
      simp [Nat.and_two_pow_sub_one_eq_mod _ 8]
    have hhigh : (val / 256).toNat = val.toNat >>> 8 := by
      rw [Nat.shiftRight_eq_div_pow, UInt64.toNat_div]
      rfl
    have hset : (pre ++ List.replicate (n + 1) 0).set pre.length val.toNat.toUInt8 =
        (pre ++ [val.toNat.toUInt8]) ++ List.replicate n 0 := by
      rw [List.set_append_right _ _ (le_refl _), Nat.sub_self, List.replicate_succ, List.set_cons_zero,
        List.append_assoc, List.singleton_append]
    have hrest : (val / 256).toNat < 256 ^ n := by
      rw [hhigh, Nat.shiftRight_eq_div_pow]
      rw [pow_succ] at h
      omega
    rw [d2hLoop, if_neg hv, hbyte, hset, show pre.length + 1 = (pre ++ [val.toNat.toUInt8]).length by simp,
      d2hLoop_replicate n _ _ hrest, hhigh, writeUint, List.append_assoc, List.singleton_append]

theorem d2h_bytes (amount : UInt64) : (d2h amount).bytes = writeUint 32 amount.toNat := by
  have h := d2hLoop_replicate 32 amount [] ((toNat_lt_curveOrder amount).trans curveOrder_lt)
  rwa [List.nil_append, List.nil_append] at h

theorem scalarValue_d2h (amount : UInt64) : scalarValue (d2h amount) = amount.toNat := by
  rw [scalarValue, d2h_bytes, leValue_writeUint,
    Nat.mod_eq_of_lt ((toNat_lt_curveOrder amount).trans curveOrder_lt)]

/-- `d2h` gives a reduced scalar, which the masking adds to and subtracts from. -/
theorem scalarValue_d2h_lt (amount : UInt64) : scalarValue (d2h amount) < curveOrder := by
  rw [scalarValue_d2h]
  exact toNat_lt_curveOrder amount

/-- `h2d`: the amount held in the first 8 bytes of a key, read from byte 7 down. -/
def h2d (test : RctKey) : UInt64 :=
  (List.range 8).reverse.foldl (fun vali j => vali * 256 + (test.bytes.getD j 0).toUInt64) 0

theorem leValue_eq_ofDigits : ∀ bs : List UInt8, leValue bs = Nat.ofDigits 256 (bs.map UInt8.toNat)
  | [] => rfl
  | b :: bs => by rw [leValue, List.map_cons, Nat.ofDigits_cons, leValue_eq_ofDigits bs]

/-- `h2d` returns the value of the first 8 bytes, whatever the key holds above them. -/
theorem toNat_h2d (test : RctKey) : (h2d test).toNat = leValue (test.bytes.take 8) := by
  have h8 : 8 ≤ test.bytes.length := by rw [test.length_eq]; omega
  have hfold : h2d test = UInt64.ofNat (Nat.ofDigits 256 ((test.bytes.take 8).map UInt8.toNat)) := by
    rw [← Digits.foldl_range_reverse_getD 256 UInt8.toNat test.bytes 0 h8]
    simp only [UInt64.ofNat_uInt8ToNat]
    rfl
  have hlt : leValue (test.bytes.take 8) < 2 ^ 64 :=
    calc leValue (test.bytes.take 8) < 256 ^ (test.bytes.take 8).length := leValue_lt _
      _ = 2 ^ 64 := by rw [List.length_take_of_le h8]; norm_num
  rw [hfold, ← leValue_eq_ofDigits, UInt64.toNat_ofNat', Nat.mod_eq_of_lt hlt]

theorem h2d_d2h (amount : UInt64) : h2d (d2h amount) = amount := by
  apply UInt64.toNat_inj.mp
  rw [toNat_h2d, d2h_bytes, show 32 = 8 + 24 from rfl, take_writeUint, leValue_writeUint,
    Nat.mod_eq_of_lt (amount.toNat_lt.trans_le (by norm_num))]

/-! ## Amounts as bits -/

/-- `rct::bits`: 64 bits, lowest first, one to an `unsigned int`. -/
structure Bits where
  bits : List UInt32
  length_eq : bits.length = 64

/-- The loops of `d2b` from bit `i`: the bits of `val` while it is not zero,
then zeros up to bit 63. -/
def d2bLoop (val : UInt64) (i : ℕ) : List UInt32 :=
  if val = 0 then List.replicate (64 - i) 0
  else (val &&& 1).toUInt32 :: d2bLoop (val >>> 1) (i + 1)
termination_by val.toNat
decreasing_by
  have hv : val.toNat ≠ 0 := fun h => ‹¬val = 0› (UInt64.toNat_inj.mp h)
  rw [UInt64.toNat_shiftRight]
  simp only [UInt64.reduceToNat, Nat.reduceMod, Nat.shiftRight_one]
  omega

/-- From bit `i`, a value of at most `64 - i` bits fills the bits up to 63 exactly. -/
theorem length_d2bLoop (val : UInt64) (i : ℕ) :
    val.toNat < 2 ^ (64 - i) → (d2bLoop val i).length = 64 - i := by
  fun_induction d2bLoop val i with
  | case1 _ => intro _; rw [List.length_replicate]
  | case2 val i hv ih =>
    intro h
    have hpos : val.toNat ≠ 0 := fun h0 => hv (UInt64.toNat_inj.mp h0)
    obtain ⟨k, hk⟩ : ∃ k, 64 - i = k + 1 := by
      refine Nat.exists_eq_add_one.mpr (Nat.pos_of_ne_zero fun h64 => ?_)
      rw [h64, pow_zero] at h
      omega
    have hshift : (val >>> 1).toNat = val.toNat / 2 := by
      rw [UInt64.toNat_shiftRight]
      simp [Nat.shiftRight_one]
    rw [hk, pow_succ] at h
    rw [List.length_cons, ih (by rw [hshift, show 64 - (i + 1) = k by omega]; omega)]
    omega

/-- Bit `j` of the loop's output is bit `j` of `val`, also past its end. -/
theorem toNat_getD_d2bLoop (val : UInt64) (i j : ℕ) :
    ((d2bLoop val i).getD j 0).toNat = val.toNat / 2 ^ j % 2 := by
  fun_induction d2bLoop val i generalizing j with
  | case1 => simp
  | case2 val i _ ih =>
    cases j with
    | zero => simp [Nat.and_one_is_mod]
    | succ j =>
      rw [List.getD_cons_succ, ih j, UInt64.toNat_shiftRight]
      simp [Nat.shiftRight_one, Nat.div_div_eq_div_mul, pow_succ']

/-- `d2b` -/
def d2b (val : UInt64) : Bits :=
  ⟨d2bLoop val 0, length_d2bLoop val 0 val.toNat_lt⟩

theorem map_toNat_d2b (val : UInt64) :
    (d2b val).bits.map UInt32.toNat = (List.range 64).map fun j => val.toNat / 2 ^ j % 2 := by
  have hbits : (d2b val).bits = (List.range 64).map fun j => (d2b val).bits.getD j 0 := by
    rw [Digits.map_range_getD _ _ (d2b val).length_eq.ge,
      List.take_of_length_le (d2b val).length_eq.le]
  rw [hbits, List.map_map]
  exact List.map_congr_left fun j _ => toNat_getD_d2bLoop val 0 j

/-- `b2d`: the amount the bits make up, read from bit 63 down. -/
def b2d (amountb : Bits) : UInt64 :=
  (List.range 64).reverse.foldl (fun vali j => vali * 2 + (amountb.bits.getD j 0).toUInt64) 0

/-- `b2d` reads its entries as binary digits, modulo `2 ^ 64` where an entry is
above one. -/
theorem toNat_b2d (amountb : Bits) :
    (b2d amountb).toNat = Nat.ofDigits 2 (amountb.bits.map UInt32.toNat) % 2 ^ 64 := by
  have hfold : b2d amountb = UInt64.ofNat (Nat.ofDigits 2 (amountb.bits.map UInt32.toNat)) := by
    rw [← List.take_of_length_le amountb.length_eq.le,
      ← Digits.foldl_range_reverse_getD 2 UInt32.toNat amountb.bits 0 amountb.length_eq.ge]
    simp only [UInt64.ofNat_uInt32ToNat]
    rfl
  rw [hfold, UInt64.toNat_ofNat']

theorem b2d_d2b (val : UInt64) : b2d (d2b val) = val := by
  apply UInt64.toNat_inj.mp
  rw [toNat_b2d, map_toNat_d2b, Digits.ofDigits_map_range_div_mod, Nat.mod_mod,
    Nat.mod_eq_of_lt val.toNat_lt]

/-! ## The masked amount -/

theorem ecdh_amount_roundTrip :
    (∀ (ops : ScalarOps) (a : UInt64) (mask sharedSec : RctKey), scalarValue mask < curveOrder →
      ecdhDecode ops (ecdhEncode ops ⟨mask, d2h a⟩ sharedSec) sharedSec = ⟨mask, d2h a⟩ ∧
        h2d (ecdhDecode ops (ecdhEncode ops ⟨mask, d2h a⟩ sharedSec) sharedSec).amount = a) ∧
    (∀ a, h2d (d2h a) = a) ∧ (∀ a, b2d (d2b a) = a) := by
  refine ⟨fun ops a mask sharedSec hmask => ?_, h2d_d2h, b2d_d2b⟩
  have hround := @ecdhDecode_ecdhEncode ops ⟨mask, d2h a⟩ hmask (scalarValue_d2h_lt a) sharedSec
  exact ⟨hround, by rw [hround, h2d_d2h]⟩

theorem ecdh_amount_roundTrip_zeroMask :
    scalarValue (Pod.zero 32) < curveOrder ∧
      h2d (ecdhDecode (ScalarOps.modular id)
        (ecdhEncode (ScalarOps.modular id) ⟨Pod.zero 32, d2h 5⟩ (Pod.zero 32)) (Pod.zero 32)).amount = 5 :=
  have hmask : scalarValue (Pod.zero 32) < curveOrder := by
    show leValue (List.replicate 32 0) < curveOrder
    rw [← writeUint_zero, leValue_writeUint, Nat.zero_mod]
    exact curveOrder_pos
  ⟨hmask, (ecdh_amount_roundTrip.1 (ScalarOps.modular id) 5 (Pod.zero 32) (Pod.zero 32) hmask).2⟩

end Rct

end Ombre
