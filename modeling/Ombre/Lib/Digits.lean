import Mathlib

/-!
# Digits read highest first

A number kept as digits, lowest first, is often read back by a loop that runs
from the highest digit down to the lowest, multiplying what it has by the base
and adding the next digit (Horner's rule). Over `ℕ` the loop gives the value of
the digits (`foldl_range_reverse`); over a 64-bit word it gives that value
modulo `2 ^ 64`, since the word's arithmetic is that of `ℕ` modulo its size
(`foldl_range_reverse_ofNat`). The digits a number is written with are read
back as the number modulo the base to the count of digits
(`ofDigits_map_range_div_mod`).
-/

namespace Digits

/-- Horner's rule from digit `m - 1` down to digit 0, starting from `acc`. -/
theorem foldl_range_reverse (B : ℕ) (d : ℕ → ℕ) :
    ∀ (m acc : ℕ), (List.range m).reverse.foldl (fun v j => v * B + d j) acc =
      acc * B ^ m + Nat.ofDigits B ((List.range m).map d)
  | 0, acc => by simp
  | m + 1, acc => by
    rw [List.range_succ, List.reverse_append, List.reverse_singleton, List.singleton_append,
      List.foldl_cons, foldl_range_reverse B d m, List.map_append, Nat.ofDigits_append,
      List.length_map, List.length_range, List.map_singleton, Nat.ofDigits_singleton]
    ring

/-- Reading the first `m` entries of a list by index, with a default past its
end, gives its first `m` entries when it has that many. -/
theorem map_range_getD {α : Type*} (l : List α) (d : α) {m : ℕ} (h : m ≤ l.length) :
    (List.range m).map (fun j => l.getD j d) = l.take m := by
  apply List.ext_getElem (by simpa using h)
  intro j hj _
  rw [List.length_map, List.length_range] at hj
  simp [List.getElem?_eq_getElem (show j < l.length by omega)]

/-- The same loop over a 64-bit word computes the value modulo `2 ^ 64`. -/
theorem foldl_range_reverse_ofNat (B : ℕ) (d : ℕ → ℕ) :
    ∀ (js : List ℕ) (acc : ℕ),
      js.foldl (fun (v : UInt64) j => v * UInt64.ofNat B + UInt64.ofNat (d j)) (UInt64.ofNat acc) =
        UInt64.ofNat (js.foldl (fun v j => v * B + d j) acc)
  | [], _ => rfl
  | j :: js, acc => by
    rw [List.foldl_cons, List.foldl_cons, ← UInt64.ofNat_mul, ← UInt64.ofNat_add]
    exact foldl_range_reverse_ofNat B d js _

/-- Horner's rule over a 64-bit word from zero: the value of the digits modulo
`2 ^ 64`. -/
theorem foldl_range_reverse_uint64 (B : ℕ) (d : ℕ → ℕ) (m : ℕ) :
    (List.range m).reverse.foldl (fun (v : UInt64) j => v * UInt64.ofNat B + UInt64.ofNat (d j)) 0 =
      UInt64.ofNat (Nat.ofDigits B ((List.range m).map d)) := by
  rw [show (0 : UInt64) = UInt64.ofNat 0 from rfl, foldl_range_reverse_ofNat,
    foldl_range_reverse, Nat.zero_mul, Nat.zero_add]

/-- Horner's rule over a 64-bit word on the first `m` entries of a list, read by
index: the value of those entries modulo `2 ^ 64`. -/
theorem foldl_range_reverse_getD {α : Type*} (B : ℕ) (f : α → ℕ) (l : List α) (d : α) {m : ℕ}
    (hm : m ≤ l.length) :
    (List.range m).reverse.foldl
        (fun (v : UInt64) j => v * UInt64.ofNat B + UInt64.ofNat (f (l.getD j d))) 0 =
      UInt64.ofNat (Nat.ofDigits B ((l.take m).map f)) := by
  rw [foldl_range_reverse_uint64 B (fun j => f (l.getD j d)), ← map_range_getD l d hm, List.map_map]
  rfl

/-- The first `m` digits of `v` in base `B` make up `v` modulo `B ^ m`. -/
theorem ofDigits_map_range_div_mod (B v : ℕ) :
    ∀ m, Nat.ofDigits B ((List.range m).map fun j => v / B ^ j % B) = v % B ^ m
  | 0 => by simp [Nat.mod_one]
  | m + 1 => by
    rw [List.range_succ, List.map_append, Nat.ofDigits_append, List.length_map, List.length_range,
      List.map_singleton, Nat.ofDigits_singleton, ofDigits_map_range_div_mod B v m, Nat.mod_pow_succ]

end Digits
