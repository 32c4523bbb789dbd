import Mathlib

/-!
# Block codes

A block code cuts its input into blocks of a fixed size, codes each block on
its own and concatenates the results; the last block may be shorter. Decoding
cuts the code the same way, so it recovers the blocks as long as every coded
full block has one size and the coded last block is shorter
(`Blocks.full_flatten_append`, `Blocks.rest_flatten_append`).

A block of bytes is coded as a number: read in one base, written with a fixed
number of digits in another. `Nat.digitsAppend b l n` writes `n` with `l`
digits in base `b`, lowest first; its digits are read off one by one by
division (`digitsAppend_eq_map_range`), which is how a program takes the bytes
of a machine word.
-/

/-! ## Blocks of a list -/

namespace Blocks

variable {α : Type*} {k : ℕ}

/-- The block of `k` elements of `l` from offset `i * k`. -/
def block (k : ℕ) (l : List α) (i : ℕ) : List α := (l.drop (i * k)).take k

/-- The full blocks of `k` elements of `l`, in order. -/
def full (k : ℕ) (l : List α) : List (List α) := (List.range (l.length / k)).map (block k l)

/-- What is left of `l` after its full blocks. -/
def rest (k : ℕ) (l : List α) : List α := l.drop (l.length / k * k)

theorem length_rest (k : ℕ) (l : List α) : (rest k l).length = l.length % k := by
  have := Nat.div_add_mod l.length k
  rw [rest, List.length_drop, Nat.mul_comm]
  omega

theorem length_of_mem_full {l c : List α} (h : c ∈ full k l) : c.length = k := by
  obtain ⟨i, hi, rfl⟩ := List.mem_map.mp h
  have hk : 0 < k := Nat.pos_of_ne_zero fun hk => by simp [hk] at hi
  have hle : (i + 1) * k ≤ l.length := (Nat.le_div_iff_mul_le hk).mp (List.mem_range.mp hi)
  simp only [block, List.length_take, List.length_drop]
  rw [Nat.add_mul, Nat.one_mul] at hle
  omega

/-- The first `m` blocks are the first `m * k` elements. -/
theorem flatten_map_block_range (l : List α) :
    ∀ m, ((List.range m).map (block k l)).flatten = l.take (m * k)
  | 0 => by simp
  | m + 1 => by
    rw [List.range_succ, List.map_append, List.flatten_append, flatten_map_block_range l m,
      Nat.add_mul, Nat.one_mul, List.take_add]
    simp [block]

theorem flatten_full_append_rest (k : ℕ) (l : List α) : (full k l).flatten ++ rest k l = l := by
  rw [full, rest, flatten_map_block_range, List.take_append_drop]

/-- A block of `k` elements in front adds one full block. -/
theorem full_append_of_length {c l : List α} (hk : 0 < k) (hc : c.length = k) :
    full k (c ++ l) = c :: full k l := by
  have hdiv : (c ++ l).length / k = l.length / k + 1 := by
    rw [List.length_append, hc, Nat.add_comm, Nat.add_div_right _ hk]
  rw [full, hdiv, List.range_succ_eq_map, List.map_cons, List.map_map]
  congr 1
  · simp [block, ← hc]
  · apply List.map_congr_left
    intro i _
    simp only [Function.comp, block, Nat.succ_mul, Nat.add_comm _ k, ← List.drop_drop,
      List.drop_left' hc]

theorem rest_append_of_length {c l : List α} (hk : 0 < k) (hc : c.length = k) :
    rest k (c ++ l) = rest k l := by
  have hdiv : (c ++ l).length / k = l.length / k + 1 := by
    rw [List.length_append, hc, Nat.add_comm, Nat.add_div_right _ hk]
  rw [rest, rest, hdiv, Nat.succ_mul, Nat.add_comm _ k, ← List.drop_drop, List.drop_left' hc]

theorem full_of_length_lt {l : List α} (hl : l.length < k) : full k l = [] := by
  simp [full, Nat.div_eq_of_lt hl]

theorem rest_of_length_lt {l : List α} (hl : l.length < k) : rest k l = l := by
  simp [rest, Nat.div_eq_of_lt hl]

/-- Element `j` of block `i` of blocks of `k` elements each, concatenated. -/
theorem getD_flatMap_range {f : ℕ → List α} (hf : ∀ i, (f i).length = k) (d : α) {j : ℕ}
    (hj : j < k) : ∀ {n i : ℕ}, i < n → ((List.range n).flatMap f).getD (i * k + j) d = (f i).getD j d
  | 0, i, h => absurd h (Nat.not_lt_zero i)
  | n + 1, i, h => by
    have hlen : ((List.range n).flatMap f).length = n * k := by
      simp [List.length_flatMap, hf]
    rw [List.range_succ, List.flatMap_append, List.flatMap_singleton]
    rcases Nat.lt_succ_iff_lt_or_eq.mp h with hi | rfl
    · -- block `i` lies among the first `n`
      have hik : i * k + j < n * k := calc
        i * k + j < i * k + k := by omega
        _ = (i + 1) * k := by rw [Nat.succ_mul]
        _ ≤ n * k := Nat.mul_le_mul_right k hi
      rw [List.getD_append _ _ _ _ (by rw [hlen]; exact hik), getD_flatMap_range hf d hj hi]
    · rw [List.getD_append_right _ _ _ _ (by rw [hlen]; omega), hlen, Nat.add_sub_cancel_left]

section Split

variable {bs : List (List α)} {t : List α}

/-- Blocks of `k` elements followed by fewer than `k` are cut back into the
same blocks. -/
theorem full_flatten_append (hbs : ∀ c ∈ bs, c.length = k) (ht : t.length < k) :
    full k (bs.flatten ++ t) = bs := by
  induction bs with
  | nil => exact full_of_length_lt ht
  | cons c bs ih =>
    rw [List.flatten_cons, List.append_assoc,
      full_append_of_length (by omega) (hbs c List.mem_cons_self),
      ih fun c' hc' => hbs c' (List.mem_cons_of_mem c hc')]

theorem rest_flatten_append (hbs : ∀ c ∈ bs, c.length = k) (ht : t.length < k) :
    rest k (bs.flatten ++ t) = t := by
  induction bs with
  | nil => exact rest_of_length_lt ht
  | cons c bs ih =>
    rw [List.flatten_cons, List.append_assoc,
      rest_append_of_length (by omega) (hbs c List.mem_cons_self),
      ih fun c' hc' => hbs c' (List.mem_cons_of_mem c hc')]

end Split

end Blocks

/-! ## Decoding every block -/

namespace List

variable {α β : Type*}

/-- A decoder run over a list with `mapM` succeeds exactly when it succeeds on
every element, each paired with its result. -/
theorem mapM_option_eq_some_iff {f : α → Option β} :
    ∀ {l : List α} {l' : List β}, l.mapM f = some l' ↔ Forall₂ (fun a b => f a = some b) l l'
  | [], l' => by cases l' <;> simp
  | a :: l, l' => by
    cases l' with
    | nil => simp [mapM_cons, Option.bind_eq_some_iff]
    | cons b l' =>
      rw [forall₂_cons, ← mapM_option_eq_some_iff]
      simp [mapM_cons, Option.bind_eq_some_iff]

end List

/-! ## Fixed-width numerals -/

namespace Nat

variable {b l n : ℕ}

/-- Digit `i` of `n` with `l` digits in base `b` is `n / b ^ i % b`. -/
theorem digitsAppend_eq_map_range (hb : 2 ≤ b) (hn : n < b ^ l) :
    digitsAppend b l n = (List.range l).map fun i => n / b ^ i % b := by
  apply List.ext_getElem
  · rw [length_digitsAppend (by omega) l hn, List.length_map, List.length_range]
  · intro i hi _
    -- past the digits of `n` the padding zeros agree with `n / b ^ i % b = 0`
    have hpad : (digitsAppend b l n).getD i 0 = (b.digits n).getD i 0 := by
      rcases Nat.lt_or_ge i (b.digits n).length with h | h
      · exact List.getD_append _ _ _ _ h
      · rw [digitsAppend, List.getD_append_right _ _ _ _ h, List.getD_eq_default _ _ h]
        simp
    rw [List.getElem_map, List.getElem_range, ← getD_digits n i hb, ← hpad,
      List.getD_eq_getElem _ 0 hi]

end Nat
