import Mathlib

/-!
# Windows of a sequence and their medians

Consensus code reads a window of a stored sequence in one of three ways: by a
loop over a range of offsets, by a loop that fills a fixed-size array from its
last slot backwards, or by a walk down a linked chain that yields the window in
reverse. This file gives each reading its list form, so that two procedures that
build the same window in different ways can be compared as lists.

* `readRange get lo hi` is the offset loop `for i in [lo, hi): push (get i)`; on
  a list read in range it is a `drop` of a `take` (`readRange_getD`).
* `fillBack` is the backward array fill; when the source has at least as many
  elements as the array, it copies the first ones reversed (`fillBack_reverse`).
* `median le avg dflt v` is the sample median: the middle element of the sorted
  sample, `avg` of the two middle elements for an even sample, `dflt` for the
  empty one. It depends only on the multiset of the sample (`median_perm`).
-/

namespace Window

variable {α : Type*}

/-! ## Offset loops -/

/-- The offset loop `for (i = lo; i < hi; ++i) out.push_back(get i)`. -/
def readRange (get : ℕ → α) (lo hi : ℕ) : List α :=
  (List.range' lo (hi - lo)).map get

@[simp] theorem length_readRange (get : ℕ → α) (lo hi : ℕ) :
    (readRange get lo hi).length = hi - lo := by
  simp [readRange]

theorem readRange_of_le (get : ℕ → α) {lo hi : ℕ} (h : hi ≤ lo) :
    readRange get lo hi = [] := by
  simp [readRange, Nat.sub_eq_zero_of_le h]

/-- One more offset at the top of the range. -/
theorem readRange_succ (get : ℕ → α) {lo hi : ℕ} (h : lo ≤ hi) :
    readRange get lo (hi + 1) = readRange get lo hi ++ [get hi] := by
  have hlen : hi + 1 - lo = (hi - lo) + 1 := by omega
  rw [readRange, readRange, hlen, List.range'_1_concat, List.map_append]
  simp [Nat.add_sub_cancel' h]

/-- Reading the offsets `[lo, hi)` of a list that holds them is a `drop` of a
`take`. -/
theorem readRange_getD (l : List α) (d : α) {lo hi : ℕ} (h : hi ≤ l.length) :
    readRange (fun i => l.getD i d) lo hi = (l.take hi).drop lo := by
  induction hi with
  | zero => simp [readRange]
  | succ hi ih =>
      by_cases hlo : lo ≤ hi
      · have hhi : hi < l.length := by omega
        rw [readRange_succ _ hlo, ih (by omega), List.take_add_one,
          List.drop_append_of_le_length (by simp; omega)]
        simp [List.getElem?_eq_getElem hhi, List.getD_eq_getElem?_getD]
      · rw [readRange_of_le _ (by omega), List.drop_eq_nil_of_le]
        simp only [List.length_take]
        omega

/-- The same loop read downwards, `for (i = hi; i != lo; --i) push(get i)`,
visits the offsets `(lo, hi]` and yields the upward reading reversed. -/
def readDown (get : ℕ → α) (lo : ℕ) : ℕ → List α
  | 0 => []
  | hi + 1 => if hi + 1 = lo then [] else get (hi + 1) :: readDown get lo hi

theorem readDown_eq_reverse (get : ℕ → α) (lo : ℕ) :
    ∀ hi, lo ≤ hi → readDown get lo hi = (readRange get (lo + 1) (hi + 1)).reverse
  | 0, h => by
      have : lo = 0 := by omega
      subst this
      simp [readDown, readRange]
  | hi + 1, h => by
      by_cases heq : hi + 1 = lo
      · subst heq
        simp [readDown, readRange]
      · have ih := readDown_eq_reverse get lo hi (by omega)
        rw [readDown, if_neg heq, ih, readRange_succ get (show lo + 1 ≤ hi + 1 by omega)]
        simp

/-! ## Filling an array from its last slot -/

/-- The backward fill `for x in src: arr[maxI - count] = x; if (++count >= n) break`
over an array of `n` slots. -/
def fillBack (n maxI : ℕ) (arr : List α) : ℕ → List α → List α
  | _, [] => arr
  | count, x :: xs =>
      if count + 1 ≥ n then arr.set (maxI - count) x
      else fillBack n maxI (arr.set (maxI - count) x) (count + 1) xs

/-- Filling the slots below `n - count` downwards with `xs` stores the first
`n - count` elements of `xs` reversed and keeps the slots above untouched. -/
theorem fillBack_eq (n : ℕ) :
    ∀ (arr : List α) (count : ℕ) (xs : List α), arr.length = n → count < n →
      n - count ≤ xs.length →
      fillBack n (n - 1) arr count xs = (xs.take (n - count)).reverse ++ arr.drop (n - count)
  | arr, count, [], _, hc, h => by simp at h; omega
  | arr, count, x :: xs, harr, hc, h => by
      have hset : (arr.set (n - 1 - count) x).drop (n - 1 - count) =
          x :: arr.drop (n - count) := by
        have hsucc : n - 1 - count + 1 = n - count := by omega
        rw [List.drop_set, if_neg (Nat.lt_irrefl _), Nat.sub_self,
          List.drop_eq_getElem_cons (by omega), hsucc]
        simp
      rw [fillBack]
      by_cases hlast : count + 1 ≥ n
      · have hcnt : n - count = 1 := by omega
        rw [if_pos hlast, hcnt]
        have hzero : n - 1 - count = 0 := by omega
        rw [hzero]
        cases arr with
        | nil => simp at harr; omega
        | cons a rest => simp
      · rw [if_neg hlast, fillBack_eq n (arr.set (n - 1 - count) x) (count + 1) xs
          (by simp [harr]) (by omega) (by simp at h; omega)]
        have hn : n - (count + 1) = n - 1 - count := by omega
        have htake : (x :: xs).take (n - count) = x :: xs.take (n - 1 - count) := by
          rw [show n - count = (n - 1 - count) + 1 by omega, List.take_succ_cons]
        rw [hn, hset, htake]
        simp

/-- Filling an `n`-slot array from the back with a source read backwards
copies the last `n` elements of the source, in order. -/
theorem fillBack_reverse (n : ℕ) (hn : 0 < n) (d : α) (src : List α) (h : n ≤ src.length) :
    fillBack n (n - 1) (List.replicate n d) 0 src.reverse = src.drop (src.length - n) := by
  rw [fillBack_eq n _ 0 _ (by simp) hn (by simp; omega), Nat.sub_zero]
  simp [List.reverse_take, List.drop_replicate]

/-! ## Medians -/

section Median

variable (le : α → α → Prop) [DecidableRel le]

/-- The sample sorted by `le`. Any sorting procedure gives this list when `le`
is a total antisymmetric order (`sort_perm`). -/
def sort (v : List α) : List α := v.insertionSort le

/-- The element read off a sorted sample: the middle one for an odd length,
`avg` of the two middle ones for an even length. -/
def middle (avg : α → α → α) (dflt : α) (s : List α) : α :=
  if s.length % 2 = 1 then s.getD (s.length / 2) dflt
  else avg (s.getD (s.length / 2 - 1) dflt) (s.getD (s.length / 2) dflt)

/-- The median of a sample; `dflt` for the empty sample, the element itself for
a single one. -/
def median (avg : α → α → α) (dflt : α) : List α → α
  | [] => dflt
  | [a] => a
  | v => middle avg dflt (sort le v)

@[simp] theorem length_sort (v : List α) : (sort le v).length = v.length :=
  (List.perm_insertionSort le v).length_eq

theorem median_eq_middle (avg : α → α → α) (dflt : α) {v : List α} (hv : v ≠ []) :
    median le avg dflt v = middle avg dflt (sort le v) := by
  match v, hv with
  | [a], _ => simp [median, middle, sort]
  | _ :: _ :: _, _ => rfl

variable [Std.Total le] [IsTrans α le] [Std.Antisymm le]

/-- Sorting forgets the order of the sample. -/
theorem sort_perm {v w : List α} (h : v.Perm w) : sort le v = sort le w :=
  List.Perm.eq_of_pairwise'
    (List.pairwise_insertionSort le v) (List.pairwise_insertionSort le w)
    ((List.perm_insertionSort le v).trans (h.trans (List.perm_insertionSort le w).symm))

/-- The median depends only on the multiset of the sample. -/
theorem median_perm (avg : α → α → α) (dflt : α) {v w : List α} (h : v.Perm w) :
    median le avg dflt v = median le avg dflt w := by
  by_cases hv : v = []
  · subst hv
    rw [List.Perm.nil_eq h]
  · have hw : w ≠ [] := fun hw => hv (List.Perm.eq_nil (hw ▸ h))
    rw [median_eq_middle le avg dflt hv, median_eq_middle le avg dflt hw, sort_perm le h]

end Median

end Window
