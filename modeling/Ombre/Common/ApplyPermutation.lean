import Ombre.Lib.Except

/-!
# Applying a permutation in place

`tools::apply_permutation` of `common/apply_permutation.h`. `construct_tx` calls
the overload that takes a swap callback to put the inputs of a transaction, with
their contexts and sources, in the order of their key images; the wallet calls
the overload that swaps the elements of one vector. After a sanity check that
every index below the size occurs in the permutation, each cycle is followed
from its least position, the positions passed marked in place in a copy of the
permutation.

The inner `while` loop is given as many tests as there are positions; for a
permutation that is always enough (`followCycle_spec`), so the model returns
`some` on every input. The loop keeps `CycleInv`: `current` carries the value
the cycle started with, every other position is marked with its gathered value
or untouched, and the marked positions are whole cycles but for the one being
followed. A `std::vector` is a list, and a throw keeps the state it had.
-/

namespace Ombre.Tools

variable {σ α : Type}

/-- `std::swap(v[i0], v[i1])` on a vector; both indices are in range wherever
it is called. -/
def swapAt (v : List α) (i0 i1 : ℕ) : List α :=
  match v[i0]?, v[i1]? with
  | some a, some b => (v.set i0 b).set i1 a
  | _, _ => v

/-- The inner loop `while (i != permutation[current])` of cycle `i`, testing
its condition at most `fuel` times; `none` when the tests run out. Each turn
swaps `current` with the position it takes its value from, marks `current` in
place and moves on; the last position of the cycle is marked after the loop. -/
def followCycle (swap : σ → ℕ → ℕ → σ) (i : ℕ) : ℕ → List ℕ → ℕ → σ → Option (List ℕ × σ)
  | 0, _, _, _ => none
  | fuel + 1, permutation, current, s =>
    if i ≠ permutation.getD current 0 then
      let next := permutation.getD current 0
      followCycle swap i fuel (permutation.set current current) next (swap s current next)
    else some (permutation.set current current, s)

/-- `apply_permutation(permutation, swap)`: the sanity check that every index
below the size occurs in `permutation` (a copy, taken by value), then each
cycle followed in turn from its least position, each inner loop given as many
tests as there are positions. The state `s` is what `swap` acts on; a throw
keeps it as it was. -/
def applyPermutation (permutation : List ℕ) (swap : σ → ℕ → ℕ → σ) (s : σ) :
    Option (EStateM.Result String σ Unit) :=
  if (List.range permutation.length).all permutation.contains then
    ((List.range permutation.length).foldlM
        (fun (ps : List ℕ × σ) i => followCycle swap i permutation.length ps.1 i ps.2)
        (permutation, s)).map fun ps => .ok () ps.2
  else some (.error "Bad permutation" s)

/-- `apply_permutation(permutation, v)`: the sizes checked, then the swaps
made on `v` itself. -/
def applyPermutationVector (permutation : List ℕ) (v : List α) :
    Option (EStateM.Result String (List α) Unit) :=
  if permutation.length = v.length then applyPermutation permutation swapAt v
  else some (.error "Mismatched vector sizes" v)

theorem length_swapAt (v : List α) (i0 i1 : ℕ) : (swapAt v i0 i1).length = v.length := by
  unfold swapAt
  split <;> simp

theorem getElem?_swapAt {v : List α} {i0 i1 : ℕ} (h0 : i0 < v.length) (h1 : i1 < v.length) (k : ℕ) :
    (swapAt v i0 i1)[k]? = if k = i1 then v[i0]? else if k = i0 then v[i1]? else v[k]? := by
  unfold swapAt
  rw [List.getElem?_eq_getElem h0, List.getElem?_eq_getElem h1]
  dsimp only
  by_cases hk1 : k = i1
  · subst hk1
    rw [if_pos rfl, List.getElem?_set_self (by simpa using h1)]
  · rw [if_neg hk1, List.getElem?_set_ne (Ne.symm hk1)]
    by_cases hk0 : k = i0
    · subst hk0
      rw [if_pos rfl, List.getElem?_set_self h0]
    · rw [if_neg hk0, List.getElem?_set_ne (Ne.symm hk0)]

/-- Marking `c` in place changes what the permutation holds at `c` only. -/
theorem getD_set_self {q : List ℕ} {c : ℕ} (hc : c < q.length) (k : ℕ) :
    (q.set c c).getD k 0 = if k = c then c else q.getD k 0 := by
  rw [List.getD_eq_getElem?_getD, List.getD_eq_getElem?_getD]
  by_cases hk : k = c
  · subst hk
    rw [if_pos rfl, List.getElem?_set_self hc, Option.getD_some]
  · rw [if_neg hk, List.getElem?_set_ne (Ne.symm hk)]

theorem getD_set_of_ne {q : List ℕ} {c k : ℕ} (hc : c < q.length) (hk : k ≠ c) :
    (q.set c c).getD k 0 = q.getD k 0 := by
  rw [getD_set_self hc, if_neg hk]

theorem marked_set_self {q : List ℕ} {c : ℕ} (hc : c < q.length) : (q.set c c).getD c 0 = c := by
  rw [getD_set_self hc, if_pos rfl]

/-- A position marked in place stays marked. -/
theorem marked_set {q : List ℕ} {c k : ℕ} (hc : c < q.length) (h : q.getD k 0 = k) :
    (q.set c c).getD k 0 = k := by
  rw [getD_set_self hc]
  split
  · rename_i hk
    exact hk.symm
  · exact h

theorem set_self_of_getD {q : List ℕ} {c : ℕ} (hc : c < q.length) (h : q.getD c 0 = c) :
    q.set c c = q := by
  apply List.ext_getElem?
  intro k
  by_cases hk : c = k
  · subst hk
    rw [List.getElem?_set_self hc, List.getElem?_eq_getElem hc]
    rw [List.getD_eq_getElem?_getD, List.getElem?_eq_getElem hc, Option.getD_some] at h
    rw [h]
  · rw [List.getElem?_set_ne hk]

/-- The positions below `n` not yet marked in place. -/
def undone (n : ℕ) (q : List ℕ) : Finset ℕ :=
  (Finset.range n).filter fun k => q.getD k 0 ≠ k

/-- Marking an unmarked position takes one position off the count. -/
theorem card_undone_set {n : ℕ} {q : List ℕ} {c : ℕ} (hc : c < n) (hq : c < q.length)
    (hmoved : q.getD c 0 ≠ c) : (undone n (q.set c c)).card + 1 = (undone n q).card := by
  have hset : undone n (q.set c c) = (undone n q).erase c := by
    ext k
    simp only [undone, Finset.mem_filter, Finset.mem_range, Finset.mem_erase, getD_set_self hq]
    by_cases hk : k = c
    · simp [hk]
    · simp [hk]
  have hmem : c ∈ undone n q := by
    simp only [undone, Finset.mem_filter, Finset.mem_range]
    exact ⟨hc, hmoved⟩
  rw [hset, Finset.card_erase_add_one hmem]

/-- The sanity check passes exactly on the permutations of `0, ..., size - 1`:
a list of that length holding every index below it holds nothing else. -/
theorem all_contains_iff_perm (p : List ℕ) :
    (List.range p.length).all p.contains = true ↔ p.Perm (List.range p.length) := by
  rw [List.all_eq_true]
  constructor
  · intro h
    have hsub : List.range p.length ⊆ p := fun k hk => List.contains_iff_mem.mp (h k hk)
    exact ((List.nodup_range.subperm hsub).perm_of_length_le (by simp)).symm
  · intro h k hk
    exact List.contains_iff_mem.mpr (h.mem_iff.mpr hk)

/-- Position `k` is at rest: marked in place with its gathered value `v[p[k]]`,
or untouched, still holding `p[k]` and `v[k]`. A fixed point of `p` is both. -/
def Settled (p : List ℕ) (v w : List α) (q : List ℕ) (k : ℕ) : Prop :=
  q.getD k 0 = k ∧ w[k]? = v[p.getD k 0]? ∨ q.getD k 0 = p.getD k 0 ∧ w[k]? = v[k]?

/-- Between two cycles: every position at rest, and the marked positions closed
under `p` both ways, so that they make whole cycles. -/
structure OuterInv (p : List ℕ) (v w : List α) (q : List ℕ) : Prop where
  length_q : q.length = p.length
  length_w : w.length = p.length
  settled : ∀ k < p.length, Settled p v w q k
  closed : ∀ k < p.length, q.getD k 0 = k ↔ q.getD (p.getD k 0) 0 = p.getD k 0

/-- At a test of the inner loop of cycle `i` with `current = c`: every other
position at rest; `c` unmarked, carrying `v[i]`; the marked positions closed
under `p` but for the step into `c` forward and the step into `i` backward; and
`c` reached from a marked position unless it is `i`. -/
structure CycleInv (p : List ℕ) (v w : List α) (q : List ℕ) (i c : ℕ) : Prop where
  length_q : q.length = p.length
  length_w : w.length = p.length
  lt_c : c < p.length
  settled : ∀ k < p.length, k ≠ c → Settled p v w q k
  at_c : q.getD c 0 = p.getD c 0
  moved : p.getD c 0 ≠ c
  carried : w[c]? = v[i]?
  forward : ∀ k < p.length, q.getD k 0 = k → q.getD (p.getD k 0) 0 = p.getD k 0 ∨ p.getD k 0 = c
  backward : ∀ k < p.length, q.getD (p.getD k 0) 0 = p.getD k 0 → q.getD k 0 = k ∨ p.getD k 0 = i
  start : q.getD i 0 = i ∨ c = i
  reached : c = i ∨ ∃ x < p.length, q.getD x 0 = x ∧ p.getD x 0 = c

/-- An unmarked position starts a cycle: it is `current`, carrying its own value. -/
theorem OuterInv.cycleInv {p : List ℕ} {v w : List α} {q : List ℕ} (inv : OuterInv p v w q) {i : ℕ} (hi : i < p.length)
    (hunmarked : q.getD i 0 ≠ i) : CycleInv p v w q i i := by
  obtain ⟨hq, hw⟩ : q.getD i 0 = p.getD i 0 ∧ w[i]? = v[i]? := by
    rcases inv.settled i hi with ⟨h, -⟩ | h
    · exact absurd h hunmarked
    · exact h
  exact {
    length_q := inv.length_q
    length_w := inv.length_w
    lt_c := hi
    settled := fun k hk _ => inv.settled k hk
    at_c := hq
    moved := hq ▸ hunmarked
    carried := hw
    forward := fun k hk h => .inl ((inv.closed k hk).mp h)
    backward := fun k hk h => .inl ((inv.closed k hk).mpr h)
    start := .inr rfl
    reached := .inl rfl }

/-- Once every position is marked, each holds its gathered value. -/
theorem OuterInv.gather {p : List ℕ} {v w : List α} {q : List ℕ} (inv : OuterInv p v w q)
    (hdone : ∀ k < p.length, q.getD k 0 = k) : ∀ k : ℕ, w[k]? = p[k]?.bind fun j => v[j]? := by
  intro k
  by_cases hk : k < p.length
  · rw [List.getElem?_eq_getElem hk, Option.bind_some, ← List.getD_eq_getElem _ 0 hk]
    rcases inv.settled k hk with ⟨-, hw⟩ | ⟨hq, hw⟩
    · exact hw
    · rw [hw, ← hq, hdone k hk]
  · rw [List.getElem?_eq_none (by rw [inv.length_w]; omega), List.getElem?_eq_none (by omega),
      Option.bind_none]

/-- A list that is not a permutation fails the sanity check: nothing is swapped. -/
theorem applyPermutation_of_not_perm (swap : σ → ℕ → ℕ → σ) (p : List ℕ) (s : σ)
    (hp : ¬ p.Perm (List.range p.length)) : applyPermutation p swap s = some (.error "Bad permutation" s) := by
  rw [applyPermutation, if_neg fun h => hp ((all_contains_iff_perm p).mp h)]

section Permutation

variable {p : List ℕ} (hp : p.Perm (List.range p.length))
include hp

theorem getD_lt_of_perm {k : ℕ} (hk : k < p.length) : p.getD k 0 < p.length := by
  have hmem : p.getD k 0 ∈ p := by
    rw [List.getD_eq_getElem _ _ hk]
    exact List.getElem_mem hk
  exact List.mem_range.mp (hp.mem_iff.mp hmem)

theorem getD_inj_of_perm {a b : ℕ} (ha : a < p.length) (hb : b < p.length)
    (h : p.getD a 0 = p.getD b 0) : a = b := by
  have hnodup : p.Nodup := hp.nodup_iff.mpr List.nodup_range
  rw [List.getD_eq_getElem _ _ ha, List.getD_eq_getElem _ _ hb] at h
  exact (hnodup.getElem_inj_iff).mp h

variable {v w : List α} {q : List ℕ}

theorem OuterInv.init (hlen : v.length = p.length) : OuterInv p v v p where
  length_q := rfl
  length_w := hlen
  settled := fun _ _ => .inr ⟨rfl, rfl⟩
  closed := by
    intro k hk
    constructor
    · intro h
      rw [h, h]
    · exact getD_inj_of_perm hp (getD_lt_of_perm hp hk) hk

/-- One turn of the inner loop: `current` takes the value of the position it
reads from, which is untouched, marks itself, and hands `v[i]` on. -/
theorem CycleInv.step {i c : ℕ} (inv : CycleInv p v w q i c) (hne : p.getD c 0 ≠ i) :
    CycleInv p v (swapAt w c (p.getD c 0)) (q.set c c) i (p.getD c 0) := by
  have hqc : c < q.length := inv.length_q ▸ inv.lt_c
  have hnext : p.getD c 0 < p.length := getD_lt_of_perm hp inv.lt_c
  -- the position `current` reads from is not marked: its only preimage is `c`
  have hunmarked : q.getD (p.getD c 0) 0 ≠ p.getD c 0 := by
    intro h
    rcases inv.backward c inv.lt_c h with hc | hi
    · exact inv.moved (inv.at_c ▸ hc)
    · exact hne hi
  obtain ⟨hq_next, hw_next⟩ :
      q.getD (p.getD c 0) 0 = p.getD (p.getD c 0) 0 ∧ w[p.getD c 0]? = v[p.getD c 0]? := by
    rcases inv.settled _ hnext inv.moved with ⟨h, -⟩ | h
    · exact absurd h hunmarked
    · exact h
  have hw := getElem?_swapAt (inv.length_w ▸ inv.lt_c) (inv.length_w ▸ hnext)
  have hstart : (q.set c c).getD i 0 = i := by
    rcases inv.start with h | h
    · exact marked_set hqc h
    · rw [← h]
      exact marked_set_self hqc
  refine {
    length_q := by rw [List.length_set, inv.length_q]
    length_w := by rw [length_swapAt, inv.length_w]
    lt_c := hnext
    settled := ?_
    at_c := by rw [getD_set_of_ne hqc inv.moved, hq_next]
    moved := fun h => inv.moved (getD_inj_of_perm hp hnext inv.lt_c h)
    carried := by rw [hw, if_pos rfl, inv.carried]
    forward := ?_
    backward := ?_
    start := .inl hstart
    reached := .inr ⟨c, inv.lt_c, marked_set_self hqc, rfl⟩ }
  · intro k hk hk_next
    rw [Settled, hw, if_neg hk_next]
    by_cases hkc : k = c
    · subst hkc
      rw [if_pos rfl]
      exact .inl ⟨marked_set_self hqc, hw_next⟩
    · rw [if_neg hkc, getD_set_of_ne hqc hkc]
      exact inv.settled k hk hkc
  · intro k hk hmarked
    by_cases hkc : k = c
    · exact .inr (by rw [hkc])
    · rw [getD_set_of_ne hqc hkc] at hmarked
      rcases inv.forward k hk hmarked with h | h
      · exact .inl (marked_set hqc h)
      · exact .inl (by rw [h]; exact marked_set_self hqc)
  · intro k hk hmarked
    by_cases hpk : p.getD k 0 = c
    · -- the only marked position reading from `c` is the one before it
      rcases inv.reached with hci | ⟨x, hx, hmx, hpx⟩
      · exact .inr (hpk.trans hci)
      · have hxk : x = k := getD_inj_of_perm hp hx hk (hpx.trans hpk.symm)
        exact .inl (marked_set hqc (hxk ▸ hmx))
    · rw [getD_set_of_ne hqc hpk] at hmarked
      rcases inv.backward k hk hmarked with h | h
      · exact .inl (marked_set hqc h)
      · exact .inr h

/-- The loop ends at the position that reads from `i`: it takes `v[i]` and the
cycle is whole, so the marked positions are closed again and include `i`. -/
theorem CycleInv.finish {i c : ℕ} (inv : CycleInv p v w q i c) (heq : p.getD c 0 = i) :
    OuterInv p v w (q.set c c) ∧ (q.set c c).getD i 0 = i := by
  have hqc : c < q.length := inv.length_q ▸ inv.lt_c
  have hci : c ≠ i := fun h => inv.moved (heq.trans h.symm)
  have hstart : (q.set c c).getD i 0 = i := by
    rcases inv.start with h | h
    · exact marked_set hqc h
    · exact absurd h hci
  refine ⟨{
    length_q := by rw [List.length_set, inv.length_q]
    length_w := inv.length_w
    settled := ?_
    closed := ?_ }, hstart⟩
  · intro k hk
    by_cases hkc : k = c
    · subst hkc
      exact .inl ⟨marked_set_self hqc, by rw [inv.carried, heq]⟩
    · rw [Settled, getD_set_of_ne hqc hkc]
      exact inv.settled k hk hkc
  · intro k hk
    constructor
    · intro hmarked
      by_cases hkc : k = c
      · rw [hkc, heq]
        exact hstart
      · rw [getD_set_of_ne hqc hkc] at hmarked
        rcases inv.forward k hk hmarked with h | h
        · exact marked_set hqc h
        · rw [h]
          exact marked_set_self hqc
    · intro hmarked
      by_cases hpk : p.getD k 0 = c
      · rcases inv.reached with h | ⟨x, hx, hmx, hpx⟩
        · exact absurd h hci
        · have hxk : x = k := getD_inj_of_perm hp hx hk (hpx.trans hpk.symm)
          exact marked_set hqc (hxk ▸ hmx)
      · rw [getD_set_of_ne hqc hpk] at hmarked
        rcases inv.backward k hk hmarked with h | h
        · exact marked_set hqc h
        · have hkc : k = c := getD_inj_of_perm hp hk inv.lt_c (h.trans heq.symm)
          rw [hkc]
          exact marked_set_self hqc

section Loops

variable (swap : σ → ℕ → ℕ → σ) (view : σ → List α)
  (hview : ∀ t a b, a < p.length → b < p.length → view (swap t a b) = swapAt (view t) a b)
include hview

/-- The inner loop ends, with its fuel, once per unmarked position, enough:
each turn marks one position, and `current` is never marked. -/
theorem followCycle_spec (i : ℕ) : ∀ (fuel : ℕ) (q : List ℕ) (c : ℕ) (s : σ),
    CycleInv p v (view s) q i c → (undone p.length q).card ≤ fuel →
    ∃ q' s', followCycle swap i fuel q c s = some (q', s') ∧ OuterInv p v (view s') q' ∧
      q'.getD i 0 = i ∧ ∀ k, q.getD k 0 = k → q'.getD k 0 = k := by
  intro fuel
  induction fuel with
  | zero =>
    intro q c s inv hcard
    have hmem : c ∈ undone p.length q := by
      simp only [undone, Finset.mem_filter, Finset.mem_range]
      exact ⟨inv.lt_c, inv.at_c ▸ inv.moved⟩
    have := Finset.card_pos.mpr ⟨c, hmem⟩
    omega
  | succ fuel ih =>
    intro q c s inv hcard
    have hqc : c < q.length := inv.length_q ▸ inv.lt_c
    rw [followCycle, inv.at_c]
    by_cases heq : p.getD c 0 = i
    · rw [if_neg (not_not.mpr heq.symm)]
      obtain ⟨houter, hi⟩ := inv.finish hp heq
      exact ⟨_, _, rfl, houter, hi, fun k h => marked_set hqc h⟩
    · rw [if_pos (Ne.symm heq)]
      have hstep := inv.step hp heq
      rw [← hview _ _ _ inv.lt_c (getD_lt_of_perm hp inv.lt_c)] at hstep
      have hfewer := card_undone_set inv.lt_c hqc (inv.at_c ▸ inv.moved)
      obtain ⟨q', s', hrun, houter, hi, hmono⟩ := ih _ _ _ hstep (by omega)
      exact ⟨q', s', hrun, houter, hi, fun k h => hmono k (marked_set hqc h)⟩

/-- After the cycles of the first `m` positions, those positions are marked. -/
theorem foldlM_followCycle_spec (s : σ) (hlen : (view s).length = p.length) :
    ∀ m ≤ p.length, ∃ q s', (List.range m).foldlM
        (fun (ps : List ℕ × σ) i => followCycle swap i p.length ps.1 i ps.2) (p, s) = some (q, s') ∧
      OuterInv p (view s) (view s') q ∧ ∀ k < m, q.getD k 0 = k := by
  intro m
  induction m with
  | zero =>
    intro _
    exact ⟨p, s, rfl, OuterInv.init hp hlen, fun k hk => absurd hk (Nat.not_lt_zero k)⟩
  | succ m ih =>
    intro hm
    obtain ⟨q, s', hrun, inv, hdone⟩ := ih (by omega)
    have hqm : m < q.length := inv.length_q ▸ hm
    rw [List.range_succ, List.foldlM_append, hrun]
    simp only [List.foldlM_cons, List.foldlM_nil, Option.bind_eq_bind, Option.bind_some, Option.pure_def,
      Option.bind_fun_some]
    have hextend : ∀ q' : List ℕ, q'.getD m 0 = m → (∀ k, q.getD k 0 = k → q'.getD k 0 = k) →
        ∀ k < m + 1, q'.getD k 0 = k := by
      intro q' hm' hmono k hk
      rcases Nat.lt_succ_iff_lt_or_eq.mp hk with hk | rfl
      · exact hmono k (hdone k hk)
      · exact hm'
    by_cases hmarked : q.getD m 0 = m
    · -- a marked position starts no cycle: the loop test fails at once
      obtain ⟨fuel, hfuel⟩ : ∃ fuel, p.length = fuel + 1 := ⟨p.length - 1, by omega⟩
      rw [hfuel, followCycle, if_neg (not_not.mpr hmarked.symm), set_self_of_getD hqm hmarked]
      exact ⟨q, s', rfl, inv, hextend q hmarked fun _ h => h⟩
    · have hcard : (undone p.length q).card ≤ p.length :=
        calc (undone p.length q).card ≤ (Finset.range p.length).card := Finset.card_filter_le _ _
          _ = p.length := Finset.card_range _
      obtain ⟨q', s'', hcycle, inv', hm', hmono⟩ :=
        followCycle_spec hp swap view hview m p.length q m s' (inv.cycleInv hm hmarked) hcard
      exact ⟨q', s'', hcycle, inv', hextend q' hm' hmono⟩

/-- `apply_permutation` with a permutation ends, having gathered every vector
the swaps act on: position `k` holds what position `p[k]` held. -/
theorem applyPermutation_of_perm (s : σ) (hlen : (view s).length = p.length) :
    ∃ s', applyPermutation p swap s = some (.ok () s') ∧
      ∀ k : ℕ, (view s')[k]? = p[k]?.bind fun j => (view s)[j]? := by
  obtain ⟨q, s', hrun, inv, hdone⟩ := foldlM_followCycle_spec hp swap view hview s hlen p.length le_rfl
  refine ⟨s', ?_, inv.gather hdone⟩
  rw [applyPermutation, if_pos ((all_contains_iff_perm p).mpr hp), hrun]
  rfl

end Loops

end Permutation

theorem applyPermutationVector_of_perm {n : ℕ} {p : List ℕ} {v : List α} (hv : v.length = n)
    (hp : p.Perm (List.range n)) :
    ∃ v', applyPermutationVector p v = some (.ok () v') ∧ ∀ k : ℕ, v'[k]? = p[k]?.bind fun j => v[j]? := by
  have hlen : p.length = n := by simpa using hp.length_eq
  have hp' : p.Perm (List.range p.length) := hlen ▸ hp
  rw [applyPermutationVector, if_pos (hlen.trans hv.symm)]
  exact applyPermutation_of_perm hp' swapAt id (fun _ _ _ _ _ => rfl) v (hv.trans hlen.symm)

example : applyPermutationVector [3, 5, 6, 1, 2, 4, 0] [8, 4, 6, 1, 7, 2, 4] =
    some (.ok () [1, 2, 4, 4, 6, 7, 8]) := rfl

/-- With sizes that differ, or a list that is not a permutation, the vector
overload throws before any swap. -/
theorem applyPermutationVector_of_bad {p : List ℕ} {v : List α}
    (h : ¬ p.Perm (List.range p.length) ∨ p.length ≠ v.length) :
    applyPermutationVector p v =
      some (.error (if p.length = v.length then "Bad permutation" else "Mismatched vector sizes") v) := by
  rw [applyPermutationVector]
  by_cases hl : p.length = v.length
  · rw [if_pos hl, if_pos hl]
    exact applyPermutation_of_not_perm swapAt p v (h.resolve_right (not_not.mpr hl))
  · rw [if_neg hl, if_neg hl]

/-- `apply_permutation` gathers: given a permutation of the positions, it ends
and leaves `v[p[i]]` at each position `i`, of the vector it is given or of
every vector the swap callback swaps in step; given anything else it throws
before the first swap. -/
theorem applyPermutation_gathers {σ α : Type} :
    (∀ (n : ℕ) (p : List ℕ) (v : List α), v.length = n → p.Perm (List.range n) →
      ∃ v', applyPermutationVector p v = some (.ok () v') ∧
        ∀ i : ℕ, v'[i]? = p[i]?.bind fun j => v[j]?) ∧
    (∀ (swap : σ → ℕ → ℕ → σ) (view : σ → List α) (p : List ℕ) (s : σ),
      p.Perm (List.range p.length) → (view s).length = p.length →
      (∀ t a b, a < p.length → b < p.length → view (swap t a b) = swapAt (view t) a b) →
      ∃ s', applyPermutation p swap s = some (.ok () s') ∧
        ∀ i : ℕ, (view s')[i]? = p[i]?.bind fun j => (view s)[j]?) ∧
    (∀ (p : List ℕ) (v : List α), ¬ p.Perm (List.range p.length) ∨ p.length ≠ v.length →
      applyPermutationVector p v =
        some (.error (if p.length = v.length then "Bad permutation" else "Mismatched vector sizes") v)) ∧
    (∀ (swap : σ → ℕ → ℕ → σ) (p : List ℕ) (s : σ), ¬ p.Perm (List.range p.length) →
      applyPermutation p swap s = some (.error "Bad permutation" s)) := by
  refine ⟨?_, ?_, ?_, ?_⟩
  · intro n p v hv hp
    exact applyPermutationVector_of_perm hv hp
  · intro swap view p s hp hlen hview
    exact applyPermutation_of_perm hp swap view hview s hlen
  · intro p v h
    exact applyPermutationVector_of_bad h
  · intro swap p s hp
    exact applyPermutation_of_not_perm swap p s hp

theorem applyPermutation_gathers_reorder :
    ([3, 5, 6, 1, 2, 4, 0] : List ℕ).Perm (List.range 7) ∧
      (∃ v', applyPermutationVector [3, 5, 6, 1, 2, 4, 0] [8, 4, 6, 1, 7, 2, 4] = some (.ok () v') ∧
        ∀ i : ℕ, v'[i]? = ([3, 5, 6, 1, 2, 4, 0] : List ℕ)[i]?.bind
          fun j => ([8, 4, 6, 1, 7, 2, 4] : List ℕ)[j]?) ∧
    ¬ ([3, 5, 6, 1, 2, 4, 1] : List ℕ).Perm (List.range 7) ∧
      applyPermutationVector [3, 5, 6, 1, 2, 4, 1] [8, 4, 6, 1, 7, 2, 4] =
        some (.error "Bad permutation" [8, 4, 6, 1, 7, 2, 4]) := by
  have hp : ([3, 5, 6, 1, 2, 4, 0] : List ℕ).Perm (List.range 7) := by decide
  have hbad : ¬ ([3, 5, 6, 1, 2, 4, 1] : List ℕ).Perm (List.range 7) := by decide
  refine ⟨hp, (@applyPermutation_gathers (List ℕ) ℕ).1 7 _ _ rfl hp, hbad, ?_⟩
  exact (@applyPermutation_gathers (List ℕ) ℕ).2.2.1 _ [8, 4, 6, 1, 7, 2, 4] (.inl hbad)

end Ombre.Tools
