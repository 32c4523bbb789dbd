import Mathlib

/-!
# Multi-index containers with a unique key and an ordered key

A container with two indices over one set of elements: an ordered unique index
on one key (`unique`) and an ordered non-unique index on another (`key`), as a
multi-index container keeps them. We view it through the second index, as the
list of its elements sorted by `key`, no two with one `unique` key; the
structure `MultiIndex` carries both facts.

On the sorted list, `insert` puts an element after those of equal key
(`OrderedIndex.insertUpper`); `replace` keeps an element in place when it still
sorts between its neighbours and relinks it at the upper bound of its key
otherwise (`OrderedIndex.replaceAt`); erasing `begin()` while the container is
too large drops its front (`OrderedIndex.trimFront`). Each keeps the list
sorted. `insert` and `replace` fail, leaving the container as it was, where they
would give two elements one unique key.

An element inserted into a full container and trimmed again is lost exactly
when its key is below every key there (`mem_trimFront_insertUpper`,
`MultiIndex.mem_keys_upsert`).
-/

namespace OrderedIndex

variable {α β : Type*} [LinearOrder β] (key : α → β)

/-- The elements in the order of their keys. -/
def Sorted (l : List α) : Prop := l.Pairwise fun x y => key x ≤ key y

/-- `insert(a)` into an ordered non-unique index: at the upper bound of `a`'s
key, after every element whose key is not above it. -/
def insertUpper (a : α) : List α → List α
  | [] => [a]
  | b :: l => if key a < key b then a :: b :: l else b :: insertUpper a l

/-- Whether `replace` of the element at position `p` by `a` leaves it where it
is: the key before it is not above `a`'s and the key after it not below. -/
def inPlace (l : List α) (p : ℕ) (a : α) : Bool :=
  (p == 0 || l[p - 1]?.all fun y => !decide (key a < key y)) &&
    l[p + 1]?.all fun y => !decide (key y < key a)

/-- `replace(it, a)` for the element at position `p` of the index. -/
def replaceAt (l : List α) (p : ℕ) (a : α) : List α :=
  if inPlace key l p a then l.set p a else insertUpper key a (l.eraseIdx p)

/-- `while (size() > n) erase(begin());` -/
def trimFront (n : ℕ) (l : List α) : List α := l.drop (l.length - n)

variable {key} {a : α} {l : List α} {n p : ℕ}

section Insert

theorem perm_insertUpper : (insertUpper key a l).Perm (a :: l) := by
  induction l with
  | nil => rfl
  | cons b l ih =>
    simp only [insertUpper]
    split
    · rfl
    · exact (ih.cons b).trans (List.Perm.swap a b l)

@[simp] theorem mem_insertUpper {x : α} : x ∈ insertUpper key a l ↔ x = a ∨ x ∈ l := by
  rw [perm_insertUpper.mem_iff, List.mem_cons]

@[simp] theorem length_insertUpper : (insertUpper key a l).length = l.length + 1 :=
  perm_insertUpper.length_eq

theorem sorted_insertUpper (hs : Sorted key l) : Sorted key (insertUpper key a l) := by
  induction l with
  | nil => exact List.pairwise_singleton _ _
  | cons b l ih =>
    obtain ⟨hb, hl⟩ := List.pairwise_cons.mp hs
    simp only [insertUpper]
    split
    next hab =>
      refine List.pairwise_cons.mpr ⟨fun x hx => ?_, hs⟩
      rcases List.mem_cons.mp hx with rfl | hx
      · exact hab.le
      · exact hab.le.trans (hb x hx)
    next hab =>
      refine List.pairwise_cons.mpr ⟨fun x hx => ?_, ih hl⟩
      rcases mem_insertUpper.mp hx with rfl | hx
      · exact le_of_not_gt hab
      · exact hb x hx

/-- In a sorted list, a new element stays behind the front exactly when some
key there is not above its own. -/
theorem mem_tail_insertUpper (hs : Sorted key l) (ha : a ∉ l) :
    a ∈ (insertUpper key a l).tail ↔ ∃ b ∈ l, key b ≤ key a := by
  cases l with
  | nil => simp [insertUpper]
  | cons b l =>
    obtain ⟨hb, -⟩ := List.pairwise_cons.mp hs
    simp only [insertUpper]
    split
    next hab =>
      -- `a` went to the front: every key of `b :: l` is above `a`'s
      simp only [List.tail_cons, ha, false_iff, not_exists, not_and, not_le]
      intro c hc
      rcases List.mem_cons.mp hc with rfl | hc
      · exact hab
      · exact hab.trans_le (hb c hc)
    next hab =>
      simp only [List.tail_cons, mem_insertUpper, true_or, true_iff]
      exact ⟨b, List.mem_cons_self, le_of_not_gt hab⟩

end Insert

section Replace

theorem key_le_of_sorted (hs : Sorted key l) {i j : ℕ} (hij : i ≤ j) (hj : j < l.length) :
    key l[i] ≤ key l[j] := by
  rcases hij.lt_or_eq with hij | rfl
  · exact List.pairwise_iff_getElem.mp hs i j _ hj hij
  · exact le_rfl

theorem inPlace_prev (h : inPlace key l p a = true) (hp : 0 < p) (hl : p - 1 < l.length) :
    key l[p - 1] ≤ key a := by
  simp [inPlace, List.getElem?_eq_getElem hl, hp.ne'] at h
  exact h.1

theorem inPlace_next (h : inPlace key l p a = true) (hl : p + 1 < l.length) :
    key a ≤ key l[p + 1] := by
  simp [inPlace, List.getElem?_eq_getElem hl] at h
  exact h.2

/-- An element replaced in place still sorts between its neighbours. -/
theorem sorted_set_of_inPlace (hs : Sorted key l) (h : inPlace key l p a = true) :
    Sorted key (l.set p a) := by
  refine List.pairwise_iff_getElem.mpr fun i j hi hj hij => ?_
  rw [List.length_set] at hi hj
  rw [List.getElem_set, List.getElem_set]
  split_ifs with hip hjp hjp
  · omega
  · -- `a` at `p = i`, before `l[j]`
    subst hip
    calc key a ≤ key l[p + 1] := inPlace_next h (by omega)
      _ ≤ key l[j] := key_le_of_sorted hs (by omega) hj
  · -- `l[i]` before `a` at `p = j`
    subst hjp
    calc key l[i] ≤ key l[p - 1] := key_le_of_sorted hs (by omega) (by omega)
      _ ≤ key a := inPlace_prev h (by omega) (by omega)
  · exact List.pairwise_iff_getElem.mp hs i j hi hj hij

theorem sorted_replaceAt (hs : Sorted key l) : Sorted key (replaceAt key l p a) := by
  unfold replaceAt
  split
  next h => exact sorted_set_of_inPlace hs h
  next => exact sorted_insertUpper (hs.sublist (List.eraseIdx_sublist l p))

theorem perm_replaceAt (hp : p < l.length) : (replaceAt key l p a).Perm (l.set p a) := by
  unfold replaceAt
  split
  · rfl
  · exact perm_insertUpper.trans (List.set_perm_cons_eraseIdx hp a).symm

/-- `replace` takes out the element at `p`, if there is one, and puts in `a`,
if there was one to take out or `a` does not sort in place. -/
theorem subperm_replaceAt : (replaceAt key l p a).Subperm (a :: l.eraseIdx p) := by
  rcases Nat.lt_or_ge p l.length with hp | hp
  · exact ((perm_replaceAt hp).trans (List.set_perm_cons_eraseIdx hp a)).subperm
  · -- no element at `p`: `set` and `eraseIdx` leave `l` as it is
    rw [replaceAt, List.set_eq_of_length_le hp, List.eraseIdx_of_length_le hp]
    split
    · exact (List.sublist_cons_self a l).subperm
    · exact perm_insertUpper.subperm

end Replace

section Trim

theorem trimFront_sublist : (trimFront n l).Sublist l := List.drop_sublist _ _

theorem sorted_trimFront (hs : Sorted key l) : Sorted key (trimFront n l) := hs.drop

theorem length_trimFront : (trimFront n l).length = min n l.length := by
  rw [trimFront, List.length_drop]
  omega

theorem trimFront_of_length_le (h : l.length ≤ n) : trimFront n l = l := by
  rw [trimFront, Nat.sub_eq_zero_of_le h, List.drop_zero]

theorem trimFront_of_length_eq_succ (h : l.length = n + 1) : trimFront n l = l.tail := by
  rw [trimFront, h, Nat.add_sub_cancel_left, List.drop_one]

/-- An element inserted into a sorted list of at most `n` elements survives
the trim back to `n` exactly when there was room or some key was not above
its own. -/
theorem mem_trimFront_insertUpper (hs : Sorted key l) (hn : l.length ≤ n) (ha : a ∉ l) :
    a ∈ trimFront n (insertUpper key a l) ↔ l.length < n ∨ ∃ b ∈ l, key b ≤ key a := by
  rcases hn.lt_or_eq with hlt | heq
  · -- room left: nothing is trimmed
    rw [trimFront_of_length_le (by simp; omega)]
    simp [hlt]
  · -- full: the front goes
    rw [trimFront_of_length_eq_succ (by simp [heq]), mem_tail_insertUpper hs ha]
    simp [heq]

end Trim

end OrderedIndex

open OrderedIndex

/-- A multi-index container of `α`, unique on `unique` and ordered on `key`:
its elements in the order of `key`, no two with one `unique` key. -/
structure MultiIndex {α κ β : Type*} [LinearOrder β] (unique : α → κ) (key : α → β) where
  entries : List α
  sorted : Sorted key entries
  nodup : (entries.map unique).Nodup

namespace MultiIndex

variable {α κ β : Type*} [LinearOrder β] {unique : α → κ} {key : α → β}

/-- The empty container. -/
def empty : MultiIndex unique key := ⟨[], List.Pairwise.nil, List.nodup_nil⟩

section Positions

variable (c : MultiIndex unique key)

/-- The unique keys of the elements. -/
def keys : List κ := c.entries.map unique

/-- `erase(it)` at position `p`. -/
def eraseAt (p : ℕ) : MultiIndex unique key :=
  ⟨c.entries.eraseIdx p, c.sorted.sublist (List.eraseIdx_sublist _ _),
    c.nodup.sublist ((List.eraseIdx_sublist _ _).map unique)⟩

/-- `while (size() > n) get<by_key>().erase(get<by_key>().begin());` -/
def trim (n : ℕ) : MultiIndex unique key :=
  ⟨trimFront n c.entries, sorted_trimFront c.sorted, c.nodup.sublist (trimFront_sublist.map unique)⟩

variable {c} {k : κ} {y : α} {p n : ℕ}

@[simp] theorem entries_empty : (empty : MultiIndex unique key).entries = [] := rfl

@[simp] theorem entries_eraseAt : (c.eraseAt p).entries = c.entries.eraseIdx p := rfl

@[simp] theorem entries_trim : (c.trim n).entries = trimFront n c.entries := rfl

theorem mem_keys : k ∈ c.keys ↔ ∃ x ∈ c.entries, unique x = k := List.mem_map

/-- The element at `p` is the only one with its unique key. -/
theorem not_mem_keys_eraseIdx (hp : p < c.entries.length) :
    unique c.entries[p] ∉ (c.entries.eraseIdx p).map unique := by
  intro hmem
  obtain ⟨y, hy, hyk⟩ := List.mem_map.mp hmem
  obtain ⟨i, hi, hip, rfl⟩ := List.mem_eraseIdx_iff_getElem.mp hy
  have hi' : i < (c.entries.map unique).length := by simpa using hi
  have hp' : p < (c.entries.map unique).length := by simpa using hp
  have heq : (c.entries.map unique)[i] = (c.entries.map unique)[p] := by simpa using hyk
  exact hip (c.nodup.getElem_inj_iff.mp heq)

theorem mem_trim (hy : y ∈ (c.trim n).entries) : y ∈ c.entries := trimFront_sublist.subset hy

theorem length_trim_le : (c.trim n).entries.length ≤ n := by
  rw [entries_trim, length_trimFront]
  exact min_le_left _ _

end Positions

variable [DecidableEq κ] (c : MultiIndex unique key)

/-- `get<by_unique>().find(k)`: the position of the element of unique key `k`. -/
def find (k : κ) : Option ℕ := c.entries.findIdx? fun x => unique x == k

/-- `insert(x)`, which fails when an element has `x`'s unique key. -/
def insert (x : α) : MultiIndex unique key :=
  if h : unique x ∈ c.keys then c
  else
    ⟨insertUpper key x c.entries, sorted_insertUpper c.sorted,
      (perm_insertUpper.map unique).nodup_iff.mpr (List.nodup_cons.mpr ⟨h, c.nodup⟩)⟩

/-- `replace(it, x)` at position `p`, which fails when another element has
`x`'s unique key. -/
def replace (p : ℕ) (x : α) : MultiIndex unique key :=
  if h : unique x ∈ (c.entries.eraseIdx p).map unique then c
  else
    ⟨replaceAt key c.entries p x, sorted_replaceAt c.sorted, by
      have hsp : (replaceAt key c.entries p x).Subperm (x :: c.entries.eraseIdx p) := subperm_replaceAt
      obtain ⟨l, hperm, hsub⟩ := hsp
      have hrest := c.nodup.sublist ((List.eraseIdx_sublist c.entries p).map unique)
      exact (hperm.map unique).nodup_iff.mp ((List.nodup_cons.mpr ⟨h, hrest⟩).sublist (hsub.map unique))⟩

/-- `auto it = find(unique(x)); if (it == end()) { insert(x); trim(n); } else replace(it, x);` -/
def upsert (x : α) (n : ℕ) : MultiIndex unique key :=
  match c.find (unique x) with
  | none => (c.insert x).trim n
  | some it => c.replace it x

/-- `auto it = find(k); if (it != end()) erase(it);` -/
def eraseKey (k : κ) : MultiIndex unique key :=
  match c.find k with
  | none => c
  | some it => c.eraseAt it

variable {c} {k : κ} {x y : α} {p n : ℕ}

theorem find_eq_none : c.find k = none ↔ k ∉ c.keys := by
  simp [find, keys, List.findIdx?_eq_none_iff]

theorem find_eq_some (h : c.find k = some p) : ∃ hp : p < c.entries.length, unique c.entries[p] = k := by
  obtain ⟨hp, hk, -⟩ := List.findIdx?_eq_some_iff_getElem.mp h
  exact ⟨hp, by simpa using hk⟩

section Insert

theorem entries_insert (h : unique x ∉ c.keys) : (c.insert x).entries = insertUpper key x c.entries := by
  simp [insert, h]

theorem mem_insert (hy : y ∈ (c.insert x).entries) : y = x ∨ y ∈ c.entries := by
  unfold insert at hy
  split at hy
  · exact .inr hy
  · exact mem_insertUpper.mp hy

end Insert

section Replace

theorem mem_replace (hy : y ∈ (c.replace p x).entries) : y = x ∨ y ∈ c.entries := by
  unfold replace at hy
  split at hy
  · exact .inr hy
  · rcases List.mem_cons.mp (subperm_replaceAt.subset hy) with rfl | hy
    · exact .inl rfl
    · exact .inr ((List.eraseIdx_sublist _ _).subset hy)

/-- Replacing the element found by `x`'s unique key puts `x` in its place. -/
theorem replace_of_find (h : c.find (unique x) = some p) :
    (c.replace p x).entries.Perm (c.entries.set p x) := by
  obtain ⟨hp, hk⟩ := find_eq_some h
  have hfree : unique x ∉ (c.entries.eraseIdx p).map unique := hk ▸ not_mem_keys_eraseIdx hp
  simp only [replace, hfree, dite_false]
  exact perm_replaceAt hp

theorem mem_replace_self (h : c.find (unique x) = some p) : x ∈ (c.replace p x).entries :=
  (replace_of_find h).mem_iff.mpr (List.mem_set (find_eq_some h).1 x)

theorem length_replace (h : c.find (unique x) = some p) :
    (c.replace p x).entries.length = c.entries.length :=
  (replace_of_find h).length_eq.trans List.length_set

end Replace

section Erase

/-- Erasing by a unique key takes out exactly the elements of that key. -/
theorem mem_eraseKey : y ∈ (c.eraseKey k).entries ↔ y ∈ c.entries ∧ unique y ≠ k := by
  unfold eraseKey
  split
  next h =>
    have hk := find_eq_none.mp h
    exact ⟨fun hy => ⟨hy, fun hyk => hk (mem_keys.mpr ⟨y, hy, hyk⟩)⟩, And.left⟩
  next p h =>
    obtain ⟨hp, rfl⟩ := find_eq_some h
    refine ⟨fun hy => ⟨(List.eraseIdx_sublist _ _).subset hy, fun hyk => ?_⟩, fun ⟨hy, hyk⟩ => ?_⟩
    · exact not_mem_keys_eraseIdx hp (hyk ▸ List.mem_map_of_mem hy)
    · obtain ⟨i, hi, rfl⟩ := List.mem_iff_getElem.mp hy
      refine List.mem_eraseIdx_iff_getElem.mpr ⟨i, hi, fun hip => hyk ?_, rfl⟩
      subst hip
      rfl

theorem length_eraseKey_le : (c.eraseKey k).entries.length ≤ c.entries.length := by
  unfold eraseKey
  split
  · exact le_rfl
  · exact (List.eraseIdx_sublist _ _).length_le

end Erase

section Upsert

theorem mem_upsert (hy : y ∈ (c.upsert x n).entries) : y = x ∨ y ∈ c.entries := by
  unfold upsert at hy
  split at hy
  · exact mem_insert (mem_trim hy)
  · exact mem_replace hy

theorem length_upsert_le (hn : c.entries.length ≤ n) : (c.upsert x n).entries.length ≤ n := by
  unfold upsert
  split
  · exact length_trim_le
  next h => exact (length_replace h).trans_le hn

/-- After an upsert into a container of at most `n` elements, `x`'s unique key
is there unless it was new, the container was full and every key there was
above `x`'s: then the trim took `x` out again. -/
theorem mem_keys_upsert (hn : c.entries.length ≤ n) :
    unique x ∈ (c.upsert x n).keys ↔
      unique x ∈ c.keys ∨ c.entries.length < n ∨ ∃ y ∈ c.entries, key y ≤ key x := by
  unfold upsert
  split
  next h =>
    have hk := find_eq_none.mp h
    have hx : x ∉ c.entries := fun hx => hk (List.mem_map_of_mem hx)
    -- the other elements have other unique keys, so the key is there when `x` is
    have hiff : unique x ∈ ((c.insert x).trim n).keys ↔ x ∈ ((c.insert x).trim n).entries := by
      refine ⟨fun hmem => ?_, List.mem_map_of_mem⟩
      obtain ⟨y, hy, hyx⟩ := mem_keys.mp hmem
      rcases mem_insert (mem_trim hy) with rfl | hy'
      · exact hy
      · exact absurd (hyx ▸ List.mem_map_of_mem hy') hk
    rw [hiff, entries_trim, entries_insert hk, mem_trimFront_insertUpper c.sorted hn hx]
    simp [hk]
  next p h =>
    have hk : unique x ∈ c.keys := by
      obtain ⟨hp, hpk⟩ := find_eq_some h
      exact mem_keys.mpr ⟨_, List.getElem_mem hp, hpk⟩
    simp only [hk, true_or, iff_true]
    exact List.mem_map_of_mem (mem_replace_self h)

end Upsert

end MultiIndex
