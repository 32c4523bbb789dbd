import Mathlib

/-!
# Tables kept as lists

Two readings of a table stored as a list of rows.

A table of keys that appends each new key and erases a key by its first
occurrence is a multiset: appending adds a key, and erasing a list of keys one
after the other (`List.diff`) subtracts them, so erasing what was appended gives
back the table up to order.

A table whose rows carry the dense ids `0, 1, ...` is `(List.range n).zip l`:
the last row is the one with id `n - 1`, and erasing it leaves the rows of the
shorter table.

A table of pairs updated by dropping every row of a key and appending the
key's new row is looked up by its first row of that key: the new row for the
key updated, the old first row for every other key.

Searching a list for the first entry that passes a test which holds below
every point where it holds stops at or above the first entry below any such
point (`List.find?_of_downwardClosed`).
-/

namespace List

variable {α : Type*}

/-- Erasing, in any order, the keys that were appended leaves the table as it
was, up to order. -/
theorem perm_diff_of_perm_append [DecidableEq α] {s l t t' : List α} (hs : s.Perm (l ++ t)) (ht : t'.Perm t) :
    (s.diff t').Perm l := by
  rw [← Multiset.coe_eq_coe, ← Multiset.coe_sub, Multiset.coe_eq_coe.mpr hs,
    Multiset.coe_eq_coe.mpr ht, ← Multiset.coe_add, Multiset.add_sub_cancel_right]

/-- Appending keys none of which is in the table, and which are pairwise
distinct, keeps a table without repetitions. -/
theorem nodup_append_of_fresh {s t : List α} (hs : s.Nodup) (ht : t.Nodup)
    (hfresh : ∀ k ∈ t, k ∉ s) : (s ++ t).Nodup :=
  List.nodup_append.mpr ⟨hs, ht, fun _ ha b hb hab => hfresh b hb (hab ▸ ha)⟩

/-- Finding a row by a test that only the last row passes. -/
theorem find?_concat_of_forall {l : List α} {x : α} {p : α → Bool} (hl : ∀ y ∈ l, p y = false)
    (hx : p x = true) : (l ++ [x]).find? p = some x := by
  rw [List.find?_append, List.find?_eq_none.mpr (fun y hy => by simp [hl y hy])]
  simp [hx]

theorem erase_concat_of_not_mem [BEq α] [LawfulBEq α] {l : List α} {x : α} (h : x ∉ l) :
    (l ++ [x]).erase x = l := by
  rw [List.erase_append_right _ h]
  simp

theorem fst_lt_of_mem_zip_range {n : ℕ} {l : List α} {e : ℕ × α}
    (h : e ∈ (List.range n).zip l) : e.1 < n :=
  List.mem_range.mp (List.of_mem_zip h).1

theorem zip_range_concat (l : List α) (x : α) :
    (List.range (l ++ [x]).length).zip (l ++ [x]) = (List.range l.length).zip l ++ [(l.length, x)] := by
  rw [List.length_append, List.length_singleton, List.range_succ, List.zip_append (by simp)]
  simp

/-- The row with the last id of a table with dense ids is its last row. -/
theorem find?_zip_range_concat (l : List α) (x : α) :
    ((List.range l.length).zip l ++ [(l.length, x)]).find? (fun e => e.1 = l.length) =
      some (l.length, x) :=
  find?_concat_of_forall (fun e he => by simpa using (fst_lt_of_mem_zip_range he).ne) (by simp)

theorem erase_zip_range_concat [BEq α] [LawfulBEq α] (l : List α) (x : α) :
    ((List.range l.length).zip l ++ [(l.length, x)]).erase (l.length, x) =
      (List.range l.length).zip l := by
  apply erase_concat_of_not_mem
  intro h
  exact (fst_lt_of_mem_zip_range h).ne rfl

/-! ## Tables of pairs updated by key -/

section ByKey

variable {β : Type*} [DecidableEq α]

theorem find?_filter_key_self (l : List (α × β)) (k : α) :
    (l.filter fun e => e.1 ≠ k).find? (fun e => e.1 = k) = none := by
  rw [List.find?_eq_none]
  intro x hx
  have hne : x.1 ≠ k := by simpa using (List.mem_filter.mp hx).2
  simpa using hne

theorem find?_filter_key_of_ne (l : List (α × β)) {k k' : α} (h : k' ≠ k) :
    (l.filter fun e => e.1 ≠ k).find? (fun e => e.1 = k') = l.find? (fun e => e.1 = k') := by
  rw [List.find?_filter]
  congr 1
  funext e
  by_cases he : e.1 = k'
  · simp [he, h]
  · simp [he]

end ByKey

/-! ## Searching for the first entry that passes a test -/

section Search

/-- Looking each entry up, where a lookup succeeds on the entries that pass a
test and then gives the entry back, finds the first entry that passes it. -/
theorem findSome?_eq_find? {f : α → Option α} {p : α → Bool} :
    ∀ {l : List α}, (∀ a ∈ l, f a = Option.guard p a) → l.findSome? f = l.find? p
  | [], _ => rfl
  | a :: l, h => by
    rw [← List.findSome?_guard, List.findSome?_cons, List.findSome?_cons, h a List.mem_cons_self,
      List.findSome?_guard, findSome?_eq_find? fun b hb => h b (List.mem_cons_of_mem a hb)]

variable [LinearOrder α]

/-- A test that holds below every point where it holds passes first either an
entry above the point `x` where it holds, or the first entry at or below `x`. -/
theorem find?_of_downwardClosed {p : α → Bool} (hp : ∀ a b, p a = true → b ≤ a → p b = true)
    {x y : α} (hx : p x = true) :
    ∀ {l : List α}, l.find? (fun a => decide (a ≤ x)) = some y →
      ∃ s, l.find? p = some s ∧ (x < s ∨ s = y)
  | [], h => by simp at h
  | a :: l, h => by
    by_cases hpa : p a = true
    · refine ⟨a, List.find?_cons_of_pos hpa, ?_⟩
      by_cases hax : a ≤ x
      · rw [List.find?_cons_of_pos (by simpa using hax), Option.some_inj] at h
        exact Or.inr h
      · exact Or.inl (lt_of_not_ge hax)
    · -- the test fails at `a`, so `a` is above `x` and the search goes on past it
      have hax : ¬ a ≤ x := fun hax => hpa (hp x a hx hax)
      rw [List.find?_cons_of_neg (by simpa using hax)] at h
      obtain ⟨s, hs, hsy⟩ := find?_of_downwardClosed hp hx h
      exact ⟨s, by rw [List.find?_cons_of_neg hpa, hs], hsy⟩

end Search

/-! ## Erasing one value -/

/-- `t` is `s` with some occurrences of `a` erased: a sublist of `s` that
keeps every other value of `s`. -/
def ErasesOnly (a : α) (s t : List α) : Prop := t.Sublist s ∧ ∀ x ∈ s, x ≠ a → x ∈ t

theorem ErasesOnly.refl (a : α) (s : List α) : ErasesOnly a s s := ⟨List.Sublist.refl s, fun _ hx _ => hx⟩

theorem ErasesOnly.trans {a : α} {s t u : List α} (h₁ : ErasesOnly a s t) (h₂ : ErasesOnly a t u) :
    ErasesOnly a s u :=
  ⟨h₂.1.trans h₁.1, fun x hx hne => h₂.2 x (h₁.2 x hx hne) hne⟩

theorem ErasesOnly.erase [DecidableEq α] (a : α) (s : List α) : ErasesOnly a s (s.erase a) :=
  ⟨List.erase_sublist, fun _ hx hne => (List.mem_erase_of_ne hne).mpr hx⟩

theorem ErasesOnly.nodup {a : α} {s t : List α} (h : ErasesOnly a s t) (hs : s.Nodup) : t.Nodup :=
  hs.sublist h.1

end List
