import Mathlib

/-!
# Tokens of a text, and the best entry of a scored list

Two facts about lists that reading a text of words rests on.

`splitCompress sep s` cuts `s` at its separators and takes each run of
separators as one, as `boost::split` does with `token_compress_on`; a separator
at either end still leaves an empty token there. Joining nonempty tokens that
hold no separator and splitting the result gives the tokens back
(`splitCompress_intercalate`).

A stable sort leaves last the last of the entries that rank highest. For
`List.insertionSort r` the entry left last is `lastNotBelow r`: the first entry
with no later entry `r`-above it (`getLast?_insertionSort`). An entry that is
`r`-above every entry before it therefore leaves the choice to itself or to an
entry after it (`lastNotBelow_append_cons`).
-/

namespace Tokens

variable {α : Type*}

section Join

/-- Tokens each followed by a separator, then tokens joined by it, are all the
tokens joined. -/
theorem flatMap_append_intercalate (sep : α) (c : List α) (cs : List (List α)) :
    ∀ ls : List (List α), ls.flatMap (· ++ [sep]) ++ [sep].intercalate (c :: cs) =
      [sep].intercalate (ls ++ c :: cs)
  | [] => rfl
  | l :: ls => by
    rw [List.flatMap_cons, List.append_assoc, flatMap_append_intercalate sep c cs ls,
      List.cons_append, List.intercalate_cons_of_ne_nil (by simp), List.append_assoc]

/-- Tokens each followed by a separator, with the last separator replaced by a
separator and one more token, are the tokens and that one joined. -/
theorem dropLast_flatMap_append (sep : α) (c : List α) {ls : List (List α)} (hls : ls ≠ []) :
    (ls.flatMap (· ++ [sep])).dropLast ++ sep :: c = [sep].intercalate (ls ++ [c]) := by
  obtain ⟨init, l, rfl⟩ := (List.eq_nil_or_concat ls).resolve_left hls
  rw [List.concat_eq_append]
  have hdrop : ((init ++ [l]).flatMap (· ++ [sep])).dropLast = init.flatMap (· ++ [sep]) ++ l := by
    rw [List.flatMap_append, List.flatMap_singleton, ← List.append_assoc, List.dropLast_concat]
  rw [hdrop, List.append_assoc, List.append_assoc, List.singleton_append]
  have hjoin := flatMap_append_intercalate sep l [c] init
  rw [List.intercalate_cons_cons, List.intercalate_singleton, List.append_assoc,
    List.singleton_append] at hjoin
  rw [hjoin]

end Join

section Split

variable [DecidableEq α]

/-- The tokens of `s` between separators, each run of separators taken as one;
the first and the last token are kept even when empty. -/
def splitCompress (sep : α) (s : List α) : List (List α) :=
  match s.splitOn sep with
  | [] => []
  | t :: ts => t :: (ts.dropLast.filter (fun l => !l.isEmpty) ++ ts.getLast?.toList)

/-- Splitting nonempty tokens joined by a separator none of them holds gives the
tokens back. -/
theorem splitCompress_intercalate {sep : α} {ls : List (List α)} (hsep : ∀ l ∈ ls, sep ∉ l)
    (hne : ∀ l ∈ ls, l ≠ []) (hls : ls ≠ []) : splitCompress sep ([sep].intercalate ls) = ls := by
  obtain ⟨t, ts, rfl⟩ := List.exists_cons_of_ne_nil hls
  -- no token is empty, so the compression drops nothing
  have hfilter : ts.dropLast.filter (fun l => !l.isEmpty) = ts.dropLast := by
    rw [List.filter_eq_self]
    intro l hl
    have hl' : l ≠ [] := hne l (List.mem_cons_of_mem t (List.dropLast_subset ts hl))
    simpa [List.isEmpty_iff] using hl'
  have hts : ts.dropLast ++ ts.getLast?.toList = ts := by
    rcases List.eq_nil_or_concat ts with rfl | ⟨L, b, rfl⟩
    · rfl
    · simp
  rw [splitCompress, List.splitOn_intercalate sep hsep hls]
  dsimp only
  rw [hfilter, hts]

end Split

section StableSort

variable (r : α → α → Prop) [DecidableRel r]

/-- The entry a stable sort by `r` leaves last: the first entry with no later
entry `r`-above it. -/
def lastNotBelow : List α → Option α
  | [] => none
  | a :: l => if l.any (fun b => decide (r a b)) then lastNotBelow l else some a

/-- Inserting `a` leaves the last entry in place when some entry is `r`-above
`a`, and puts `a` last otherwise. -/
theorem getLast?_orderedInsert (a : α) :
    ∀ S : List α, (S.orderedInsert r a).getLast? =
      if S.any (fun b => decide (r a b)) then S.getLast? else some a
  | [] => rfl
  | b :: t => by
    by_cases hab : r a b
    · simp [List.orderedInsert_cons_of_le r t hab, hab]
    · rw [List.orderedInsert_of_not_le r t hab]
      have ih := getLast?_orderedInsert a t
      cases t with
      | nil => simp [hab]
      | cons c t =>
        have hlen : 0 < ((c :: t).orderedInsert r a).length := by
          rw [List.orderedInsert_length]
          exact Nat.succ_pos _
        obtain ⟨d, X, hX⟩ := List.exists_cons_of_ne_nil (List.ne_nil_of_length_pos hlen)
        rw [hX, List.getLast?_cons_cons, ← hX, ih]
        simp [hab]

/-- The back of an insertion sort is `lastNotBelow`. -/
theorem getLast?_insertionSort : ∀ l : List α, (l.insertionSort r).getLast? = lastNotBelow r l
  | [] => rfl
  | a :: l => by
    have hany : (l.insertionSort r).any (fun b => decide (r a b)) =
        l.any (fun b => decide (r a b)) := by
      apply Bool.eq_iff_iff.mpr
      simp only [List.any_eq_true, List.mem_insertionSort]
    rw [List.insertionSort_cons, getLast?_orderedInsert, hany, lastNotBelow,
      getLast?_insertionSort l]

variable {r}

theorem lastNotBelow_mem {x : α} : ∀ {l : List α}, lastNotBelow r l = some x → x ∈ l
  | [], h => by simp [lastNotBelow] at h
  | a :: l, h => by
    rw [lastNotBelow] at h
    split at h
    · exact List.mem_cons_of_mem a (lastNotBelow_mem h)
    · cases h
      exact List.mem_cons_self

theorem lastNotBelow_isSome : ∀ {l : List α}, l ≠ [] → ∃ x, lastNotBelow r l = some x
  | [], h => absurd rfl h
  | a :: l, _ => by
    rw [lastNotBelow]
    split
    case isTrue hany =>
      have hl : l ≠ [] := by
        rintro rfl
        simp at hany
      exact lastNotBelow_isSome hl
    case isFalse => exact ⟨a, rfl⟩

/-- When `y` is `r`-above every entry before it, the entry chosen is `y` or one
after it. -/
theorem lastNotBelow_append_cons {y : α} {l₂ : List α} :
    ∀ {l₁ : List α}, (∀ z ∈ l₁, r z y) →
      ∃ x ∈ y :: l₂, lastNotBelow r (l₁ ++ y :: l₂) = some x
  | [], _ => by
    obtain ⟨x, hx⟩ := lastNotBelow_isSome (r := r) (List.cons_ne_nil y l₂)
    exact ⟨x, lastNotBelow_mem hx, hx⟩
  | a :: l₁, h => by
    -- `a` is below `y`, which comes after it, so the choice is made in the rest
    have hany : (l₁ ++ y :: l₂).any (fun b => decide (r a b)) = true :=
      List.any_eq_true.mpr ⟨y, by simp, by simpa using h a List.mem_cons_self⟩
    obtain ⟨x, hx, hlast⟩ := lastNotBelow_append_cons
      (fun z (hz : z ∈ l₁) => h z (List.mem_cons_of_mem a hz))
    refine ⟨x, hx, ?_⟩
    rw [List.cons_append, lastNotBelow, if_pos hany, hlast]

/-- When `y` is `r`-above every entry before it and no entry after it is
`r`-above `y`, the entry chosen is `y`. -/
theorem lastNotBelow_append_cons_eq {y : α} {l₂ : List α} (h₂ : ∀ b ∈ l₂, ¬r y b) :
    ∀ {l₁ : List α}, (∀ z ∈ l₁, r z y) → lastNotBelow r (l₁ ++ y :: l₂) = some y
  | [], _ => by
    rw [List.nil_append, lastNotBelow, if_neg]
    simpa using h₂
  | a :: l₁, h => by
    have hany : (l₁ ++ y :: l₂).any (fun b => decide (r a b)) = true :=
      List.any_eq_true.mpr ⟨y, by simp, by simpa using h a List.mem_cons_self⟩
    rw [List.cons_append, lastNotBelow, if_pos hany,
      lastNotBelow_append_cons_eq h₂ (fun z hz => h z (List.mem_cons_of_mem a hz))]

end StableSort

end Tokens
