import Mathlib

/-!
# Vote windows and their tallies

A vote window keeps the most recent votes, at most `w` of them, beside a tally:
how many votes of the window go to each choice. A vote is pushed by dropping
the oldest votes until there is room, taking each one off the tally, then
appending the new vote and adding it to the tally.

The window kept this way is the last `w` votes cast (`List.rtake`;
`drop_append_singleton_eq_rtake`, `rtake_append_rtake`), and a tally
kept by increments and decrements is the count of each choice in the window
(`Tally.foldl_incr`, `Tally.foldl_decr`). So a window rebuilt from the last
`w` votes agrees with one kept vote by vote.
-/

namespace Tally

variable {α : Type*} [DecidableEq α]

/-- `t[a]++` -/
def incr (t : α → ℕ) (a : α) : α → ℕ := Function.update t a (t a + 1)

/-- `t[a]--` -/
def decr (t : α → ℕ) (a : α) : α → ℕ := Function.update t a (t a - 1)

theorem incr_apply (t : α → ℕ) (a b : α) : incr t a b = t b + if a = b then 1 else 0 := by
  by_cases h : a = b
  · subst h
    simp [incr]
  · simp [incr, Function.update_of_ne (Ne.symm h), h]

theorem decr_apply (t : α → ℕ) (a b : α) : decr t a b = t b - if a = b then 1 else 0 := by
  by_cases h : a = b
  · subst h
    simp [decr]
  · simp [decr, Function.update_of_ne (Ne.symm h), h]

/-- Incrementing for each vote of `l` adds the count of each choice in `l`. -/
theorem foldl_incr (l : List α) : ∀ t : α → ℕ, l.foldl incr t = fun a => t a + l.count a := by
  induction l with
  | nil => intro t; rfl
  | cons x l ih =>
    intro t
    funext a
    rw [List.foldl_cons, ih]
    simp only [incr_apply, List.count_cons, beq_iff_eq]
    omega

/-- Decrementing for each vote of `l` takes away the count of each choice in
`l`, from a tally that holds at least as many. -/
theorem foldl_decr (l : List α) :
    ∀ t : α → ℕ, (∀ a, l.count a ≤ t a) → l.foldl decr t = fun a => t a - l.count a := by
  induction l with
  | nil => intro t _; rfl
  | cons x l ih =>
    intro t ht
    -- the first decrement leaves at least the count of the rest
    have ht' : ∀ a, l.count a ≤ decr t x a := by
      intro a
      have := ht a
      simp only [decr_apply, List.count_cons, beq_iff_eq] at this ⊢
      omega
    funext a
    rw [List.foldl_cons, ih _ ht']
    simp only [decr_apply, List.count_cons, beq_iff_eq]
    omega

/-- The tally of the empty window counts nothing. -/
theorem foldl_incr_zero (l : List α) : l.foldl incr (fun _ => 0) = fun a => l.count a := by
  rw [foldl_incr]
  simp

end Tally

namespace List

variable {α : Type*} {l : List α} {x : α} {w : ℕ}

theorem length_rtake (l : List α) (n : ℕ) : (l.rtake n).length = min n l.length := by
  rw [rtake, length_drop]
  omega

theorem rtake_of_length_le (h : l.length ≤ w) : l.rtake w = l := by
  rw [rtake, Nat.sub_eq_zero_of_le h, drop_zero]

/-- Dropping the oldest until there is room, then pushing, keeps the last `w`. -/
theorem drop_append_singleton_eq_rtake (hw : 0 < w) :
    l.drop (l.length + 1 - w) ++ [x] = (l ++ [x]).rtake w := by
  rw [rtake, length_append, length_singleton, drop_append_of_le_length (by omega)]

/-- Votes cast after the last `w` of a window leave the same last `w` as
after the whole window. -/
theorem rtake_append_rtake (l m : List α) (w : ℕ) : (l.rtake w ++ m).rtake w = (l ++ m).rtake w := by
  simp only [rtake_eq_reverse_take_reverse, reverse_append, reverse_reverse]
  rw [take_append, take_append, take_take, Nat.min_eq_left (Nat.sub_le _ _)]

end List
