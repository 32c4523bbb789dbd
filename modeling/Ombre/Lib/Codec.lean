import Mathlib

/-!
# Readers of a byte stream and their round trips

A reader takes the bytes left in a stream and gives back the value it read and
the bytes after it, or `none` when it runs past the end or refuses what it
read. It is the state monad over the remaining bytes, with `Option` for failure.

A writer is a function to byte strings. `Reads r x bs` says that `r` reads `x`
back from the bytes `bs`, whatever follows them; round trips of a format are
assembled from it: a sequence of reads reads the concatenation of what each
part read (`Reads.bind`), and `n` reads of one reader read `n` encodings one
after the other (`Reads.readMany`).
-/

namespace Codec

/-- A reader of a byte stream. -/
abbrev Reader (α : Type) := StateT (List UInt8) Option α

variable {α β : Type}

/-- `r` reads `x` from the bytes `bs`, whatever follows them. -/
def Reads (r : Reader α) (x : α) (bs : List UInt8) : Prop :=
  ∀ rest, r.run (bs ++ rest) = some (x, rest)

/-- `n` bytes, or `none` when fewer are left. -/
def readBytes (n : ℕ) : Reader (List UInt8) := fun s =>
  if n ≤ s.length then some (s.take n, s.drop n) else none

/-- The number of bytes left. -/
def remaining : Reader ℕ := fun s => some (s.length, s)

/-- `n` values read one after the other. -/
def readMany (r : Reader α) : ℕ → Reader (List α)
  | 0 => pure []
  | n + 1 => do
    let x ← r
    let xs ← readMany r n
    pure (x :: xs)

/-- Refuse the stream unless `p` holds. -/
def require (p : Prop) [Decidable p] : Reader Unit := if p then pure () else failure

/-- The value of `r` on a whole stream, when it reads it to its end. -/
def readAll (r : Reader α) (bs : List UInt8) : Option α :=
  match r.run bs with
  | some (x, []) => some x
  | _ => none

@[simp] theorem run_remaining (s : List UInt8) : remaining.run s = some (s.length, s) := rfl

theorem run_require {p : Prop} [Decidable p] (hp : p) (s : List UInt8) :
    (require p).run s = some ((), s) := by
  simp [require, hp]

/-- A reader that branches runs the branch its condition picks; a chain of
branches is taken apart one at a time with it. -/
theorem run_ite_eq {p : Prop} [Decidable p] {r r' : Reader α} {s : List UInt8}
    {o : Option (α × List UInt8)} (h : (if p then r else r').run s = o) :
    p ∧ r.run s = o ∨ ¬p ∧ r'.run s = o := by
  by_cases hp : p
  · exact .inl ⟨hp, by rwa [if_pos hp] at h⟩
  · exact .inr ⟨hp, by rwa [if_neg hp] at h⟩

section Reads

variable {r : Reader α} {x : α} {bs cs : List UInt8}

theorem reads_pure (x : α) : Reads (pure x) x [] := fun _ => rfl

theorem Reads.bind {f : α → Reader β} {y : β} (h : Reads r x bs) (hf : Reads (f x) y cs) :
    Reads (r >>= f) y (bs ++ cs) := by
  intro rest
  rw [List.append_assoc, StateT.run_bind, h]
  exact hf rest

theorem Reads.bind_pure {g : α → β} (h : Reads r x bs) : Reads (r >>= fun a => pure (g a)) (g x) bs := by
  intro rest
  rw [StateT.run_bind, h]
  rfl

/-- A read of no bytes (a check) followed by another read. -/
theorem Reads.bind_nil {f : α → Reader β} {y : β} (h : Reads r x []) (hf : Reads (f x) y cs) :
    Reads (r >>= f) y cs := by
  have := h.bind hf
  rwa [List.nil_append] at this

/-- A read followed by reads of no bytes (checks, a result). -/
theorem Reads.bind_of_nil {f : α → Reader β} {y : β} (h : Reads r x bs) (hf : Reads (f x) y []) :
    Reads (r >>= f) y bs := by
  have := h.bind hf
  rwa [List.append_nil] at this

theorem Reads.map (f : α → β) (h : Reads r x bs) : Reads (f <$> r) (f x) bs := by
  intro rest
  rw [StateT.run_map, h]
  rfl

theorem reads_readBytes (bs : List UInt8) : Reads (readBytes bs.length) bs bs := by
  intro rest
  simp [readBytes, StateT.run]

theorem reads_require {p : Prop} [Decidable p] (hp : p) : Reads (require p) () [] := by
  intro rest
  simp [require, hp, StateT.run_pure]

/-- Reading `xs.length` values, each read back from its encoding, reads the
encodings laid end to end. -/
theorem Reads.readMany {w : α → List UInt8} :
    ∀ xs : List α, (∀ x ∈ xs, Reads r x (w x)) → Reads (readMany r xs.length) xs (xs.map w).flatten
  | [], _ => reads_pure []
  | x :: xs, h => by
    have hx := h x List.mem_cons_self
    have hxs := Reads.readMany xs fun y hy => h y (List.mem_cons_of_mem x hy)
    rw [List.length_cons, List.map_cons, List.flatten_cons, ← List.append_nil (_ ++ _),
      List.append_assoc]
    exact hx.bind (hxs.bind (reads_pure _))

theorem Reads.readMany_of_length_eq {w : α → List UInt8} {xs : List α} {n : ℕ}
    (hn : xs.length = n) (h : ∀ x ∈ xs, Reads r x (w x)) :
    Reads (Codec.readMany r n) xs (xs.map w).flatten :=
  hn ▸ Reads.readMany xs h

/-- Readers chosen by a list, each reading back its own value, read the values
one after the other. -/
theorem Reads.mapM {ι : Type} {f : ι → Reader α} {w : α → List UInt8} :
    ∀ (is : List ι) (xs : List α), is.length = xs.length →
      (∀ p ∈ is.zip xs, Reads (f p.1) p.2 (w p.2)) → Reads (is.mapM f) xs (xs.map w).flatten
  | [], [], _, _ => by
    rw [List.mapM_nil]
    exact reads_pure []
  | [], _ :: _, hlen, _ => absurd hlen (by simp)
  | _ :: _, [], hlen, _ => absurd hlen (by simp)
  | i :: is, x :: xs, hlen, h => by
    have hx : Reads (f i) x (w x) := h (i, x) List.mem_cons_self
    have hxs := Reads.mapM is xs (Nat.succ.inj hlen) fun p hp => h p (List.mem_cons_of_mem _ hp)
    rw [List.mapM_cons, List.map_cons, List.flatten_cons]
    exact hx.bind hxs.bind_pure

/-- Writers that may fail, run over a list by `mapM`: as many reads read back
what they wrote, when each read does and the bytes are fewer than a bound the
reads need. -/
theorem Reads.readMany_of_mapM {w : α → Option (List UInt8)} {N : ℕ}
    (hr : ∀ x bs, w x = some bs → bs.length < N → Reads r x bs) :
    ∀ (xs : List α) (bss : List (List UInt8)), xs.mapM w = some bss → bss.flatten.length < N →
      Reads (Codec.readMany r xs.length) xs bss.flatten
  | [], bss, h, _ => by
    rw [List.mapM_nil, Option.pure_def, Option.some.injEq] at h
    subst h
    exact reads_pure []
  | x :: xs, bss, h, hlen => by
    simp only [List.mapM_cons, Option.bind_eq_bind, Option.bind_eq_some_iff, Option.pure_def,
      Option.some.injEq] at h
    obtain ⟨bs, hx, bss', hxs, rfl⟩ := h
    rw [List.flatten_cons, List.length_append] at hlen
    have hx' := hr x bs hx (by omega)
    have hxs' := Reads.readMany_of_mapM hr xs bss' hxs (by omega)
    rw [List.flatten_cons, List.length_cons, ← List.append_nil (_ ++ _), List.append_assoc]
    exact hx'.bind (hxs'.bind (reads_pure _))

theorem readAll_of_reads (h : Reads r x bs) : readAll r bs = some x := by
  have := h []
  rw [List.append_nil] at this
  simp [readAll, this]

end Reads

/-- Encodings that are never empty give a list at most as long as the bytes
they make up. -/
theorem length_le_length_flatten {w : α → List UInt8} (hw : ∀ x, w x ≠ []) :
    ∀ xs : List α, xs.length ≤ (xs.map w).flatten.length
  | [] => Nat.le_refl _
  | x :: xs => by
    have hx : 0 < (w x).length := List.length_pos_iff.mpr (hw x)
    have := length_le_length_flatten hw xs
    simp only [List.length_cons, List.map_cons, List.flatten_cons, List.length_append]
    omega

/-! ## Readers that consume

A reader never leaves more bytes than it was given; loops over a stream use it
to keep a bound on what is left. -/

section Shrinks

/-- `r` leaves at most the bytes it was given. -/
def Shrinks (r : Reader α) : Prop := ∀ s x rest, r.run s = some (x, rest) → rest.length ≤ s.length

variable {r : Reader α}

theorem Shrinks.bind {f : α → Reader β} (hr : Shrinks r) (hf : ∀ x, Shrinks (f x)) :
    Shrinks (r >>= f) := by
  intro s y rest h
  rw [StateT.run_bind, Option.bind_eq_bind, Option.bind_eq_some_iff] at h
  obtain ⟨⟨x, s₁⟩, h₁, h₂⟩ := h
  exact Nat.le_trans (hf x s₁ y rest h₂) (hr s x s₁ h₁)

theorem shrinks_pure (x : α) : Shrinks (pure x : Reader α) := by
  intro s y rest h
  simp only [StateT.run_pure, Option.pure_def, Option.some.injEq, Prod.mk.injEq] at h
  exact h.2 ▸ Nat.le_refl _

/-- What a mapped reader returned is the image of what the reader returned. -/
theorem exists_of_run_map {f : α → β} {s rest : List UInt8} {y : β}
    (h : (f <$> r).run s = some (y, rest)) : ∃ x, r.run s = some (x, rest) ∧ y = f x := by
  rw [StateT.run_map, Option.map_eq_map, Option.map_eq_some_iff] at h
  obtain ⟨⟨x, s₁⟩, h₁, h₂⟩ := h
  simp only [Prod.mk.injEq] at h₂
  exact ⟨x, h₂.2 ▸ h₁, h₂.1.symm⟩

theorem Shrinks.map (f : α → β) (hr : Shrinks r) : Shrinks (f <$> r) := by
  intro s y rest h
  obtain ⟨x, hx, -⟩ := exists_of_run_map h
  exact hr s x rest hx

theorem shrinks_readBytes (n : ℕ) : Shrinks (readBytes n) := by
  intro s x rest h
  simp only [readBytes, StateT.run] at h
  split at h
  · simp only [Option.some.injEq, Prod.mk.injEq] at h
    rw [← h.2, List.length_drop]
    omega
  · exact absurd h (by simp)

/-- The bytes read are no more than the bytes there were. -/
theorem length_le_of_readBytes {n : ℕ} {s bs rest : List UInt8}
    (h : (readBytes n).run s = some (bs, rest)) : bs.length ≤ s.length := by
  simp only [readBytes, StateT.run] at h
  split at h
  · simp only [Option.some.injEq, Prod.mk.injEq] at h
    rw [← h.1, List.length_take]
    omega
  · exact absurd h (by simp)

theorem shrinks_remaining : Shrinks remaining := by
  intro s x rest h
  simp only [run_remaining, Option.some.injEq, Prod.mk.injEq] at h
  exact h.2 ▸ Nat.le_refl _

theorem shrinks_require {p : Prop} [Decidable p] : Shrinks (require p) := by
  intro s x rest h
  by_cases hp : p
  · rw [run_require hp, Option.some.injEq, Prod.mk.injEq] at h
    exact h.2 ▸ Nat.le_refl _
  · simp [require, hp, StateT.run, failure, StateT.failure] at h

theorem shrinks_failure : Shrinks (failure : Reader α) := by
  intro s x rest h
  simp [StateT.run, failure, StateT.failure] at h

theorem Shrinks.readMany (hr : Shrinks r) : ∀ n, Shrinks (Codec.readMany r n)
  | 0 => shrinks_pure []
  | n + 1 => hr.bind fun _ => (Shrinks.readMany hr n).bind fun _ => shrinks_pure _

/-- `n` reads return `n` values. -/
theorem length_of_readMany : ∀ {n : ℕ} {s rest : List UInt8} {xs : List α},
    (Codec.readMany r n).run s = some (xs, rest) → xs.length = n
  | 0, s, rest, xs, h => by
    simp only [Codec.readMany, StateT.run_pure, Option.pure_def, Option.some.injEq,
      Prod.mk.injEq] at h
    rw [← h.1, List.length_nil]
  | n + 1, s, rest, xs, h => by
    simp only [Codec.readMany, StateT.run_bind, Option.bind_eq_bind, Option.bind_eq_some_iff,
      StateT.run_pure, Option.pure_def, Option.some.injEq] at h
    obtain ⟨⟨x, s₁⟩, -, ⟨ys, s₂⟩, hys, hxs⟩ := h
    simp only [Prod.mk.injEq] at hxs
    rw [← hxs.1, List.length_cons, length_of_readMany hys]

end Shrinks

end Codec
