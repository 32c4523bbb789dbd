import Mathlib

/-!
# Computations that may throw

Programs whose operations throw an exception are modelled in `Except ε`: a
successful run returns `.ok`, a thrown exception `.error`. A write transaction
that is aborted on any exception leaves the state as it was, so a caller that
keeps the old state on `.error` models it exactly.

The lemmas here take a successful run apart: a bind that succeeded ran both
halves successfully, and a `foldlM` that succeeded ran each step successfully,
so an invariant kept by every successful step is kept by the loop.
-/

namespace Except

universe u

variable {ε : Type*} {α β : Type u}

@[simp] theorem bind_ok_iff (x : Except ε α) (f : α → Except ε β) (b : β) :
    x.bind f = .ok b ↔ ∃ a, x = .ok a ∧ f a = .ok b := by
  cases x <;> simp [Except.bind]

@[simp] theorem bind_ok_iff' (x : Except ε α) (f : α → Except ε β) (b : β) :
    (x >>= f) = .ok b ↔ ∃ a, x = .ok a ∧ f a = .ok b :=
  bind_ok_iff x f b

@[simp] theorem pure_ok_iff (a b : α) : (pure a : Except ε α) = .ok b ↔ a = b := by
  simp [pure, Except.pure]

@[simp] theorem throw_ne_ok (e : ε) (b : α) : (throw e : Except ε α) ≠ .ok b := by
  simp [throw, throwThe, MonadExceptOf.throw]

@[simp] theorem ok_bind (a : α) (f : α → Except ε β) : (Except.ok a >>= f) = f a := rfl

@[simp] theorem throw_bind (e : ε) (f : α → Except ε β) : ((throw e : Except ε α) >>= f) = throw e :=
  rfl

/-- A loop that succeeded ran its first step successfully and then the rest. -/
theorem foldlM_cons_ok_iff {f : β → α → Except ε β} {b b' : β} {a : α} {l : List α} :
    (a :: l).foldlM f b = .ok b' ↔ ∃ c, f b a = .ok c ∧ l.foldlM f c = .ok b' := by
  simp only [List.foldlM_cons]
  exact bind_ok_iff' _ _ _

/-- An invariant kept by every successful step is kept by a successful loop. -/
theorem foldlM_invariant {f : β → α → Except ε β} (P : β → Prop)
    (step : ∀ b a c, P b → f b a = .ok c → P c) :
    ∀ (l : List α) (b b' : β), P b → l.foldlM f b = .ok b' → P b'
  | [], b, b', hb, h => by
    simp only [List.foldlM_nil, pure_ok_iff] at h
    exact h ▸ hb
  | a :: l, b, b', hb, h => by
    obtain ⟨c, hc, hrest⟩ := foldlM_cons_ok_iff.mp h
    exact foldlM_invariant P step l c b' (step b a c hb hc) hrest

/-- A map that succeeded succeeded on every element, each paired with its
result. -/
theorem mapM_ok_iff {f : α → Except ε β} :
    ∀ {l : List α} {l' : List β}, l.mapM f = .ok l' ↔ List.Forall₂ (fun a b => f a = .ok b) l l'
  | [], l' => by cases l' <;> simp [pure, Except.pure]
  | a :: l, l' => by
    cases l' with
    | nil =>
      simp only [List.mapM_cons, bind_ok_iff', List.forall₂_nil_right_iff, reduceCtorEq, iff_false]
      rintro ⟨b, -, bs, -, h⟩
      simp [pure, Except.pure] at h
    | cons b l' =>
      rw [List.forall₂_cons, ← mapM_ok_iff]
      simp only [List.mapM_cons, bind_ok_iff', pure_ok_iff, List.cons.injEq]
      constructor
      · rintro ⟨b', hb', bs, hbs, rfl, rfl⟩
        exact ⟨hb', hbs⟩
      · rintro ⟨hb, hbs⟩
        exact ⟨b, hb, l', hbs, rfl, rfl⟩

/-- Each result of a map that succeeded is the result of the function on an
element. -/
theorem mapM_ok_mem {f : α → Except ε β} {l : List α} {l' : List β} (h : l.mapM f = .ok l') {b : β}
    (hb : b ∈ l') : ∃ a ∈ l, f a = .ok b := by
  have h₂ := mapM_ok_iff.mp h
  clear h
  induction h₂ with
  | nil => simp at hb
  | @cons a b' l l' hab _ ih =>
    rcases List.mem_cons.mp hb with rfl | hb
    · exact ⟨a, List.mem_cons_self, hab⟩
    · obtain ⟨a', ha', h'⟩ := ih hb
      exact ⟨a', List.mem_cons_of_mem a ha', h'⟩

/-- A map whose function succeeds with `g a` on every element returns the list
mapped by `g`. -/
theorem mapM_eq_ok_map {f : α → Except ε β} {g : α → β} {l : List α} (h : ∀ a ∈ l, f a = .ok (g a)) :
    l.mapM f = .ok (l.map g) := by
  rw [mapM_ok_iff, List.forall₂_map_right_iff, List.forall₂_same]
  exact h

end Except

/-! ## Runs that keep their state when they throw

A stateful computation whose exceptions keep what it wrote before the throw
ends in an `EStateM.Result`: a value or an exception, and the state either
way. An invariant of such a computation is a property of that state. -/

namespace EStateM.Result

universe u

variable {ε σ α : Type u}

/-- The state a run ends in, whether it returned or threw. -/
def state : EStateM.Result ε σ α → σ
  | .ok _ s => s
  | .error _ s => s

@[simp] theorem state_ok (a : α) (s : σ) : (EStateM.Result.ok a s : EStateM.Result ε σ α).state = s :=
  rfl

@[simp] theorem state_error (e : ε) (s : σ) :
    (EStateM.Result.error e s : EStateM.Result ε σ α).state = s :=
  rfl

end EStateM.Result
