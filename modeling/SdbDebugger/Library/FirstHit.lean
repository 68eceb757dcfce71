import Mathlib.Logic.Function.Iterate

/-! The first state of an orbit with a given property, searched for in bounded time. -/

namespace FirstHit

variable {σ : Type}

def runUntil (f : σ → σ) (p : σ → Bool) : Nat → σ → Option σ
  | 0, _ => none
  | n + 1, s => if p s then some s else runUntil f p n (f s)

/-- `n` steps lead to the first state that has the property. -/
def Hits (f : σ → σ) (p : σ → Bool) (n : Nat) (s : σ) : Prop :=
  p (f^[n] s) = true ∧ ∀ m < n, p (f^[m] s) = false

variable {f : σ → σ} {p : σ → Bool} {s t : σ}

theorem hits_succ {n : Nat} : Hits f p (n + 1) s ↔ p s = false ∧ Hits f p n (f s) := by
  constructor
  · intro h
    refine ⟨h.2 0 (by omega), h.1, fun m hm => ?_⟩
    exact h.2 (m + 1) (by omega)
  · intro h
    refine ⟨h.2.1, fun m hm => ?_⟩
    cases m with
    | zero => exact h.1
    | succ m => exact h.2.2 m (by omega)

theorem runUntil_eq_some {budget : Nat} :
    runUntil f p budget s = some t ↔ ∃ n < budget, Hits f p n s ∧ f^[n] s = t := by
  induction budget generalizing s with
  | zero => simp [runUntil]
  | succ budget ih =>
    rw [runUntil]
    cases here : p s with
    | true =>
      constructor
      · intro h
        cases h
        exact ⟨0, by omega, ⟨here, by simp⟩, rfl⟩
      · intro h
        obtain ⟨n, _, hits, reach⟩ := h
        cases n with
        | zero => exact congrArg some reach
        | succ n => simp [(hits_succ.1 hits).1] at here
    | false =>
      constructor
      · intro h
        obtain ⟨n, less, hits, reach⟩ := ih.1 h
        exact ⟨n + 1, by omega, hits_succ.2 ⟨here, hits⟩, reach⟩
      · intro h
        obtain ⟨n, less, hits, reach⟩ := h
        cases n with
        | zero => simp [Hits, here] at hits
        | succ n => exact ih.2 ⟨n, by omega, (hits_succ.1 hits).2, reach⟩

/-- The search does not depend on how the orbit is represented: `r` takes the states that
`f` moves to those that `g` moves. -/
theorem runUntil_map {τ : Type} {g : τ → τ} {q : τ → Bool} {r : σ → τ}
    (same : ∀ s, q (r s) = p s) (moves : ∀ s, p s = false → g (r s) = r (f s)) {budget : Nat} :
    runUntil g q budget (r s) = (runUntil f p budget s).map r := by
  induction budget generalizing s with
  | zero => rfl
  | succ budget ih =>
    rw [runUntil, runUntil, same]
    cases here : p s with
    | true => rfl
    | false =>
      rw [if_neg Bool.false_ne_true, if_neg Bool.false_ne_true, moves s here, ih]

end FirstHit
