import Mathlib.Order.Basic
import Mathlib.Tactic.Common

/-! Weakest preconditions for programs that change a state and may raise.
A raised exception keeps the state reached so far: nothing is rolled back, so
both outcomes carry a state and a postcondition has one part for each. -/

namespace EffectRules

variable {ε σ α β : Type}

/-- `ok` holds of the value and state returned, or `err` of the exception raised. -/
def wp (m : EStateM ε σ α) (ok : α → σ → Prop) (err : ε → σ → Prop) (s : σ) : Prop :=
  match m s with
  | .ok a t => ok a t
  | .error e t => err e t

theorem wp_of_ok {m : EStateM ε σ α} {s t : σ} {a : α} (run : m s = .ok a t)
    (ok : α → σ → Prop) (err : ε → σ → Prop) : wp m ok err s ↔ ok a t := by
  rw [wp, run]

theorem wp_of_error {m : EStateM ε σ α} {s t : σ} {e : ε} (run : m s = .error e t)
    (ok : α → σ → Prop) (err : ε → σ → Prop) : wp m ok err s ↔ err e t := by
  rw [wp, run]

theorem wp_congr {m m' : EStateM ε σ α} {s : σ} (same : m s = m' s) (ok : α → σ → Prop)
    (err : ε → σ → Prop) : wp m ok err s ↔ wp m' ok err s := by
  rw [wp, wp, same]

/-- The weakest precondition is the conjunction over the two kinds of run. -/
theorem wp_iff {m : EStateM ε σ α} {ok : α → σ → Prop} {err : ε → σ → Prop} {s : σ} :
    wp m ok err s ↔
      (∀ a t, m s = .ok a t → ok a t) ∧ (∀ e t, m s = .error e t → err e t) := by
  rw [wp]
  cases m s with
  | ok a t => simp
  | error e t => simp

/-- A program that cannot raise returns. -/
theorem exists_ok_of_wp {m : EStateM ε σ α} {ok : α → σ → Prop} {s : σ}
    (h : wp m ok (fun _ _ => False) s) : ∃ a t, m s = .ok a t ∧ ok a t := by
  rw [wp] at h
  cases run : m s with
  | ok a t => exact ⟨a, t, rfl, by simpa [run] using h⟩
  | error e t => simp [run] at h

theorem wp.mono {m : EStateM ε σ α} {ok ok' : α → σ → Prop} {err err' : ε → σ → Prop} {s : σ}
    (h : wp m ok err s) (hok : ∀ a t, ok a t → ok' a t) (herr : ∀ e t, err e t → err' e t) :
    wp m ok' err' s := by
  rw [wp_iff] at h ⊢
  exact ⟨fun a t run => hok a t (h.1 a t run), fun e t run => herr e t (h.2 e t run)⟩

theorem wp.and {m : EStateM ε σ α} {ok ok' : α → σ → Prop} {err err' : ε → σ → Prop} {s : σ}
    (h : wp m ok err s) (h' : wp m ok' err' s) :
    wp m (fun a t => ok a t ∧ ok' a t) (fun e t => err e t ∧ err' e t) s := by
  rw [wp_iff] at h h' ⊢
  exact ⟨fun a t run => ⟨h.1 a t run, h'.1 a t run⟩, fun e t run => ⟨h.2 e t run, h'.2 e t run⟩⟩

@[simp] theorem wp_pure (a : α) (ok : α → σ → Prop) (err : ε → σ → Prop) (s : σ) :
    wp (pure a) ok err s ↔ ok a s := Iff.rfl

@[simp] theorem wp_throw (e : ε) (ok : α → σ → Prop) (err : ε → σ → Prop) (s : σ) :
    wp (throw e) ok err s ↔ err e s := Iff.rfl

@[simp] theorem wp_get (ok : σ → σ → Prop) (err : ε → σ → Prop) (s : σ) :
    wp get ok err s ↔ ok s s := Iff.rfl

@[simp] theorem wp_set (t : σ) (ok : PUnit → σ → Prop) (err : ε → σ → Prop) (s : σ) :
    wp (set t) ok err s ↔ ok ⟨⟩ t := Iff.rfl

@[simp] theorem wp_modify (f : σ → σ) (ok : PUnit → σ → Prop) (err : ε → σ → Prop) (s : σ) :
    wp (modify f) ok err s ↔ ok ⟨⟩ (f s) := Iff.rfl

@[simp] theorem wp_bind (m : EStateM ε σ α) (f : α → EStateM ε σ β)
    (ok : β → σ → Prop) (err : ε → σ → Prop) (s : σ) :
    wp (m >>= f) ok err s ↔ wp m (fun a t => wp (f a) ok err t) err s := by
  change (match EStateM.bind m f s with | .ok a t => ok a t | .error e t => err e t) ↔ _
  rw [EStateM.bind, wp]
  cases m s with
  | ok a t => rfl
  | error e t => rfl

@[simp] theorem wp_map (g : α → β) (m : EStateM ε σ α)
    (ok : β → σ → Prop) (err : ε → σ → Prop) (s : σ) :
    wp (g <$> m) ok err s ↔ wp m (fun a t => ok (g a) t) err s := by
  change (match EStateM.map g m s with | .ok a t => ok a t | .error e t => err e t) ↔ _
  rw [EStateM.map, wp]
  cases m s with
  | ok a t => rfl
  | error e t => rfl

theorem wp_ite (c : Prop) [Decidable c] (m m' : EStateM ε σ α)
    (ok : α → σ → Prop) (err : ε → σ → Prop) (s : σ) :
    wp (if c then m else m') ok err s ↔ if c then wp m ok err s else wp m' ok err s := by
  split <;> rfl

/-- Sequencing along a run that is known to return. -/
theorem bind_ok {m : EStateM ε σ α} {s t : σ} {a : α} (run : m s = .ok a t)
    (f : α → EStateM ε σ β) : (m >>= f) s = f a t := by
  change EStateM.bind m f s = _
  rw [EStateM.bind, run]

theorem get_bind (f : σ → EStateM ε σ α) (s : σ) : (get >>= f) s = f s s := rfl

theorem bind_error {m : EStateM ε σ α} {s t : σ} {e : ε} (run : m s = .error e t)
    (f : α → EStateM ε σ β) : (m >>= f) s = .error e t := by
  change EStateM.bind m f s = _
  rw [EStateM.bind, run]

/-- A sequence that returns, taken apart. -/
theorem bind_inv {m : EStateM ε σ α} {f : α → EStateM ε σ β} {s t : σ} {b : β}
    (run : (m >>= f) s = .ok b t) : ∃ a u, m s = .ok a u ∧ f a u = .ok b t := by
  cases first : m s with
  | ok a u =>
    rw [bind_ok first] at run
    exact ⟨a, u, rfl, run⟩
  | error e u =>
    rw [bind_error first] at run
    cases run

/-- A sequence whose second part cannot raise raises what its first part does. -/
theorem bind_eq_error {m : EStateM ε σ α} {f : α → EStateM ε σ β} {s t : σ} {e : ε}
    (returns : ∀ a u, ∃ b u', f a u = .ok b u') :
    (m >>= f) s = .error e t ↔ m s = .error e t := by
  cases first : m s with
  | ok a u =>
    obtain ⟨b, u', done⟩ := returns a u
    rw [bind_ok first, done]
    exact iff_of_false (by simp) (by simp)
  | error e' u =>
    rw [bind_error first]
    simp

theorem bind_congr_left {m m' : EStateM ε σ α} {s : σ} (same : m s = m' s)
    (f : α → EStateM ε σ β) : (m >>= f) s = (m' >>= f) s := by
  change EStateM.bind m f s = EStateM.bind m' f s
  rw [EStateM.bind, EStateM.bind, same]

/-! ### Invariants of a program -/

/-- `I` survives the program, whether it returns or raises. -/
def Preserves (I : σ → Prop) (m : EStateM ε σ α) : Prop :=
  ∀ s, I s → wp m (fun _ t => I t) (fun _ t => I t) s

namespace Preserves

variable {I : σ → Prop}

theorem pure (a : α) : Preserves I (Pure.pure a : EStateM ε σ α) := fun _ h => h

theorem throw (e : ε) : Preserves I (MonadExcept.throw e : EStateM ε σ α) := fun _ h => h

theorem get : Preserves I (MonadState.get : EStateM ε σ σ) := fun _ h => h

theorem modify {f : σ → σ} (h : ∀ s, I s → I (f s)) :
    Preserves I (modify f : EStateM ε σ PUnit) := fun s hs => h s hs

theorem bind {m : EStateM ε σ α} {f : α → EStateM ε σ β}
    (hm : Preserves I m) (hf : ∀ a, Preserves I (f a)) : Preserves I (m >>= f) := by
  intro s hs
  rw [wp_bind]
  exact (hm s hs).mono (fun a t ht => hf a t ht) (fun _ _ ht => ht)

theorem ite {c : Prop} [Decidable c] {m m' : EStateM ε σ α}
    (hm : Preserves I m) (hm' : Preserves I m') : Preserves I (if c then m else m') := by
  split
  · exact hm
  · exact hm'

/-- What a program that preserves `I` leaves behind, read off one run. -/
theorem of_ok {m : EStateM ε σ α} (h : Preserves I m) {s t : σ} {a : α} (hs : I s)
    (run : m s = .ok a t) : I t :=
  (wp_iff.1 (h s hs)).1 a t run

theorem of_error {m : EStateM ε σ α} (h : Preserves I m) {s t : σ} {e : ε} (hs : I s)
    (run : m s = .error e t) : I t :=
  (wp_iff.1 (h s hs)).2 e t run

/-- A program that ends with a fixed result. -/
theorem returning {m : EStateM ε σ α} (hm : Preserves I m) (b : β) {s : σ} (hs : I s) :
    wp (m >>= fun _ => Pure.pure b) (fun b' t => b' = b ∧ I t) (fun _ t => I t) s := by
  rw [wp_bind]
  exact (hm s hs).mono (fun _ _ h => ⟨rfl, h⟩) fun _ _ h => h

end Preserves

/-! ### Programs that fail into another invariant -/

/-- `I` survives when the program returns, and `E` holds when it raises. -/
def Keeps (I E : σ → Prop) (m : EStateM ε σ α) : Prop :=
  ∀ s, I s → wp m (fun _ t => I t) (fun _ t => E t) s

namespace Keeps

variable {I E : σ → Prop}

theorem pure (a : α) : Keeps I E (Pure.pure a : EStateM ε σ α) := fun _ h => h

theorem modify {f : σ → σ} (h : ∀ s, I s → I (f s)) :
    Keeps I E (modify f : EStateM ε σ PUnit) := fun s hs => h s hs

theorem bind {m : EStateM ε σ α} {f : α → EStateM ε σ β}
    (hm : Keeps I E m) (hf : ∀ a, Keeps I E (f a)) : Keeps I E (m >>= f) := by
  intro s hs
  rw [wp_bind]
  exact (hm s hs).mono (fun a t ht => hf a t ht) (fun _ _ ht => ht)

end Keeps

/-! ### Programs that may be given up -/

/-- `I` survives, unless what is raised is fatal. -/
def Survives (fatal : ε → Prop) (I : σ → Prop) (m : EStateM ε σ α) : Prop :=
  ∀ s, I s → wp m (fun _ t => I t) (fun e t => fatal e ∨ I t) s

namespace Survives

variable {fatal : ε → Prop} {I : σ → Prop}

theorem of_preserves {m : EStateM ε σ α} (h : Preserves I m) : Survives fatal I m :=
  fun s hs => (h s hs).mono (fun _ _ ht => ht) fun _ _ ht => .inr ht

theorem bind {m : EStateM ε σ α} {f : α → EStateM ε σ β}
    (hm : Survives fatal I m) (hf : ∀ a, Survives fatal I (f a)) : Survives fatal I (m >>= f) := by
  intro s hs
  rw [wp_bind]
  exact (hm s hs).mono (fun a t ht => hf a t ht) fun _ _ ht => ht

theorem mono {fatal' : ε → Prop} {m : EStateM ε σ α} (more : ∀ e, fatal e → fatal' e)
    (h : Survives fatal I m) : Survives fatal' I m :=
  fun s hs => (h s hs).mono (fun _ _ ht => ht) fun e _ raised => raised.imp_left (more e)

theorem ite {c : Prop} [Decidable c] {m m' : EStateM ε σ α}
    (hm : Survives fatal I m) (hm' : Survives fatal I m') :
    Survives fatal I (if c then m else m') := by
  split
  · exact hm
  · exact hm'

end Survives

end EffectRules
