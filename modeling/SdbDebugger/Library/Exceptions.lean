import SdbDebugger.Library.EffectRules
import Mathlib.Data.List.Forall2

/-! Which exceptions leave a program. `bad` singles out those that matter: a program
raises one of them from some states, and is tame if it does so from none. -/

namespace Exceptions
open EffectRules

variable {ε σ α β : Type} {bad : ε → Prop}

/-- Started in `s` the program raises one of the bad exceptions. -/
def Raises (bad : ε → Prop) (m : EStateM ε σ α) (s : σ) : Prop :=
  ∃ e t, m s = .error e t ∧ bad e

section Raises

variable {m : EStateM ε σ α} {s t : σ}

theorem raises_of_ok {a : α} (run : m s = .ok a t) : ¬ Raises bad m s := by
  intro h
  obtain ⟨e, u, raised, _⟩ := h
  simp [run] at raised

theorem raises_of_error {e : ε} (run : m s = .error e t) : Raises bad m s ↔ bad e := by
  constructor
  · intro h
    obtain ⟨e', u, raised, isBad⟩ := h
    rw [run] at raised
    cases raised
    exact isBad
  · intro h
    exact ⟨e, t, run, h⟩

theorem raises_congr {m' : EStateM ε σ α} (same : m s = m' s) : Raises bad m s ↔ Raises bad m' s := by
  rw [Raises, Raises, same]

@[simp] theorem raises_pure (a : α) : Raises bad (pure a) s ↔ False :=
  iff_false_intro (raises_of_ok (a := a) (t := s) rfl)

@[simp] theorem raises_throw (e : ε) : Raises bad (throw e : EStateM ε σ α) s ↔ bad e :=
  raises_of_error rfl

theorem raises_bind (f : α → EStateM ε σ β) :
    Raises bad (m >>= f) s ↔ Raises bad m s ∨ ∃ a t, m s = .ok a t ∧ Raises bad (f a) t := by
  cases run : m s with
  | ok a t =>
    have first : ¬ Raises bad m s := raises_of_ok run
    simp [Raises, bind_ok run, run]
  | error e t => simp [Raises, bind_error run, run]

/-- After a program that is known to return. -/
theorem raises_bind_of_ok {a : α} (run : m s = .ok a t) (f : α → EStateM ε σ β) :
    Raises bad (m >>= f) s ↔ Raises bad (f a) t := by
  rw [Raises, bind_ok run]
  rfl

theorem raises_bind_of_error {e : ε} (run : m s = .error e t) (f : α → EStateM ε σ β) :
    Raises bad (m >>= f) s ↔ bad e :=
  raises_of_error (bind_error run f)

theorem raises_get_bind (f : σ → EStateM ε σ α) :
    Raises bad (get >>= f) s ↔ Raises bad (f s) s := Iff.rfl

theorem raises_modify_bind (g : σ → σ) (f : PUnit → EStateM ε σ α) :
    Raises bad (modify g >>= f) s ↔ Raises bad (f ⟨⟩) (g s) := Iff.rfl

theorem raises_ite {c : Prop} [Decidable c] {m' : EStateM ε σ α} {h h' : Prop}
    (yes : c → (Raises bad m s ↔ h)) (no : ¬ c → (Raises bad m' s ↔ h')) :
    Raises bad (if c then m else m') s ↔ if c then h else h' := by
  split
  · next here => exact yes here
  · next other => exact no other

theorem not_raises_of_wp {ok : α → σ → Prop} {err : ε → σ → Prop} (h : wp m ok err s)
    (mild : ∀ e t, err e t → ¬ bad e) : ¬ Raises bad m s := by
  intro raised
  obtain ⟨e, t, run, isBad⟩ := raised
  exact mild e t ((wp_iff.1 h).2 e t run) isBad

instance [DecidablePred bad] : Decidable (Raises bad m s) :=
  match run : m s with
  | .ok _ _ => .isFalse (raises_of_ok run)
  | .error _ _ => decidable_of_iff _ (raises_of_error run).symm

end Raises

/-! ### Computations that fail -/

/-- A computation without a state that ends in a bad exception. -/
def Fails (bad : ε → Prop) (x : Except ε α) : Prop := ∃ e, x = .error e ∧ bad e

section Fails

@[simp] theorem fails_ok (a : α) : Fails bad (.ok a : Except ε α) ↔ False := by simp [Fails]

@[simp] theorem fails_pure (a : α) : Fails bad (pure a : Except ε α) ↔ False := fails_ok a

@[simp] theorem fails_error (e : ε) : Fails bad (.error e : Except ε α) ↔ bad e := by
  simp [Fails]

theorem fails_bind {x : Except ε α} {f : α → Except ε β} :
    Fails bad (x >>= f) ↔ Fails bad x ∨ ∃ a, x = .ok a ∧ Fails bad (f a) := by
  cases x with
  | ok a => simp [bind, Except.bind]
  | error e => simp [bind, Except.bind]

theorem not_fails_bind {x : Except ε α} {f : α → Except ε β} (first : ¬ Fails bad x)
    (rest : ∀ a, ¬ Fails bad (f a)) : ¬ Fails bad (x >>= f) := by
  rw [fails_bind]
  intro h
  rcases h with failed | ⟨a, _, failed⟩
  · exact first failed
  · exact rest a failed

theorem fails_map {x : Except ε α} {f : α → β} : Fails bad (f <$> x) ↔ Fails bad x := by
  cases x with
  | ok a => simp [Functor.map, Except.map]
  | error e => simp [Functor.map, Except.map]

theorem map_eq_ok {x : Except ε α} {f : α → β} {b : β} :
    f <$> x = .ok b ↔ ∃ a, x = .ok a ∧ f a = b := by
  cases x with
  | ok a => simp [Functor.map, Except.map]
  | error e => simp [Functor.map, Except.map]

theorem bind_eq_ok {x : Except ε α} {f : α → Except ε β} {b : β} :
    (x >>= f) = .ok b ↔ ∃ a, x = .ok a ∧ f a = .ok b := by
  cases x with
  | ok a => simp [bind, Except.bind]
  | error e => simp [bind, Except.bind]

theorem mapM_eq_ok {f : α → Except ε β} {items : List α} {results : List β} :
    items.mapM f = .ok results ↔ List.Forall₂ (fun item b => f item = .ok b) items results := by
  induction items generalizing results with
  | nil =>
    rw [List.mapM_nil, List.forall₂_nil_left_iff]
    exact ⟨fun same => (Except.ok.inj same).symm, fun same => by rw [same]; rfl⟩
  | cons item items ih =>
    rw [List.mapM_cons, List.forall₂_cons_left_iff]
    constructor
    · intro done
      obtain ⟨b, first, rest⟩ := bind_eq_ok.1 done
      obtain ⟨bs, later, made⟩ := bind_eq_ok.1 rest
      cases made
      exact ⟨b, bs, first, ih.1 later, rfl⟩
    · rintro ⟨b, bs, first, later, rfl⟩
      exact bind_eq_ok.2 ⟨b, first, bind_eq_ok.2 ⟨bs, ih.2 later, rfl⟩⟩

theorem fails_ite {c : Prop} [Decidable c] {x y : Except ε α} :
    Fails bad (if c then x else y) ↔ if c then Fails bad x else Fails bad y := by
  split <;> rfl

/-- A list is worked off up to its first element that fails. -/
theorem fails_mapM {f : α → Except ε β} {items : List α} :
    Fails bad (items.mapM f) ↔ ∃ before item after, items = before ++ item :: after ∧
      (∀ x ∈ before, ∃ b, f x = .ok b) ∧ Fails bad (f item) := by
  induction items with
  | nil => simp
  | cons x xs ih =>
    have rest : ∀ b, Fails bad (do
        let bs ← xs.mapM f
        pure (b :: bs)) ↔ Fails bad (xs.mapM f) := fun b => by
      rw [fails_bind]
      exact or_iff_left fun h => (fails_pure _).1 h.choose_spec.2
    rw [List.mapM_cons, fails_bind]
    constructor
    · intro h
      rcases h with here | ⟨b, done, later⟩
      · exact ⟨[], x, xs, rfl, by simp, here⟩
      · have tail : Fails bad (xs.mapM f) := (rest b).1 later
        obtain ⟨before, item, after, rfl, earlier, failed⟩ := ih.1 tail
        refine ⟨x :: before, item, after, rfl, fun y member => ?_, failed⟩
        rcases List.mem_cons.1 member with rfl | member
        · exact ⟨b, done⟩
        · exact earlier y member
    · intro h
      obtain ⟨before, item, after, same, earlier, failed⟩ := h
      cases before with
      | nil =>
        cases same
        exact .inl failed
      | cons y before =>
        cases same
        obtain ⟨b, done⟩ := earlier x List.mem_cons_self
        have tail : Fails bad ((before ++ item :: after).mapM f) :=
          ih.2 ⟨before, item, after, rfl, fun z member => earlier z (.tail x member), failed⟩
        exact .inr ⟨b, done, (rest b).2 tail⟩

end Fails

/-! ### Tame programs -/

/-- From a state in `I` no bad exception is raised, and `I` holds again at the end. -/
def Tame (bad : ε → Prop) (I : σ → Prop) (m : EStateM ε σ α) : Prop :=
  ∀ s, I s → wp m (fun _ t => I t) (fun e t => ¬ bad e ∧ I t) s

namespace Tame

variable {I : σ → Prop}

theorem pure (a : α) : Tame bad I (Pure.pure a : EStateM ε σ α) := fun _ h => h

theorem throw {e : ε} (mild : ¬ bad e) : Tame bad I (MonadExcept.throw e : EStateM ε σ α) :=
  fun _ h => ⟨mild, h⟩

theorem get : Tame bad I (MonadState.get : EStateM ε σ σ) := fun _ h => h

theorem modify {f : σ → σ} (h : ∀ s, I s → I (f s)) :
    Tame bad I (modify f : EStateM ε σ PUnit) := fun s hs => h s hs

theorem bind {m : EStateM ε σ α} {f : α → EStateM ε σ β} (hm : Tame bad I m)
    (hf : ∀ a, Tame bad I (f a)) : Tame bad I (m >>= f) := by
  intro s hs
  rw [wp_bind]
  exact (hm s hs).mono (fun a t ht => hf a t ht) fun _ _ ht => ht

theorem ite {c : Prop} [Decidable c] {m m' : EStateM ε σ α} (hm : Tame bad I m)
    (hm' : Tame bad I m') : Tame bad I (if c then m else m') := by
  split
  · exact hm
  · exact hm'

variable {m : EStateM ε σ α} {s t : σ}

theorem not_raises (tame : Tame bad I m) (hs : I s) : ¬ Raises bad m s := by
  intro h
  obtain ⟨e, t, run, isBad⟩ := h
  exact ((wp_iff.1 (tame s hs)).2 e t run).1 isBad

theorem of_ok (tame : Tame bad I m) (hs : I s) {a : α} (run : m s = .ok a t) : I t :=
  (wp_iff.1 (tame s hs)).1 a t run

theorem preserves (tame : Tame bad I m) : Preserves I m :=
  fun s hs => (tame s hs).mono (fun _ _ h => h) fun _ _ h => h.2

theorem of_preserves (kept : Preserves I m) (quiet : ∀ s, I s → ¬ Raises bad m s) : Tame bad I m := by
  intro s hs
  rw [wp_iff]
  refine ⟨fun a t run => kept.of_ok hs run, fun e t run => ⟨fun isBad => ?_, kept.of_error hs run⟩⟩
  exact quiet s hs ⟨e, t, run, isBad⟩

/-- Only what follows a tame program can raise. -/
theorem raises_bind (tame : Tame bad I m) (hs : I s) (f : α → EStateM ε σ β) :
    Raises bad (m >>= f) s ↔ ∃ a t, m s = .ok a t ∧ Raises bad (f a) t := by
  rw [Exceptions.raises_bind, or_iff_right (tame.not_raises hs)]

/-- Nothing that follows raises either. -/
theorem not_raises_bind (tame : Tame bad I m) (hs : I s) {f : α → EStateM ε σ β}
    (rest : ∀ a t, m s = .ok a t → I t → ¬ Raises bad (f a) t) : ¬ Raises bad (m >>= f) s := by
  rw [tame.raises_bind hs]
  intro h
  obtain ⟨a, t, run, raised⟩ := h
  exact rest a t run (tame.of_ok hs run) raised

end Tame

end Exceptions
