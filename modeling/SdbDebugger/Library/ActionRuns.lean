import SdbDebugger.Library.EffectRules

/-! Runs of partial actions. An action that is not allowed in a state has no
successor there, and a run containing one has no final state. Invariants are
proved for one action and hold after every run. -/

namespace ActionRuns
open EffectRules

variable {ι σ ε α : Type}

def run (step : ι → σ → Option σ) : List ι → σ → Option σ
  | [], s => some s
  | a :: as, s => (step a s).bind (run step as)

@[simp] theorem run_nil (step : ι → σ → Option σ) (s : σ) : run step [] s = some s := rfl

theorem run_cons (step : ι → σ → Option σ) (a : ι) (as : List ι) (s : σ) :
    run step (a :: as) s = (step a s).bind (run step as) := rfl

theorem run_append (step : ι → σ → Option σ) (as bs : List ι) (s : σ) :
    run step (as ++ bs) s = (run step as s).bind (run step bs) := by
  induction as generalizing s with
  | nil => rfl
  | cons a as ih =>
    simp only [List.cons_append, run_cons]
    cases step a s with
    | none => rfl
    | some t => simpa using ih t

theorem run_concat (step : ι → σ → Option σ) (as : List ι) (a : ι) (s : σ) :
    run step (as ++ [a]) s = (run step as s).bind (step a) := by
  rw [run_append]
  congr 1
  funext t
  change (step a t).bind some = step a t
  cases step a t with
  | none => rfl
  | some u => rfl

/-- An invariant of every allowed action is an invariant of every run. -/
theorem run_invariant {step : ι → σ → Option σ} {I : σ → Prop}
    (keep : ∀ a s t, I s → step a s = some t → I t) {as : List ι} {s t : σ}
    (init : I s) (reach : run step as s = some t) : I t := by
  induction as generalizing s with
  | nil =>
    cases reach
    exact init
  | cons a as ih =>
    rw [run_cons, Option.bind_eq_some_iff] at reach
    obtain ⟨u, first, rest⟩ := reach
    exact ih (keep a s u init first) rest

/-- Each action of the run is taken in a state in which `Q` admits it. -/
def Along (step : ι → σ → Option σ) (Q : ι → σ → Prop) : List ι → σ → Prop
  | [], _ => True
  | a :: as, s => Q a s ∧ ∀ t, step a s = some t → Along step Q as t

instance Along.decidable (step : ι → σ → Option σ) (Q : ι → σ → Prop)
    [∀ a s, Decidable (Q a s)] : ∀ as s, Decidable (Along step Q as s)
  | [], _ => .isTrue trivial
  | a :: as, s =>
    have rest : Decidable (∀ t, step a s = some t → Along step Q as t) :=
      match h : step a s with
      | none => .isTrue (by simp)
      | some t => @decidable_of_iff _ (Along step Q as t) (by simp) (Along.decidable step Q as t)
    inferInstanceAs (Decidable (Q a s ∧ _))

theorem along_concat {step : ι → σ → Option σ} {Q : ι → σ → Prop} {as : List ι} {a : ι} {s t : σ}
    (reach : run step as s = some t) :
    Along step Q (as ++ [a]) s ↔ Along step Q as s ∧ Q a t := by
  induction as generalizing s with
  | nil =>
    cases reach
    simp [Along]
  | cons b as ih =>
    rw [run_cons, Option.bind_eq_some_iff] at reach
    obtain ⟨u, first, rest⟩ := reach
    simp [Along, first, ih rest, and_assoc]

/-- An invariant of every action where it is admitted. -/
theorem run_invariant_along {step : ι → σ → Option σ} {I : σ → Prop} {Q : ι → σ → Prop}
    (keep : ∀ a s t, I s → Q a s → step a s = some t → I t) {as : List ι} {s t : σ}
    (init : I s) (admitted : Along step Q as s) (reach : run step as s = some t) : I t := by
  induction as generalizing s with
  | nil =>
    cases reach
    exact init
  | cons a as ih =>
    rw [run_cons, Option.bind_eq_some_iff] at reach
    obtain ⟨u, first, rest⟩ := reach
    exact ih (keep a s u init admitted.1 first) (admitted.2 u first) rest

/-- A relation to a value that the actions themselves determine, such as a
history or an abstract state, carried along a run of admitted actions. -/
theorem run_tracks {τ : Type} {step : ι → σ → Option σ} {next : ι → τ → τ} {Q : ι → σ → Prop}
    {R : τ → σ → Prop} (keep : ∀ a x s t, R x s → Q a s → step a s = some t → R (next a x) t)
    {as : List ι} {x : τ} {s t : σ} (init : R x s) (admitted : Along step Q as s)
    (reach : run step as s = some t) : R (as.foldl (fun y a => next a y) x) t := by
  induction as generalizing x s with
  | nil =>
    cases reach
    exact init
  | cons a as ih =>
    rw [run_cons, Option.bind_eq_some_iff] at reach
    obtain ⟨u, first, rest⟩ := reach
    exact ih (keep a x s u init admitted.1 first) (admitted.2 u first) rest

/-- Where every action lowers a measure, a run is no longer than the measure. -/
theorem run_length {step : ι → σ → Option σ} {I : σ → Prop} {μ : σ → Nat}
    (keep : ∀ a s t, I s → step a s = some t → I t)
    (lowers : ∀ a s t, I s → step a s = some t → μ t < μ s) {as : List ι} {s t : σ}
    (init : I s) (reach : run step as s = some t) : as.length + μ t ≤ μ s := by
  induction as generalizing s with
  | nil =>
    cases reach
    simp
  | cons a as ih =>
    rw [run_cons, Option.bind_eq_some_iff] at reach
    obtain ⟨u, first, rest⟩ := reach
    have shorter := ih (keep a s u init first) rest
    have lower := lowers a s u init first
    rw [List.length_cons]
    omega

/-- A run goes on to a final state if in every other state an admitted action is possible. -/
theorem run_completes {step : ι → σ → Option σ} {I Final : σ → Prop} {Q : ι → Prop} {μ : σ → Nat}
    (keep : ∀ a s t, I s → step a s = some t → I t)
    (lowers : ∀ a s t, I s → step a s = some t → μ t < μ s)
    (moves : ∀ s, I s → ¬ Final s → ∃ a t, Q a ∧ step a s = some t) (s : σ) (init : I s) :
    ∃ as t, (∀ a ∈ as, Q a) ∧ run step as s = some t ∧ Final t := by
  by_cases final : Final s
  · exact ⟨[], s, by simp, rfl, final⟩
  · obtain ⟨a, u, admitted, first⟩ := moves s init final
    have lower := lowers a s u init first
    obtain ⟨as, t, rest, reach, last⟩ :=
      run_completes keep lowers moves u (keep a s u init first)
    refine ⟨a :: as, t, ?_, ?_, last⟩
    · exact List.forall_mem_cons.2 ⟨admitted, rest⟩
    · rw [run_cons, first]
      exact reach
termination_by μ s

/-- One program as an action: exceptions that are not fatal leave their state. -/
def survive (fatal : ε → Bool) (m : EStateM ε σ α) (s : σ) : Option σ :=
  match m s with
  | .ok _ t => some t
  | .error e t => if fatal e then none else some t

theorem survive_eq_some {fatal : ε → Bool} {m : EStateM ε σ α} {s t : σ} :
    survive fatal m s = some t ↔
      (∃ a, m s = .ok a t) ∨ ∃ e, fatal e = false ∧ m s = .error e t := by
  unfold survive
  cases m s with
  | ok a u => simp
  | error e u =>
    cases h : fatal e
    · simp [h]
    · simp [h]

theorem survive_discard {fatal : ε → Bool} (m : EStateM ε σ α) (s : σ) :
    survive fatal (m >>= fun _ => pure ()) s = survive fatal m s := by
  unfold survive
  cases run : m s with
  | ok a t => rw [bind_ok run]; rfl
  | error e t => rw [bind_error run]

theorem exists_ok_of_survive {m : EStateM ε σ α} {s : σ}
    (returned : (survive (fun _ => true) m s).isSome = true) : ∃ a t, m s = .ok a t := by
  obtain ⟨t, alive⟩ := Option.isSome_iff_exists.1 returned
  rcases survive_eq_some.1 alive with ⟨a, done⟩ | ⟨_, mild, _⟩
  · exact ⟨a, t, done⟩
  · cases mild

theorem wp_of_survive {m : EStateM ε σ α} {s : σ} {P : σ → Prop} [DecidablePred P]
    (returned : (survive (fun _ => true) m s).any (fun t => decide (P t)) = true) :
    wp m (fun _ t => P t) (fun _ _ => False) s := by
  obtain ⟨t, alive, holds⟩ := (Option.any_eq_true _ _).1 returned
  rcases survive_eq_some.1 alive with ⟨a, done⟩ | ⟨_, mild, _⟩
  · exact (wp_of_ok done _ _).2 (of_decide_eq_true holds)
  · cases mild

/-- A program that raises something that is not fatal. -/
theorem exists_mild_error {fatal : ε → Bool} {m : EStateM ε σ α} {s : σ}
    (raised : (survive (fun _ => true) m s).isNone = true)
    (alive : (survive fatal m s).isSome = true) : ∃ e t, m s = .error e t ∧ fatal e = false := by
  obtain ⟨t, alive⟩ := Option.isSome_iff_exists.1 alive
  rcases survive_eq_some.1 alive with ⟨a, done⟩ | ⟨e, mild, failed⟩
  · have returned := survive_eq_some.2 (.inl ⟨a, done⟩ : _ ∨ ∃ e, (fun _ : ε => true) e = false ∧ _)
    rw [returned] at raised
    cases raised
  · exact ⟨e, t, failed, mild⟩

theorem survive_wp {fatal : ε → Bool} {m : EStateM ε σ α} {s t : σ}
    {ok : α → σ → Prop} {err : ε → σ → Prop} (h : wp m ok err s)
    (alive : survive fatal m s = some t) :
    (∃ a, ok a t) ∨ ∃ e, fatal e = false ∧ err e t := by
  rw [wp_iff] at h
  rcases survive_eq_some.1 alive with ⟨a, done⟩ | ⟨e, mild, raised⟩
  · exact .inl ⟨a, h.1 a t done⟩
  · exact .inr ⟨e, mild, h.2 e t raised⟩

theorem survive_invariant {fatal : ε → Bool} {m : EStateM ε σ α} {I : σ → Prop}
    (keep : Preserves I m) {s t : σ} (hs : I s) (alive : survive fatal m s = some t) : I t := by
  rcases survive_wp (keep s hs) alive with ⟨_, h⟩ | ⟨_, _, h⟩
  · exact h
  · exact h

/-! ### Programs over a part of the state -/

section Performs

variable {τ ι' : Type} {β : Type} {step : ι → τ → Option τ} {part : σ → τ} {fatal : ε → Bool}

/-- Some actions lead from one state to the other. -/
def Leads (step : ι → τ → Option τ) (x y : τ) : Prop := ∃ as, run step as x = some y

theorem Leads.refl (x : τ) : Leads step x x := ⟨[], rfl⟩

theorem Leads.trans {x y z : τ} (first : Leads step x y) (second : Leads step y z) :
    Leads step x z := by
  obtain ⟨as, first⟩ := first
  obtain ⟨bs, second⟩ := second
  exact ⟨as ++ bs, by rw [run_append, first]; exact second⟩

theorem Leads.single {x y : τ} {a : ι} (moved : step a x = some y) : Leads step x y :=
  ⟨[a], by rw [run_cons, moved]; rfl⟩

/-- What the program does to a part of the state, unless it raises something fatal, could have
been done by actions. -/
def Performs (step : ι → τ → Option τ) (part : σ → τ) (fatal : ε → Bool) (m : EStateM ε σ α) :
    Prop :=
  ∀ s, wp m (fun _ t => Leads step (part s) (part t))
    (fun e t => fatal e = true ∨ Leads step (part s) (part t)) s

namespace Performs

theorem of_same {m : EStateM ε σ α}
    (h : ∀ s, wp m (fun _ t => part t = part s) (fun _ t => part t = part s) s) :
    Performs step part fatal m := fun s =>
  (h s).mono (fun _ _ same => same ▸ Leads.refl _) fun _ _ same => .inr (same ▸ Leads.refl _)

theorem pure (a : α) : Performs step part fatal (Pure.pure a : EStateM ε σ α) :=
  of_same fun _ => rfl

theorem get : Performs step part fatal (MonadState.get : EStateM ε σ σ) := of_same fun _ => rfl

theorem bind {m : EStateM ε σ α} {f : α → EStateM ε σ β} (hm : Performs step part fatal m)
    (hf : ∀ a, Performs step part fatal (f a)) : Performs step part fatal (m >>= f) := by
  intro s
  rw [wp_bind]
  refine (hm s).mono (fun a t first => ?_) fun _ _ failed => failed
  exact (hf a t).mono (fun _ _ second => first.trans second)
    fun _ _ failed => failed.imp_right first.trans

/-- A program that is an action itself. -/
theorem action {m : EStateM ε τ α} (a : ι)
    (same : ∀ s t, survive fatal m s = some t → step a s = some t) :
    Performs step id fatal m := by
  intro s
  rw [wp_iff]
  constructor
  · intro b t done
    exact .single (same s t (survive_eq_some.2 (.inl ⟨b, done⟩)))
  · intro e t failed
    cases mild : fatal e with
    | true => exact .inl rfl
    | false => exact .inr (.single (same s t (survive_eq_some.2 (.inr ⟨e, mild, failed⟩))))

/-- Runs of such programs are runs of actions. -/
theorem leads {prog : ι' → EStateM ε σ α} (performs : ∀ b, Performs step part fatal (prog b))
    {bs : List ι'} {s t : σ} (reach : run (fun b => survive fatal (prog b)) bs s = some t) :
    Leads step (part s) (part t) := by
  induction bs generalizing s with
  | nil =>
    cases reach
    exact .refl _
  | cons b bs ih =>
    rw [run_cons, Option.bind_eq_some_iff] at reach
    obtain ⟨u, first, rest⟩ := reach
    have moved : Leads step (part s) (part u) := by
      rcases survive_wp (performs b s) first with ⟨_, done⟩ | ⟨e, mild, failed⟩
      · exact done
      · exact failed.resolve_left (by simp [mild])
    exact moved.trans (ih rest)

end Performs

end Performs

end ActionRuns
