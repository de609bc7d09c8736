import Mathlib.Data.List.Basic
import TagSchema.Tag.Error

/-!
# Outcomes of actions

Reading, writing and building are actions that may fail and change a state; a failed action keeps
the state it has reached. The laws below say what an action gives and where it ends, so that later
proofs never unfold the monad: introduction by `outcome_bind_ok` and its like, inversion by
`outcome_bind_eq_ok`.
-/

namespace TagSchema

variable {ε σ α β γ : Type}

/-- What an action gives when it starts in a state, and the state in which it ends. -/
def outcome (m : ExceptT ε (StateM σ) α) (s : σ) : Except ε α × σ := m.run.run s

/-- An outcome is known by its result. The state need not be computed for it. -/
theorem outcome_eq_of_fst {m : ExceptT ε (StateM σ) α} {s : σ} {r : Except ε α}
    (h : (outcome m s).1 = r) : outcome m s = (r, (outcome m s).2) := by
  rw [← h]

@[simp] theorem outcome_pure (a : α) (s : σ) :
    outcome (pure a : ExceptT ε (StateM σ) α) s = (.ok a, s) := rfl

@[simp] theorem outcome_get (s : σ) :
    outcome (get : ExceptT ε (StateM σ) σ) s = (.ok s, s) := rfl

@[simp] theorem outcome_set (s s' : σ) :
    outcome (set s' : ExceptT ε (StateM σ) PUnit) s = (.ok ⟨⟩, s') := rfl

@[simp] theorem outcome_liftM (r : Except ε α) (s : σ) :
    outcome (liftM r : ExceptT ε (StateM σ) α) s = (r, s) := rfl

/-! ### Sequencing -/

/-- What follows an action starts where it ends, unless it fails. -/
theorem outcome_bind (m : ExceptT ε (StateM σ) α) (f : α → ExceptT ε (StateM σ) β) (s : σ) :
    outcome (m >>= f) s =
      match outcome m s with
      | (.ok a, s') => outcome (f a) s'
      | (.error e, s') => (.error e, s') := by
  change ExceptT.bindCont f (outcome m s).1 (outcome m s).2 = _
  rcases outcome m s with ⟨_ | _, _⟩ <;> rfl

/-- What follows a success goes on from its state. -/
theorem outcome_bind_ok {m : ExceptT ε (StateM σ) α} {f : α → ExceptT ε (StateM σ) β} {s s' : σ}
    {a : α} (h : outcome m s = (.ok a, s')) : outcome (m >>= f) s = outcome (f a) s' := by
  rw [outcome_bind, h]

/-- A failure ends the run, with the state that it was left in. -/
theorem outcome_bind_error {m : ExceptT ε (StateM σ) α} {f : α → ExceptT ε (StateM σ) β}
    {s s' : σ} {e : ε} (h : outcome m s = (.error e, s')) :
    outcome (m >>= f) s = (.error e, s') := by
  rw [outcome_bind, h]

/-- Inversion for sequencing: both parts succeed. -/
theorem outcome_bind_eq_ok {m : ExceptT ε (StateM σ) α} {f : α → ExceptT ε (StateM σ) β}
    {s s'' : σ} {b : β} (h : outcome (m >>= f) s = (.ok b, s'')) :
    ∃ a s', outcome m s = (.ok a, s') ∧ outcome (f a) s' = (.ok b, s'') := by
  rw [outcome_bind] at h
  rcases hm : outcome m s with ⟨e | a, s'⟩
  · rw [hm] at h
    cases h
  · rw [hm] at h
    exact ⟨a, s', rfl, h⟩

/-- Inversion for the end of an action. -/
theorem outcome_pure_eq_ok {a b : α} {s s' : σ}
    (h : outcome (pure a : ExceptT ε (StateM σ) α) s = (.ok b, s')) : b = a ∧ s' = s := by
  cases h
  exact ⟨rfl, rfl⟩

/-! ### Computations that may fail -/

namespace Except

/-- Inversion for sequencing of computations that may fail. -/
theorem bind_eq_ok {m : Except ε α} {f : α → Except ε β} {b : β} (h : (m >>= f) = .ok b) :
    ∃ a, m = .ok a ∧ f a = .ok b := by
  cases m with
  | error e => cases h
  | ok a => exact ⟨a, rfl, h⟩

/-- A run succeeds exactly if each part does. -/
theorem bind_eq_ok_iff {m : Except ε α} {f : α → Except ε β} {b : β} :
    (m >>= f) = .ok b ↔ ∃ a, m = .ok a ∧ f a = .ok b :=
  ⟨bind_eq_ok, fun ⟨_, h, hf⟩ => by rw [h]; exact hf⟩

theorem map_eq_ok_iff {m : Except ε α} {f : α → β} {b : β} :
    m.map f = .ok b ↔ ∃ a, m = .ok a ∧ f a = b := by
  cases m with
  | error e => exact ⟨nofun, fun ⟨_, h, _⟩ => nomatch h⟩
  | ok a => exact ⟨fun h => ⟨a, rfl, Except.ok.inj h⟩, fun ⟨_, rfl, h⟩ => congrArg _ h⟩

/-- What is changed first is given to what follows as changed. -/
theorem map_bind (m : Except ε α) (f : α → β) (g : β → Except ε γ) :
    m.map f >>= g = m >>= fun a => g (f a) := by
  cases m <;> rfl

/-- The results of a list of computations can be changed one by one. -/
theorem mapM_map {f : α → Except ε β} {g : α → Except ε γ} {change : β → γ}
    (each : ∀ a, g a = (f a).map change) (l : List α) :
    l.mapM g = (l.mapM f).map (List.map change) := by
  induction l with
  | nil => rfl
  | cons a rest ih =>
    rw [List.mapM_cons, List.mapM_cons, each, ih]
    cases f a with
    | error e => rfl
    | ok b => cases rest.mapM f <;> rfl

theorem eq_ok_of_toOption {r : Except ε α} {a : α} (h : r.toOption = some a) : r = .ok a := by
  cases r with
  | error e => cases h
  | ok b => exact congrArg _ (Option.some.inj h)

end Except

/-! ### Failures in context -/

/-- Putting failures in context changes neither success nor the state. -/
theorem outcome_adapt (wrap : ε → ε) (m : ExceptT ε (StateM σ) α) (s : σ) :
    outcome (ExceptT.adapt wrap m) s = ((outcome m s).1.mapError wrap, (outcome m s).2) := rfl

/-- Wrapping errors leaves a success as it is. -/
theorem outcome_adapt_ok {wrap : ε → ε} {m : ExceptT ε (StateM σ) α} {s s' : σ} {a : α}
    (h : outcome m s = (.ok a, s')) : outcome (ExceptT.adapt wrap m) s = (.ok a, s') := by
  rw [outcome_adapt, h]
  rfl

theorem outcome_adapt_eq_ok {wrap : ε → ε} {m : ExceptT ε (StateM σ) α} {s s' : σ} {a : α}
    (h : outcome (ExceptT.adapt wrap m) s = (.ok a, s')) : outcome m s = (.ok a, s') := by
  rw [outcome_adapt] at h
  rcases hm : outcome m s with ⟨e | b, s₁⟩ <;> rw [hm] at h <;> cases h
  rfl

end TagSchema
