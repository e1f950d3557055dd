import LumpRules.Event
import Mathlib.Data.List.Forall2
import Mathlib.Tactic.Common

/-!
# Outcomes of steps in a row

How a computation that may fail came to its result: `bind_eq_ok` and `bind_eq_error` take two steps
in a row apart.  A computation that also tells events has the outcome of its steps, whatever the
events are; the lemmas `run_value_bind` and its like bring its outcome into the form of plain steps
in a row.  `foldlM_induction` and `run_value_mapM_eq_ok` say what a loop has done that came to its
end.  `Fails` says of such a computation that it ends in an error, and `fails_bind` and its like say
which of its steps is to blame.  `Follows` compares two computations by their results, whatever
they fail with and tell on the way.
-/

namespace LumpRules

variable {ε ε' α β : Type}

/-- Two steps in a row succeed when the first does and the second does with its result. -/
theorem bind_eq_ok {x : Except ε α} {f : α → Except ε β} {b : β} :
  (x >>= f) = .ok b ↔ ∃ a, x = .ok a ∧ f a = .ok b
  := by
  cases x with
  | error error => simp [bind, Except.bind]
  | ok a => simp [bind, Except.bind]

/-- Two steps in a row fail when the first does, or the second does with its result. -/
theorem bind_eq_error {x : Except ε α} {f : α → Except ε β} {error : ε} :
  (x >>= f) = .error error ↔ x = .error error ∨ ∃ a, x = .ok a ∧ f a = .error error
  := by
  cases x with
  | error error => simp [bind, Except.bind]
  | ok a => simp [bind, Except.bind]

theorem mapError_eq_ok {x : Except ε α} {f : ε → ε'} {a : α} :
  x.mapError f = .ok a ↔ x = .ok a
  := by
  cases x <;> simp [Except.mapError]

@[simp]
theorem run_value_pure (a : α) :
  (pure a : ExceptT ε Logged α).run.value = .ok a
  := rfl

@[simp]
theorem run_value_bind (x : ExceptT ε Logged α) (f : α → ExceptT ε Logged β) :
  (x >>= f).run.value = x.run.value >>= fun a => (f a).run.value
  := by
  rw [ExceptT.run_bind, Logged.value_bind]
  cases x.run.value <;> rfl

@[simp]
theorem run_value_adapt (x : ExceptT ε Logged α) (f : ε → ε') :
  (x.adapt f).run.value = x.run.value.mapError f
  := rfl

/-- The outcome of a loop is a loop of the outcomes of its steps. -/
@[simp]
theorem run_value_foldlM (step : β → α → ExceptT ε Logged β) (start : β) (items : List α) :
  (items.foldlM step start).run.value =
    items.foldlM (fun state item => (step state item).run.value) start
  := by
  induction items generalizing start with
  | nil => rfl
  | cons item items ih =>
    rw [List.foldlM_cons, List.foldlM_cons, run_value_bind]
    simp only [ih]

/-! ### Success -/

/-- What holds of the items done and of the state holds of all items and the last state, if each
step keeps it. -/
theorem foldlM_induction {P : List α → β → Prop} {step : β → α → ExceptT ε Logged β}
    {start final : β} {items : List α}
    (hstep : ∀ done state item next, P done state → (step state item).run.value = .ok next →
      P (done ++ [item]) next)
    (hstart : P [] start) (h : (items.foldlM step start).run.value = .ok final) :
  P items final
  := by
  suffices hrest : ∀ done state, P done state →
      (items.foldlM step state).run.value = .ok final → P (done ++ items) final from
    hrest [] start hstart h
  clear hstart h
  induction items with
  | nil =>
    intro done state hdone h
    obtain rfl := Except.ok.inj h
    rwa [List.append_nil]
  | cons item items ih =>
    intro done state hdone h
    rw [List.foldlM_cons, run_value_bind, bind_eq_ok] at h
    obtain ⟨next, hnext, h⟩ := h
    rw [← List.singleton_append, ← List.append_assoc]
    apply ih _ _ (hstep _ _ _ _ hdone hnext) h

/-- The results of a step for each of some items belong to the items one by one. -/
theorem run_value_mapM_eq_ok {f : α → ExceptT ε Logged β} {items : List α} {results : List β} :
  (items.mapM f).run.value = .ok results ↔
    List.Forall₂ (fun item result => (f item).run.value = .ok result) items results
  := by
  induction items generalizing results with
  | nil =>
    rw [List.mapM_nil, run_value_pure, List.forall₂_nil_left_iff, Except.ok.injEq, eq_comm]
  | cons item items ih =>
    simp only [List.mapM_cons, run_value_bind, bind_eq_ok, run_value_pure, Except.ok.injEq, ih,
      List.forall₂_cons_left_iff]
    constructor
    · rintro ⟨result, hresult, others, hothers, rfl⟩
      exact ⟨result, others, hresult, hothers, rfl⟩
    · rintro ⟨result, others, hresult, hothers, rfl⟩
      exact ⟨result, hresult, others, hothers, rfl⟩

/-! ### Failure -/

/-- A computation that ends in an error. -/
def Fails (x : ExceptT ε Logged α) : Prop :=
  ∃ error, x.run.value = .error error

@[simp]
theorem not_fails_pure (a : α) :
  ¬ Fails (pure a : ExceptT ε Logged α)
  := by
  simp [Fails]

@[simp]
theorem fails_throw (error : ε) :
  Fails (throw error : ExceptT ε Logged α)
  := by
  use error
  rfl

@[simp]
theorem not_fails_lift (x : Logged α) :
  ¬ Fails (ExceptT.lift x : ExceptT ε Logged α)
  := by
  simp [Fails]

/-- Two steps in a row fail when the first does or the second does with its result. -/
theorem fails_bind {x : ExceptT ε Logged α} {f : α → ExceptT ε Logged β} :
  Fails (x >>= f) ↔ Fails x ∨ ∃ a, x.run.value = .ok a ∧ Fails (f a)
  := by
  rw [Fails, Fails, run_value_bind]
  cases x.run.value with
  | error error => simp [bind, Except.bind]
  | ok a => simp [bind, Except.bind, Fails]

/-- The failure of a step that does not depend on the result of the one before. -/
theorem fails_bind_iff {x : ExceptT ε Logged α} {f : α → ExceptT ε Logged β} {P : Prop}
    (h : ∀ a, Fails (f a) ↔ P) :
  Fails (x >>= f) ↔ Fails x ∨ P
  := by
  rw [fails_bind]
  simp only [h]
  cases hx : x.run.value with
  | error error => simp [Fails, hx]
  | ok a => simp [Fails, hx]

/-- A step without failure is passed over. -/
theorem fails_bind_pure {x : ExceptT ε Logged α} {f : α → β} :
  Fails (x >>= fun a => pure (f a)) ↔ Fails x
  := by
  rw [fails_bind_iff (P := False) (by simp), or_false]

@[simp]
theorem fails_map {x : ExceptT ε Logged α} {f : α → β} :
  Fails (f <$> x) ↔ Fails x
  := by
  rw [map_eq_pure_bind, fails_bind_pure]

/-- A loop whose steps fail whatever the state is fails when some step does. -/
theorem fails_foldlM {step : β → α → ExceptT ε Logged β} {P : α → Prop}
    (h : ∀ state item, Fails (step state item) ↔ P item) (start : β) (items : List α) :
  Fails (items.foldlM step start) ↔ ∃ item ∈ items, P item
  := by
  induction items generalizing start with
  | nil => simp
  | cons item items ih =>
    rw [List.foldlM_cons, fails_bind_iff fun state => ih state, h]
    simp only [List.mem_cons, exists_eq_or_imp]

theorem fails_mapM (f : α → ExceptT ε Logged β) (items : List α) :
  Fails (items.mapM f) ↔ ∃ item ∈ items, Fails (f item)
  := by
  induction items with
  | nil => simp
  | cons item items ih =>
    rw [List.mapM_cons, fails_bind_iff fun _ => fails_bind_pure, ih]
    simp only [List.mem_cons, exists_eq_or_imp]

/-! ### Results of two computations -/

/-- A computation that ends with every result that another one ends with. -/
def Follows (y x : ExceptT ε Logged α) : Prop :=
  ∀ a, x.run.value = .ok a → y.run.value = .ok a

theorem Follows.refl (x : ExceptT ε Logged α) :
  Follows x x
  := fun _ h => h

/-- What fails is followed by anything. -/
theorem follows_throw (y : ExceptT ε Logged α) (error : ε) :
  Follows y (throw error)
  := by
  intro a h
  contradiction

theorem Follows.bind {x y : ExceptT ε Logged α} {f g : α → ExceptT ε Logged β}
    (h : Follows y x) (hfg : ∀ a, Follows (g a) (f a)) :
  Follows (y >>= g) (x >>= f)
  := by
  intro b hb
  rw [run_value_bind, bind_eq_ok] at hb ⊢
  obtain ⟨a, ha, hb⟩ := hb
  use a, h a ha, hfg a b hb

theorem Follows.map {x y : ExceptT ε Logged α} (h : Follows y x) (f : α → β) :
  Follows (f <$> y) (f <$> x)
  := by
  rw [map_eq_pure_bind, map_eq_pure_bind]
  apply h.bind
  intro a
  apply Follows.refl

variable {γ : Type} {R : α → γ → Prop} {items : List α} {items' : List γ}

theorem follows_foldlM {step : β → α → ExceptT ε Logged β} {step' : β → γ → ExceptT ε Logged β}
    (h : ∀ state item item', R item item' → Follows (step' state item') (step state item))
    (hitems : List.Forall₂ R items items') (start : β) :
  Follows (items'.foldlM step' start) (items.foldlM step start)
  := by
  induction hitems generalizing start with
  | nil => apply Follows.refl
  | cons hitem _ ih =>
    rw [List.foldlM_cons, List.foldlM_cons]
    apply Follows.bind (h start _ _ hitem)
    apply ih

theorem follows_mapM {f : α → ExceptT ε Logged β} {g : γ → ExceptT ε Logged β}
    (h : ∀ item item', R item item' → Follows (g item') (f item))
    (hitems : List.Forall₂ R items items') :
  Follows (items'.mapM g) (items.mapM f)
  := by
  induction hitems with
  | nil => apply Follows.refl
  | cons hitem _ ih =>
    rw [List.mapM_cons, List.mapM_cons]
    apply Follows.bind (h _ _ hitem)
    intro result
    apply Follows.bind ih
    intro results
    apply Follows.refl

end LumpRules
