import Mathlib.Data.List.Basic

/-!
# Runs of a step function that may fail

A handler gives the next state or fails with a reason: it is a computation in `Except κ`.
`Yields x Q K` is its specification: a result satisfies `Q` and a failure satisfies `K`, so that
"preserves the invariant" and "does not fail this way" are proved in one pass.  It is closed under the
ways handlers are put together.

`run step` takes one event after another.  `Meets ok` says that every step of a run satisfies a
condition on the state before it and the event; `run_yields` is the induction over runs, done once.
-/

namespace Transition

variable {σ ε κ α β : Type*}

/-! ## Specifications of handlers -/

/-- A result of `x` satisfies `Q`, a failure satisfies `K`. -/
def Yields (x : Except κ α) (Q : α → Prop) (K : κ → Prop) : Prop :=
  match x with
  | .ok a => Q a
  | .error k => K k

variable {x : Except κ α} {P Q : α → Prop} {K L : κ → Prop}

@[simp] lemma yields_ok (a : α) : Yields (.ok a : Except κ α) Q K ↔ Q a := Iff.rfl

@[simp] lemma yields_error (k : κ) : Yields (.error k : Except κ α) Q K ↔ K k := Iff.rfl

lemma Yields.result (h : Yields x Q K) {a : α} (hx : x = .ok a) : Q a := by
  subst hx
  exact h

lemma Yields.mono (h : Yields x P K) (hQ : ∀ a, P a → Q a) : Yields x Q K := by
  cases x with
  | error k => exact h
  | ok a => exact hQ a h

lemma Yields.and (hP : Yields x P K) (hQ : Yields x Q L) : Yields x (fun a => P a ∧ Q a) K := by
  cases x with
  | error k => exact hP
  | ok a => exact ⟨hP, hQ⟩

/-- **The rule for sequences**: what follows starts from what the first computation has given. -/
lemma Yields.bind {f : α → Except κ β} {R : β → Prop} (h : Yields x Q K)
    (hf : ∀ a, x = .ok a → Q a → Yields (f a) R K) : Yields (x.bind f) R K := by
  cases x with
  | error k => exact h
  | ok a => exact hf a rfl h

lemma Yields.map {f : α → β} {R : β → Prop} (h : Yields x (fun a => R (f a)) K) :
    Yields (x.map f) R K := by
  cases x with
  | error k => exact h
  | ok a => exact h

/-! ## Runs -/

variable (step : σ → ε → Except κ σ)

/-- One event after another. -/
def run (s : σ) : List ε → Except κ σ
  | [] => .ok s
  | e :: es => (step s e).bind fun t => run t es

/-- Every step of the run from `s` satisfies `ok` in the state it starts from. -/
def Meets (ok : σ → ε → Prop) (s : σ) : List ε → Prop
  | [] => True
  | e :: es => ok s e ∧ ∀ t, step s e = .ok t → Meets ok t es

variable {step} {ok : σ → ε → Prop} {I : σ → Prop}

/-- **The invariant rule**: what every step that meets the condition preserves holds at the end of
every run whose steps meet it, and a run fails only as its steps do. -/
theorem run_yields (hstep : ∀ s e, I s → ok s e → Yields (step s e) I K) {s : σ} (hs : I s)
    {es : List ε} (hok : Meets step ok s es) : Yields (run step s es) I K := by
  induction es generalizing s with
  | nil => exact hs
  | cons e es ih =>
      refine (hstep s e hs hok.1).bind ?_
      intro t ht hI
      exact ih hI (hok.2 t ht)

lemma Meets.mono {ok' : σ → ε → Prop} {s : σ} {es : List ε} (h : Meets step ok s es)
    (hok : ∀ s e, ok s e → ok' s e) : Meets step ok' s es := by
  induction es generalizing s with
  | nil => exact trivial
  | cons e es ih => exact ⟨hok s e h.1, fun t ht => ih (h.2 t ht)⟩

/-- The condition holds of the events in any state. -/
lemma meets_of_forall {es : List ε} (h : ∀ e ∈ es, ∀ s, ok s e) (s : σ) : Meets step ok s es := by
  induction es generalizing s with
  | nil => exact trivial
  | cons e es ih =>
      exact ⟨h e List.mem_cons_self s, fun t _ => ih (fun e' he' => h e' (List.mem_cons_of_mem e he')) t⟩

/-- A run without a condition on its steps. -/
lemma meets_true (s : σ) (es : List ε) : Meets step (fun _ _ => True) s es :=
  meets_of_forall (fun _ _ _ => trivial) s

/-- One run after another. -/
lemma meets_append {s : σ} {es es' : List ε} (h : Meets step ok s es)
    (h' : ∀ t, run step s es = .ok t → Meets step ok t es') : Meets step ok s (es ++ es') := by
  induction es generalizing s with
  | nil => exact h' s rfl
  | cons e es ih =>
      refine ⟨h.1, fun t ht => ih (h.2 t ht) fun t' ht' => h' t' ?_⟩
      simpa [run, ht, Except.bind] using ht'

/-- A condition on the steps of a run, as a computation. -/
def checks (step : σ → ε → Except κ σ) (check : σ → ε → Bool) (s : σ) : List ε → Bool
  | [] => true
  | e :: es => check s e && (step s e).toOption.all fun t => checks step check t es

lemma meets_of_checks {check : σ → ε → Bool} (h : ∀ s e, check s e → ok s e) {s : σ} {es : List ε}
    (hes : checks step check s es) : Meets step ok s es := by
  induction es generalizing s with
  | nil => exact trivial
  | cons e es ih =>
      simp only [checks, Bool.and_eq_true] at hes
      refine ⟨h s e hes.1, fun t ht => ih ?_⟩
      simpa [ht, Except.toOption] using hes.2

/-- A run that gets to where something can be read off. -/
lemma exists_of_read {x : Except κ α} {f : α → β} {b : β} (h : x.toOption.map f = some b) :
    ∃ a, x = .ok a ∧ f a = b := by
  cases x with
  | error k => simp [Except.toOption] at h
  | ok a => exact ⟨a, rfl, by simpa [Except.toOption] using h⟩

end Transition
