import Mathlib.Tactic.Common

/-!
# Asynchronous computations

A computation of an event loop runs on a shared state until it has to wait for something; then other
computations run, and when there is an answer it goes on, on the state as it is then.

`Protocol` is the logic for such computations.  A protocol says what holds of the shared state while no
task holds its lock, and what holds while one does; what the holder knows, and nobody else changes, is
the ghost value it holds the lock with.  `Comp.Keeps` is the specification of a computation under a
protocol, in terms of what it sees of the lock (`View`); it is closed under the ways computations are put
together, so that each function of a program has one specification, and its callers use that.

A protocol without a lock is an invariant: `Protocol.invariant`.
-/

namespace Async

/-- What is left of a computation: its result, or what it waits for and what it does with the answer. -/
inductive Task (σ ω ι α : Type) where
  | done (a : α)
  | await (w : ω) (write : ι → σ → σ) (rest : ι → σ → Task σ ω ι α)

/-- A computation, which runs on the shared state until it has to wait. -/
def Comp (σ ω ι α : Type) : Type := σ → σ × Task σ ω ι α

variable {σ ω ι α β : Type}

/-- What is left of two computations in a row. -/
@[grind =]
def Task.bind : Task σ ω ι α → (α → Comp σ ω ι β) → Comp σ ω ι β
  | .done a, f => f a
  | .await w write rest, f => fun s =>
      (s, .await w (fun i s => ((rest i s).bind f (write i s)).1)
        (fun i s => ((rest i s).bind f (write i s)).2))

namespace Comp

instance : Monad (Comp σ ω ι) where
  pure a := fun s => (s, .done a)
  bind c f := fun s => (c s).2.bind f (c s).1

/-- The shared state as it is now. -/
def get : Comp σ ω ι σ := fun s => (s, .done s)

/-- A change of the shared state. -/
def modify (f : σ → σ) : Comp σ ω ι Unit := fun s => (f s, .done ())

/-- Waits for an answer. -/
def wait (w : ω) : Comp σ ω ι ι := fun s => (s, .await w (fun _ s => s) (fun i _ => .done i))

lemma bind_apply (c : Comp σ ω ι α) (f : α → Comp σ ω ι β) (s : σ) :
    (c >>= f) s = (c s).2.bind f (c s).1 := rfl

end Comp

lemma Task.bind_pure (t : Task σ ω ι α) (s : σ) : t.bind pure s = (s, t) := by
  induction t generalizing s with
  | done a => rfl
  | await w write rest ih => simp [Task.bind, ih]

lemma Task.bind_assoc {γ : Type} (t : Task σ ω ι α) (f : α → Comp σ ω ι β) (g : β → Comp σ ω ι γ) (s : σ) :
    (t.bind f s).2.bind g (t.bind f s).1 = t.bind (fun a => f a >>= g) s := by
  induction t generalizing s with
  | done a => rfl
  | await w write rest ih => simp [Task.bind, ih]

instance : LawfulMonad (Comp σ ω ι) :=
  LawfulMonad.mk' (Comp σ ω ι)
    (fun c => funext fun s => (c s).2.bind_pure (c s).1)
    (fun _ _ => rfl)
    (fun c f g => funext fun s => (c s).2.bind_assoc f g (c s).1)

/-! ## Protocols -/

/-- What holds of the shared state while the lock is free and while it is held, and what is known of the
answers to what is waited for. -/
structure Protocol (σ ω ι δ : Type) where
  free : σ → Prop
  held : δ → σ → Prop
  answers : ω → ι → σ → Prop := fun _ _ _ => True

/-- What a task sees of the lock. -/
inductive View (δ : Type) where
  | free
  | other (d : δ)
  | mine (d : δ)

variable {δ : Type}

/-- What a task may do to the lock while it runs: take it if it is free, and change what it holds, or
give it back. -/
@[grind =]
def View.Moves : View δ → View δ → Prop
  | .free, .free => True
  | .free, .mine _ => True
  | .mine _, .mine _ => True
  | .mine _, .free => True
  | .other d, .other d' => d = d'
  | _, _ => False

/-- What others may do to the lock while a task waits. -/
@[grind =]
def View.Waits : View δ → View δ → Prop
  | .mine d, .mine d' => d = d'
  | .mine _, _ => False
  | _, .mine _ => False
  | _, _ => True

/-- The task does not hold the lock. -/
@[grind =]
def View.Released : View δ → Prop
  | .mine _ => False
  | _ => True

@[simp] lemma View.Moves.refl (v : View δ) : v.Moves v := by
  cases v <;> simp [View.Moves]

lemma View.Moves.trans {u v w : View δ} (h : u.Moves v) (h' : v.Moves w) : u.Moves w := by
  cases u <;> cases v <;> cases w <;> simp_all [View.Moves]

@[simp] lemma View.Waits.refl (v : View δ) : v.Waits v := by
  cases v <;> simp [View.Waits]

lemma View.Waits.trans {u v w : View δ} (h : u.Waits v) (h' : v.Waits w) : u.Waits w := by
  cases u <;> cases v <;> cases w <;> simp_all [View.Waits]

lemma View.Waits.released {u v : View δ} (h : u.Waits v) (hu : u.Released) : v.Released := by
  cases u <;> cases v <;> simp_all [View.Waits, View.Released]

namespace Protocol

variable (P : Protocol σ ω ι δ)

/-- What holds of the shared state in a view. -/
def Sees : View δ → σ → Prop
  | .free => P.free
  | .other d => P.held d
  | .mine d => P.held d

/-- An invariant, as a protocol whose lock is never taken. -/
def invariant (I : σ → Prop) : Protocol σ ω ι Empty where
  free := I
  held := nofun

variable {I : σ → Prop}

/-- What preserves the invariant preserves what is seen of it. -/
lemma sees_invariant {g : σ → σ} (hg : ∀ s, I s → I (g s)) (v : View Empty) (s : σ)
    (h : (invariant I : Protocol σ ω ι Empty).Sees v s) :
    (invariant I : Protocol σ ω ι Empty).Sees v (g s) := by
  cases v with
  | free => exact hg s h
  | other d => exact d.elim
  | mine d => exact d.elim

end Protocol

/-- What is left of a computation keeps the protocol, whatever happens while it waits, and its result
satisfies `Q`. -/
def Task.Keeps (P : Protocol σ ω ι δ) (Q : α → View δ → Prop) : Task σ ω ι α → View δ → Prop
  | .done a, v => Q a v
  | .await w write rest, v => ∀ v₁, v.Waits v₁ → ∀ i s, P.answers w i s → P.Sees v₁ s →
      ∃ v₂, v₁.Moves v₂ ∧ P.Sees v₂ (write i s) ∧ (rest i s).Keeps P Q v₂

/-- The computation keeps the protocol from a state on. -/
def Comp.KeepsAt (P : Protocol σ ω ι δ) (Q : α → View δ → Prop) (c : Comp σ ω ι α) (v : View δ)
    (s : σ) : Prop :=
  ∃ v', v.Moves v' ∧ P.Sees v' (c s).1 ∧ (c s).2.Keeps P Q v'

/-- **The specification of a computation**: it keeps the protocol from every state it can start in. -/
def Comp.Keeps (P : Protocol σ ω ι δ) (Q : α → View δ → Prop) (c : Comp σ ω ι α) (v : View δ) : Prop :=
  ∀ s, P.Sees v s → c.KeepsAt P Q v s

variable {P : Protocol σ ω ι δ} {Q R : α → View δ → Prop} {T : β → View δ → Prop} {v : View δ} {s : σ}

lemma Task.Keeps.mono {t : Task σ ω ι α} (h : t.Keeps P Q v) (hQ : ∀ a v, Q a v → R a v) :
    t.Keeps P R v := by
  induction t generalizing v with
  | done a => exact hQ a v h
  | await w write rest ih =>
      intro v₁ hwait i s hanswer hsees
      rcases h v₁ hwait i s hanswer hsees with ⟨v₂, hmove, hsees', hrest⟩
      exact ⟨v₂, hmove, hsees', ih i s hrest⟩

/-- Who does not hold the lock when it starts to wait may find it free or taken in any case. -/
lemma Task.Keeps.of_other {w : ω} {write : ι → σ → σ} {rest : ι → σ → Task σ ω ι α} {d : δ}
    (h : (Task.await w write rest).Keeps P Q (.other d)) :
    (Task.await w write rest).Keeps P Q .free := by
  intro v₁ hwait
  cases v₁ with
  | mine d' => exact hwait.elim
  | free => exact h .free trivial
  | other d' => exact h (.other d') trivial

lemma Task.Keeps.bind {t : Task σ ω ι α} {f : α → Comp σ ω ι β} (h : t.Keeps P Q v)
    (hf : ∀ a v, Q a v → (f a).Keeps P T v) (hs : P.Sees v s) : (t.bind f).KeepsAt P T v s := by
  induction t generalizing v s with
  | done a => exact hf a v h s hs
  | await w write rest ih =>
      refine ⟨v, View.Moves.refl v, hs, ?_⟩
      intro v₁ hwait i s hanswer hsees
      rcases h v₁ hwait i s hanswer hsees with ⟨v₂, hmove, hsees', hrest⟩
      rcases ih i s hrest hsees' with ⟨v₃, hmove', hsees'', hrest'⟩
      exact ⟨v₃, hmove.trans hmove', hsees'', hrest'⟩

namespace Comp

lemma KeepsAt.bind {c : Comp σ ω ι α} {f : α → Comp σ ω ι β} (h : c.KeepsAt P Q v s)
    (hf : ∀ a v, Q a v → (f a).Keeps P T v) : (c >>= f).KeepsAt P T v s := by
  rcases h with ⟨v₁, hmove, hsees, hrest⟩
  rcases hrest.bind hf hsees with ⟨v₂, hmove', hsees', hrest'⟩
  exact ⟨v₂, hmove.trans hmove', hsees', hrest'⟩

/-- **The rule for sequences.** -/
lemma Keeps.bind {c : Comp σ ω ι α} {f : α → Comp σ ω ι β} (h : c.Keeps P Q v)
    (hf : ∀ a v, Q a v → (f a).Keeps P T v) : (c >>= f).Keeps P T v :=
  fun s hs => (h s hs).bind hf

lemma KeepsAt.mono {c : Comp σ ω ι α} (h : c.KeepsAt P Q v s) (hQ : ∀ a v, Q a v → R a v) :
    c.KeepsAt P R v s := by
  rcases h with ⟨v₁, hmove, hsees, hrest⟩
  exact ⟨v₁, hmove, hsees, hrest.mono hQ⟩

lemma Keeps.mono {c : Comp σ ω ι α} (h : c.Keeps P Q v) (hQ : ∀ a v, Q a v → R a v) : c.Keeps P R v :=
  fun s hs => (h s hs).mono hQ

lemma keepsAt_pure {a : α} (hs : P.Sees v s) (h : Q a v) : (pure a : Comp σ ω ι α).KeepsAt P Q v s :=
  ⟨v, View.Moves.refl v, hs, h⟩

lemma keeps_pure {a : α} (h : Q a v) : (pure a : Comp σ ω ι α).Keeps P Q v :=
  fun _ hs => keepsAt_pure hs h

/-- What follows a look at the shared state may use that it is that state. -/
lemma keepsAt_get_bind {f : σ → Comp σ ω ι β} (h : (f s).KeepsAt P T v s) :
    (get >>= f).KeepsAt P T v s := h

/-- A change of the shared state, which may take the lock or give it back. -/
lemma keepsAt_modify_bind {g : σ → σ} {f : Unit → Comp σ ω ι β} {v' : View δ} (hmove : v.Moves v')
    (h : (f ()).KeepsAt P T v' (g s)) : (modify g >>= f).KeepsAt P T v s := by
  rcases h with ⟨v₂, hmove', hsees, hrest⟩
  exact ⟨v₂, hmove.trans hmove', hsees, hrest⟩

lemma keepsAt_modify {g : σ → σ} {Q : Unit → View δ → Prop} {v' : View δ} (hmove : v.Moves v')
    (hs : P.Sees v' (g s)) (h : Q () v') : (modify g : Comp σ ω ι Unit).KeepsAt P Q v s :=
  ⟨v', hmove, hs, h⟩

/-- A computation that runs to its end without a wait. -/
lemma keepsAt_done_bind {c : Comp σ ω ι α} {f : α → Comp σ ω ι β} {a : α} {s' : σ}
    (hc : c s = (s', .done a)) (h : (f a).KeepsAt P T v s') : (c >>= f).KeepsAt P T v s := by
  simpa only [KeepsAt, bind_apply, hc, Task.bind] using h

/-- A change that does not touch what the view is about. -/
lemma keeps_modify {g : σ → σ} {Q : Unit → View δ → Prop} (hs : ∀ s, P.Sees v s → P.Sees v (g s))
    (h : Q () v) : (modify g : Comp σ ω ι Unit).Keeps P Q v :=
  fun s hsees => keepsAt_modify (View.Moves.refl v) (hs s hsees) h

/-- What follows a wait starts from whatever there is then. -/
lemma keeps_wait_bind {w : ω} {f : ι → Comp σ ω ι β}
    (h : ∀ v₁, v.Waits v₁ → ∀ i s, P.answers w i s → P.Sees v₁ s → (f i).KeepsAt P T v₁ s) :
    (wait w >>= f).Keeps P T v := by
  intro s hs
  exact ⟨v, View.Moves.refl v, hs, fun v₁ hwait i s hanswer hsees => h v₁ hwait i s hanswer hsees⟩

/-! ## Computations that leave the lock alone -/

/-- The computation keeps the protocol and leaves the lock to whoever holds it. -/
def Quiet (P : Protocol σ ω ι δ) (c : Comp σ ω ι α) : Prop :=
  ∀ v, c.Keeps P (fun _ v' => v.Waits v') v

lemma quiet_pure (a : α) : (pure a : Comp σ ω ι α).Quiet P := fun v => keeps_pure (View.Waits.refl v)

lemma quiet_get : (get : Comp σ ω ι σ).Quiet P := fun v _ hs => keepsAt_pure hs (View.Waits.refl v)

lemma quiet_modify {g : σ → σ} (h : ∀ v s, P.Sees v s → P.Sees v (g s)) :
    (modify g : Comp σ ω ι Unit).Quiet P :=
  fun v => keeps_modify (h v) (View.Waits.refl v)

lemma quiet_wait (w : ω) : (wait w : Comp σ ω ι ι).Quiet P := by
  intro v s hs
  exact ⟨v, View.Moves.refl v, hs, fun v₁ hwait i s _ hsees => ⟨v₁, View.Moves.refl v₁, hsees, hwait⟩⟩

lemma Quiet.bind {c : Comp σ ω ι α} {f : α → Comp σ ω ι β} (h : c.Quiet P)
    (hf : ∀ a, (f a).Quiet P) : (c >>= f).Quiet P := by
  intro v
  refine (h v).bind fun a v' hwait => ?_
  exact (hf a v').mono fun b v'' hwait' => hwait.trans hwait'

lemma Quiet.ite {b : Prop} [Decidable b] {c c' : Comp σ ω ι α} (h : c.Quiet P) (h' : c'.Quiet P) :
    (if b then c else c').Quiet P := by
  split
  · exact h
  · exact h'

/-- The computation keeps the protocol, and who starts it without the lock ends it without the lock. -/
def Releases (P : Protocol σ ω ι δ) (c : Comp σ ω ι α) : Prop :=
  ∀ v : View δ, v.Released → c.Keeps P (fun _ => View.Released) v

lemma Quiet.releases {c : Comp σ ω ι α} (h : c.Quiet P) : c.Releases P :=
  fun v hv => (h v).mono fun _ _ hwait => hwait.released hv

lemma Releases.bind {c : Comp σ ω ι α} {f : α → Comp σ ω ι β} (h : c.Releases P)
    (hf : ∀ a, (f a).Releases P) : (c >>= f).Releases P :=
  fun v hv => (h v hv).bind fun a v' hv' => hf a v' hv'

lemma Releases.ite {b : Prop} [Decidable b] {c c' : Comp σ ω ι α} (h : c.Releases P)
    (h' : c'.Releases P) : (if b then c else c').Releases P := by
  split
  · exact h
  · exact h'

end Comp

end Async
