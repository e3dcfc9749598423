import Mathlib.Data.List.Basic

/-!
# Processes that take turns

Any number of processes run on one shared state: each has a state of its own, and in its turn it changes that
and the shared one.  A `Pool` is the shared state with the processes in the order in which they came, and a
`Move` brings in a process or gives one its turn, so that a list of moves is any interleaving.

* `Pool.forall_step` is the rule for what holds of each process beside the shared state: a turn makes it hold of
  the process whose turn it is, and does not end it for the others.
* `OnlyAt` says that no process but one is in a section that they are to be in one at a time.
-/

namespace Interleaving

variable {σ π κ ε : Type*}

structure Pool (σ π : Type*) where
  shared : σ
  processes : List π := []

inductive Move (κ ε : Type*) where
  | start (k : κ)
  | advance (i : ℕ) (e : ε)

/-- What holds of every process holds after a turn, if it holds of the one whose turn it was. -/
lemma forall_mem_set {Q : π → Prop} {processes : List π} (h : ∀ process ∈ processes, Q process) (i : ℕ) {process : π}
    (hprocess : Q process) : ∀ other ∈ processes.set i process, Q other := by
  intro other hother
  rcases List.mem_or_eq_of_mem_set hother with hold | rfl
  · exact h other hold
  · exact hprocess

namespace Pool

/-- A new process, or the turn of the one that came as the `i`-th. -/
def step (enter : σ → κ → π) (resume : σ → π → ε → σ × π) (p : Pool σ π) : Move κ ε → Pool σ π
  | .start k => { p with processes := p.processes ++ [enter p.shared k] }
  | .advance i e =>
      match p.processes[i]? with
      | none => p
      | some process =>
          ⟨(resume p.shared process e).1, p.processes.set i (resume p.shared process e).2⟩

variable {enter : σ → κ → π} {resume : σ → π → ε → σ × π} {p : Pool σ π}

lemma step_advance_of_none {i : ℕ} (h : p.processes[i]? = none) (e : ε) :
    p.step enter resume (.advance i e) = p := by
  rw [step, h]

lemma step_advance_of_some {i : ℕ} {process : π} (h : p.processes[i]? = some process) (e : ε) :
    p.step enter resume (.advance i e) =
      ⟨(resume p.shared process e).1, p.processes.set i (resume p.shared process e).2⟩ := by
  rw [step, h]

/-- **The rule for processes**: what holds of every process stays so, if a new one has it, one that takes its
turn keeps it, and no turn of one takes it from the others. -/
theorem forall_step {Q : σ → π → Prop} (h : ∀ process ∈ p.processes, Q p.shared process)
    (henter : ∀ k, Q p.shared (enter p.shared k))
    (hresume : ∀ process e, Q p.shared process →
      Q (resume p.shared process e).1 (resume p.shared process e).2)
    (hothers : ∀ process e other, Q p.shared process → Q p.shared other →
      Q (resume p.shared process e).1 other) (move : Move κ ε) :
    ∀ process ∈ (p.step enter resume move).processes, Q (p.step enter resume move).shared process := by
  cases move with
  | start k =>
      intro process hprocess
      rcases List.mem_append.mp hprocess with hold | hnew
      · exact h process hold
      · rw [List.mem_singleton.mp hnew]
        exact henter k
  | advance i e =>
      cases hi : p.processes[i]? with
      | none =>
          rw [step_advance_of_none hi]
          exact h
      | some current =>
          rw [step_advance_of_some hi]
          have hcurrent := h current (List.mem_of_getElem? hi)
          exact forall_mem_set (fun process hprocess => hothers current e process hcurrent (h process hprocess)) i
            (hresume current e hcurrent)

end Pool

/-! ### One at a time -/

/-- No process is inside but the one at the place, if there is one. -/
def OnlyAt (inside : π → Prop) (place : Option ℕ) (processes : List π) : Prop :=
  ∀ i process, processes[i]? = some process → inside process → place = some i

namespace OnlyAt

variable {inside : π → Prop} {place : Option ℕ} {processes : List π} {i : ℕ} {process : π}

lemma notInside (h : OnlyAt inside none processes) (hi : processes[i]? = some process) : ¬inside process :=
  fun hinside => nomatch h i process hi hinside

/-- A process that comes is outside. -/
lemma append (h : OnlyAt inside place processes) (hprocess : ¬inside process) :
    OnlyAt inside place (processes ++ [process]) := by
  intro i other hi hother
  rw [List.getElem?_append] at hi
  split_ifs at hi
  · exact h i other hi hother
  · rw [List.mem_singleton.mp (List.mem_of_getElem? hi)] at hother
    exact absurd hother hprocess

/-- A process whose turn ends outside. -/
lemma set (h : OnlyAt inside place processes) (i : ℕ) (hprocess : ¬inside process) :
    OnlyAt inside place (processes.set i process) := by
  intro j other hj hother
  rw [List.getElem?_set] at hj
  split_ifs at hj
  · rw [Option.some_inj.mp hj] at hprocess
    exact absurd hother hprocess
  · exact h j other hj hother

/-- The process that is inside goes on there. -/
lemma stay (h : OnlyAt inside (some i) processes) (process : π) :
    OnlyAt inside (some i) (processes.set i process) := by
  intro j other hj hother
  by_cases hij : i = j
  · rw [hij]
  · rw [List.getElem?_set_ne hij] at hj
    exact h j other hj hother

/-- A process goes in where none is. -/
lemma enter (h : OnlyAt inside none processes) (i : ℕ) (process : π) :
    OnlyAt inside (some i) (processes.set i process) :=
  stay (fun _ _ hj hother => absurd hother (h.notInside hj)) process

/-- The process that is inside goes out, and none is. -/
lemma leave (h : OnlyAt inside (some i) processes) (hprocess : ¬inside process) :
    OnlyAt inside none (processes.set i process) := by
  intro j other hj hother
  rw [List.getElem?_set] at hj
  split_ifs at hj with hij
  · rw [Option.some_inj.mp hj] at hprocess
    exact absurd hother hprocess
  · exact absurd (Option.some_inj.mp (h j other hj hother)) hij

end OnlyAt

end Interleaving
