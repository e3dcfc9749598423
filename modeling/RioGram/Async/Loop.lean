import Mathlib.Data.List.Basic
import RioGram.Async.Task
import RioGram.Core.Transition

/-!
# Event loops

The tasks of a program that take turns on its shared state, and the calls whose replies the environment
still owes.  A step starts a computation, hands an update to the listener of the program and to the tasks
that wait for it, answers a task in another way (a timeout, a delay that is over), or lets a task that has
been answered go on.

* `run_keeps` — a protocol that all computations of the program keep holds in every state reached.
* `run_paired` — a call gets the reply to itself, if calls that take each other's replies do not overlap.
-/

namespace Async

open Transition

/-- A task that waits, or has been answered and not gone on yet.  A reply comes with the call it is the
reply to. -/
structure Waiter (σ ω ι : Type) where
  id : ℕ
  wait : ω
  answer : Option (ι × Option ℕ) := none
  write : ι → σ → σ
  rest : ι → σ → Task σ ω ι Unit

/-- The state of an event loop. -/
structure Loop (σ ω ι : Type) where
  shared : σ
  waiters : List (Waiter σ ω ι) := []
  calls : List (ℕ × ω) := []
  next : ℕ := 0

/-- A program: what can be started in it, what it does with an update, and what it waits for. -/
structure Program (σ ω ι υ κ : Type) where
  start : κ → Comp σ ω ι Unit
  update : υ → Comp σ ω ι Unit
  isCall : ω → Bool
  /-- The update is what is waited for. -/
  accepts : ω → υ → Bool
  reply : υ → ι
  /-- The answer can be given without an update. -/
  allows : ω → ι → Bool

inductive Event (ι υ κ : Type) where
  | start (c : κ)
  | update (u : υ) (call : Option ℕ)
  | answer (id : ℕ) (a : ι)
  | resume (id : ℕ)

variable {σ ω ι υ κ δ : Type}

/-- Has the waiter been waiting for the update? -/
def Waiter.takes (q : Waiter σ ω ι) (accepts : ω → υ → Bool) (u : υ) : Bool :=
  q.answer.isNone && accepts q.wait u

namespace Loop

/-- The loop after a computation has run to where it waits. -/
def suspend (isCall : ω → Bool) (l : Loop σ ω ι) (s : σ) : Task σ ω ι Unit → Loop σ ω ι
  | .done _ => { l with shared := s }
  | .await w write rest =>
      { shared := s
        waiters := l.waiters ++ [{ id := l.next, wait := w, write, rest }]
        calls := if isCall w then l.calls ++ [(l.next, w)] else l.calls
        next := l.next + 1 }

/-- The loop after a computation has been started. -/
def begin (isCall : ω → Bool) (l : Loop σ ω ι) (c : Comp σ ω ι Unit) : Loop σ ω ι :=
  l.suspend isCall (c l.shared).1 (c l.shared).2

/-- The loop after an update has been handed to the tasks that wait for it. -/
def deliver (accepts : ω → υ → Bool) (reply : υ → ι) (l : Loop σ ω ι) (u : υ) (call : Option ℕ) :
    Loop σ ω ι :=
  { l with
    waiters := l.waiters.map fun q =>
      if q.takes accepts u then { q with answer := some (reply u, call) } else q
    calls := l.calls.filter fun c => some c.1 ≠ call }

/-- The loop after a task has been answered without an update. -/
def settle (allows : ω → ι → Bool) (l : Loop σ ω ι) (id : ℕ) (a : ι) : Loop σ ω ι :=
  { l with
    waiters := l.waiters.map fun q =>
      if q.id = id ∧ q.answer.isNone ∧ allows q.wait a then { q with answer := some (a, none) } else q }

end Loop

/-- One step of a loop.  A reply has to be one to a call that has had none. -/
def step (p : Program σ ω ι υ κ) (l : Loop σ ω ι) : Event ι υ κ → Except Unit (Loop σ ω ι)
  | .start c => .ok (l.begin p.isCall (p.start c))
  | .update u call =>
      if call.all fun n => l.calls.any fun c => c.1 = n ∧ p.accepts c.2 u then
        .ok ((l.deliver p.accepts p.reply u call).begin p.isCall (p.update u))
      else .error ()
  | .answer id a => .ok (l.settle p.allows id a)
  | .resume id =>
      match l.waiters.find? (·.id = id) with
      | some q =>
          match q.answer with
          | some (a, _) =>
              .ok (({ l with waiters := l.waiters.filter (·.id ≠ id) }).suspend p.isCall
                (q.write a l.shared) (q.rest a l.shared))
          | none => .error ()
      | none => .error ()

/-! ## Protocols over runs -/

section Protocols

variable {p : Program σ ω ι υ κ} {P : Protocol σ ω ι δ}

/-- A waiting task that does not hold the lock keeps the protocol. -/
def Waiter.Idle (P : Protocol σ ω ι δ) (q : Waiter σ ω ι) : Prop :=
  (Task.await q.wait q.write q.rest).Keeps P (fun _ => View.Released) .free

/-- A waiting task that holds the lock keeps the protocol. -/
def Waiter.Holds (P : Protocol σ ω ι δ) (d : δ) (q : Waiter σ ω ι) : Prop :=
  (Task.await q.wait q.write q.rest).Keeps P (fun _ => View.Released) (.mine d)

/-- What a task that runs finds: the shared state as its view of the lock says, and the tasks that wait,
of which one holds the lock if another one than it does. -/
structure Loop.Seen (P : Protocol σ ω ι δ) (v : View δ) (l : Loop σ ω ι) : Prop where
  ids : ∀ q ∈ l.waiters, q.id < l.next
  sees : P.Sees v l.shared
  tasks : match v with
    | .other d => ∃ n < l.next, ∀ q ∈ l.waiters, if q.id = n then q.Holds P d else q.Idle P
    | _ => ∀ q ∈ l.waiters, q.Idle P

/-- No task runs, the shared state is as the protocol says, and so are the tasks that wait. -/
def Loop.Keeps (P : Protocol σ ω ι δ) (l : Loop σ ω ι) : Prop :=
  ∃ v : View δ, v.Released ∧ l.Seen P v

variable {l : Loop σ ω ι} {v v' : View δ}

/-- A task changes the shared state, and takes the lock or gives it back. -/
lemma Loop.Seen.move (h : l.Seen P v) (hmove : v.Moves v') {s : σ} (hsees : P.Sees v' s) :
    ({ l with shared := s } : Loop σ ω ι).Seen P v' := by
  refine ⟨h.ids, hsees, ?_⟩
  have htasks := h.tasks
  cases v <;> cases v' <;> simp_all [View.Moves]

/-- A task has run to where it waits, or to its end. -/
lemma Loop.Seen.suspend (h : l.Seen P v) {t : Task σ ω ι Unit}
    (ht : t.Keeps P (fun _ => View.Released) v) (isCall : ω → Bool) :
    (l.suspend isCall l.shared t).Keeps P := by
  cases t with
  | done a => exact ⟨v, ht, h⟩
  | await w write rest =>
      have hids : ∀ q ∈ (l.suspend isCall l.shared (.await w write rest)).waiters, q.id < l.next + 1 := by
        simp only [Loop.suspend, List.mem_append, List.mem_singleton]
        rintro q (hq | rfl)
        · exact Nat.lt_succ_of_lt (h.ids q hq)
        · exact Nat.lt_succ_self _
      have htasks := h.tasks
      cases v with
      | free =>
          refine ⟨.free, trivial, hids, h.sees, ?_⟩
          simp only [Loop.suspend, List.mem_append, List.mem_singleton]
          rintro q (hq | rfl)
          · exact htasks q hq
          · exact ht
      | other d =>
          rcases htasks with ⟨n, hn, htasks⟩
          refine ⟨.other d, trivial, hids, h.sees, n, Nat.lt_succ_of_lt hn, ?_⟩
          simp only [Loop.suspend, List.mem_append, List.mem_singleton]
          rintro q (hq | rfl)
          · exact htasks q hq
          · rw [if_neg (Nat.ne_of_gt hn)]
            exact ht.of_other
      | mine d =>
          -- from now on the new task is the one that holds the lock
          refine ⟨.other d, trivial, hids, h.sees, l.next, Nat.lt_succ_self _, ?_⟩
          simp only [Loop.suspend, List.mem_append, List.mem_singleton]
          rintro q (hq | rfl)
          · rw [if_neg (Nat.ne_of_lt (h.ids q hq))]
            exact htasks q hq
          · rw [if_pos rfl]
            exact ht

/-- A computation that keeps the protocol has been started. -/
lemma Loop.Seen.begin (h : l.Seen P v) {c : Comp σ ω ι Unit}
    (hc : c.KeepsAt P (fun _ => View.Released) v l.shared) (isCall : ω → Bool) :
    (l.begin isCall c).Keeps P := by
  rcases hc with ⟨v', hmove, hsees, hrest⟩
  exact (h.move hmove hsees).suspend hrest isCall

/-- Answers do not matter until the tasks go on. -/
lemma Loop.Seen.mark (h : l.Seen P v) {f : Waiter σ ω ι → Waiter σ ω ι} {calls : List (ℕ × ω)}
    (hf : ∀ q, ∃ a, f q = { q with answer := a }) :
    ({ l with waiters := l.waiters.map f, calls } : Loop σ ω ι).Seen P v := by
  refine ⟨?_, h.sees, ?_⟩
  · simp only [List.mem_map]
    rintro q ⟨q₀, hq₀, rfl⟩
    rcases hf q₀ with ⟨a, ha⟩
    rw [ha]
    exact h.ids q₀ hq₀
  · have hidle : ∀ q₀, (f q₀).Idle P ↔ q₀.Idle P := by
      intro q₀
      rcases hf q₀ with ⟨a, ha⟩
      rw [ha]
      rfl
    have hholds : ∀ d q₀, (f q₀).Holds P d ↔ q₀.Holds P d := by
      intro d q₀
      rcases hf q₀ with ⟨a, ha⟩
      rw [ha]
      rfl
    have hid : ∀ q₀, (f q₀).id = q₀.id := by
      intro q₀
      rcases hf q₀ with ⟨a, ha⟩
      rw [ha]
    have htasks := h.tasks
    cases v <;> simpa [hidle, hholds, hid] using htasks

lemma Loop.Seen.deliver (h : l.Seen P v) (accepts : ω → υ → Bool) (reply : υ → ι) (u : υ)
    (call : Option ℕ) : (l.deliver accepts reply u call).Seen P v := by
  refine h.mark fun q => ?_
  by_cases ht : q.takes accepts u
  · exact ⟨some (reply u, call), by simp [ht]⟩
  · exact ⟨q.answer, by simp [ht]⟩

lemma Loop.Seen.settle (h : l.Seen P v) (allows : ω → ι → Bool) (id : ℕ) (a : ι) :
    (l.settle allows id a).Seen P v := by
  refine h.mark fun q => ?_
  by_cases ht : q.id = id ∧ q.answer.isNone ∧ allows q.wait a
  · exact ⟨some (a, none), by simp [ht]⟩
  · exact ⟨q.answer, by rw [if_neg ht]⟩

/-- A task that has been answered goes on: with the lock if it holds it. -/
lemma Loop.Seen.resume (h : l.Seen P v) (hv : v.Released) {q : Waiter σ ω ι} (hq : q ∈ l.waiters)
    {a : ι} (ha : P.answers q.wait a l.shared) (isCall : ω → Bool) :
    (({ l with waiters := l.waiters.filter (·.id ≠ q.id) } : Loop σ ω ι).suspend isCall
      (q.write a l.shared) (q.rest a l.shared)).Keeps P := by
  have hids : ∀ r ∈ l.waiters.filter (·.id ≠ q.id), r.id < l.next :=
    fun r hr => h.ids r (List.mem_of_mem_filter hr)
  have htasks := h.tasks
  cases v with
  | free =>
      rcases htasks q hq .free trivial a l.shared ha h.sees with ⟨v₂, hmove, hsees, hrest⟩
      have hseen : ({ l with waiters := l.waiters.filter (·.id ≠ q.id) } : Loop σ ω ι).Seen P .free :=
        ⟨hids, h.sees, fun r hr => htasks r (List.mem_of_mem_filter hr)⟩
      exact (hseen.move hmove hsees).suspend hrest isCall
  | mine d => exact hv.elim
  | other d =>
      rcases htasks with ⟨n, hn, htasks⟩
      have hq' := htasks q hq
      by_cases hqn : q.id = n
      · rw [if_pos hqn] at hq'
        rcases hq' (.mine d) rfl a l.shared ha h.sees with ⟨v₂, hmove, hsees, hrest⟩
        have hseen :
            ({ l with waiters := l.waiters.filter (·.id ≠ q.id) } : Loop σ ω ι).Seen P (.mine d) := by
          refine ⟨hids, h.sees, fun r hr => ?_⟩
          have hr' := htasks r (List.mem_of_mem_filter hr)
          rwa [if_neg (by simpa [hqn] using (List.mem_filter.mp hr).2)] at hr'
        exact (hseen.move hmove hsees).suspend hrest isCall
      · rw [if_neg hqn] at hq'
        rcases hq' (.other d) trivial a l.shared ha h.sees with ⟨v₂, hmove, hsees, hrest⟩
        have hseen :
            ({ l with waiters := l.waiters.filter (·.id ≠ q.id) } : Loop σ ω ι).Seen P (.other d) :=
          ⟨hids, h.sees, n, hn, fun r hr => htasks r (List.mem_of_mem_filter hr)⟩
        exact (hseen.move hmove hsees).suspend hrest isCall

/-- What a program has to do for its loop to keep a protocol, in the steps that meet a condition. -/
structure Program.Keeps (p : Program σ ω ι υ κ) (P : Protocol σ ω ι δ)
    (ok : Loop σ ω ι → Event ι υ κ → Prop) : Prop where
  start : ∀ l c, ok l (.start c) → ∀ v : View δ, v.Released → P.Sees v l.shared →
    (p.start c).KeepsAt P (fun _ => View.Released) v l.shared
  update : ∀ l u call, ok l (.update u call) → ∀ v : View δ, v.Released → P.Sees v l.shared →
    (p.update u).KeepsAt P (fun _ => View.Released) v l.shared
  answers : ∀ l, ∀ q ∈ l.waiters, ok l (.resume q.id) → ∀ a call, q.answer = some (a, call) →
    P.answers q.wait a l.shared

variable {ok : Loop σ ω ι → Event ι υ κ → Prop}

/-- **The step rule**: one step of the loop keeps the protocol. -/
theorem step_keeps (hp : p.Keeps P ok) {e : Event ι υ κ} (h : l.Keeps P) (he : ok l e) :
    Yields (step p l e) (Loop.Keeps P) fun _ => True := by
  rcases h with ⟨v, hv, hseen⟩
  cases e with
  | start c => exact hseen.begin (hp.start l c he v hv hseen.sees) p.isCall
  | update u call =>
      simp only [step]
      split
      · exact (hseen.deliver p.accepts p.reply u call).begin
          (hp.update l u call he v hv hseen.sees) p.isCall
      · trivial
  | answer id a => exact ⟨v, hv, hseen.settle p.allows id a⟩
  | resume id =>
      simp only [step]
      split
      · next q hfind =>
          have hq := List.mem_of_find?_eq_some hfind
          have hid : q.id = id := by simpa using List.find?_some hfind
          subst hid
          split
          · next a call ha => exact hseen.resume hv hq (hp.answers l q hq he a call ha) p.isCall
          · trivial
      · trivial

/-- **Protocols over runs**: what the program keeps holds in every state a run reaches. -/
theorem run_keeps (hp : p.Keeps P ok) (h : l.Keeps P) {es : List (Event ι υ κ)}
    (hok : Meets (step p) ok l es) : Yields (run (step p) l es) (Loop.Keeps P) fun _ => True :=
  run_yields (fun _ _ hl he => step_keeps hp hl he) h hok

/-- A loop in which nothing has been started. -/
lemma Loop.keeps_idle {s : σ} (h : P.free s) : ({ shared := s } : Loop σ ω ι).Keeps P :=
  ⟨.free, trivial, by simp, h, by simp⟩

end Protocols

/-! ## Calls and their replies -/

section Calls

/-- No update can be the reply to two of the calls that have had none, if one of them is of the class. -/
def Loop.Apart (p : Program σ ω ι υ κ) (T : ω → Prop) (l : Loop σ ω ι) : Prop :=
  ∀ c ∈ l.calls, ∀ c' ∈ l.calls, T c.2 → c.1 ≠ c'.1 → ∀ u, p.accepts c.2 u → ¬ p.accepts c'.2 u

/-- The answer to a task that waits for the reply to a call is that reply, or was given without one. -/
def Waiter.Own (p : Program σ ω ι υ κ) (q : Waiter σ ω ι) : Prop :=
  ∀ a call, q.answer = some (a, call) →
    (call = some q.id ∧ ∃ u, p.accepts q.wait u ∧ a = p.reply u) ∨ (call = none ∧ p.allows q.wait a)

/-- Calls of the class that are waited for have had no reply, and those answered had their own. -/
structure Loop.Paired (p : Program σ ω ι υ κ) (T : ω → Prop) (l : Loop σ ω ι) : Prop where
  ids : ∀ q ∈ l.waiters, q.id < l.next
  fresh : ∀ c ∈ l.calls, c.1 < l.next
  unique : ∀ c ∈ l.calls, ∀ c' ∈ l.calls, c.1 = c'.1 → c = c'
  owed : ∀ q ∈ l.waiters, T q.wait → q.answer = none → (q.id, q.wait) ∈ l.calls
  own : ∀ q ∈ l.waiters, T q.wait → q.Own p

variable {p : Program σ ω ι υ κ} {T : ω → Prop} {l : Loop σ ω ι}

lemma Loop.Paired.suspend (h : l.Paired p T) (hT : ∀ w, T w → p.isCall w) (s : σ)
    (t : Task σ ω ι Unit) : (l.suspend p.isCall s t).Paired p T := by
  cases t with
  | done a => exact ⟨h.ids, h.fresh, h.unique, h.owed, h.own⟩
  | await w write rest =>
      have hcalls : ∀ c ∈ (l.suspend p.isCall s (.await w write rest)).calls,
          c ∈ l.calls ∨ c = (l.next, w) := by
        simp only [Loop.suspend]
        split
        · simp
        · exact fun c hc => .inl hc
      have hold : ∀ c ∈ l.calls, c ∈ (l.suspend p.isCall s (.await w write rest)).calls := by
        simp only [Loop.suspend]
        split
        · exact fun c hc => List.mem_append_left _ hc
        · exact fun c hc => hc
      refine ⟨?_, ?_, ?_, ?_, ?_⟩
      · simp only [Loop.suspend, List.mem_append, List.mem_singleton]
        rintro q (hq | rfl)
        · exact Nat.lt_succ_of_lt (h.ids q hq)
        · exact Nat.lt_succ_self _
      · intro c hc
        rcases hcalls c hc with hc | rfl
        · exact Nat.lt_succ_of_lt (h.fresh c hc)
        · exact Nat.lt_succ_self _
      · intro c hc c' hc' heq
        rcases hcalls c hc with hc | rfl <;> rcases hcalls c' hc' with hc' | rfl
        · exact h.unique c hc c' hc' heq
        · exact absurd heq (Nat.ne_of_lt (h.fresh c hc))
        · exact absurd heq (Nat.ne_of_gt (h.fresh c' hc'))
        · rfl
      · intro q hq hTq hnone
        rcases List.mem_append.mp hq with hq | hq
        · exact hold _ (h.owed q hq hTq hnone)
        · rcases List.mem_singleton.mp hq with rfl
          simp [Loop.suspend, hT w hTq]
      · intro q hq hTq
        rcases List.mem_append.mp hq with hq | hq
        · exact h.own q hq hTq
        · rcases List.mem_singleton.mp hq with rfl
          simp [Waiter.Own]

/-- **A reply goes to the call it is the reply to**, if no other call can take it. -/
lemma Loop.Paired.deliver (h : l.Paired p T) (hapart : l.Apart p T) {u : υ} {call : Option ℕ}
    (hcall : ∀ n, call = some n → ∃ c ∈ l.calls, c.1 = n ∧ p.accepts c.2 u)
    (hnone : call = none → ∀ w, T w → ¬ p.accepts w u) :
    (l.deliver p.accepts p.reply u call).Paired p T := by
  have htakes : ∀ q ∈ l.waiters, T q.wait → q.answer = none → p.accepts q.wait u →
      call = some q.id := by
    intro q hq hTq hans hacc
    cases call with
    | none => exact absurd hacc (hnone rfl _ hTq)
    | some n =>
        rcases hcall n rfl with ⟨c, hc, rfl, hacc'⟩
        by_cases hid : q.id = c.1
        · rw [hid]
        · exact absurd hacc' (hapart _ (h.owed q hq hTq hans) c hc hTq hid u hacc)
  refine ⟨?_, ?_, ?_, ?_, ?_⟩
  · simp only [Loop.deliver, List.mem_map]
    rintro q ⟨q₀, hq₀, rfl⟩
    have := h.ids q₀ hq₀
    split <;> exact this
  · exact fun c hc => h.fresh c (List.mem_of_mem_filter hc)
  · exact fun c hc c' hc' => h.unique c (List.mem_of_mem_filter hc) c' (List.mem_of_mem_filter hc')
  · simp only [Loop.deliver, List.mem_map]
    rintro q ⟨q₀, hq₀, rfl⟩
    split
    · simp
    · next ht =>
        intro hTq hans
        have howed := h.owed q₀ hq₀ hTq hans
        refine List.mem_filter.mpr ⟨howed, ?_⟩
        rw [decide_eq_true_iff]
        rintro rfl
        -- the call that has had the reply is this one, so it takes the update
        rcases hcall _ rfl with ⟨c, hc, hid, hacc⟩
        rw [h.unique c hc _ howed hid] at hacc
        exact ht (by simp [Waiter.takes, hans, hacc])
  · simp only [Loop.deliver, List.mem_map]
    rintro q ⟨q₀, hq₀, rfl⟩
    split
    · next ht =>
        intro hTq a n heq
        simp only [Waiter.takes, Bool.and_eq_true, Option.isNone_iff_eq_none] at ht
        simp only [Option.some.injEq, Prod.mk.injEq] at heq
        exact .inl ⟨by rw [← heq.2]; exact htakes q₀ hq₀ hTq ht.1 ht.2, u, ht.2, heq.1.symm⟩
    · exact h.own q₀ hq₀

lemma Loop.Paired.settle (h : l.Paired p T) (id : ℕ) (a : ι) :
    (l.settle p.allows id a).Paired p T := by
  refine ⟨?_, h.fresh, h.unique, ?_, ?_⟩
  · simp only [Loop.settle, List.mem_map]
    rintro q ⟨q₀, hq₀, rfl⟩
    have := h.ids q₀ hq₀
    split <;> exact this
  · simp only [Loop.settle, List.mem_map]
    rintro q ⟨q₀, hq₀, rfl⟩
    split
    · simp
    · exact h.owed q₀ hq₀
  · simp only [Loop.settle, List.mem_map]
    rintro q ⟨q₀, hq₀, rfl⟩
    split
    · next hset =>
        intro hTq b call heq
        simp only [Option.some.injEq, Prod.mk.injEq] at heq
        rcases heq with ⟨rfl, rfl⟩
        exact .inr ⟨rfl, hset.2.2⟩
    · exact h.own q₀ hq₀

/-- **The step rule**: calls of the class keep getting their own replies, if none of them can take the
reply to another call, or an update that is not a reply. -/
theorem step_paired (hT : ∀ w, T w → p.isCall w) (h : l.Paired p T) (hapart : l.Apart p T)
    {e : Event ι υ κ} (he : ∀ u, e = .update u none → ∀ w, T w → ¬ p.accepts w u) :
    Yields (step p l e) (Loop.Paired p T) fun _ => True := by
  cases e with
  | start c => exact h.suspend hT _ _
  | update u call =>
      simp only [step]
      split
      · next hguard =>
          refine (h.deliver hapart ?_ ?_).suspend hT _ _
          · rintro n rfl
            simpa using hguard
          · rintro rfl
            exact he u rfl
      · trivial
  | answer id a => exact h.settle id a
  | resume id =>
      simp only [step]
      split
      · next q hfind =>
          split
          · have hrest : ({ l with waiters := l.waiters.filter (·.id ≠ id) } : Loop σ ω ι).Paired p T :=
              ⟨fun r hr => h.ids r (List.mem_of_mem_filter hr), h.fresh, h.unique,
                fun r hr => h.owed r (List.mem_of_mem_filter hr),
                fun r hr => h.own r (List.mem_of_mem_filter hr)⟩
            exact hrest.suspend hT _ _
          · trivial
      · trivial

/-- **Calls over runs**: while no two calls without a reply can take one update, each gets its own. -/
theorem run_paired (hT : ∀ w, T w → p.isCall w) (h : l.Paired p T) {es : List (Event ι υ κ)}
    (hok : Meets (step p) (fun l e => l.Apart p T ∧
      ∀ u, e = .update u none → ∀ w, T w → ¬ p.accepts w u) l es) :
    Yields (run (step p) l es) (Loop.Paired p T) fun _ => True :=
  run_yields (fun _ _ hl he => step_paired hT hl he.1 he.2) h hok

lemma Loop.paired_idle {s : σ} : ({ shared := s } : Loop σ ω ι).Paired p T :=
  ⟨by simp, by simp, by simp, by simp, by simp⟩

end Calls

end Async
