import Mathlib.Tactic.TypeStar
import Mathlib.Data.List.Basic
import Mathlib.Data.List.Induction
import Mathlib.Tactic.SplitIfs

/-!
# States that a step function reaches

A step function that always gives a state is run on any events that a condition lets through, which may
depend on the state: `Reachable step ok start` are the states that it gets to.

* `Reachable.invariant` is the induction over runs, done once.
* `Meets.invariant` is the same for a run that is given as a list, and for each of its steps.
* `foldl_view` is what a run does to something that the events change by themselves, `foldl_flag_iff` what it does to
  a flag that some of its steps set and others clear.
* `Reachable.run` and `Meets` are for runs that are given as a list, `Reachable.meets_iff` and `meets_iff_meets`
  for conditions that agree and `forall_prefix_iff_meets` for what holds all along one.
-/

namespace Reaching

variable {σ ε : Type*} {step : σ → ε → σ} {ok ok' : σ → ε → Prop} {start s : σ}

/-- The states of the runs from `start` whose steps all meet the condition. -/
inductive Reachable (step : σ → ε → σ) (ok : σ → ε → Prop) (start : σ) : σ → Prop where
  | start : Reachable step ok start start
  | next {s : σ} {e : ε} (h : Reachable step ok start s) (he : ok s e) :
      Reachable step ok start (step s e)

/-- **The invariant rule**: what holds at the start and is preserved by every step that meets the
condition holds wherever the steps lead. -/
theorem Reachable.invariant {I : σ → Prop} (h : Reachable step ok start s) (hstart : I start)
    (hstep : ∀ s e, I s → ok s e → I (step s e)) : I s := by
  induction h with
  | start => exact hstart
  | next _ he ih => exact hstep _ _ ih he

/-- Every step of the run from `s` meets the condition. -/
def Meets (step : σ → ε → σ) (ok : σ → ε → Prop) (s : σ) : List ε → Prop
  | [] => True
  | e :: es => ok s e ∧ Meets step ok (step s e) es

instance Meets.decidable [∀ s e, Decidable (ok s e)] : ∀ (s : σ) (es : List ε), Decidable (Meets step ok s es)
  | _, [] => isTrue trivial
  | s, e :: es =>
      haveI := Meets.decidable (step s e) es
      inferInstanceAs (Decidable (ok s e ∧ Meets step ok (step s e) es))

lemma Reachable.run (h : Reachable step ok start s) {es : List ε} (hes : Meets step ok s es) :
    Reachable step ok start (es.foldl step s) := by
  induction es generalizing s with
  | nil => exact h
  | cons e es ih => exact ih (h.next hes.1) hes.2

lemma meets_true (s : σ) (es : List ε) : Meets step (fun _ _ => True) s es := by
  induction es generalizing s with
  | nil => trivial
  | cons e es ih => exact ⟨trivial, ih _⟩

/-- What an invariant that the steps of the run keep says of each of them, and of where they lead. -/
theorem Meets.invariant {I : σ → Prop} {p : σ → ε → Prop} {es : List ε} (h : Meets step ok s es) (hs : I s)
    (hstep : ∀ s e, I s → ok s e → I (step s e)) (hp : ∀ s e, I s → ok s e → p s e) :
    Meets step p s es ∧ I (es.foldl step s) := by
  induction es generalizing s with
  | nil => exact ⟨trivial, hs⟩
  | cons e es ih =>
      rcases ih h.2 (hstep s e hs h.1) with ⟨hrest, hlast⟩
      exact ⟨⟨hp s e hs h.1, hrest⟩, hlast⟩

/-- What only some of the events change, each without looking at the rest, is where those events lead. -/
lemma foldl_view {π : Type*} {view : σ → π} {touches : ε → Bool} {change : π → ε → π}
    (hstep : ∀ s e, view (step s e) = if touches e then change (view s) e else view s) (es : List ε) :
    view (es.foldl step s) = (es.filter touches).foldl change (view s) := by
  induction es generalizing s with
  | nil => rfl
  | cons e es ih =>
      rw [List.foldl_cons, ih, hstep, List.filter_cons]
      split_ifs
      · rfl
      · rfl

/-- A list that ends in an element, cut at one: it is the last one, or one before it. -/
lemma append_singleton_cases {es before after : List ε} {last e : ε} (h : es ++ [last] = before ++ e :: after) :
    (es = before ∧ last = e ∧ after = []) ∨ ∃ rest, after = rest ++ [last] ∧ es = before ++ e :: rest := by
  rcases List.eq_nil_or_concat' after with rfl | ⟨rest, e', rfl⟩
  · rcases List.append_inj' h rfl with ⟨hes, hlast⟩
    exact .inl ⟨hes, List.singleton_inj.mp hlast, rfl⟩
  · rw [← List.cons_append, ← List.append_assoc] at h
    rcases List.append_inj' h rfl with ⟨hes, hlast⟩
    exact .inr ⟨rest, by rw [List.singleton_inj.mp hlast], hes⟩

/-- A flag that some steps set and others clear is off at the end of a run exactly if every step that set it had one
after it that cleared it. -/
theorem foldl_flag_iff {flag : σ → Bool} {sets clears : σ → ε → Bool}
    (hstep : ∀ s e, flag (step s e) = (sets s e || flag s && !clears s e)) (hs : flag s = false) (es : List ε) :
    flag (es.foldl step s) = false ↔ ∀ before e after, es = before ++ e :: after → sets (before.foldl step s) e →
      ∃ middle e' rest, after = middle ++ e' :: rest ∧ clears ((before ++ e :: middle).foldl step s) e' := by
  induction es using List.reverseRecOn with
  | nil => simp [hs]
  | append_singleton es last ih =>
      rw [List.foldl_append, List.foldl_cons, List.foldl_nil, hstep, Bool.or_eq_false_iff, Bool.and_eq_false_iff,
        Bool.not_eq_false']
      constructor
      · rintro ⟨hsets, hflag⟩ before e after hes hset
        rcases append_singleton_cases hes with ⟨rfl, rfl, rfl⟩ | ⟨rest, rfl, rfl⟩
        · rw [hset] at hsets
          cases hsets
        · rcases hflag with hflag | hclears
          · rcases ih.mp hflag before e rest rfl hset with ⟨middle, e', rest, rfl, hcleared⟩
            exact ⟨middle, e', rest ++ [last], by simp, hcleared⟩
          · exact ⟨rest, last, [], rfl, hclears⟩
      · intro h
        constructor
        · rw [Bool.eq_false_iff]
          intro hset
          rcases h es last [] rfl hset with ⟨middle, e', rest, hnil, -⟩
          simp at hnil
        · rw [or_iff_not_imp_right]
          intro hclears
          refine ih.mpr fun before e after hes hset => ?_
          rcases h before e (after ++ [last]) (by rw [hes]; simp) hset with ⟨middle, e', rest, hafter, hcleared⟩
          rcases append_singleton_cases hafter with ⟨rfl, rfl, -⟩ | ⟨rest, -, hrest⟩
          · rw [hes] at hclears
            exact absurd hcleared hclears
          · exact ⟨middle, e', rest, hrest, hcleared⟩

/-- Conditions that agree in what is reached agree about the runs. -/
theorem Reachable.meets_iff {p q : σ → ε → Prop} (h : Reachable step ok start s) {es : List ε}
    (hes : Meets step ok s es) (hiff : ∀ s e, Reachable step ok start s → ok s e → (p s e ↔ q s e)) :
    Meets step p s es ↔ Meets step q s es := by
  induction es generalizing s with
  | nil => exact Iff.rfl
  | cons e es ih => exact and_congr (hiff s e h hes.1) (ih (h.next hes.1) hes.2)

/-- Conditions that agree wherever an invariant holds, which steps that meet one of them keep, agree about the
runs. -/
theorem meets_iff_meets {I : σ → Prop} {p q : σ → ε → Prop} (hiff : ∀ s e, I s → (p s e ↔ q s e))
    (hstep : ∀ s e, I s → p s e → I (step s e)) (hs : I s) (es : List ε) :
    Meets step p s es ↔ Meets step q s es := by
  induction es generalizing s with
  | nil => exact Iff.rfl
  | cons e es ih =>
      rw [Meets, Meets, ← hiff s e hs]
      exact and_congr_right fun he => ih (hstep s e hs he)

/-- Where a step keeps what holds exactly if it meets the condition, it holds all along a run exactly if every
step of the run does.  The invariant is kept wherever it holds. -/
theorem forall_prefix_iff_meets_of_invariant {I J : σ → Prop}
    (hstep : ∀ s e, I s → J s → (I (step s e) ↔ ok s e) ∧ J (step s e)) (hs : I s) (hinv : J s) (es : List ε) :
    (∀ before, before <+: es → I (before.foldl step s)) ↔ Meets step ok s es := by
  induction es generalizing s with
  | nil =>
      refine iff_of_true ?_ trivial
      intro before hbefore
      rw [List.prefix_nil.mp hbefore]
      exact hs
  | cons e es ih =>
      obtain ⟨hiff, hinvnext⟩ := hstep s e hs hinv
      constructor
      · intro h
        have hnext : I (step s e) := h [e] ⟨es, rfl⟩
        refine ⟨hiff.mp hnext, (ih hnext hinvnext).mp fun before hbefore => ?_⟩
        exact h (e :: before) (List.cons_prefix_cons.mpr ⟨rfl, hbefore⟩)
      · rintro ⟨he, hes⟩ before hbefore
        have hnext : I (step s e) := hiff.mpr he
        cases before with
        | nil => exact hs
        | cons e' before =>
            rcases List.cons_prefix_cons.mp hbefore with ⟨rfl, hrest⟩
            exact (ih hnext hinvnext).mpr hes before hrest

theorem forall_prefix_iff_meets {I : σ → Prop} (hstep : ∀ s e, I s → (I (step s e) ↔ ok s e)) (hs : I s)
    (es : List ε) : (∀ before, before <+: es → I (before.foldl step s)) ↔ Meets step ok s es :=
  forall_prefix_iff_meets_of_invariant (J := fun _ => True) (fun s e h _ => ⟨hstep s e h, trivial⟩) hs trivial es

end Reaching
