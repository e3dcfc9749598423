import Mathlib.Data.List.Nodup
import Mathlib.Logic.Function.Basic

/-!
# Lists that stand for maps

A list whose elements have a key stands for a partial map from keys to elements, if it has every key at most
once.

* `Represents` says which map a list stands for.
* `Represents.put` and `Represents.remove` are what replacing and removing the element with a key do.
-/

namespace Keyed

variable {α κ : Type*} [DecidableEq κ] {key : α → κ} {l : List α} {f : κ → Option α}

def lookup (key : α → κ) (k : κ) (l : List α) : Option α := l.find? (key · == k)

/-- The elements with other keys. -/
def without (key : α → κ) (k : κ) (l : List α) : List α := l.filter (key · != k)

/-- The list has every key at most once, and with it what the map has for the key. -/
structure Represents (key : α → κ) (l : List α) (f : κ → Option α) : Prop where
  nodup : (l.map key).Nodup
  lookup_eq : ∀ k, lookup key k l = f k

lemma represents_of_nodup (h : (l.map key).Nodup) : Represents key l fun k => lookup key k l :=
  ⟨h, fun _ => rfl⟩

lemma lookup_cons (k : κ) (a : α) (l : List α) :
    lookup key k (a :: l) = if key a = k then some a else lookup key k l := by
  rw [lookup, List.find?_cons]
  by_cases h : key a = k
  · simp [h]
  · have hother : (key a == k) = false := by simpa using h
    simp only [hother, if_neg h]
    rfl

/-- A list that stands for the map of another one is empty only if that one is. -/
lemma Represents.nil_of_nil (h : Represents key l fun k => lookup key k ([] : List α)) : l = [] := by
  cases l with
  | nil => rfl
  | cons a l =>
      have hfirst := h.lookup_eq (key a)
      rw [lookup_cons, if_pos rfl] at hfirst
      cases hfirst

lemma lookup_append (k : κ) (l l' : List α) :
    lookup key k (l ++ l') = (lookup key k l).or (lookup key k l') :=
  List.find?_append

/-- The element with a key is found, if no other one has it. -/
lemma lookup_of_mem (h : (l.map key).Nodup) {a : α} (ha : a ∈ l) : lookup key (key a) l = some a := by
  induction l with
  | nil => cases ha
  | cons b l ih =>
      rw [List.map_cons, List.nodup_cons] at h
      rw [lookup_cons]
      rcases List.mem_cons.mp ha with rfl | hmem
      · rw [if_pos rfl]
      · have hne : key b ≠ key a := fun heq => h.1 (heq ▸ List.mem_map_of_mem hmem)
        rw [if_neg hne, ih h.2 hmem]

lemma mem_of_lookup {k : κ} {a : α} (h : lookup key k l = some a) : a ∈ l ∧ key a = k :=
  ⟨List.mem_of_find?_eq_some h, by simpa using List.find?_some h⟩

lemma lookup_eq_some_iff (h : (l.map key).Nodup) {k : κ} {a : α} :
    lookup key k l = some a ↔ a ∈ l ∧ key a = k := by
  refine ⟨mem_of_lookup, ?_⟩
  rintro ⟨hmem, rfl⟩
  exact lookup_of_mem h hmem

/-- In whatever order the elements are, they stand for the same map. -/
lemma Represents.perm {l' : List α} (h : Represents key l f) (hperm : l.Perm l') : Represents key l' f := by
  have hnodup : (l'.map key).Nodup := (hperm.map key).nodup_iff.mp h.nodup
  refine ⟨hnodup, fun k => ?_⟩
  rw [← h.lookup_eq k]
  apply Option.ext
  intro a
  rw [lookup_eq_some_iff hnodup, lookup_eq_some_iff h.nodup, hperm.mem_iff]

/-- A list stands for one map only. -/
lemma Represents.iff_eq {g : κ → Option α} (h : Represents key l f) : Represents key l g ↔ f = g := by
  constructor
  · intro hg
    funext k
    rw [← h.lookup_eq k, hg.lookup_eq k]
  · rintro rfl
    exact h

/-! ## Removing and putting -/

lemma without_cons (k : κ) (a : α) (l : List α) :
    without key k (a :: l) = if key a = k then without key k l else a :: without key k l := by
  simp only [without, List.filter_cons, bne_iff_ne, ne_eq]
  by_cases h : key a = k
  · simp [h]
  · simp [h]

lemma mem_without {k : κ} {a : α} : a ∈ without key k l ↔ a ∈ l ∧ key a ≠ k := by
  rw [without, List.mem_filter, bne_iff_ne]

lemma lookup_eq_none_iff {k : κ} : lookup key k l = none ↔ ∀ a ∈ l, key a ≠ k := by
  simp [lookup]

lemma lookup_without (k k' : κ) (l : List α) :
    lookup key k' (without key k l) = if k' = k then none else lookup key k' l := by
  induction l with
  | nil => simp [lookup, without]
  | cons a l ih =>
      rw [without_cons]
      split_ifs with ha hk hk
      · rw [ih, if_pos hk]
      · rw [ih, if_neg hk, lookup_cons, if_neg (ha ▸ Ne.symm hk)]
      · rw [lookup_cons, if_neg (hk ▸ ha), ih, if_pos hk]
      · rw [lookup_cons, lookup_cons, ih, if_neg hk]

lemma without_of_lookup_none {k : κ} (h : lookup key k l = none) : without key k l = l := by
  refine List.filter_eq_self.mpr fun a ha => ?_
  have hne := List.find?_eq_none.mp h a ha
  simpa using hne

lemma nodup_without (k : κ) (h : (l.map key).Nodup) : ((without key k l).map key).Nodup :=
  h.sublist (List.filter_sublist.map key)

lemma not_mem_without (k : κ) (l : List α) : k ∉ (without key k l).map key := by
  simp only [List.mem_map, without, List.mem_filter, bne_iff_ne]
  rintro ⟨a, ⟨-, ha⟩, hk⟩
  exact ha hk

/-- The element with a key, and the others. -/
lemma perm_without (h : (l.map key).Nodup) {k : κ} {a : α} (ha : lookup key k l = some a) :
    (a :: without key k l).Perm l := by
  induction l with
  | nil => cases ha
  | cons b l ih =>
      rw [List.map_cons, List.nodup_cons] at h
      rw [lookup_cons] at ha
      rw [without_cons]
      split_ifs at ha ⊢ with hb
      · cases ha
        rw [without_of_lookup_none]
        rw [lookup_eq_none_iff]
        rintro c hc rfl
        exact h.1 (hb ▸ List.mem_map_of_mem hc)
      · exact (List.Perm.swap b a _).trans ((ih h.2 ha).cons b)

lemma Represents.remove (h : Represents key l f) (k : κ) :
    Represents key (without key k l) (Function.update f k none) := by
  refine ⟨nodup_without k h.nodup, fun k' => ?_⟩
  rw [lookup_without, Function.update_apply, h.lookup_eq]

lemma Represents.put (h : Represents key l f) (a : α) :
    Represents key (without key (key a) l ++ [a]) (Function.update f (key a) (some a)) := by
  refine ⟨?_, fun k => ?_⟩
  · rw [List.map_append, List.nodup_append]
    refine ⟨nodup_without _ h.nodup, List.nodup_singleton _, ?_⟩
    rintro k hk _ hmem rfl
    rw [List.map_singleton, List.mem_singleton] at hmem
    exact not_mem_without (key a) l (hmem ▸ hk)
  · rw [lookup_append, lookup_without, lookup_cons, Function.update_apply]
    split_ifs with hk ha ha
    · rfl
    · exact absurd hk.symm ha
    · exact absurd ha.symm hk
    · rw [h.lookup_eq]
      exact Option.or_none

end Keyed
