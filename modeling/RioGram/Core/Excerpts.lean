import Mathlib.Data.List.Basic
import Mathlib.Data.List.Nodup

/-!
# Excerpts

A text of fragments, before and after each of which something is left out: `whole` is the text, `excerpt` what is
kept of it, and `places` are where that stands in the text.

* `gap_before`, `gap_after` — the places are no neighbours where something is left out between them.
-/

namespace Excerpts

variable {α : Type*}

structure Fragment (α : Type*) where
  before : List α := []
  kept : List α
  after : List α := []

def Fragment.all (p : Fragment α) : List α := p.before ++ (p.kept ++ p.after)

def whole (ps : List (Fragment α)) : List α := ps.flatMap Fragment.all

def excerpt (ps : List (Fragment α)) : List α := ps.flatMap Fragment.kept

/-- Where what is kept stands in a text that begins at `start`. -/
def places : ℕ → List (Fragment α) → List ℕ
  | _, [] => []
  | start, p :: ps => List.range' (start + p.before.length) p.kept.length ++ places (start + p.all.length) ps

variable {ps l r : List (Fragment α)} {p : Fragment α} {start i : ℕ}

@[simp] lemma whole_nil : whole ([] : List (Fragment α)) = [] := rfl

@[simp] lemma whole_cons : whole (p :: ps) = p.all ++ whole ps := rfl

@[simp] lemma excerpt_nil : excerpt ([] : List (Fragment α)) = [] := rfl

@[simp] lemma excerpt_cons : excerpt (p :: ps) = p.kept ++ excerpt ps := rfl

lemma whole_append (l r : List (Fragment α)) : whole (l ++ r) = whole l ++ whole r := List.flatMap_append

lemma excerpt_append (l r : List (Fragment α)) : excerpt (l ++ r) = excerpt l ++ excerpt r := List.flatMap_append

lemma length_all (p : Fragment α) : p.all.length = p.before.length + p.kept.length + p.after.length := by
  rw [Fragment.all, List.length_append, List.length_append, Nat.add_assoc]

lemma length_places (start : ℕ) (ps : List (Fragment α)) : (places start ps).length = (excerpt ps).length := by
  induction ps generalizing start with
  | nil => rfl
  | cons p ps ih => rw [places, List.length_append, List.length_range', ih, excerpt_cons, List.length_append]

lemma places_append (start : ℕ) (l r : List (Fragment α)) :
    places start (l ++ r) = places start l ++ places (start + (whole l).length) r := by
  induction l generalizing start with
  | nil => rfl
  | cons p l ih =>
      rw [List.cons_append, places, places, ih, whole_cons, List.length_append, List.append_assoc, Nat.add_assoc]

lemma mem_places_bounds (h : i ∈ places start ps) : start ≤ i ∧ i < start + (whole ps).length := by
  induction ps generalizing start with
  | nil => cases h
  | cons p ps ih =>
      have hall := length_all p
      rw [whole_cons, List.length_append]
      rcases List.mem_append.mp h with hkept | hlater
      · rw [List.mem_range'_1] at hkept
        omega
      · have hbounds := ih hlater
        omega

/-- **Something is left out before a fragment**: the places of its first unit and of the one before are no
neighbours. -/
theorem gap_before (hbefore : p.before ≠ []) (hkept : p.kept ≠ []) (hi : i + 1 = (excerpt l).length) :
    ∃ a, (places 0 (l ++ p :: r))[i]? = some a ∧
      (places 0 (l ++ p :: r))[i + 1]? = some ((whole l).length + p.before.length) ∧
      a + 1 < (whole l).length + p.before.length := by
  have hbpos := List.length_pos_iff.mpr hbefore
  have hkpos := List.length_pos_iff.mpr hkept
  have hl := length_places 0 l
  have hlt : i < (places 0 l).length := by omega
  refine ⟨(places 0 l)[i], ?_, ?_, ?_⟩
  · rw [places_append, List.getElem?_append_left hlt, List.getElem?_eq_getElem hlt]
  · rw [places_append, List.getElem?_append_right (by omega), hl, ← hi, Nat.sub_self, places,
      List.getElem?_append_left (by rwa [List.length_range']), List.getElem?_range' hkpos]
    congr 1
    omega
  · have hbounds := mem_places_bounds (List.getElem_mem hlt)
    omega

/-- **Something is left out after a fragment**: the places of its last unit and of the next one are no neighbours. -/
theorem gap_after (hafter : p.after ≠ []) (hkept : p.kept ≠ []) (hi : i + 1 = (excerpt l).length + p.kept.length)
    (hnext : i + 1 < (excerpt (l ++ p :: r)).length) :
    ∃ a b, (places 0 (l ++ p :: r))[i]? = some a ∧ (places 0 (l ++ p :: r))[i + 1]? = some b ∧ a + 1 < b ∧
      a + 1 = (whole l).length + (p.before.length + p.kept.length) := by
  have hapos := List.length_pos_iff.mpr hafter
  have hkpos := List.length_pos_iff.mpr hkept
  have hl := length_places 0 l
  have hall := length_all p
  have hr := length_places (0 + (whole l).length + p.all.length) r
  have hlt : i + 1 - (excerpt l).length - p.kept.length <
      (places (0 + (whole l).length + p.all.length) r).length := by
    rw [excerpt_append, excerpt_cons, List.length_append, List.length_append] at hnext
    omega
  refine ⟨(whole l).length + p.before.length + (p.kept.length - 1),
    (places (0 + (whole l).length + p.all.length) r).get ⟨_, hlt⟩, ?_, ?_, ?_, ?_⟩
  · rw [places_append, List.getElem?_append_right (by omega), hl, places,
      List.getElem?_append_left (by rw [List.length_range']; omega), List.getElem?_range' (by omega)]
    congr 1
    omega
  · rw [places_append, List.getElem?_append_right (by omega), hl, places,
      List.getElem?_append_right (by rw [List.length_range']; omega), List.length_range',
      List.getElem?_eq_getElem hlt]
    rfl
  · have hbounds := mem_places_bounds (List.get_mem _ ⟨_, hlt⟩)
    omega
  · omega

end Excerpts
