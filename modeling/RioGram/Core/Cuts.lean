import Mathlib.Data.List.Basic
import Mathlib.Data.List.Sort

/-!
# Lists cut at positions

`cutAt` cuts a list at positions in increasing order, and fails where a position is behind its end.

* `cutAt_spec` — the pieces are the list, and how long they are is a matter of the positions only
  (`Spaced`).
* `spaced_iff` — positions in order are spaced exactly if they are apart from one another and from both
  ends, a statement that does not depend on their order.
-/

namespace Cuts

variable {α : Type*}

/-- A part of a list; its start has to be inside. -/
def substr (s : List α) (start size : ℕ) : Option (List α) :=
  if start ≤ s.length then some ((s.drop start).take size) else none

/-- The pieces from `offset` on. -/
def cutAt (s : List α) : ℕ → List ℕ → Option (List (List α))
  | offset, [] => if offset ≤ s.length then some [s.drop offset] else none
  | offset, cut :: cuts =>
      (substr s offset (cut - offset)).bind fun piece => (cutAt s cut cuts).map (piece :: ·)

/-- Positions between `offset` and the end, each at least `d` behind the one before. -/
def Spaced (d size : ℕ) : ℕ → List ℕ → Prop
  | offset, [] => offset + d ≤ size
  | offset, cut :: cuts => offset + d ≤ cut ∧ Spaced d size cut cuts

/-- Two positions with `d` elements in between. -/
def Apart (d a b : ℕ) : Prop := a + d ≤ b ∨ b + d ≤ a

instance (d a b : ℕ) : Decidable (Apart d a b) := inferInstanceAs (Decidable (_ ∨ _))

lemma Apart.symm {d a b : ℕ} (h : Apart d a b) : Apart d b a := Or.symm h

lemma Spaced.add_le {d size offset : ℕ} {cuts : List ℕ} (h : Spaced d size offset cuts) :
    offset + d ≤ size := by
  induction cuts generalizing offset with
  | nil => exact h
  | cons cut cuts ih =>
      have := ih h.2
      have := h.1
      omega

/-- Spaced positions are inside. -/
lemma Spaced.le {d size offset : ℕ} {cuts : List ℕ} (h : Spaced d size offset cuts) :
    ∀ cut ∈ offset :: cuts, cut ≤ size := by
  induction cuts generalizing offset with
  | nil =>
      intro cut hcut
      rw [List.mem_singleton] at hcut
      have := h.add_le
      omega
  | cons next cuts ih =>
      intro cut hcut
      rcases List.mem_cons.mp hcut with rfl | hcut
      · have := h.add_le
        omega
      · exact ih h.2 cut hcut

/-- **Spacing, whatever the order.** -/
theorem spaced_iff {d size offset : ℕ} {cuts : List ℕ} (hsorted : cuts.Pairwise (· ≤ ·)) :
    Spaced d size offset cuts ↔
      offset + d ≤ size ∧ (∀ cut ∈ cuts, offset + d ≤ cut ∧ cut + d ≤ size) ∧ cuts.Pairwise (Apart d) := by
  induction cuts generalizing offset with
  | nil => simp [Spaced]
  | cons cut cuts ih =>
      rw [List.pairwise_cons] at hsorted ⊢
      rw [Spaced, ih hsorted.2, List.forall_mem_cons]
      constructor
      · rintro ⟨hcut, hend, hcuts, hapart⟩
        refine ⟨by omega, ⟨⟨hcut, hend⟩, fun c hc => ?_⟩, fun c hc => Or.inl (hcuts c hc).1, hapart⟩
        have := hcuts c hc
        omega
      · rintro ⟨-, ⟨⟨hcut, hend⟩, hcuts⟩, hfirst, hapart⟩
        refine ⟨hcut, hend, fun c hc => ⟨?_, (hcuts c hc).2⟩, hapart⟩
        have hle := hsorted.1 c hc
        rcases hfirst c hc with h | h <;> omega

/-- Positions inside the list cut it. -/
lemma exists_cutAt {s : List α} {offset : ℕ} {cuts : List ℕ} (h : ∀ cut ∈ offset :: cuts, cut ≤ s.length) :
    ∃ pieces, cutAt s offset cuts = some pieces := by
  induction cuts generalizing offset with
  | nil => exact ⟨_, if_pos (h offset List.mem_cons_self)⟩
  | cons cut cuts ih =>
      obtain ⟨pieces, hpieces⟩ := ih fun c hc => h c (List.mem_cons_of_mem _ hc)
      refine ⟨(s.drop offset).take (cut - offset) :: pieces, ?_⟩
      rw [cutAt, substr, if_pos (h offset List.mem_cons_self), hpieces]
      rfl

/-- **The pieces**: they are the list from the first position on, one more than the positions, and as long as
the positions are apart. -/
theorem cutAt_spec {s : List α} {offset : ℕ} {cuts : List ℕ} {pieces : List (List α)}
    (hsorted : (offset :: cuts).Pairwise (· ≤ ·)) (h : cutAt s offset cuts = some pieces) :
    pieces.flatten = s.drop offset ∧ pieces.length = cuts.length + 1 ∧ offset ≤ s.length ∧
      ∀ d, (∀ piece ∈ pieces, d ≤ piece.length) ↔ Spaced d s.length offset cuts := by
  induction cuts generalizing offset pieces with
  | nil =>
      rw [cutAt] at h
      split_ifs at h with hoffset
      cases h
      refine ⟨by simp, rfl, hoffset, fun d => ?_⟩
      simp only [List.mem_singleton, forall_eq, List.length_drop, Spaced]
      omega
  | cons cut cuts ih =>
      rw [cutAt, Option.bind_eq_some_iff] at h
      obtain ⟨piece, hpiece, h⟩ := h
      obtain ⟨rest, hrest, rfl⟩ := Option.map_eq_some_iff.mp h
      rw [substr] at hpiece
      split_ifs at hpiece with hoffset
      cases hpiece
      rw [List.pairwise_cons] at hsorted
      have hcut : offset ≤ cut := hsorted.1 cut List.mem_cons_self
      obtain ⟨hflatten, hlength, hinside, hspaced⟩ := ih hsorted.2 hrest
      refine ⟨?_, by rw [List.length_cons, hlength, List.length_cons], hoffset, fun d => ?_⟩
      · have hdrop : s.drop cut = (s.drop offset).drop (cut - offset) := by
          rw [List.drop_drop]
          congr 1
          omega
        rw [List.flatten_cons, hflatten, hdrop, List.take_append_drop]
      · rw [List.forall_mem_cons, hspaced d, Spaced, List.length_take, List.length_drop]
        have hmin : d ≤ min (cut - offset) (s.length - offset) ↔ offset + d ≤ cut := by omega
        rw [hmin]

end Cuts
