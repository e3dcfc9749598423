import Mathlib.Data.List.Count

/-!
# Requests that are sent in rounds

A client sends several requests at once, each marked with the number of the round, and takes the answers in
any order.  `Rounds` has the number of the last round and the requests that are not answered.

* `due` counts the requests of the last round that are not answered: all of them when it begins (`due_ask`),
  and one less with each answer (`due_answer`).
-/

namespace Asking

variable {ρ : Type*} [DecidableEq ρ]

structure Rounds (ρ : Type*) where
  latest : ℕ := 0
  outstanding : List (ℕ × ρ) := []

namespace Rounds

variable (rs : Rounds ρ)

/-- A new round begins. -/
def ask (requests : List ρ) : Rounds ρ :=
  ⟨rs.latest + 1, rs.outstanding ++ requests.map (rs.latest + 1, ·)⟩

/-- More requests of a round are sent. -/
def join (number : ℕ) (requests : List ρ) : Rounds ρ :=
  { rs with outstanding := rs.outstanding ++ requests.map (number, ·) }

def answer (request : ℕ × ρ) : Rounds ρ := { rs with outstanding := rs.outstanding.erase request }

/-- How many requests of the last round are not answered. -/
def due : ℕ := rs.outstanding.countP (·.1 == rs.latest)

/-- No request is of a later round than the last one. -/
def Numbered : Prop := ∀ request ∈ rs.outstanding, request.1 ≤ rs.latest

variable {rs}

omit [DecidableEq ρ] in
lemma Numbered.ask (h : rs.Numbered) (requests : List ρ) : (rs.ask requests).Numbered := by
  intro request hrequest
  rcases List.mem_append.mp hrequest with hold | hnew
  · exact Nat.le_succ_of_le (h request hold)
  · rcases List.mem_map.mp hnew with ⟨_, -, rfl⟩
    exact Nat.le_refl _

omit [DecidableEq ρ] in
lemma Numbered.join (h : rs.Numbered) {number : ℕ} (hnumber : number ≤ rs.latest) (requests : List ρ) :
    (rs.join number requests).Numbered := by
  intro request hrequest
  rcases List.mem_append.mp hrequest with hold | hnew
  · exact h request hold
  · rcases List.mem_map.mp hnew with ⟨_, -, rfl⟩
    exact hnumber

lemma Numbered.answer (h : rs.Numbered) (request : ℕ × ρ) : (rs.answer request).Numbered :=
  fun other hother => h other (List.mem_of_mem_erase hother)

omit [DecidableEq ρ] in
lemma due_ask (h : rs.Numbered) (requests : List ρ) : (rs.ask requests).due = requests.length := by
  have hold : rs.outstanding.countP (·.1 == rs.latest + 1) = 0 := by
    rw [List.countP_eq_zero]
    intro request hrequest
    have hle := h request hrequest
    simp only [beq_iff_eq]
    omega
  rw [due, Rounds.ask, List.countP_append, hold, List.countP_map, Nat.zero_add, List.countP_eq_length]
  intro request _
  exact beq_self_eq_true _

omit [DecidableEq ρ] in
lemma due_join (number : ℕ) (requests : List ρ) :
    (rs.join number requests).due = rs.due + if number = rs.latest then requests.length else 0 := by
  rw [due, Rounds.join, List.countP_append, List.countP_map, due]
  congr 1
  by_cases hlatest : number = rs.latest
  · rw [if_pos hlatest, List.countP_eq_length]
    exact fun request _ => beq_iff_eq.mpr hlatest
  · rw [if_neg hlatest, List.countP_eq_zero]
    exact fun request _ => fun h => hlatest (beq_iff_eq.mp h)

lemma due_answer {request : ℕ × ρ} (h : request ∈ rs.outstanding) :
    (rs.answer request).due = if request.1 = rs.latest then rs.due - 1 else rs.due := by
  rw [due, answer, List.countP_erase, due]
  simp only [h, true_and, beq_iff_eq]
  split_ifs <;> rfl

end Rounds

end Asking
