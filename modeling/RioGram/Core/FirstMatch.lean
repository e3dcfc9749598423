import Mathlib.Data.List.Basic

/-!
# Rules of which the first one decides

A list of rules is asked about something: the first rule that matches it decides, and where none does the answer
is no.

* `allowed_eq_of_inForce` — the answer is that of the rule in force.
* `allowed_congr` — rules that match two things alike answer alike.
-/

namespace FirstMatch

variable {ρ α : Type*} (hits : ρ → α → Bool) (allows : ρ → Bool)

/-- The rule that is the first one to match. -/
def InForce (rules : List ρ) (rule : ρ) (a : α) : Prop := rules.find? (hits · a) = some rule

def allowed (rules : List ρ) (a : α) : Bool := (rules.find? (hits · a)).any allows

variable {hits allows} {rules : List ρ} {rule : ρ} {a : α}

lemma exists_inForce (hmem : rule ∈ rules) (h : hits rule a) : ∃ rule, InForce hits rules rule a := by
  have hsome : (rules.find? (hits · a)).isSome := List.find?_isSome.mpr ⟨rule, hmem, h⟩
  exact Option.isSome_iff_exists.mp hsome

lemma allowed_eq_of_inForce (h : InForce hits rules rule a) : allowed hits allows rules a = allows rule := by
  rw [allowed, h]
  rfl

/-- The answer only depends on which rules match. -/
lemma allowed_congr {p : ρ → Bool} (h : ∀ rule ∈ rules, hits rule a = p rule) :
    allowed hits allows rules a = (rules.find? p).any allows := by
  have hfind : rules.find? (hits · a) = rules.find? p := by
    induction rules with
    | nil => rfl
    | cons first rules ih =>
        rw [List.forall_mem_cons] at h
        rw [List.find?_cons, List.find?_cons, h.1, ih h.2]
  rw [allowed, hfind]

end FirstMatch
