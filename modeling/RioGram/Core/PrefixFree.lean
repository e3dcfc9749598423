import Mathlib.Data.List.Basic
import Mathlib.Logic.Function.Basic

/-!
# Codes without prefixes

A code none of whose words begins another one: a text that is written in it can be read in one way only.
-/

variable {α β : Type*} {code : α → List β}

/-- No word is empty, and none begins another one. -/
structure PrefixFree (code : α → List β) : Prop where
  ne_nil : ∀ a, code a ≠ []
  eq_of_prefix : ∀ a b, code a <+: code b → a = b

namespace PrefixFree

lemma eq_of_append_eq (h : PrefixFree code) {a b : α} {rest rest' : List β} (heq : code a ++ rest = code b ++ rest') :
    a = b := by
  rcases List.append_eq_append_iff.mp heq with ⟨between, hb, -⟩ | ⟨between, ha, -⟩
  · exact h.eq_of_prefix a b ⟨between, hb.symm⟩
  · exact (h.eq_of_prefix b a ⟨between, ha.symm⟩).symm

/-- **A text is read in one way.** -/
theorem flatMap_injective (h : PrefixFree code) : Function.Injective (List.flatMap code) := by
  intro l l' heq
  induction l generalizing l' with
  | nil =>
      cases l' with
      | nil => rfl
      | cons b l' => exact absurd (List.append_eq_nil_iff.mp heq.symm).1 (h.ne_nil b)
  | cons a l ih =>
      cases l' with
      | nil => exact absurd (List.append_eq_nil_iff.mp heq).1 (h.ne_nil a)
      | cons b l' =>
          rw [List.flatMap_cons, List.flatMap_cons] at heq
          cases h.eq_of_append_eq heq
          rw [ih (List.append_cancel_left heq)]

end PrefixFree
