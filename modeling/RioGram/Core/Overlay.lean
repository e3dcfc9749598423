import Mathlib.Logic.Function.Basic
import Mathlib.Tactic.SplitIfs
import Mathlib.Tactic.TypeStar

/-!
# Partial maps laid over one another

A partial map is a function to options.  `overlay` copies all of one map over another: a key that it has gets
its value, the others keep theirs.

* `overlay_eq_right_iff` says when the copy changes nothing.
* `orElse_eq_left_iff` says when nothing of what is below is seen, for a single value.
-/

namespace PartialMap

variable {κ α : Type*} {f g : κ → Option α}

/-- A value that is laid over another one is seen exactly if it is there, or no other one was. -/
lemma orElse_eq_left_iff {a b : Option α} : (a <|> b) = a ↔ (a = none → b = none) := by
  cases a with
  | none => simp
  | some a => simp

def empty : κ → Option α := fun _ => none

/-- All of `f`, and `g` where `f` has nothing. -/
def overlay (f g : κ → Option α) : κ → Option α := fun k => f k <|> g k

/-- The map with one value more, or another one. -/
def put [DecidableEq κ] (k : κ) (a : α) (f : κ → Option α) : κ → Option α := Function.update f k (some a)

@[simp] lemma overlay_empty_right (f : κ → Option α) : overlay f empty = f := by
  funext k
  simp [overlay, empty]

@[simp] lemma overlay_empty_left (g : κ → Option α) : overlay empty g = g := by
  funext k
  simp [overlay, empty]

/-- What was laid over a map is laid over it again to no effect. -/
@[simp] lemma overlay_overlay_right (f g : κ → Option α) : overlay (overlay f g) g = overlay f g := by
  funext k
  cases hf : f k <;> cases hg : g k <;> simp [overlay, hf, hg]

/-- **A copy changes nothing** exactly if all that is copied is there already. -/
theorem overlay_eq_right_iff : overlay f g = g ↔ ∀ k a, f k = some a → g k = some a := by
  constructor
  · intro h k a hk
    rw [← congrFun h k, overlay, hk]
    rfl
  · intro h
    funext k
    cases hk : f k with
    | none => simp [overlay, hk]
    | some a => simp [overlay, hk, h k a hk]

section put

variable [DecidableEq κ]

@[simp] lemma put_self (k : κ) (a : α) (f : κ → Option α) : put k a f k = some a := by
  simp [put]

lemma put_of_ne {k k' : κ} (h : k' ≠ k) (a : α) (f : κ → Option α) : put k a f k' = f k' := by
  simp [put, h]

lemma put_apply (k k' : κ) (a : α) (f : κ → Option α) : put k a f k' = if k' = k then some a else f k' := by
  split_ifs with h
  · rw [h, put_self]
  · rw [put_of_ne h]

lemma put_eq_self_iff {k : κ} {a : α} : put k a f = f ↔ f k = some a := by
  rw [put, Function.update_eq_self_iff, eq_comm]

end put

end PartialMap
