import Mathlib.Data.List.Basic
import Mathlib.Data.UInt

/-!
# Stream ciphers

A stream cipher goes over a text with a state, symbol by symbol.  Whoever has the state reads what it has made of a
text by going over it once more.

* `Lawful` are the laws of such a cipher, and `xor_lawful` says that adding a key stream obeys them.
* `goOver_eq`: a text may be cut into pieces on either side.
* `behind_eq`: what stands in front of a text does not matter, only how much it is.
-/

namespace StreamCipher

variable {σ β : Type*}

/-- The cipher goes on where it has stopped, what its state becomes depends on the length of the text alone, and it
is its own inverse. -/
structure Lawful (cipher : σ → List β → List β × σ) : Prop where
  nil : ∀ s, cipher s [] = ([], s)
  append : ∀ s a b,
    cipher s (a ++ b) = ((cipher s a).1 ++ (cipher (cipher s a).2 b).1, (cipher (cipher s a).2 b).2)
  length_eq : ∀ s a, (cipher s a).1.length = a.length
  state_eq : ∀ s ⦃a b : List β⦄, a.length = b.length → (cipher s a).2 = (cipher s b).2
  inverse : ∀ s a, (cipher s (cipher s a).1).1 = a

/-- One piece after another. -/
def goOver (cipher : σ → List β → List β × σ) : σ → List (List β) → List (List β) × σ
  | s, [] => ([], s)
  | s, piece :: pieces =>
      ((cipher s piece).1 :: (goOver cipher (cipher s piece).2 pieces).1, (goOver cipher (cipher s piece).2 pieces).2)

namespace Lawful

variable {cipher : σ → List β → List β × σ} (h : Lawful cipher)
include h

/-- **The pieces do not matter.** -/
lemma goOver_eq (s : σ) (pieces : List (List β)) :
    (goOver cipher s pieces).1.flatten = (cipher s pieces.flatten).1 ∧
      (goOver cipher s pieces).2 = (cipher s pieces.flatten).2 := by
  induction pieces generalizing s with
  | nil =>
      rw [List.flatten_nil, h.nil]
      exact ⟨rfl, rfl⟩
  | cons piece pieces ih =>
      rw [List.flatten_cons, h.append, goOver, List.flatten_cons, (ih _).1, (ih _).2]
      exact ⟨rfl, rfl⟩

/-- What has been made of a text is read where the state is the same. -/
lemma goOver_inverse (s : σ) {pieces : List (List β)} {text : List β} (hpieces : pieces.flatten = (cipher s text).1) :
    (goOver cipher s pieces).1.flatten = text := by
  rw [(h.goOver_eq s pieces).1, hpieces, h.inverse]

/-- What there is of it is read, too. -/
lemma goOver_prefix (s : σ) {pieces : List (List β)} {text : List β} (hpieces : pieces.flatten <+: (cipher s text).1) :
    (goOver cipher s pieces).1.flatten <+: text := by
  rcases hpieces with ⟨later, hlater⟩
  have hinverse := h.inverse s text
  rw [← hlater, h.append] at hinverse
  rw [(h.goOver_eq s pieces).1, ← hinverse]
  exact List.prefix_append _ _

/-- **What stands in front of a text** may be something else than what the state has been brought to with. -/
lemma behind_eq (s : σ) {a b : List β} (hlength : a.length = b.length) (text : List β) :
    (cipher s (a ++ (cipher (cipher s b).2 text).1)).1 = (cipher s a).1 ++ text := by
  rw [h.append, h.state_eq s hlength, h.inverse]

end Lawful

/-! ## Key streams -/

/-- Adds a key stream; the state is how much of it has been used. -/
def xor (key : ℕ → UInt8) : ℕ → List UInt8 → List UInt8 × ℕ
  | n, [] => ([], n)
  | n, c :: text => ((c ^^^ key n) :: (xor key (n + 1) text).1, (xor key (n + 1) text).2)

lemma xor_state (key : ℕ → UInt8) (n : ℕ) (text : List UInt8) : (xor key n text).2 = n + text.length := by
  induction text generalizing n with
  | nil => rfl
  | cons c text ih =>
      rw [xor, ih, List.length_cons]
      omega

lemma xor_length (key : ℕ → UInt8) (n : ℕ) (text : List UInt8) : (xor key n text).1.length = text.length := by
  induction text generalizing n with
  | nil => rfl
  | cons c text ih => rw [xor, List.length_cons, ih, List.length_cons]

lemma xor_lawful (key : ℕ → UInt8) : Lawful (xor key) where
  nil _ := rfl
  append n a b := by
    induction a generalizing n with
    | nil => rfl
    | cons c a ih => simp only [List.cons_append, xor, ih]
  length_eq := xor_length key
  state_eq n a b hlength := by rw [xor_state, xor_state, hlength]
  inverse n a := by
    induction a generalizing n with
    | nil => rfl
    | cons c a ih => simp only [xor, ih, UInt8.xor_assoc, UInt8.xor_self, UInt8.xor_zero]

end StreamCipher
