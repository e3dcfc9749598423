import Mathlib.Data.List.Basic

/-!
# Modes of block ciphers

A cipher encrypts blocks of one size, and a mode says how it goes over a text of many blocks.  `cbc` adds the last
encrypted block to each block before it is encrypted; `ige` adds the last plain block afterwards, too.

* `igeInverse_ige`, `ige_igeInverse`: a text is read again with the inverse of the cipher.
* `ige_append`: a mode goes on where it has stopped.
* `cbc_masked`: `cbc` of a text that has been masked with its own blocks gives `ige` of the text itself.
-/

namespace BlockChaining

variable {B : Type*} [XorOp B]

/-- The laws of adding blocks. -/
structure Maskable (B : Type*) [XorOp B] : Prop where
  assoc : ∀ a b c : B, a ^^^ b ^^^ c = a ^^^ (b ^^^ c)
  comm : ∀ a b : B, a ^^^ b = b ^^^ a
  cancel : ∀ a b : B, a ^^^ b ^^^ b = a

/-- Cipher block chaining after the encrypted block `v`. -/
def cbc (e : B → B) : B → List B → List B
  | _, [] => []
  | v, a :: text => e (a ^^^ v) :: cbc e (e (a ^^^ v)) text

/-- Infinite garble extension after the encrypted block `c` and the plain block `p`. -/
def ige (e : B → B) : B → B → List B → List B
  | _, _, [] => []
  | c, p, a :: text => (e (a ^^^ c) ^^^ p) :: ige e (e (a ^^^ c) ^^^ p) a text

/-- What reads `ige` with the inverse of the cipher. -/
def igeInverse (d : B → B) : B → B → List B → List B
  | _, _, [] => []
  | c, p, b :: text => (d (b ^^^ p) ^^^ c) :: igeInverse d b (d (b ^^^ p) ^^^ c) text

variable {e d : B → B} {c p v : B}

@[simp] lemma length_cbc (text : List B) : (cbc e v text).length = text.length := by
  induction text generalizing v with
  | nil => rfl
  | cons a text ih => rw [cbc, List.length_cons, ih, List.length_cons]

@[simp] lemma length_ige (text : List B) : (ige e c p text).length = text.length := by
  induction text generalizing c p with
  | nil => rfl
  | cons a text ih => rw [ige, List.length_cons, ih, List.length_cons]

@[simp] lemma length_igeInverse (text : List B) : (igeInverse d c p text).length = text.length := by
  induction text generalizing c p with
  | nil => rfl
  | cons b text ih => rw [igeInverse, List.length_cons, ih, List.length_cons]

/-- **A text may be encrypted in pieces.** -/
lemma ige_append (text text' : List B) :
    ige e c p (text ++ text') =
      ige e c p text ++ ige e ((ige e c p text).getLastD c) (text.getLastD p) text' := by
  induction text generalizing c p with
  | nil => rfl
  | cons a text ih =>
      rw [List.cons_append, ige, ih, ige, List.cons_append, List.getLastD_cons, List.getLastD_cons]

/-- **What has been encrypted is read.** -/
lemma igeInverse_ige (h : Maskable B) (hde : ∀ a, d (e a) = a) (text : List B) :
    igeInverse d c p (ige e c p text) = text := by
  induction text generalizing c p with
  | nil => rfl
  | cons a text ih => rw [ige, igeInverse, h.cancel, hde, h.cancel, ih]

lemma ige_igeInverse (h : Maskable B) (hed : ∀ a, e (d a) = a) (text : List B) :
    ige e c p (igeInverse d c p text) = text := by
  induction text generalizing c p with
  | nil => rfl
  | cons b text ih => rw [igeInverse, ige, h.cancel, hed, h.cancel, ih]

/-- Every block masked with the one before the last, after the plain blocks `q` and `p`. -/
lemma cbc_masked_tail (h : Maskable B) (q : B) (text : List B) :
    List.zipWith (· ^^^ ·) (cbc e v (List.zipWith (· ^^^ ·) (q :: p :: text) text)) (p :: text) =
      ige e (v ^^^ q) p text := by
  induction text generalizing v q p with
  | nil => rfl
  | cons a text ih =>
      have hmask : q ^^^ a ^^^ v = a ^^^ (v ^^^ q) := by rw [h.comm q a, h.assoc, h.comm q v]
      rw [List.zipWith_cons_cons, cbc, List.zipWith_cons_cons, ih, ige, hmask]

/-- **`ige` is `cbc` of the masked text**, masked once more: the first block is left as it is, as there is no block
before the last. -/
lemma cbc_masked (h : Maskable B) (text : List B) :
    List.zipWith (· ^^^ ·) (cbc e c (text.take 1 ++ List.zipWith (· ^^^ ·) (p :: text) (text.drop 1))) (p :: text) =
      ige e c p text := by
  cases text with
  | nil => rfl
  | cons a text =>
      rw [List.take_succ_cons, List.take_zero, List.drop_succ_cons, List.drop_zero, List.singleton_append, cbc,
        List.zipWith_cons_cons, cbc_masked_tail h, ige]

end BlockChaining
