import Mathlib.Data.List.Perm.Basic
import Mathlib.Data.Vector.Basic
import RioGram.Core.Wire

/-!
# `td::Random`

The randomness the program draws, as an explicit supply that is threaded through the code.  A
statement about *every* supply is a statement about every outcome of the random choices.

* `secureBytes`, `secureUint32`, `secureInt32`, `fast` — the draws of `Random.h`.  All of them
  read the same byte supply; nothing below depends on how the real generators are seeded.
* `shuffle` — the in-place shuffle, with `shuffle_perm`: it only reorders.

Curve points are a supply of their own (`Rng.keys`): the source draws candidates until one of
them is a quadratic residue and then writes the 32 bytes of its multiple, so a `Key` is one
32-byte value whose distribution is not modelled.
-/

namespace RioGram

open Wire

/-- The supply of random values. -/
structure Rng where
  /-- The bytes `Random::secure_bytes` hands out, in order. -/
  bytes : ℕ → UInt8
  /-- The 32-byte points the `Key` op writes, in order. -/
  keys : ℕ → List.Vector UInt8 32

namespace Rng

/-- The supply that gives zero bytes for ever. -/
def zero : Rng := { bytes := fun _ => 0, keys := fun _ => List.Vector.replicate 32 0 }

/-- The supply after `n` bytes have been taken. -/
def skip (rng : Rng) (n : ℕ) : Rng := { rng with bytes := fun i => rng.bytes (n + i) }

/-- `Random::secure_bytes` into a buffer of `n` bytes. -/
def secureBytes (n : ℕ) (rng : Rng) : Bytes × Rng :=
  ((List.range n).map rng.bytes, rng.skip n)

@[simp] lemma length_secureBytes (n : ℕ) (rng : Rng) : (rng.secureBytes n).1.length = n := by
  simp [secureBytes]

/-- `Random::secure_uint32`: four bytes, little-endian. -/
def secureUint32 (rng : Rng) : ℕ × Rng :=
  ((rng.bytes 0).toNat + (rng.bytes 1).toNat * 256 + (rng.bytes 2).toNat * 65536
    + (rng.bytes 3).toNat * 16777216, rng.skip 4)

/-- `Random::secure_int32`: the same four bytes as a two's complement number. -/
def secureInt32 (rng : Rng) : ℤ × Rng :=
  let (n, rng) := rng.secureUint32
  (if n < 2 ^ 31 then n else (n : ℤ) - 2 ^ 32, rng)

/-- `Random::fast(lo, hi)`, both ends included. -/
def fast (lo hi : ℕ) (rng : Rng) : ℕ × Rng :=
  let (n, rng) := rng.secureUint32
  (lo + n % (hi - lo + 1), rng)

/-- One 32-byte point for a `Key` op. -/
def key (rng : Rng) : Bytes × Rng :=
  ((rng.keys 0).toList, { rng with keys := fun i => rng.keys (i + 1) })

@[simp] lemma length_key (rng : Rng) : rng.key.1.length = 32 := (rng.keys 0).toList_length

/-- The position `shuffle` swaps index `i` with: `static_cast<size_t>(secure_int32()) % (i + 1)`,
where the cast of a negative number wraps around. -/
def shufflePos (i : ℕ) (rng : Rng) : ℕ × Rng :=
  let (z, rng) := rng.secureInt32
  ((z % 2 ^ 64).toNat % (i + 1), rng)

/-- The loop of `Random::shuffle` from index `i` on, with `n` indices to go. -/
def shuffleFrom {α : Type*} : (n i : ℕ) → Array α → Rng → Array α × Rng
  | 0, _, v, rng => (v, rng)
  | n + 1, i, v, rng =>
      let (pos, rng) := rng.shufflePos i
      shuffleFrom n (i + 1) (v.swapIfInBounds i pos) rng

/-- `Random::shuffle`. -/
def shuffle {α : Type*} (v : List α) (rng : Rng) : List α × Rng :=
  let (v', rng) := shuffleFrom (v.length - 1) 1 v.toArray rng
  (v'.toList, rng)

lemma swapIfInBounds_perm {α : Type*} (v : Array α) (i j : ℕ) :
    (v.swapIfInBounds i j).toList.Perm v.toList := by
  unfold Array.swapIfInBounds
  split_ifs with hi hj
  · exact Array.perm_iff_toList_perm.mp (Array.swap_perm hi hj)
  · exact List.Perm.refl _
  · exact List.Perm.refl _

lemma shuffleFrom_perm {α : Type*} : ∀ (n i : ℕ) (v : Array α) (rng : Rng),
    (shuffleFrom n i v rng).1.toList.Perm v.toList
  | 0, _, _, _ => List.Perm.refl _
  | n + 1, i, v, _ =>
      (shuffleFrom_perm n (i + 1) _ _).trans (swapIfInBounds_perm v i _)

/-- **A shuffle only reorders.** -/
theorem shuffle_perm {α : Type*} (v : List α) (rng : Rng) : (rng.shuffle v).1.Perm v :=
  shuffleFrom_perm _ _ _ _

end Rng

end RioGram
