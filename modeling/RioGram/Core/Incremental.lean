import Mathlib.Data.List.Basic

/-!
# Incremental decoding

What is sent arrives in pieces, and a program decodes what it has, as soon as it can.  It has decoded the same
in the end, however the pieces are cut, if its decoder is stable: what it makes of a buffer does not change when
more arrives.

* `Stable` decisions are made once, at the first buffer that allows one (`decideAll_eq`).
* A `Decoder` takes values from the front of a buffer, `drain` takes all that are there, and
  `receiveAll_eq` is the independence of the pieces.
* `drain_encoded` is the round trip, and `drain_part` what has been decoded in the middle of it.
-/

namespace Incremental

variable {β γ α : Type*}

/-! ## Decisions -/

/-- A decision stays when more arrives. -/
def Stable (read : List β → Option γ) : Prop := ∀ ⦃s c⦄, read s = some c → ∀ t, read (s ++ t) = some c

/-- The pieces are looked at one after another, each with those before it, up to the first that allows a decision. -/
def decideAll (read : List β → Option γ) (buffer : List β) : List (List β) → Option γ
  | [] => read buffer
  | chunk :: chunks => (read buffer).orElse fun _ => decideAll read (buffer ++ chunk) chunks

/-- **The decision does not depend on the pieces.** -/
lemma decideAll_eq {read : List β → Option γ} (hread : Stable read) (chunks : List (List β)) (buffer : List β) :
    decideAll read buffer chunks = read (buffer ++ chunks.flatten) := by
  induction chunks generalizing buffer with
  | nil => rw [decideAll, List.flatten_nil, List.append_nil]
  | cons chunk chunks ih =>
      rw [decideAll, List.flatten_cons]
      cases h : read buffer with
      | none =>
          rw [Option.orElse_none, ih, List.append_assoc]
      | some c => rw [Option.orElse_some, hread h]

/-! ## Values one after another -/

/-- Reads a value from the front of a buffer, and says how much of the buffer it takes. -/
structure Decoder (β α : Type*) where
  read : List β → Option (α × ℕ)
  stable : Stable read
  taken : ∀ ⦃s a n⦄, read s = some (a, n) → 0 < n ∧ n ≤ s.length

namespace Decoder

variable (d : Decoder β α)

def drainLoop : (fuel : ℕ) → List β → List α × List β
  | 0, s => ([], s)
  | fuel + 1, s =>
      match d.read s with
      | none => ([], s)
      | some (a, n) => ((drainLoop fuel (s.drop n)).1.cons a, (drainLoop fuel (s.drop n)).2)

/-- Takes all values that are there; every one takes a symbol, so there are no more than symbols. -/
def drain (s : List β) : List α × List β := d.drainLoop s.length s

variable {d} {s t : List β} {a : α} {n : ℕ}

/-- A buffer is one of which nothing can be read, or one from which a value is taken. -/
lemma readInduction (d : Decoder β α) {motive : List β → Prop} (more : ∀ s, d.read s = none → motive s)
    (take : ∀ s a n, d.read s = some (a, n) → motive (s.drop n) → motive s) (s : List β) : motive s := by
  induction hm : s.length using Nat.strongRecOn generalizing s with
  | ind m ih =>
      cases h : d.read s with
      | none => exact more s h
      | some value =>
          have htaken := d.taken h
          exact take s value.1 value.2 h (ih _ (by rw [List.length_drop]; omega) _ rfl)

lemma drainLoop_eq {fuel : ℕ} (h : s.length ≤ fuel) : d.drainLoop fuel s = d.drain s := by
  rw [drain]
  generalize hm : s.length = m at h ⊢
  induction m using Nat.strongRecOn generalizing s fuel with
  | ind m ih =>
      cases hread : d.read s with
      | none => cases fuel <;> cases m <;> simp only [drainLoop, hread]
      | some value =>
          obtain ⟨a, n⟩ := value
          have htaken := d.taken hread
          obtain ⟨fuel, rfl⟩ := Nat.exists_eq_succ_of_ne_zero (show fuel ≠ 0 by omega)
          obtain ⟨m, rfl⟩ := Nat.exists_eq_succ_of_ne_zero (show m ≠ 0 by omega)
          have hlength : (s.drop n).length = m + 1 - n := by rw [List.length_drop, hm]
          simp only [drainLoop, hread]
          have hloop (k : ℕ) := @ih (m + 1 - n) (by omega) (s.drop n) k
          rw [hloop fuel hlength (by omega), ← hloop m hlength (by omega)]

lemma drain_of_none (h : d.read s = none) : d.drain s = ([], s) := by
  rw [drain]
  cases s.length <;> simp only [drainLoop, h]

lemma drain_of_some (h : d.read s = some (a, n)) :
    d.drain s = (a :: (d.drain (s.drop n)).1, (d.drain (s.drop n)).2) := by
  have htaken := d.taken h
  obtain ⟨m, hm⟩ := Nat.exists_eq_succ_of_ne_zero (show s.length ≠ 0 by omega)
  have hlength : (s.drop n).length ≤ m := by
    rw [List.length_drop]
    omega
  rw [drain, hm]
  simp only [drainLoop, h]
  rw [drainLoop_eq hlength]

/-- Nothing more can be taken of what is left. -/
lemma read_drain (d : Decoder β α) (s : List β) : d.read (d.drain s).2 = none := by
  induction s using d.readInduction with
  | more s h =>
      rw [drain_of_none h]
      exact h
  | take s a n h ih =>
      rw [drain_of_some h]
      exact ih

/-- **What is there is taken first**, and then what it takes to go on. -/
lemma drain_append (d : Decoder β α) (s t : List β) :
    d.drain (s ++ t) =
      ((d.drain s).1 ++ (d.drain ((d.drain s).2 ++ t)).1, (d.drain ((d.drain s).2 ++ t)).2) := by
  induction s using d.readInduction with
  | more s h => rw [drain_of_none h, List.nil_append]
  | take s a n h ih =>
      rw [drain_of_some (d.stable h t), drain_of_some h, List.drop_append_of_le_length (d.taken h).2, ih,
        List.cons_append]

/-! ## In pieces -/

/-- What has been decoded, and what is left in the buffer. -/
def receive (r : List α × List β) (chunk : List β) : List α × List β :=
  (r.1 ++ (d.drain (r.2 ++ chunk)).1, (d.drain (r.2 ++ chunk)).2)

variable (d) in
def receiveAll (chunks : List (List β)) : List α × List β := chunks.foldl d.receive ([], [])

lemma foldl_receive_drain (d : Decoder β α) (chunks : List (List β)) (s : List β) :
    chunks.foldl d.receive (d.drain s) = d.drain (s ++ chunks.flatten) := by
  induction chunks generalizing s with
  | nil => rw [List.foldl_nil, List.flatten_nil, List.append_nil]
  | cons chunk chunks ih =>
      have hreceive : d.receive (d.drain s) chunk = d.drain (s ++ chunk) := (d.drain_append s chunk).symm
      rw [List.foldl_cons, hreceive, ih, List.flatten_cons, List.append_assoc]

lemma drain_nil (d : Decoder β α) : d.drain [] = ([], []) := rfl

/-- **What is decoded does not depend on the pieces.** -/
theorem receiveAll_eq (d : Decoder β α) (chunks : List (List β)) : d.receiveAll chunks = d.drain chunks.flatten :=
  d.foldl_receive_drain chunks []

/-! ## Round trips -/

variable (d) in
/-- The decoder reads a value where it has been written, whatever comes behind it. -/
def Reads (encode : α → List β) (a : α) : Prop := ∀ t, d.read (encode a ++ t) = some (a, (encode a).length)

variable {encode : α → List β} {as : List α}

/-- What has been written is read, and what comes behind it after it. -/
lemma drain_encoded (h : ∀ a ∈ as, d.Reads encode a) (t : List β) :
    d.drain ((as.map encode).flatten ++ t) = (as ++ (d.drain t).1, (d.drain t).2) := by
  induction as with
  | nil => rfl
  | cons a as ih =>
      rw [List.forall_mem_cons] at h
      rw [List.map_cons, List.flatten_cons, List.append_assoc, drain_of_some (h.1 _), List.drop_left, ih h.2,
        List.cons_append]

/-- Of a value that is there in part nothing is read. -/
lemma read_of_part (h : d.Reads encode a) (hpart : s <+: encode a) (hlength : s.length < (encode a).length) :
    d.read s = none := by
  rcases hpart with ⟨rest, hrest⟩
  cases hread : d.read s with
  | none => rfl
  | some value =>
      have hwhole := h []
      rw [List.append_nil, ← hrest, d.stable hread rest, Option.some_inj] at hwhole
      have htaken := d.taken hread
      rw [hwhole] at htaken
      rw [← hrest] at hlength
      exact absurd htaken.2 (Nat.not_le.mpr hlength)

lemma drain_of_part (h : d.Reads encode a) (hpart : s <+: encode a) (hlength : s.length < (encode a).length) :
    d.drain s = ([], s) :=
  drain_of_none (read_of_part h hpart hlength)

/-- **What has arrived of what has been written** is some of the values, and a part of the next one. -/
lemma drain_part (h : ∀ a ∈ as, d.Reads encode a) (hs : s <+: (as.map encode).flatten) :
    ∃ done rest part, as = done ++ rest ∧ d.drain s = (done, part) ∧ s = (done.map encode).flatten ++ part ∧
      (part = [] ∨ ∃ a, rest.head? = some a ∧ part <+: encode a ∧ part.length < (encode a).length) := by
  induction as generalizing s with
  | nil =>
      rw [List.prefix_nil.mp hs]
      exact ⟨[], [], [], rfl, rfl, rfl, .inl rfl⟩
  | cons a as ih =>
      rw [List.forall_mem_cons] at h
      rw [List.map_cons, List.flatten_cons] at hs
      rcases Nat.lt_or_ge s.length (encode a).length with hlength | hlength
      · have hpart : s <+: encode a :=
          List.prefix_of_prefix_length_le hs (List.prefix_append _ _) (Nat.le_of_lt hlength)
        exact ⟨[], a :: as, s, rfl, drain_of_part h.1 hpart hlength, rfl, .inr ⟨a, rfl, hpart, hlength⟩⟩
      · rcases List.prefix_of_prefix_length_le (List.prefix_append _ _) hs hlength with ⟨t, rfl⟩
        rcases ih h.2 ((List.prefix_append_right_inj _).mp hs) with ⟨done, rest, part, rfl, hdrain, rfl, hpart⟩
        refine ⟨a :: done, rest, part, rfl, ?_, ?_, hpart⟩
        · rw [drain_of_some (h.1 _), List.drop_left, hdrain]
        · rw [List.map_cons, List.flatten_cons, List.append_assoc]

end Decoder

end Incremental
