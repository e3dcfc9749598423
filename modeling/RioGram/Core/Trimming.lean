import Mathlib.Data.List.DropRight
import Mathlib.Data.List.TakeWhile

/-!
# Trimming

Lists without what is at their ends.

* `trimBy_append` — a list that starts with something to be kept is trimmed behind it.
* `trimBy_eq_of_count` — to trim more does the same, unless something of that kind is lost.
-/

namespace Trimming

variable {α : Type*}

/-- The list without what satisfies `p` at either end. -/
def trimBy (p : α → Bool) (s : List α) : List α := (s.dropWhile p).rdropWhile p

lemma rdropWhile_append (p : α → Bool) (s t : List α) :
    (s ++ t).rdropWhile p = if t.rdropWhile p = [] then s.rdropWhile p else s ++ t.rdropWhile p := by
  rw [List.rdropWhile, List.reverse_append, List.dropWhile_append, List.rdropWhile, List.rdropWhile]
  simp only [List.isEmpty_iff, List.reverse_eq_nil_iff]
  split_ifs <;> simp

/-- **A list that starts with something to be kept** is trimmed behind it. -/
lemma trimBy_append {p : α → Bool} {s : List α} (hne : s ≠ []) (h : ∀ c ∈ s, p c = false)
    (t : List α) : trimBy p (s ++ t) = s ++ t.rdropWhile p := by
  have hfront : (s ++ t).dropWhile p = s ++ t := by
    obtain ⟨c, others, rfl⟩ := List.exists_cons_of_ne_nil hne
    simp [h c List.mem_cons_self]
  have hback : s.rdropWhile p = s := by
    refine List.rdropWhile_eq_self_iff.mpr fun hs => ?_
    simp [h _ (List.getLast_mem hs)]
  rw [trimBy, hfront, rdropWhile_append, hback]
  split_ifs with hnil
  · rw [hnil, List.append_nil]
  · rfl

lemma trimBy_eq_nil_iff {p : α → Bool} {s : List α} : trimBy p s = [] ↔ ∀ c ∈ s, p c := by
  rw [trimBy, List.rdropWhile_eq_nil_iff]
  constructor
  · intro h c hc
    rw [← List.takeWhile_append_dropWhile (p := p) (l := s)] at hc
    rcases List.mem_append.mp hc with hc | hc
    · exact List.mem_takeWhile_imp hc
    · exact h c hc
  · intro h c hc
    exact h c ((List.dropWhile_suffix p).subset hc)

section Count

variable [DecidableEq α] {p q : α → Bool} {a : α}

lemma count_dropWhile (h : p a = false) (s : List α) : (s.dropWhile p).count a = s.count a := by
  induction s with
  | nil => rfl
  | cons c s ih =>
      by_cases hc : p c
      · have hne : c ≠ a := by
          rintro rfl
          rw [h] at hc
          exact nomatch hc
        rw [List.dropWhile_cons_of_pos hc, ih, List.count_cons_of_ne hne]
      · rw [List.dropWhile_cons_of_neg hc]

lemma count_rdropWhile (h : p a = false) (s : List α) : (s.rdropWhile p).count a = s.count a := by
  rw [List.rdropWhile, List.count_reverse, count_dropWhile h, List.count_reverse]

lemma count_trimBy (h : p a = false) (s : List α) : (trimBy p s).count a = s.count a := by
  rw [trimBy, count_rdropWhile h, count_dropWhile h]

lemma count_dropWhile_le (q : α → Bool) (a : α) (s : List α) : (s.dropWhile q).count a ≤ s.count a :=
  (List.dropWhile_suffix q).sublist.count_le a

lemma count_rdropWhile_le (q : α → Bool) (a : α) (s : List α) : (s.rdropWhile q).count a ≤ s.count a :=
  (List.rdropWhile_prefix q s).sublist.count_le a

variable (hsub : ∀ c, p c → q c) (hextra : ∀ c, q c → p c = false → c = a)

include hsub hextra

lemma dropWhile_eq_of_count {s : List α} (h : (s.dropWhile q).count a = s.count a) :
    s.dropWhile q = s.dropWhile p := by
  induction s with
  | nil => rfl
  | cons c s ih =>
      by_cases hq : q c
      · rw [List.dropWhile_cons_of_pos hq] at h ⊢
        have hle := count_dropWhile_le q a s
        cases hp : p c with
        | true =>
            rw [List.dropWhile_cons_of_pos hp]
            refine ih (Nat.le_antisymm hle ?_)
            rw [h]
            exact List.count_le_count_cons
        | false =>
            rw [hextra c hq hp, List.count_cons_self] at h
            omega
      · have hp : ¬ p c := fun hp => hq (hsub c hp)
        rw [List.dropWhile_cons_of_neg hq, List.dropWhile_cons_of_neg hp]

/-- **Trimming with one more kind of space** does the same, if no space of that kind is lost. -/
lemma trimBy_eq_of_count {s : List α} (h : (trimBy q s).count a = s.count a) : trimBy q s = trimBy p s := by
  have hle := count_rdropWhile_le q a (s.dropWhile q)
  rw [trimBy] at h
  have hfront : s.dropWhile q = s.dropWhile p := by
    apply dropWhile_eq_of_count hsub hextra
    exact Nat.le_antisymm (count_dropWhile_le q a s) (by omega)
  rw [trimBy, trimBy, hfront, List.rdropWhile, List.rdropWhile]
  rw [List.rdropWhile, List.count_reverse, hfront] at h
  congr 1
  apply dropWhile_eq_of_count hsub hextra
  rw [List.count_reverse]
  refine Nat.le_antisymm ?_ ?_
  · simpa using count_dropWhile_le q a (s.dropWhile p).reverse
  · rw [h]
    exact count_dropWhile_le p a s

end Count

end Trimming
