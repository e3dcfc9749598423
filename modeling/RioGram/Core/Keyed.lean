import Mathlib.Data.Finset.Card
import Mathlib.Data.List.Nodup
import Mathlib.Data.List.Sort

/-!
# Lists with keys

A list whose elements have a key, and the ways in which programs change one: the first element that
is looked for is changed in its place, an element takes the place of the one with its key, or the list
is grown and sorted again.

* `Sorting` is a sort by key, of which nothing is known about elements with the same key.
* `Increasing` is a list that is sorted and has every key once.
* `modifyFirst_split` says what changing the first element does, and `put` and `merge` keep keys distinct
  (`nodup_put`, `nodup_merge`).
-/

namespace Keyed

variable {α β κ : Type*}

/-! ## Changing the first element -/

/-- Changes the first element that satisfies the condition. -/
@[grind =]
def modifyFirst (p : α → Bool) (f : α → α) : List α → List α
  | [] => []
  | a :: l => if p a then f a :: l else a :: modifyFirst p f l

lemma modifyFirst_of_none {p : α → Bool} {f : α → α} {l : List α} (h : ∀ a ∈ l, p a = false) :
    modifyFirst p f l = l := by
  induction l with
  | nil => rfl
  | cons a l ih =>
      rw [List.forall_mem_cons] at h
      simp [modifyFirst, h.1, ih h.2]

/-- Everything but the first element that is looked for stays as it is. -/
lemma modifyFirst_split {p : α → Bool} (f : α → α) {l : List α} {a : α} (h : l.find? p = some a) :
    ∃ front back, l = front ++ a :: back ∧ (∀ b ∈ front, p b = false) ∧ p a ∧
      modifyFirst p f l = front ++ f a :: back := by
  induction l with
  | nil => cases h
  | cons b l ih =>
      by_cases hb : p b
      · rw [List.find?_cons_of_pos hb, Option.some_inj] at h
        subst h
        exact ⟨[], l, rfl, by simp, hb, by simp [modifyFirst, hb]⟩
      · rw [List.find?_cons_of_neg hb] at h
        rcases ih h with ⟨front, back, hl, hfront, ha, hmodify⟩
        refine ⟨b :: front, back, by simp [hl], ?_, ha, by simp [modifyFirst, hb, hmodify]⟩
        simpa [hb] using hfront

/-- Changes of the first element agree exactly if they agree on that. -/
lemma modifyFirst_eq_iff {p : α → Bool} {f g : α → α} {l : List α} {a : α} (h : l.find? p = some a) :
    modifyFirst p f l = modifyFirst p g l ↔ f a = g a := by
  induction l with
  | nil => cases h
  | cons b l ih =>
      by_cases hb : p b
      · rw [List.find?_cons_of_pos hb, Option.some_inj] at h
        subst h
        simp [modifyFirst, hb]
      · rw [List.find?_cons_of_neg hb] at h
        simp [modifyFirst, hb, ih h]

lemma modifyFirst_id (p : α → Bool) (l : List α) : modifyFirst p id l = l := by
  induction l with
  | nil => rfl
  | cons a l ih =>
      rw [modifyFirst, ih]
      split_ifs
      · rfl
      · rfl

/-- What comes from a function that changes nothing twice is changed by it only where something else changed it. -/
lemma map_modifyFirst_map {p : α → Bool} {f g : α → α} (hf : ∀ a, f (f a) = f a) (l : List α) :
    (modifyFirst p g (l.map f)).map f = modifyFirst p (fun a => f (g a)) (l.map f) := by
  have htwice : ∀ l : List α, (l.map f).map f = l.map f := by
    intro l
    rw [List.map_map]
    exact List.map_congr_left fun a _ => hf a
  induction l with
  | nil => rfl
  | cons a l ih =>
      by_cases ha : p (f a)
      · simp [modifyFirst, ha, hf]
      · simp only [List.map_cons, modifyFirst, ha, Bool.false_eq_true, if_false, hf, ih]

/-- What the change leaves alone stays the same. -/
lemma map_modifyFirst {p : α → Bool} {f : α → α} {g : α → β} (hf : ∀ a, p a → g (f a) = g a)
    (l : List α) : (modifyFirst p f l).map g = l.map g := by
  induction l with
  | nil => rfl
  | cons a l ih =>
      by_cases ha : p a
      · simp [modifyFirst, ha, hf]
      · simp [modifyFirst, ha, ih]

/-- A function that takes one change to the other takes one changed list to the other. -/
lemma map_modifyFirst_of_comm {p : α → Bool} {q : β → Bool} {f : α → α} {g : α → β} {f' : β → β}
    (hp : ∀ a, q (g a) = p a) (hf : ∀ a, g (f a) = f' (g a)) (l : List α) :
    (modifyFirst p f l).map g = modifyFirst q f' (l.map g) := by
  induction l with
  | nil => rfl
  | cons a l ih =>
      rw [List.map_cons, modifyFirst, modifyFirst, hp]
      split_ifs
      · rw [List.map_cons, hf]
      · rw [List.map_cons, ih]

lemma mem_modifyFirst {p : α → Bool} {f : α → α} {l : List α} {b : α} (h : b ∈ modifyFirst p f l) :
    b ∈ l ∨ ∃ a ∈ l, p a ∧ b = f a := by
  induction l with
  | nil => cases h
  | cons a l ih =>
      by_cases ha : p a
      · simp only [modifyFirst, ha, if_true, List.mem_cons] at h
        rcases h with rfl | h
        · exact .inr ⟨a, List.mem_cons_self, ha, rfl⟩
        · exact .inl (List.mem_cons_of_mem a h)
      · simp only [modifyFirst, ha, if_false, List.mem_cons, Bool.false_eq_true] at h
        rcases h with rfl | h
        · exact .inl List.mem_cons_self
        · rcases ih h with h | ⟨c, hc, hpc, hb⟩
          · exact .inl (List.mem_cons_of_mem a h)
          · exact .inr ⟨c, List.mem_cons_of_mem a hc, hpc, hb⟩

/-- What holds of all elements holds of all after the change exactly if it holds of the one that is changed. -/
lemma forall_modifyFirst_iff {p : α → Bool} {f : α → α} {l : List α} {Q : α → Prop} (h : ∀ a ∈ l, Q a) :
    (∀ a ∈ modifyFirst p f l, Q a) ↔ ∀ a, l.find? p = some a → Q (f a) := by
  rcases hfind : l.find? p with _ | a
  · have hnone : ∀ a ∈ l, p a = false := by simpa using List.find?_eq_none.mp hfind
    rw [modifyFirst_of_none hnone]
    exact iff_of_true h fun a ha => by cases ha
  · rcases modifyFirst_split f hfind with ⟨front, back, rfl, -, -, hmodified⟩
    simp only [List.forall_mem_append, List.forall_mem_cons] at h
    rw [hmodified]
    simp only [List.forall_mem_append, List.forall_mem_cons, Option.some.injEq, forall_eq']
    exact ⟨fun hafter => hafter.2.1, fun hchanged => ⟨h.1, hchanged, h.2.2⟩⟩

/-- The keys of a set are still there after an element has got another key exactly if its old key is not one of
the set, or is that of another element, too. -/
lemma subset_modifyFirst_iff [DecidableEq κ] {key : α → κ} {p : α → Bool} {f : α → α} {l : List α} {a : α}
    {keys : List κ} (h : keys ⊆ l.map key) (hfind : l.find? p = some a) (hkey : key (f a) ≠ key a) :
    keys ⊆ (modifyFirst p f l).map key ↔ (key a ∈ keys → 1 < (l.map key).count (key a)) := by
  rcases modifyFirst_split f hfind with ⟨front, back, rfl, -, -, hmodified⟩
  have hcount : 1 < ((front ++ a :: back).map key).count (key a) ↔
      key a ∈ front.map key ∨ key a ∈ back.map key := by
    rw [List.map_append, List.map_cons, List.count_append, List.count_cons_self, ← List.count_pos_iff,
      ← List.count_pos_iff]
    omega
  rw [hmodified, hcount, List.map_append, List.map_cons]
  rw [List.map_append, List.map_cons] at h
  constructor
  · intro hafter ha
    rcases List.mem_append.mp (hafter ha) with hfront | hrest
    · exact .inl hfront
    · exact .inr (List.mem_of_ne_of_mem hkey.symm hrest)
  · intro hothers k hk
    rcases List.mem_append.mp (h hk) with hfront | hrest
    · exact List.mem_append_left _ hfront
    · rcases List.mem_cons.mp hrest with rfl | hback
      · rcases hothers hk with hfront | hback
        · exact List.mem_append_left _ hfront
        · exact List.mem_append_right _ (List.mem_cons_of_mem _ hback)
      · exact List.mem_append_right _ (List.mem_cons_of_mem _ hback)

/-! ## Order -/

/-- Sorted by key, with every key once. -/
def Increasing [LT κ] (key : α → κ) (l : List α) : Prop := l.Pairwise (key · < key ·)

/-- A sort by key. -/
structure Sorting {α κ : Type*} [LE κ] (key : α → κ) where
  run : List α → List α
  perm : ∀ l, (run l).Perm l
  sorted : ∀ l, (run l).Pairwise (key · ≤ key ·)

section Order

variable [LinearOrder κ] {key : α → κ}

lemma Increasing.nodup {l : List α} (h : Increasing key l) : (l.map key).Nodup :=
  List.pairwise_map.mpr (h.imp fun hab => hab.ne)

lemma increasing_of_nodup {l : List α} (hsorted : l.Pairwise (key · ≤ key ·))
    (hnodup : (l.map key).Nodup) : Increasing key l := by
  have hne : l.Pairwise (key · ≠ key ·) := List.pairwise_map.mp hnodup
  exact (hsorted.and hne).imp fun hab => lt_of_le_of_ne hab.1 hab.2

lemma Sorting.increasing (sort : Sorting key) {l : List α} (h : (l.map key).Nodup) :
    Increasing key (sort.run l) :=
  increasing_of_nodup (sort.sorted l) (((sort.perm l).map key).nodup_iff.mpr h)

/-- One element may stand for another exactly if it compares as that one does with all the others. -/
lemma Increasing.replace_iff {front back : List α} {a b : α}
    (h : Increasing key (front ++ a :: back)) :
    Increasing key (front ++ b :: back) ↔
      ∀ c ∈ front ++ back, key c ≠ key b ∧ (key c < key a ↔ key c < key b) := by
  have hsplit : ∀ x : α, Increasing key (front ++ x :: back) ↔
      Increasing key (front ++ back) ∧ (∀ c ∈ front, key c < key x) ∧ ∀ c ∈ back, key x < key c := by
    intro x
    simp only [Increasing, List.pairwise_append, List.pairwise_cons, List.mem_cons,
      forall_eq_or_imp]
    constructor
    · rintro ⟨hfront, ⟨hx, hback⟩, hcross⟩
      exact ⟨⟨hfront, hback, fun c hc => (hcross c hc).2⟩, fun c hc => (hcross c hc).1, hx⟩
    · rintro ⟨⟨hfront, hback, hcross⟩, hx, hx'⟩
      exact ⟨hfront, ⟨hx', hback⟩, fun c hc => ⟨hx c hc, hcross c hc⟩⟩
  rcases (hsplit a).mp h with ⟨hothers, hfront, hback⟩
  rw [hsplit b]
  constructor
  · rintro ⟨-, hfront', hback'⟩ c hc
    rcases List.mem_append.mp hc with hc | hc
    · exact ⟨(hfront' c hc).ne, iff_of_true (hfront c hc) (hfront' c hc)⟩
    · exact ⟨(hback' c hc).ne', iff_of_false (hback c hc).not_gt (hback' c hc).not_gt⟩
  · intro hcompare
    refine ⟨hothers, fun c hc => ?_, fun c hc => ?_⟩
    · exact (hcompare c (List.mem_append_left back hc)).2.mp (hfront c hc)
    · rcases hcompare c (List.mem_append_right front hc) with ⟨hne, hiff⟩
      exact lt_of_le_of_ne (not_lt.mp (mt hiff.mpr (hback c hc).not_gt)) hne.symm

/-- A sort by something else that grows with the key is a sort by key. -/
lemma Sorting.increasing_of_follows {μ : Type*} [LinearOrder μ] {other : α → μ} (sort : Sorting other)
    {l : List α} (hnodup : (l.map key).Nodup)
    (hfollows : ∀ a ∈ l, ∀ b ∈ l, key a < key b → other a < other b) :
    Increasing key (sort.run l) := by
  have hne : (sort.run l).Pairwise (key · ≠ key ·) :=
    List.pairwise_map.mp (((sort.perm l).map key).nodup_iff.mpr hnodup)
  refine ((sort.sorted l).and hne).imp_of_mem ?_
  intro a b ha hb hab
  by_contra hlt
  have hba := lt_of_le_of_ne (not_lt.mp hlt) hab.2.symm
  have hother := hfollows b ((sort.perm l).mem_iff.mp hb) a ((sort.perm l).mem_iff.mp ha) hba
  exact absurd hother hab.1.not_gt

/-- A sort that leaves elements with the same key in their order. -/
def Sorting.insertion (key : α → κ) : Sorting key where
  run := List.insertionSort fun a b => key a ≤ key b
  perm := List.perm_insertionSort _
  sorted l := by
    have htotal : Std.Total fun a b : α => key a ≤ key b := ⟨fun a b => le_total (key a) (key b)⟩
    have htrans : IsTrans α fun a b => key a ≤ key b := ⟨fun _ _ _ => le_trans⟩
    exact List.pairwise_insertionSort _ l

end Order

/-! ## Distinct keys -/

section Put

variable [DecidableEq κ] (key : α → κ)

/-- The element takes the place of the one with its key, or comes last. -/
@[grind =]
def put (a : α) (l : List α) : List α :=
  if l.any (key · == key a) then modifyFirst (key · == key a) (fun _ => a) l else l ++ [a]

/-- The elements are put one after another; the number is that of the new keys. -/
@[grind =]
def merge : List α → List α → List α × ℕ
  | [], l => (l, 0)
  | a :: batch, l =>
      let (l', added) := merge batch (put key a l)
      (l', if l.any (key · == key a) then added else added + 1)

variable {key}

lemma any_key {k : κ} {l : List α} : l.any (key · == k) ↔ k ∈ l.map key := by
  simp only [List.any_eq_true, beq_iff_eq, List.mem_map]

/-- The keys are those from before, with a new one last. -/
lemma map_put (a : α) (l : List α) :
    (put key a l).map key = if key a ∈ l.map key then l.map key else l.map key ++ [key a] := by
  by_cases h : key a ∈ l.map key
  · rw [put, if_pos (any_key.mpr h), if_pos h]
    apply map_modifyFirst
    intro b hb
    exact (beq_iff_eq.mp hb).symm
  · rw [put, if_neg (mt any_key.mp h), if_neg h]
    simp

lemma nodup_put {a : α} {l : List α} (h : (l.map key).Nodup) : ((put key a l).map key).Nodup := by
  rw [map_put]
  split_ifs with ha
  · exact h
  · exact List.Nodup.append h (List.nodup_singleton _) (by simpa using ha)

lemma mem_of_mem_put {a b : α} {l : List α} (h : b ∈ put key a l) : b ∈ l ∨ b = a := by
  rw [put] at h
  split_ifs at h with ha
  · rcases mem_modifyFirst h with h | ⟨-, -, -, h⟩
    · exact .inl h
    · exact .inr h
  · simpa using h

lemma length_put (a : α) (l : List α) :
    (put key a l).length = if l.any (key · == key a) then l.length else l.length + 1 := by
  have hlength := congrArg List.length (@map_put _ _ _ key a l)
  rw [List.length_map] at hlength
  rw [hlength]
  by_cases h : key a ∈ l.map key
  · rw [if_pos h, if_pos (any_key.mpr h), List.length_map]
  · rw [if_neg h, if_neg (mt any_key.mp h)]
    simp

lemma nodup_merge {batch l : List α} (h : (l.map key).Nodup) :
    (((merge key batch l).1).map key).Nodup := by
  induction batch generalizing l with
  | nil => exact h
  | cons a batch ih => exact ih (nodup_put h)

lemma mem_of_mem_merge {batch l : List α} {b : α} (h : b ∈ (merge key batch l).1) :
    b ∈ l ∨ b ∈ batch := by
  induction batch generalizing l with
  | nil => exact .inl h
  | cons a batch ih =>
      rcases ih h with h | h
      · rcases mem_of_mem_put h with h | rfl
        · exact .inl h
        · exact .inr List.mem_cons_self
      · exact .inr (List.mem_cons_of_mem a h)

/-- The keys are those of both lists. -/
lemma mem_map_merge {batch l : List α} {k : κ} :
    k ∈ (merge key batch l).1.map key ↔ k ∈ l.map key ∨ k ∈ batch.map key := by
  induction batch generalizing l with
  | nil => simp [merge]
  | cons a batch ih =>
      have hput : k ∈ (put key a l).map key ↔ k ∈ l.map key ∨ k = key a := by
        rw [map_put]
        split_ifs with ha
        · constructor
          · exact .inl
          · rintro (h | rfl)
            · exact h
            · exact ha
        · simp
      simp only [merge, ih, hput, List.map_cons, List.mem_cons, or_assoc]

lemma length_merge (batch l : List α) :
    (merge key batch l).1.length = l.length + (merge key batch l).2 := by
  induction batch generalizing l with
  | nil => rfl
  | cons a batch ih =>
      simp only [merge, ih, length_put]
      split_ifs <;> omega

/-- With nothing new, the keys stay in their places. -/
lemma map_merge_of_added {batch l : List α} (h : (merge key batch l).2 = 0) :
    (merge key batch l).1.map key = l.map key := by
  induction batch generalizing l with
  | nil => rfl
  | cons a batch ih =>
      simp only [merge] at h ⊢
      split_ifs at h with ha
      rw [ih h, map_put, if_pos (any_key.mp ha)]

/-- There is something new exactly if a key was not there. -/
lemma merge_added_pos {batch l : List α} :
    0 < (merge key batch l).2 ↔ ∃ a ∈ batch, key a ∉ l.map key := by
  constructor
  · intro h
    by_contra hnone
    push Not at hnone
    have hlength := @length_merge _ _ _ key batch l
    have hzero : (merge key batch l).2 = 0 := by
      clear h hlength
      induction batch generalizing l with
      | nil => rfl
      | cons a batch ih =>
          rw [List.forall_mem_cons] at hnone
          simp only [merge, any_key.mpr hnone.1, if_true]
          apply ih
          rw [map_put, if_pos hnone.1]
          exact hnone.2
    omega
  · rintro ⟨a, ha, hkey⟩
    by_contra hzero
    have hsame := @map_merge_of_added _ _ _ key batch l (by omega)
    have hmem : key a ∈ (merge key batch l).1.map key :=
      mem_map_merge.mpr (.inr (List.mem_map_of_mem ha))
    rw [hsame] at hmem
    exact hkey hmem

/-- The element is there afterwards, and the others with other keys. -/
lemma mem_put {a b : α} {l : List α} (h : (l.map key).Nodup) :
    b ∈ put key a l ↔ b = a ∨ (b ∈ l ∧ key b ≠ key a) := by
  by_cases ha : key a ∈ l.map key
  · rw [put, if_pos (any_key.mpr ha)]
    have hfound : (l.find? (key · == key a)).isSome :=
      List.find?_isSome.mpr (List.any_eq_true.mp (any_key.mpr ha))
    rcases Option.isSome_iff_exists.mp hfound with ⟨c, hfind⟩
    rcases modifyFirst_split (fun _ => a) hfind with ⟨front, back, rfl, -, hc, hmodified⟩
    rw [beq_iff_eq] at hc
    rw [List.map_append, List.map_cons, List.nodup_middle, List.nodup_cons, ← List.map_append, hc] at h
    have hothers : ∀ d ∈ front ++ back, key d ≠ key a := by
      intro d hd hkey
      exact h.1 (hkey ▸ List.mem_map_of_mem hd)
    rw [hmodified]
    simp only [List.mem_append, List.mem_cons]
    constructor
    · rintro (hfront | rfl | hback)
      · exact .inr ⟨.inl hfront, hothers b (List.mem_append_left _ hfront)⟩
      · exact .inl rfl
      · exact .inr ⟨.inr (.inr hback), hothers b (List.mem_append_right _ hback)⟩
    · rintro (rfl | ⟨hfront | rfl | hback, hne⟩)
      · exact .inr (.inl rfl)
      · exact .inl hfront
      · exact absurd hc hne
      · exact .inr (.inr hback)
  · rw [put, if_neg (mt any_key.mp ha), List.mem_append, List.mem_singleton]
    constructor
    · rintro (hb | rfl)
      · exact .inr ⟨hb, fun hkey => ha (hkey ▸ List.mem_map_of_mem hb)⟩
      · exact .inl rfl
    · rintro (rfl | ⟨hb, -⟩)
      · exact .inr rfl
      · exact .inl hb

/-- An element that was put last under its key is there afterwards, and so is one from before with a key under
which nothing was put. -/
lemma mem_merge {batch l : List α} {b : α} (h : (l.map key).Nodup) :
    b ∈ (merge key batch l).1 ↔
      (batch.filter (key · == key b)).getLast? = some b ∨ (b ∈ l ∧ key b ∉ batch.map key) := by
  induction batch generalizing l with
  | nil => simp [merge]
  | cons a batch ih =>
      rw [merge, ih (nodup_put h), mem_put h, List.map_cons, List.mem_cons, List.filter_cons]
      by_cases hkey : key a = key b
      · rw [if_pos (beq_iff_eq.mpr hkey), List.getLast?_cons]
        by_cases hlater : key b ∈ batch.map key
        · rcases List.mem_map.mp hlater with ⟨c, hc, hcb⟩
          have hne : batch.filter (key · == key b) ≠ [] :=
            List.ne_nil_of_mem (List.mem_filter.mpr ⟨hc, beq_iff_eq.mpr hcb⟩)
          rw [List.getLast?_eq_some_getLast hne, Option.getD_some]
          simp only [hlater, not_true_eq_false, and_false, or_true]
        · have hnil : batch.filter (key · == key b) = [] := by
            rw [List.filter_eq_nil_iff]
            intro c hc hcb
            exact hlater (List.mem_map.mpr ⟨c, hc, beq_iff_eq.mp hcb⟩)
          rw [hnil]
          simp [hlater, hkey, eq_comm]
      · rw [if_neg (mt beq_iff_eq.mp hkey)]
        have hba : b ≠ a := by
          rintro rfl
          exact hkey rfl
        simp [hba, Ne.symm hkey]

/-- The number is that of the keys that were not there. -/
lemma merge_added {batch l : List α} (h : (l.map key).Nodup) :
    (merge key batch l).2 = ((batch.map key).toFinset \ (l.map key).toFinset).card := by
  have hkeys : ((merge key batch l).1.map key).toFinset =
      (batch.map key).toFinset ∪ (l.map key).toFinset := by
    ext k
    rw [Finset.mem_union, List.mem_toFinset, List.mem_toFinset, List.mem_toFinset, mem_map_merge, or_comm]
  have hcard := congrArg Finset.card hkeys
  have hbefore := List.toFinset_card_of_nodup h
  have hafter := List.toFinset_card_of_nodup (@nodup_merge _ _ _ key batch l h)
  have hlength := @length_merge _ _ _ key batch l
  rw [← Finset.card_sdiff_add_card, hbefore, hafter] at hcard
  simp only [List.length_map] at hcard
  omega

end Put

end Keyed
