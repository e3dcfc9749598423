import Mathlib.Data.List.Basic
import Mathlib.Data.List.Induction
import Mathlib.Data.List.Pairwise
import Mathlib.Tactic.TypeStar

/-!
# Lists that are merged as they come

`merged f l` puts the lists `f a` of the elements of `l` after one another, each without what is there already;
`last g l` is the last of the values `g a` that there are.

* `merged_perm_iff`: the order of the elements does not matter for the merge exactly if of any two of the lists,
  each without its repetitions, one begins the other.
* `last_perm_iff`: it does not matter for the last value exactly if there is but one; `last_guard_perm_iff` is for
  values that count only if they pass a test.

`chosen R fits l` takes of a list what fits and goes with all that is taken before.

* `mem_chosen`: what goes with all others is taken.
-/

namespace Merging

variable {α β : Type*}

/-! ## Lists without repetitions -/

section Duplicates

variable [BEq β] [LawfulBEq β]

lemma eraseDups_filter (p : β → Bool) (l : List β) : (l.filter p).eraseDups = l.eraseDups.filter p := by
  match l with
  | [] => rfl
  | a :: l =>
      have ih := eraseDups_filter p (l.filter fun b => !b == a)
      rw [List.eraseDups_cons]
      cases ha : p a with
      | true =>
          rw [List.filter_cons_of_pos ha, List.filter_cons_of_pos ha, List.eraseDups_cons, ← ih,
            List.filter_filter, List.filter_filter]
          simp only [Bool.and_comm]
      | false =>
          have hdrop : (l.filter fun b => !b == a).filter p = l.filter p := by
            rw [List.filter_filter]
            refine List.filter_congr fun b _ => ?_
            cases hb : b == a with
            | false => simp
            | true => simp [beq_iff_eq.mp hb, ha]
          rw [List.filter_cons_of_neg (by simp [ha]), List.filter_cons_of_neg (by simp [ha]), ← ih, hdrop]
termination_by l.length
decreasing_by exact Nat.lt_succ_of_le (List.length_filter_le _ _)

lemma nodup_eraseDups (l : List β) : l.eraseDups.Nodup := by
  match l with
  | [] => exact List.nodup_nil
  | a :: l =>
      have ih := nodup_eraseDups (l.filter fun b => !b == a)
      rw [List.eraseDups_cons, List.nodup_cons]
      refine ⟨fun hmem => ?_, ih⟩
      rw [List.mem_eraseDups, List.mem_filter] at hmem
      simp at hmem
termination_by l.length
decreasing_by exact Nat.lt_succ_of_le (List.length_filter_le _ _)

omit [LawfulBEq β] in
lemma removeAll_eq_filter (xs ys : List β) : xs.removeAll ys = xs.filter fun x => !ys.elem x := rfl

/-- Nothing new is added. -/
lemma eraseDups_append_of_subset {xs ys : List β} (h : ∀ y ∈ ys, y ∈ xs) : (xs ++ ys).eraseDups = xs.eraseDups := by
  have hnone : ys.removeAll xs = [] := by
    rw [removeAll_eq_filter, List.filter_eq_nil_iff]
    intro y hy
    simp [h y hy]
  rw [List.eraseDups_append, hnone, List.eraseDups_nil, List.append_nil]

/-- What is there is the beginning of what comes. -/
lemma eraseDups_append_of_prefix {xs ys : List β} (h : xs.eraseDups <+: ys.eraseDups) :
    (xs ++ ys).eraseDups = ys.eraseDups := by
  rcases h with ⟨rest, hrest⟩
  have hnodup : (xs.eraseDups ++ rest).Nodup := by
    rw [hrest]
    exact nodup_eraseDups ys
  have hold : xs.eraseDups.filter (fun x => !xs.elem x) = [] := by
    rw [List.filter_eq_nil_iff]
    intro x hx
    simp [List.mem_eraseDups.mp hx]
  have hnew : rest.filter (fun x => !xs.elem x) = rest := by
    rw [List.filter_eq_self]
    intro x hx
    have hnot : x ∉ xs := fun hmem =>
      (List.nodup_append.mp hnodup).2.2 x (List.mem_eraseDups.mpr hmem) x hx rfl
    simp [hnot]
  rw [List.eraseDups_append, removeAll_eq_filter, eraseDups_filter, ← hrest, List.filter_append, hold, hnew,
    List.nil_append]

lemma eraseDups_of_nodup {xs : List β} (h : xs.Nodup) : xs.eraseDups = xs := by
  induction xs with
  | nil => rfl
  | cons x xs ih =>
      rw [List.nodup_cons] at h
      have hsame : xs.filter (fun y => !y == x) = xs := by
        rw [List.filter_eq_self]
        intro y hy
        have hne : y ≠ x := fun heq => h.1 (heq ▸ hy)
        simp [hne]
      rw [List.eraseDups_cons, hsame, ih h.2]

lemma eraseDups_eraseDups_append (xs ys : List β) : (xs.eraseDups ++ ys).eraseDups = (xs ++ ys).eraseDups := by
  have hsame : ys.removeAll xs.eraseDups = ys.removeAll xs := by
    rw [removeAll_eq_filter, removeAll_eq_filter]
    refine List.filter_congr fun y _ => ?_
    have hiff : y ∈ xs.eraseDups ↔ y ∈ xs := List.mem_eraseDups
    simp [hiff]
  rw [List.eraseDups_append, List.eraseDups_append, hsame, eraseDups_of_nodup (nodup_eraseDups xs)]

lemma eraseDups_append_eq_iff {xs ys : List β} (h : xs.Nodup) :
    (xs ++ ys).eraseDups = xs ↔ ∀ y ∈ ys, y ∈ xs := by
  constructor
  · intro heq y hy
    rw [← heq, List.mem_eraseDups]
    exact List.mem_append_right _ hy
  · intro hsubset
    rw [eraseDups_append_of_subset hsubset, eraseDups_of_nodup h]

/-! ## Merging -/

/-- The lists of the elements, after one another and without repetitions. -/
def merged (f : α → List β) (l : List α) : List β := (l.flatMap f).eraseDups

variable {f : α → List β} {l : List α}

omit [LawfulBEq β] in
@[simp] lemma merged_nil : merged f [] = [] := rfl

lemma mem_merged {b : β} : b ∈ merged f l ↔ ∃ a ∈ l, b ∈ f a := by
  rw [merged, List.mem_eraseDups, List.mem_flatMap]

lemma merged_concat (a : α) : merged f (l ++ [a]) = (merged f l ++ f a).eraseDups := by
  rw [merged, merged, eraseDups_eraseDups_append, List.flatMap_append, List.flatMap_singleton]

/-- The first list begins the merge. -/
lemma prefix_merged_cons (a : α) (l : List α) : (f a).eraseDups <+: merged f (a :: l) := by
  rw [merged, List.flatMap_cons, List.eraseDups_append]
  exact List.prefix_append _ _

/-- Of any two of the lists one begins the other. -/
def Chain (f : α → List β) (l : List α) : Prop :=
  ∀ a ∈ l, ∀ b ∈ l, (f a).eraseDups <+: (f b).eraseDups ∨ (f b).eraseDups <+: (f a).eraseDups

/-- The merge of a chain is its longest list. -/
lemma merged_of_chain (h : Chain f l) :
    (∀ a ∈ l, (f a).eraseDups <+: merged f l) ∧
      (merged f l = [] ∨ ∃ a ∈ l, merged f l = (f a).eraseDups) := by
  induction l with
  | nil => exact ⟨fun a ha => absurd ha List.not_mem_nil, .inl rfl⟩
  | cons a l ih =>
      have hchain : Chain f l := fun b hb c hc => h b (List.mem_cons_of_mem a hb) c (List.mem_cons_of_mem a hc)
      rcases ih hchain with ⟨hbegins, hlongest⟩
      have hmerged : merged f (a :: l) = (f a ++ l.flatMap f).eraseDups := by
        rw [merged, List.flatMap_cons]
      -- The list of `a` is longer than the merge of the others, or it begins it.
      have hcases : merged f (a :: l) = (f a).eraseDups ∧ merged f l <+: (f a).eraseDups ∨
          merged f (a :: l) = merged f l ∧ (f a).eraseDups <+: merged f l := by
        rcases hlongest with hnil | ⟨b, hb, hlongest⟩
        · refine .inl ⟨?_, hnil ▸ List.nil_prefix⟩
          rw [hmerged]
          refine eraseDups_append_of_subset fun y hy => ?_
          have hmem : y ∈ merged f l := List.mem_eraseDups.mpr hy
          rw [hnil] at hmem
          cases hmem
        · rcases h a List.mem_cons_self b (List.mem_cons_of_mem a hb) with hab | hba
          · refine .inr ⟨?_, hlongest ▸ hab⟩
            rw [hmerged]
            exact eraseDups_append_of_prefix (by rw [← merged, hlongest]; exact hab)
          · refine .inl ⟨?_, hlongest ▸ hba⟩
            rw [hmerged]
            refine eraseDups_append_of_subset fun y hy => ?_
            have hmem : y ∈ merged f l := List.mem_eraseDups.mpr hy
            rw [hlongest] at hmem
            exact List.mem_eraseDups.mp (hba.subset hmem)
      rcases hcases with ⟨heq, hle⟩ | ⟨heq, hle⟩
      · rw [heq]
        refine ⟨fun c hc => ?_, .inr ⟨a, List.mem_cons_self, rfl⟩⟩
        rcases List.mem_cons.mp hc with rfl | hc
        · exact List.prefix_rfl
        · exact (hbegins c hc).trans hle
      · rw [heq]
        refine ⟨fun c hc => ?_, ?_⟩
        · rcases List.mem_cons.mp hc with rfl | hc
          · exact hle
          · exact hbegins c hc
        · exact hlongest.imp_right fun ⟨b, hb, hlongest⟩ => ⟨b, List.mem_cons_of_mem a hb, hlongest⟩

lemma exists_perm_cons {a : α} (h : a ∈ l) : ∃ l', (a :: l').Perm l := by
  rcases List.append_of_mem h with ⟨before, after, rfl⟩
  exact ⟨before ++ after, List.perm_middle.symm⟩

lemma map_eq_self_iff {h : α → α} : l.map h = l ↔ ∀ a ∈ l, h a = a := by
  have hsame : l.map id = l := List.map_id l
  calc l.map h = l ↔ l.map h = l.map id := by rw [hsame]
    _ ↔ ∀ a ∈ l, h a = a := List.map_inj_left

/-- Every order of the images comes from an order of the elements. -/
lemma exists_perm_map {γ : Type*} {h : α → γ} {m : List γ} (hm : m.Perm (l.map h)) :
    ∃ l' : List α, l'.Perm l ∧ l'.map h = m := by
  induction l generalizing m with
  | nil => exact ⟨[], List.Perm.refl _, hm.eq_nil.symm⟩
  | cons a l ih =>
      rcases List.append_of_mem (hm.mem_iff.mpr List.mem_cons_self) with ⟨before, after, rfl⟩
      rcases ih (List.perm_middle.symm.trans hm).cons_inv with ⟨l', hl', hmap⟩
      rcases List.map_eq_append_iff.mp hmap with ⟨xs, ys, rfl, rfl, rfl⟩
      refine ⟨xs ++ a :: ys, List.perm_middle.trans (hl'.cons a), ?_⟩
      rw [List.map_append, List.map_cons]

/-- **The order does not matter for a merge** exactly if of any two of the lists one begins the other. -/
theorem merged_perm_iff : (∀ l', l'.Perm l → merged f l' = merged f l) ↔ Chain f l := by
  constructor
  · intro h
    have hbegins : ∀ a ∈ l, (f a).eraseDups <+: merged f l := by
      intro a ha
      rcases exists_perm_cons ha with ⟨l', hl'⟩
      rw [← h _ hl']
      exact prefix_merged_cons a l'
    exact fun a ha b hb => List.prefix_or_prefix_of_prefix (hbegins a ha) (hbegins b hb)
  · intro h l' hl'
    have hchain : Chain f l' := fun a ha b hb => h a (hl'.mem_iff.mp ha) b (hl'.mem_iff.mp hb)
    have hle : ∀ {m m' : List α}, m.Perm m' → Chain f m → Chain f m' → merged f m <+: merged f m' := by
      intro m m' hm hchain hchain'
      rcases (merged_of_chain hchain).2 with hnil | ⟨a, ha, hlongest⟩
      · rw [hnil]
        exact List.nil_prefix
      · rw [hlongest]
        exact (merged_of_chain hchain').1 a (hm.mem_iff.mp ha)
    exact (hle hl' hchain h).eq_of_length_le (hle hl'.symm h hchain).length_le

end Duplicates

/-! ## The last value -/

/-- The last of the values of the elements. -/
def last (g : α → Option β) (l : List α) : Option β := (l.filterMap g).getLast?

variable {g : α → Option β} {l : List α}

lemma last_concat (a : α) : last g (l ++ [a]) = (g a).or (last g l) := by
  cases ha : g a with
  | none => simp [last, List.filterMap_append, ha]
  | some b => simp [last, List.filterMap_append, ha]

lemma exists_of_last {b : β} (h : last g l = some b) : ∃ a ∈ l, g a = some b :=
  List.mem_filterMap.mp (List.mem_of_getLast? h)

lemma last_eq_none_iff : last g l = none ↔ ∀ a ∈ l, g a = none := by
  rw [last, List.getLast?_eq_none_iff, List.filterMap_eq_nil_iff]

/-- **The order does not matter for the last value** exactly if there is but one. -/
theorem last_perm_iff :
    (∀ l', l'.Perm l → last g l' = last g l) ↔
      ∀ a ∈ l, ∀ b ∈ l, ∀ x y, g a = some x → g b = some y → x = y := by
  constructor
  · intro h
    have hlast : ∀ a ∈ l, ∀ x, g a = some x → last g l = some x := by
      intro a ha x hx
      rcases exists_perm_cons ha with ⟨l', hl'⟩
      rw [← h (l' ++ [a]) (List.perm_append_singleton a l' |>.trans hl'), last_concat, hx]
      rfl
    intro a ha b hb x y hx hy
    exact Option.some.inj ((hlast a ha x hx).symm.trans (hlast b hb y hy))
  · intro h l' hl'
    have hperm : (l'.filterMap g).Perm (l.filterMap g) := hl'.filterMap g
    have hsame : ∀ x ∈ l.filterMap g, ∀ y ∈ l.filterMap g, x = y := by
      intro x hx y hy
      rcases List.mem_filterMap.mp hx with ⟨a, ha, hax⟩
      rcases List.mem_filterMap.mp hy with ⟨b, hb, hby⟩
      exact h a ha b hb x y hax hby
    rw [last, last]
    cases hfirst : (l.filterMap g).getLast? with
    | none =>
        rw [List.getLast?_eq_none_iff] at hfirst
        rw [hfirst] at hperm
        rw [hperm.eq_nil]
        rfl
    | some x =>
        have hx : x ∈ l.filterMap g := List.mem_of_getLast? hfirst
        cases hafter : (l'.filterMap g).getLast? with
        | none =>
            rw [List.getLast?_eq_none_iff] at hafter
            rw [hafter] at hperm
            rw [hperm.symm.eq_nil] at hx
            cases hx
        | some y => rw [hsame y (hperm.mem_iff.mp (List.mem_of_getLast? hafter)) x hx]

/-- Two elements do not have different values. -/
def Single (g : α → Option β) (l : List α) : Prop := ∀ a ∈ l, ∀ b ∈ l, ∀ x y, g a = some x → g b = some y → x = y

lemma single_iff_pairwise : Single g l ↔ l.Pairwise fun a b => ∀ x y, g a = some x → g b = some y → x = y := by
  constructor
  · exact fun h => List.pairwise_of_forall_mem_list h
  · intro h
    have hsymm : Std.Symm fun a b => ∀ x y, g a = some x → g b = some y → x = y :=
      ⟨fun a b hab x y hx hy => (hab y x hy hx).symm⟩
    refine fun a ha b hb => h.forall_of_forall (fun a _ x y hx hy => ?_) ha hb
    exact Option.some.inj (hx.symm.trans hy)

/-! ### Values that count only if they pass a test -/

section Guarded

variable {p : β → Bool} {f : α → β} {d : β}

lemma getD_guard (p : β → Bool) (x d : β) : (Option.guard p x).getD d = if p x then x else d := by
  by_cases h : p x
  · simp [h]
  · simp [h, Option.guard_eq_none_iff.mpr (eq_false_of_ne_true h)]

/-- Where the default does not pass the test, it stands for no value. -/
theorem last_guard_perm_iff (hd : p d = false) :
    (∀ l', l'.Perm l → (last (fun a => Option.guard p (f a)) l').getD d =
        (last (fun a => Option.guard p (f a)) l).getD d) ↔
      Single (fun a => Option.guard p (f a)) l := by
  refine Iff.trans (forall₂_congr fun l' _ => ?_) last_perm_iff
  have hvalue : ∀ l, last (fun a => Option.guard p (f a)) l ≠ some d := by
    intro l h
    rcases exists_of_last h with ⟨a, -, ha⟩
    rw [Option.guard_eq_some_iff] at ha
    rw [← ha.1, ha.2] at hd
    cases hd
  have h := hvalue l
  have h' := hvalue l'
  generalize last (fun a => Option.guard p (f a)) l = x at h ⊢
  generalize last (fun a => Option.guard p (f a)) l' = y at h' ⊢
  cases x with
  | none =>
      cases y with
      | none => simp
      | some y => simpa using h'
  | some x =>
      cases y with
      | none => simpa using Ne.symm h
      | some y => simp

end Guarded

/-! ## What goes with all that is taken before -/

section Chosen

variable (R : α → α → Prop) [DecidableRel R] (fits : α → Prop) [DecidablePred fits]

def chosen (l : List α) : List α :=
  l.foldl (fun result a => if (∀ b ∈ result, R a b) ∧ fits a then result ++ [a] else result) []

lemma chosen_concat (l : List α) (a : α) :
    chosen R fits (l ++ [a]) =
      if (∀ b ∈ chosen R fits l, R a b) ∧ fits a then chosen R fits l ++ [a] else chosen R fits l := by
  rw [chosen, List.foldl_append, List.foldl_cons, List.foldl_nil]
  rfl

lemma chosen_eq_pwFilter (l : List α) : chosen R fits l = ((l.filter fits).reverse.pwFilter R).reverse := by
  induction l using List.reverseRecOn with
  | nil => rfl
  | append_singleton l a ih =>
      rw [chosen_concat, ih, List.filter_append]
      by_cases hfits : fits a
      · rw [List.filter_singleton, decide_eq_true hfits, cond_true, List.reverse_append, List.reverse_singleton,
          List.singleton_append]
        by_cases hR : ∀ b ∈ (l.filter fits).reverse.pwFilter R, R a b
        · rw [List.pwFilter_cons_of_pos hR, List.reverse_cons]
          exact if_pos ⟨fun b hb => hR b (List.mem_reverse.mp hb), hfits⟩
        · rw [List.pwFilter_cons_of_neg hR]
          exact if_neg fun h => hR fun b hb => h.1 b (List.mem_reverse.mpr hb)
      · rw [List.filter_singleton, decide_eq_false hfits, cond_false, List.append_nil]
        exact if_neg fun h => hfits h.2

variable {R fits} {l : List α} {a : α}

lemma chosen_sublist : (chosen R fits l).Sublist l := by
  rw [chosen_eq_pwFilter]
  refine List.Sublist.trans ?_ (List.filter_sublist (p := fun a => decide (fits a)))
  simpa using (List.pwFilter_sublist (R := R) (l.filter fits).reverse).reverse

lemma pairwise_chosen : (chosen R fits l).Pairwise fun a b => R b a := by
  rw [chosen_eq_pwFilter, List.pairwise_reverse]
  exact List.pairwise_pwFilter _

lemma fits_of_mem_chosen (ha : a ∈ chosen R fits l) : fits a := by
  rw [chosen_eq_pwFilter, List.mem_reverse] at ha
  have hfilter := List.pwFilter_subset _ ha
  exact of_decide_eq_true (List.mem_filter.mp (List.mem_reverse.mp hfilter)).2

lemma mem_pwFilter (ha : a ∈ l) (h : ∀ b ∈ l, b ≠ a → R a b ∧ R b a) : a ∈ l.pwFilter R := by
  induction l with
  | nil => cases ha
  | cons c l ih =>
      have hlater : a ∈ l → a ∈ l.pwFilter R := fun ha => ih ha fun b hb => h b (List.mem_cons_of_mem _ hb)
      by_cases hc : ∀ b ∈ l.pwFilter R, R c b
      · rw [List.pwFilter_cons_of_pos hc]
        rcases List.mem_cons.mp ha with rfl | ha
        · exact List.mem_cons_self
        · exact List.mem_cons_of_mem _ (hlater ha)
      · rw [List.pwFilter_cons_of_neg hc]
        rcases List.mem_cons.mp ha with rfl | ha
        · -- what keeps it out can only be itself
          by_contra hout
          refine hc fun b hb => (h b (List.mem_cons_of_mem _ (List.pwFilter_subset _ hb)) ?_).1
          rintro rfl
          exact hout hb
        · exact hlater ha

/-- **What fits and goes with all others is taken.** -/
theorem mem_chosen (ha : a ∈ l) (hfits : fits a) (h : ∀ b ∈ l, fits b → b ≠ a → R a b ∧ R b a) :
    a ∈ chosen R fits l := by
  rw [chosen_eq_pwFilter, List.mem_reverse]
  refine mem_pwFilter ?_ fun b hb hne => ?_
  · rw [List.mem_reverse, List.mem_filter]
    exact ⟨ha, decide_eq_true hfits⟩
  · rw [List.mem_reverse, List.mem_filter] at hb
    exact h b hb.1 (of_decide_eq_true hb.2) hne

end Chosen

end Merging
