import RioGram.Core.Patterns

/-!
# Texts between quotes

A text that is cut at a unit, its quotes, into segments without any.  What a search for segments in quotes finds in it
is what a search among the segments finds.

* `prefix_joined_iff` — segments in quotes stand at a quote where they are the next segments.
* `indexOf_joined` — the first place where they stand.
-/

namespace Quoted

open Patterns

variable {α : Type*} [DecidableEq α]

/-- Where a text has another one first. -/
@[grind =]
def indexOf (text token : List α) : Option ℕ :=
  if token <+: text then some 0
  else
    match text with
    | [] => none
    | _ :: text => (indexOf text token).map (· + 1)

/-- `indexOf` from a place on. -/
def indexOfFrom (text token : List α) (start : ℕ) : Option ℕ := (indexOf (text.drop start) token).map (· + start)

def substring (text : List α) (start stop : ℕ) : List α := (text.take stop).drop start

variable {q : α} {text token s t : List α} {parts segments : List (List α)}

lemma indexOf_of_starts (h : token <+: text) : indexOf text token = some 0 := by
  rw [indexOf.eq_def, if_pos h]

lemma indexOf_cons_of_not_starts {a : α} (h : ¬token <+: a :: text) :
    indexOf (a :: text) token = (indexOf text token).map (· + 1) := by
  rw [indexOf, if_neg h]

lemma indexOf_isSome_iff : (indexOf text token).isSome ↔ token <:+: text := by
  induction text with
  | nil =>
      rw [indexOf, List.infix_nil]
      split_ifs with h
      · exact iff_of_true rfl (List.prefix_nil.mp h)
      · exact iff_of_false Bool.false_ne_true fun hnil => h (hnil ▸ List.nil_prefix)
  | cons a text ih =>
      rw [List.infix_cons_iff, ← ih]
      by_cases h : token <+: a :: text
      · rw [indexOf_of_starts h]
        exact iff_of_true rfl (.inl h)
      · rw [indexOf_cons_of_not_starts h, Option.isSome_map, or_iff_right h]

/-- What starts with a unit stands nowhere in a text without it. -/
lemma indexOf_append (hs : q ∉ s) (htoken : token.head? = some q) :
    indexOf (s ++ t) token = (indexOf t token).map (· + s.length) := by
  induction s with
  | nil => simp
  | cons a s ih =>
      rw [List.mem_cons, not_or] at hs
      have hno : ¬token <+: a :: (s ++ t) := by
        intro h
        rcases List.head?_eq_some_iff.mp htoken with ⟨others, rfl⟩
        exact hs.1 (List.cons_prefix_cons.mp h).1
      rw [List.cons_append, indexOf_cons_of_not_starts hno, ih hs.2, Option.map_map]
      rfl

lemma add_length_le_of_indexOf {i : ℕ} (h : indexOf text token = some i) : i + token.length ≤ text.length := by
  induction text generalizing i with
  | nil =>
      rw [indexOf] at h
      split_ifs at h with hnil
      cases h
      rw [Nat.zero_add]
      exact hnil.length_le
  | cons a text ih =>
      by_cases hbegin : token <+: a :: text
      · rw [indexOf_of_starts hbegin] at h
        cases h
        rw [Nat.zero_add]
        exact hbegin.length_le
      · rw [indexOf_cons_of_not_starts hbegin] at h
        rcases Option.map_eq_some_iff.mp h with ⟨j, hj, rfl⟩
        have hlength := ih hj
        rw [List.length_cons]
        omega

/-- What is found in a text is found there in a longer one. -/
lemma indexOf_append_right {i : ℕ} (h : indexOf text token = some i) : indexOf (text ++ t) token = some i := by
  induction text generalizing i with
  | nil =>
      rw [indexOf] at h
      split_ifs at h with hnil
      cases h
      exact indexOf_of_starts (hnil.trans (List.prefix_append _ _))
  | cons a text ih =>
      by_cases hstarts : token <+: a :: text
      · rw [indexOf_of_starts hstarts] at h
        cases h
        exact indexOf_of_starts (hstarts.trans (List.prefix_append _ _))
      · rw [indexOf_cons_of_not_starts hstarts] at h
        rcases Option.map_eq_some_iff.mp h with ⟨j, hj, rfl⟩
        have hlength := (Nat.le_add_left _ _).trans (add_length_le_of_indexOf hj)
        have hlater : ¬token <+: a :: (text ++ t) := fun hbegin => hstarts <|
          List.prefix_of_prefix_length_le hbegin (List.prefix_append (a :: text) t) (Nat.le_succ_of_le hlength)
        rw [List.cons_append, indexOf_cons_of_not_starts hlater, ih hj, Option.map_some]

/-- The text up to the first quote. -/
@[grind =]
def unquoted (q : α) (text : List α) : List α := text.takeWhile (· != q)

lemma unquoted_cons {a : α} (h : a ≠ q) (text : List α) : unquoted q (a :: text) = a :: unquoted q text :=
  List.takeWhile_cons_of_pos (bne_iff_ne.mpr h)

lemma unquoted_append_quote (s t : List α) : unquoted q (s ++ q :: t) = unquoted q s := by
  induction s with
  | nil => simp [unquoted]
  | cons a s ih =>
      rw [unquoted, unquoted, List.cons_append, List.takeWhile_cons, List.takeWhile_cons]
      rw [unquoted, unquoted] at ih
      rw [ih]

lemma unquoted_eq_self_iff : unquoted q s = s ↔ q ∉ s := by
  rw [unquoted, List.takeWhile_eq_self_iff]
  refine ⟨fun h hmem => ?_, fun h a ha => ?_⟩
  · exact bne_iff_ne.mp (h q hmem) rfl
  · exact bne_iff_ne.mpr fun heq => h (heq ▸ ha)

lemma quote_notMem_unquoted (s : List α) : q ∉ unquoted q s := by
  intro hmem
  have hunit := List.mem_takeWhile_imp (p := (· != q)) hmem
  exact bne_iff_ne.mp hunit rfl

/-- What comes before the first quote after a place. -/
lemma indexOfFrom_quote {start : ℕ} (h : text.drop start = s ++ q :: t) :
    ∃ stop, indexOfFrom text [q] start = some stop ∧ substring text start stop = unquoted q s := by
  have hmem : q ∈ text.drop start := by
    rw [h]
    simp
  rcases List.eq_append_cons_of_mem hmem with ⟨before, after, hdrop, hbefore⟩
  have hfirst : indexOf (q :: after) [q] = some 0 := indexOf_of_starts ⟨after, rfl⟩
  refine ⟨start + before.length, ?_, ?_⟩
  · rw [indexOfFrom, hdrop, indexOf_append hbefore rfl, hfirst, Option.map_some, Option.map_some, Nat.zero_add,
      Nat.add_comm]
  · rw [← unquoted_append_quote s t, ← h, hdrop, unquoted_append_quote, unquoted_eq_self_iff.mpr hbefore, substring,
      List.drop_take, Nat.add_sub_cancel_left, hdrop, List.take_left]

/-! ## Segments -/

/-- The segments with a quote between each two. -/
def joined (q : α) : List (List α) → List α
  | [] => []
  | [s] => s
  | s :: segments => s ++ q :: joined q segments

/-- Segments in quotes. -/
def inQuotes (q : α) (parts : List (List α)) : List α := q :: joined q (parts ++ [[]])

/-- The segments after the first place where others are, after which there is a quote. -/
def findAfter (parts : List (List α)) : List (List α) → Option (List (List α))
  | [] => none
  | s :: segments =>
      if parts <+: s :: segments ∧ parts.length < (s :: segments).length then
        some ((s :: segments).drop parts.length)
      else findAfter parts segments

omit [DecidableEq α] in
lemma joined_cons (s : List α) (hne : segments ≠ []) : joined q (s :: segments) = s ++ q :: joined q segments := by
  cases segments with
  | nil => exact absurd rfl hne
  | cons s' segments => rfl

/-- Runs without a quote end at the first one. -/
lemma append_quote_prefix {u : List α} (hs : q ∉ s) (hu : q ∉ u) {r : List α} :
    s ++ q :: t <+: u ++ q :: r ↔ s = u ∧ t <+: r := by
  constructor
  · rintro ⟨rest, h⟩
    have hunit : ∀ {l : List α}, q ∉ l → ∀ a ∈ l, (a != q) = true := fun hl a ha =>
      bne_iff_ne.mpr fun heq => hl (heq ▸ ha)
    rw [List.append_assoc, List.cons_append] at h
    have hquote : ¬(q != q) = true := by simp
    rcases run_unique h (hunit hs) (hunit hu) hquote hquote with ⟨rfl, hrest⟩
    exact ⟨rfl, rest, (List.cons.inj hrest).2⟩
  · rintro ⟨rfl, rest, rfl⟩
    exact ⟨rest, by rw [List.append_assoc, List.cons_append]⟩

/-- **Segments in quotes stand** where they are the next segments, before another one. -/
theorem prefix_joined_iff (hparts : ∀ s ∈ parts, q ∉ s) (hsegments : ∀ s ∈ segments, q ∉ s) (hne : segments ≠ []) :
    joined q (parts ++ [[]]) <+: joined q segments ↔ parts <+: segments ∧ parts.length < segments.length := by
  induction parts generalizing segments with
  | nil => exact iff_of_true List.nil_prefix ⟨List.nil_prefix, List.length_pos_iff.mpr hne⟩
  | cons p parts ih =>
      rw [List.forall_mem_cons] at hparts
      rw [List.cons_append, joined_cons p (List.append_ne_nil_of_right_ne_nil _ (List.cons_ne_nil _ _))]
      rcases List.exists_cons_of_ne_nil hne with ⟨s, segments, rfl⟩
      rw [List.forall_mem_cons] at hsegments
      rcases segments with _ | ⟨s', segments⟩
      · refine iff_of_false (fun hbegin => hsegments.1 (hbegin.subset ?_)) fun h => ?_
        · simp
        · simp at h
      · rw [joined_cons s (List.cons_ne_nil _ _), append_quote_prefix hparts.1 hsegments.1,
          ih hparts.2 hsegments.2 (List.cons_ne_nil _ _), List.cons_prefix_cons, and_assoc]
        simp only [List.length_cons, Nat.add_lt_add_iff_right]

omit [DecidableEq α] in
lemma drop_joined (h : parts <+: segments) (hlength : parts.length < segments.length) :
    (joined q segments).drop (joined q (parts ++ [[]])).length = joined q (segments.drop parts.length) := by
  induction parts generalizing segments with
  | nil => rfl
  | cons p parts ih =>
      rcases h with ⟨rest, rfl⟩
      have hrest : parts ++ rest ≠ [] := by
        intro hnil
        rw [List.cons_append, hnil, List.length_cons, List.length_singleton] at hlength
        omega
      rw [List.cons_append, List.cons_append, joined_cons p hrest,
        joined_cons p (List.append_ne_nil_of_right_ne_nil _ (List.cons_ne_nil _ _)), List.length_append,
        List.length_cons, List.length_cons, List.drop_succ_cons, ← List.drop_drop, List.drop_left, List.drop_succ_cons]
      exact ih ⟨rest, rfl⟩ (Nat.lt_of_succ_lt_succ hlength)

/-- **The first place** where segments in quotes stand is the first where they are the next segments; what comes after
are the segments after them. -/
theorem indexOf_joined (hparts : ∀ s ∈ parts, q ∉ s) (hsegments : ∀ s ∈ segments, q ∉ s) (hs : q ∉ s) :
    match findAfter parts segments with
    | none => indexOf (joined q (s :: segments)) (inQuotes q parts) = none
    | some after => ∃ i, indexOf (joined q (s :: segments)) (inQuotes q parts) = some i ∧
        (joined q (s :: segments)).drop (i + (inQuotes q parts).length) = joined q after := by
  induction segments generalizing s with
  | nil =>
      rw [findAfter]
      dsimp only
      rw [← Option.not_isSome_iff_eq_none, indexOf_isSome_iff]
      exact fun hpart => hs (hpart.subset List.mem_cons_self)
  | cons s' segments ih =>
      have hrest := List.forall_mem_cons.mp hsegments
      rw [joined_cons s (List.cons_ne_nil _ _), indexOf_append hs rfl, findAfter]
      have hbegin := prefix_joined_iff hparts hsegments (List.cons_ne_nil s' segments)
      split_ifs with hstands
      · have hfirst : indexOf (q :: joined q (s' :: segments)) (inQuotes q parts) = some 0 :=
          indexOf_of_starts (List.cons_prefix_cons.mpr ⟨rfl, hbegin.mpr hstands⟩)
        refine ⟨s.length, by rw [hfirst, Option.map_some, Nat.zero_add], ?_⟩
        rw [← List.drop_drop, List.drop_left, inQuotes, List.length_cons, List.drop_succ_cons]
        exact drop_joined hstands.1 hstands.2
      · have hlater : ¬inQuotes q parts <+: q :: joined q (s' :: segments) := fun h =>
          hstands (hbegin.mp (List.cons_prefix_cons.mp h).2)
        rw [indexOf_cons_of_not_starts hlater]
        have hfound := ih hrest.2 hrest.1
        split at hfound
        · rw [hfound]
          rfl
        · rcases hfound with ⟨i, hi, hdrop⟩
          refine ⟨i + 1 + s.length, by rw [hi]; rfl, ?_⟩
          rw [show i + 1 + s.length + (inQuotes q parts).length = s.length + (i + (inQuotes q parts).length + 1) by
            omega, ← List.drop_drop, List.drop_left, List.drop_succ_cons, hdrop]

/-- Segments in quotes are found before a text as they are without it. -/
lemma indexOf_joined_append {after : List (List α)} (hparts : ∀ s ∈ parts, q ∉ s) (hsegments : ∀ s ∈ segments, q ∉ s)
    (hs : q ∉ s) (hafter : findAfter parts segments = some after) (t : List α) :
    ∃ i, indexOf (joined q (s :: segments) ++ t) (inQuotes q parts) = some i ∧
      (joined q (s :: segments) ++ t).drop (i + (inQuotes q parts).length) = joined q after ++ t := by
  have hfound := indexOf_joined hparts hsegments hs
  rw [hafter] at hfound
  rcases hfound with ⟨i, hi, hdrop⟩
  refine ⟨i, indexOf_append_right hi, ?_⟩
  rw [List.drop_append_of_le_length (add_length_le_of_indexOf hi), hdrop]

end Quoted
