import Mathlib.Data.List.Forall2
import Mathlib.Data.List.TakeWhile

/-!
# Backtracking patterns

A pattern is tried as a regular expression is by an engine that backtracks: `Pattern.ways` are the ways to match it
at the start of a text, in the order in which they are tried, with what its groups have taken.  The first of them is
the match.

* `mem_ways_iff` — what the ways are, whatever their order.
* `Ascending.first_le` — the match of a pattern that repeats as little as it can is the shortest one.
* `head?_ways_run` — the match of a run after some units is the longest one.
* `mem_occurrences`, `mem_occurrences_of_first` — where a pattern is found that is looked for all through a text;
  `mem_allMatches` — what it takes there.
-/

namespace Patterns

variable {α : Type*}

/-- Patterns over units.  A `boundary` lies between a unit of a class and one that is none of it, or an end. -/
inductive Pattern (α : Type*) where
  | units (classes : List (α → Bool))
  | many (isUnit : α → Bool) (least : ℕ) (greedy : Bool)
  | seq (first second : Pattern α)
  | alt (first second : Pattern α)
  | group (body : Pattern α)
  | boundary (isUnit : α → Bool)

/-- What is taken, by the groups too, and what is left. -/
structure Way (α : Type*) where
  taken : List α
  groups : List (List α)
  rest : List α

/-- The text starts with units of the classes. -/
@[grind =]
def fits : List (α → Bool) → List α → Bool
  | [], _ => true
  | _ :: _, [] => false
  | isUnit :: classes, a :: text => isUnit a && fits classes text

/-- How often a unit is repeated, in the order of the tries. -/
def counts (least most : ℕ) (greedy : Bool) : List ℕ :=
  let up := List.range' least (most + 1 - least)
  if greedy then up.reverse else up

namespace Pattern

/-- The ways to match at the start of a text that comes after `prev`. -/
@[grind =]
def ways : Pattern α → Option α → List α → List (Way α)
  | units classes, _, text =>
      if fits classes text then [⟨text.take classes.length, [], text.drop classes.length⟩] else []
  | many isUnit least greedy, _, text =>
      (counts least (text.takeWhile isUnit).length greedy).map fun n => ⟨text.take n, [], text.drop n⟩
  | seq first second, prev, text =>
      (first.ways prev text).flatMap fun w =>
        (second.ways (w.taken.getLast?.or prev) w.rest).map fun w' =>
          ⟨w.taken ++ w'.taken, w.groups ++ w'.groups, w'.rest⟩
  | alt first second, prev, text => first.ways prev text ++ second.ways prev text
  | group body, prev, text => (body.ways prev text).map fun w => { w with groups := w.taken :: w.groups }
  | boundary isUnit, prev, text => if prev.any isUnit = text.head?.any isUnit then [] else [⟨[], [], text⟩]

/-- The match at the start of a text. -/
def matchStart (r : Pattern α) (text : List α) : Option (Way α) := (r.ways none text).head?

/-- The ends of the matches in a text that is gone through from the left, when `skip` units belong to the last
match still. -/
@[grind =]
def occurrencesFrom (r : Pattern α) : Option α → ℕ → ℕ → List α → List (ℕ × ℕ)
  | prev, _, start, [] => ((r.ways prev []).head?.map fun _ => (start, start)).toList
  | _, skip + 1, start, a :: text => occurrencesFrom r (some a) skip (start + 1) text
  | prev, 0, start, a :: text =>
      match (r.ways prev (a :: text)).head? with
      | none => occurrencesFrom r (some a) 0 (start + 1) text
      | some w =>
          (start, start + w.taken.length) :: occurrencesFrom r (some a) (w.taken.length - 1) (start + 1) text

def occurrences (r : Pattern α) (text : List α) : List (ℕ × ℕ) := r.occurrencesFrom none 0 0 text

/-- The same with what the matches take, beside where they start. -/
@[grind =]
def allMatchesFrom (r : Pattern α) : Option α → ℕ → ℕ → List α → List (ℕ × Way α)
  | prev, _, start, [] => ((r.ways prev []).head?.map fun w => (start, w)).toList
  | _, skip + 1, start, a :: text => allMatchesFrom r (some a) skip (start + 1) text
  | prev, 0, start, a :: text =>
      match (r.ways prev (a :: text)).head? with
      | none => allMatchesFrom r (some a) 0 (start + 1) text
      | some w => (start, w) :: allMatchesFrom r (some a) (w.taken.length - 1) (start + 1) text

def allMatches (r : Pattern α) (text : List α) : List (ℕ × Way α) := r.allMatchesFrom none 0 0 text

def hasMatch (r : Pattern α) (text : List α) : Bool := !(r.allMatches text).isEmpty

/-- Just this text. -/
def literal [BEq α] (text : List α) : Pattern α := units (text.map fun a => (· == a))

/-- A group between two texts. -/
def enclosed [BEq α] (opening : List α) (body : Pattern α) (closing : List α) : Pattern α :=
  seq (literal opening) (seq (group body) (literal closing))

/-! ## What the ways are -/

/-- The pattern takes a text between `prev` and `rest`, and its groups take parts of it. -/
@[grind =]
def Matches : Pattern α → Option α → List α → List (List α) → List α → Prop
  | units classes, _, taken, groups, _ => List.Forall₂ (fun isUnit a => isUnit a = true) classes taken ∧ groups = []
  | many isUnit least _, _, taken, groups, _ => (least ≤ taken.length ∧ ∀ a ∈ taken, isUnit a) ∧ groups = []
  | seq first second, prev, taken, groups, rest =>
      ∃ t t' g g', taken = t ++ t' ∧ groups = g ++ g' ∧ first.Matches prev t g (t' ++ rest) ∧
        second.Matches (t.getLast?.or prev) t' g' rest
  | alt first second, prev, taken, groups, rest =>
      first.Matches prev taken groups rest ∨ second.Matches prev taken groups rest
  | group body, prev, taken, groups, rest => ∃ g, groups = taken :: g ∧ body.Matches prev taken g rest
  | boundary isUnit, prev, taken, groups, rest =>
      taken = [] ∧ groups = [] ∧ prev.any isUnit ≠ rest.head?.any isUnit

end Pattern

lemma fits_iff {classes : List (α → Bool)} {text : List α} :
    fits classes text ↔ List.Forall₂ (fun isUnit a => isUnit a = true) classes (text.take classes.length) := by
  induction classes generalizing text with
  | nil => simp [fits]
  | cons isUnit classes ih =>
      cases text with
      | nil => simp [fits]
      | cons a text => simp [fits, ih]

lemma mem_counts {least most n : ℕ} {greedy : Bool} : n ∈ counts least most greedy ↔ least ≤ n ∧ n ≤ most := by
  have hup : n ∈ List.range' least (most + 1 - least) ↔ least ≤ n ∧ n ≤ most := by
    rw [List.mem_range'_1]
    omega
  rw [counts]
  split_ifs
  · rw [List.mem_reverse, hup]
  · exact hup

lemma length_le_takeWhile_iff {isUnit : α → Bool} {taken rest : List α} :
    taken.length ≤ ((taken ++ rest).takeWhile isUnit).length ↔ ∀ a ∈ taken, isUnit a := by
  induction taken with
  | nil => simp
  | cons a taken ih =>
      by_cases ha : isUnit a
      · simp [ha, ih]
      · simp [ha]

/-- A run of units ends at the first that is none. -/
lemma run_unique {isUnit : α → Bool} {t t' s s' : List α} {a a' : α} (h : t ++ a :: s = t' ++ a' :: s')
    (ht : ∀ b ∈ t, isUnit b) (ht' : ∀ b ∈ t', isUnit b) (ha : ¬isUnit a) (ha' : ¬isUnit a') :
    t = t' ∧ a :: s = a' :: s' := by
  have hsame : t = t' := by
    have htake := congrArg (List.takeWhile isUnit) h
    rwa [List.takeWhile_append_of_pos ht, List.takeWhile_append_of_pos ht', List.takeWhile_cons_of_neg ha,
      List.takeWhile_cons_of_neg ha', List.append_nil, List.append_nil] at htake
  rw [hsame] at h
  exact ⟨hsame, List.append_cancel_left h⟩

namespace Pattern

/-- **A way is a split of the text** of whose first part the pattern is. -/
theorem mem_ways_iff {r : Pattern α} {prev : Option α} {text : List α} {w : Way α} :
    w ∈ r.ways prev text ↔ text = w.taken ++ w.rest ∧ r.Matches prev w.taken w.groups w.rest := by
  induction r generalizing prev text w with
  | units classes =>
      rw [ways, Matches]
      constructor
      · intro hw
        split_ifs at hw with hfits
        · rw [List.mem_singleton.mp hw]
          exact ⟨(List.take_append_drop _ _).symm, fits_iff.mp hfits, rfl⟩
        · cases hw
      · rintro ⟨rfl, hclasses, hgroups⟩
        have hlength := hclasses.length_eq
        have htake : (w.taken ++ w.rest).take classes.length = w.taken := List.take_left' hlength.symm
        have hdrop : (w.taken ++ w.rest).drop classes.length = w.rest := List.drop_left' hlength.symm
        rw [if_pos (fits_iff.mpr (by rwa [htake])), htake, hdrop, List.mem_singleton, ← hgroups]
  | many isUnit least greedy =>
      rw [ways, Matches, List.mem_map]
      constructor
      · rintro ⟨n, hn, rfl⟩
        rcases mem_counts.mp hn with ⟨hleast, hmost⟩
        have hn : (text.take n).length = n :=
          List.length_take_of_le (hmost.trans (List.takeWhile_prefix isUnit).length_le)
        have hunits : (text.take n).length ≤ ((text.take n ++ text.drop n).takeWhile isUnit).length := by
          rw [List.take_append_drop, hn]
          exact hmost
        exact ⟨(List.take_append_drop n text).symm, ⟨by rwa [hn], length_le_takeWhile_iff.mp hunits⟩, rfl⟩
      · rintro ⟨rfl, ⟨hleast, hunits⟩, hgroups⟩
        refine ⟨w.taken.length, mem_counts.mpr ⟨hleast, length_le_takeWhile_iff.mpr hunits⟩, ?_⟩
        rw [List.take_left, List.drop_left, ← hgroups]
  | seq first second ihfirst ihsecond =>
      rw [ways, Matches, List.mem_flatMap]
      constructor
      · rintro ⟨w₁, hw₁, hw⟩
        rcases List.mem_map.mp hw with ⟨w₂, hw₂, rfl⟩
        rcases ihfirst.mp hw₁ with ⟨rfl, hfirst⟩
        rcases ihsecond.mp hw₂ with ⟨hrest, hsecond⟩
        refine ⟨by rw [hrest, List.append_assoc], _, _, _, _, rfl, rfl, ?_, hsecond⟩
        rwa [← hrest]
      · rintro ⟨rfl, t, t', g, g', htaken, hgroups, hfirst, hsecond⟩
        refine ⟨⟨t, g, t' ++ w.rest⟩, ihfirst.mpr ⟨by rw [htaken, List.append_assoc], hfirst⟩, ?_⟩
        refine List.mem_map.mpr ⟨⟨t', g', w.rest⟩, ihsecond.mpr ⟨rfl, hsecond⟩, ?_⟩
        rw [← htaken, ← hgroups]
  | alt first second ihfirst ihsecond =>
      rw [ways, Matches, List.mem_append, ihfirst, ihsecond, and_or_left]
  | group body ih =>
      rw [ways, Matches, List.mem_map]
      constructor
      · rintro ⟨w', hw', rfl⟩
        rcases ih.mp hw' with ⟨htext, hbody⟩
        exact ⟨htext, _, rfl, hbody⟩
      · rintro ⟨htext, g, hgroups, hbody⟩
        refine ⟨⟨w.taken, g, w.rest⟩, ih.mpr ⟨htext, hbody⟩, ?_⟩
        rw [← hgroups]
  | boundary isUnit =>
      rw [ways, Matches]
      constructor
      · intro hw
        split_ifs at hw with hsame
        · cases hw
        · rw [List.mem_singleton.mp hw]
          exact ⟨rfl, rfl, rfl, hsame⟩
      · rintro ⟨rfl, htaken, hgroups, hsame⟩
        rw [htaken, List.nil_append, if_neg hsame, List.mem_singleton, ← hgroups, ← htaken]

variable {r first second : Pattern α} {prev : Option α} {taken rest text : List α} {groups : List (List α)}

/-! ### Texts and what is between them -/

section literal

variable [BEq α] [LawfulBEq α]

lemma forall₂_literal {s : List α} :
    List.Forall₂ (fun isUnit a => isUnit a = true) (s.map fun a => (· == a)) taken ↔ taken = s := by
  rw [List.forall₂_map_left_iff]
  refine ⟨fun h => ?_, fun h => ?_⟩
  · exact (List.forall₂_eq_eq_eq ▸ h.imp fun _ _ hab => (beq_iff_eq.mp hab).symm : s = taken).symm
  · rw [h]
    exact List.forall₂_same.mpr fun _ _ => beq_self_eq_true _

@[simp] lemma matches_literal {s : List α} :
    (literal s).Matches prev taken groups rest ↔ taken = s ∧ groups = [] := by
  rw [literal, Matches, forall₂_literal]

lemma matches_enclosed {opening closing : List α} {body : Pattern α} :
    (enclosed opening body closing).Matches prev taken groups rest ↔
      ∃ t g, taken = opening ++ (t ++ closing) ∧ groups = t :: g ∧
        body.Matches (opening.getLast?.or prev) t g (closing ++ rest) := by
  simp only [enclosed, Matches, matches_literal]
  constructor
  · rintro ⟨_, _, _, _, rfl, rfl, ⟨rfl, rfl⟩, t, _, _, _, rfl, rfl, ⟨g, rfl, hbody⟩, rfl, rfl⟩
    exact ⟨t, g, rfl, by simp, hbody⟩
  · rintro ⟨t, g, rfl, rfl, hbody⟩
    exact ⟨_, _, _, _, rfl, rfl, ⟨rfl, rfl⟩, t, _, _, _, rfl, (List.append_nil _).symm, ⟨g, rfl, hbody⟩, rfl, rfl⟩

end literal

/-! ## The order of the ways -/

/-- Less is tried before more. -/
def Ascending (r : Pattern α) : Prop :=
  ∀ prev text, (r.ways prev text).Pairwise fun w w' => w.taken.length ≤ w'.taken.length

lemma ascending_many (isUnit : α → Bool) (least : ℕ) : (many isUnit least false).Ascending := by
  intro prev text
  have hup : (List.range' least ((text.takeWhile isUnit).length + 1 - least)).Pairwise (· < ·) :=
    List.pairwise_lt_range'
  rw [ways, List.pairwise_map]
  refine hup.imp fun {n n'} hlt => ?_
  rw [List.length_take, List.length_take]
  omega

lemma Ascending.group (h : r.Ascending) : (group r).Ascending := by
  intro prev text
  rw [ways, List.pairwise_map]
  exact h prev text

lemma length_units {classes : List (α → Bool)} {w : Way α} (h : w ∈ (units classes).ways prev text) :
    w.taken.length = classes.length :=
  (mem_ways_iff.mp h).2.1.length_eq.symm

lemma Ascending.units_seq (h : r.Ascending) (classes : List (α → Bool)) : (seq (units classes) r).Ascending := by
  intro prev text
  rw [ways, ways]
  split_ifs
  · rw [List.flatMap_singleton, List.pairwise_map]
    refine (h _ _).imp fun hle => ?_
    rw [List.length_append, List.length_append]
    exact Nat.add_le_add_left hle _
  · exact .nil

lemma Ascending.seq_units (h : r.Ascending) (classes : List (α → Bool)) : (seq r (units classes)).Ascending := by
  intro prev text
  have hlength : ∀ w v : Way α, v ∈ ((units classes).ways (w.taken.getLast?.or prev) w.rest).map (fun w' =>
      (⟨w.taken ++ w'.taken, w.groups ++ w'.groups, w'.rest⟩ : Way α)) →
      v.taken.length = w.taken.length + classes.length := by
    intro w v hv
    rcases List.mem_map.mp hv with ⟨w', hw', rfl⟩
    rw [List.length_append, length_units hw']
  rw [ways, List.pairwise_flatMap]
  constructor
  · intro w _
    refine List.pairwise_of_forall_mem_list fun v hv v' hv' => ?_
    rw [hlength w v hv, hlength w v' hv']
  · refine (h prev text).imp fun {w w'} hle v hv v' hv' => ?_
    rw [hlength w v hv, hlength w' v' hv']
    exact Nat.add_le_add_right hle _

lemma Ascending.enclosed [BEq α] (h : r.Ascending) (opening closing : List α) :
    (enclosed opening r closing).Ascending :=
  (h.group.seq_units _).units_seq _

/-- **The match is the shortest way** of a pattern that tries less before more. -/
theorem Ascending.first_le (h : r.Ascending) {w w' : Way α} (hw : r.matchStart text = some w)
    (hw' : w' ∈ r.ways none text) : w.taken.length ≤ w'.taken.length := by
  have hways := h none text
  rcases List.head?_eq_some_iff.mp hw with ⟨others, hothers⟩
  rw [hothers] at hw' hways
  rcases List.mem_cons.mp hw' with rfl | hw'
  · exact le_rfl
  · exact List.rel_of_pairwise_cons hways hw'

lemma mem_ways_of_matchStart {w : Way α} (hw : r.matchStart text = some w) : w ∈ r.ways none text :=
  List.mem_of_mem_head? hw

lemma matchStart_eq_none_iff : r.matchStart text = none ↔ ∀ w, w ∉ r.ways none text := by
  rw [matchStart, List.head?_eq_none_iff, List.eq_nil_iff_forall_not_mem]

/-! ## The longest run -/

lemma head?_counts {least most : ℕ} (h : least ≤ most) : (counts least most true).head? = some most := by
  rw [counts, if_pos rfl, List.head?_reverse, List.getLast?_range', if_neg (by omega)]
  congr 1
  omega

lemma counts_eq_nil {least most : ℕ} {greedy : Bool} (h : most < least) : counts least most greedy = [] := by
  rw [List.eq_nil_iff_forall_not_mem]
  intro n hn
  rw [mem_counts] at hn
  omega

lemma take_length_takeWhile (isUnit : α → Bool) (t : List α) :
    t.take (t.takeWhile isUnit).length = t.takeWhile isUnit :=
  (List.prefix_iff_eq_take.mp (List.takeWhile_prefix isUnit)).symm

lemma drop_length_takeWhile (isUnit : α → Bool) (t : List α) :
    t.drop (t.takeWhile isUnit).length = t.dropWhile isUnit := by
  have hparts := List.take_append_drop (t.takeWhile isUnit).length t
  conv_rhs at hparts => rw [← List.takeWhile_append_dropWhile (p := isUnit) (l := t)]
  rw [take_length_takeWhile] at hparts
  exact List.append_cancel_left hparts

lemma head?_dropWhile (isUnit : α → Bool) (t : List α) : (t.dropWhile isUnit).head?.any isUnit = false := by
  induction t with
  | nil => rfl
  | cons a t ih =>
      cases ha : isUnit a with
      | true => simpa [ha] using ih
      | false => simp [ha]

lemma takeWhile_run {isUnit : α → Bool} {run rest : List α} (hunits : ∀ a ∈ run, isUnit a)
    (hrest : rest.head?.any isUnit = false) : (run ++ rest).takeWhile isUnit = run := by
  rw [List.takeWhile_append_of_pos hunits]
  cases rest with
  | nil => rw [List.takeWhile_nil, List.append_nil]
  | cons a rest =>
      have ha : isUnit a = false := hrest
      rw [List.takeWhile_cons, ha, if_neg Bool.false_ne_true, List.append_nil]

/-- **What a run takes after some units**, if it takes as much as it can: all that there is. -/
theorem head?_ways_run {classes : List (α → Bool)} {isUnit : α → Bool} {least : ℕ} {w : Way α} :
    ((seq (units classes) (many isUnit least true)).ways prev text).head? = some w ↔
      ∃ taken run, text = taken ++ (run ++ w.rest) ∧ List.Forall₂ (fun isUnit a => isUnit a = true) classes taken ∧
        least ≤ run.length ∧ (∀ a ∈ run, isUnit a) ∧ w.rest.head?.any isUnit = false ∧ w.taken = taken ++ run ∧
        w.groups = [] := by
  rw [ways, ways]
  constructor
  · intro h
    split_ifs at h with hfits
    · rw [List.flatMap_singleton, ways, List.map_map] at h
      rcases Nat.lt_or_ge ((text.drop classes.length).takeWhile isUnit).length least with hless | hleast
      · rw [counts_eq_nil hless] at h
        cases h
      · rw [List.head?_map, head?_counts hleast, Option.map_some, Option.some.injEq] at h
        subst h
        simp only [Function.comp_apply, take_length_takeWhile, drop_length_takeWhile]
        refine ⟨text.take classes.length, (text.drop classes.length).takeWhile isUnit, ?_, fits_iff.mp hfits, hleast,
          fun a => List.mem_takeWhile_imp, head?_dropWhile _ _, rfl, rfl⟩
        rw [List.takeWhile_append_dropWhile, List.take_append_drop]
    · cases h
  · rintro ⟨taken, run, rfl, hclasses, hleast, hunits, hrest, htaken, hgroups⟩
    have htake : (taken ++ (run ++ w.rest)).take classes.length = taken := by
      rw [hclasses.length_eq, List.take_left]
    have hdrop : (taken ++ (run ++ w.rest)).drop classes.length = run ++ w.rest := by
      rw [hclasses.length_eq, List.drop_left]
    have hfits : fits classes (taken ++ (run ++ w.rest)) := fits_iff.mpr (htake.symm ▸ hclasses)
    rw [if_pos hfits, List.flatMap_singleton, ways, List.map_map, htake, hdrop, takeWhile_run hunits hrest,
      List.head?_map, head?_counts hleast]
    simp only [Option.map_some, Function.comp_apply, List.take_left, List.drop_left, ← htaken, Option.some.injEq]
    cases w
    cases hgroups
    rfl

lemma head?_ways_literal_run [BEq α] [LawfulBEq α] {s : List α} {isUnit : α → Bool} {least : ℕ} {w : Way α} :
    ((seq (literal s) (many isUnit least true)).ways prev text).head? = some w ↔
      ∃ run, text = s ++ (run ++ w.rest) ∧ least ≤ run.length ∧ (∀ a ∈ run, isUnit a) ∧
        w.rest.head?.any isUnit = false ∧ w.taken = s ++ run ∧ w.groups = [] := by
  rw [literal, head?_ways_run]
  constructor
  · rintro ⟨taken, run, htext, hs, hrun⟩
    rw [forall₂_literal.mp hs] at htext hrun
    exact ⟨run, htext, hrun⟩
  · rintro ⟨run, htext, hrun⟩
    exact ⟨s, run, htext, forall₂_literal.mpr rfl, hrun⟩

/-! ## All matches in a text -/

lemma mem_allMatchesFrom {skip start s : ℕ} {w : Way α} (h : (s, w) ∈ r.allMatchesFrom prev skip start text) :
    ∃ before : List α, text = before ++ (w.taken ++ w.rest) ∧ s = start + before.length ∧
      (r.ways (before.getLast?.or prev) (w.taken ++ w.rest)).head? = some w := by
  induction text generalizing prev skip start with
  | nil =>
      rw [allMatchesFrom, Option.mem_toList, Option.map_eq_some_iff] at h
      rcases h with ⟨w, hw, heq⟩
      cases heq
      have htext := (mem_ways_iff.mp (List.mem_of_mem_head? hw)).1
      exact ⟨[], htext, rfl, by rwa [← htext]⟩
  | cons a text ih =>
      have hlater : ∀ {skip}, (s, w) ∈ r.allMatchesFrom (some a) skip (start + 1) text →
          ∃ before : List α, a :: text = before ++ (w.taken ++ w.rest) ∧ s = start + before.length ∧
            (r.ways (before.getLast?.or prev) (w.taken ++ w.rest)).head? = some w := by
        intro skip h
        rcases ih h with ⟨before, rfl, hs, hw⟩
        refine ⟨a :: before, rfl, ?_, ?_⟩
        · rw [hs, List.length_cons]
          omega
        · have hlast : (a :: before).getLast?.or prev = before.getLast?.or (some a) := by
            rw [List.getLast?_cons]
            cases before.getLast? <;> rfl
          rwa [hlast]
      cases skip with
      | succ skip => exact hlater h
      | zero =>
          rw [allMatchesFrom] at h
          split at h
          · exact hlater h
          · rename_i w' hw
            rcases List.mem_cons.mp h with heq | h
            · cases heq
              have htext := (mem_ways_iff.mp (List.mem_of_mem_head? hw)).1
              exact ⟨[], htext, rfl, by rwa [← htext]⟩
            · exact hlater h

/-- **What a match takes** where it starts. -/
theorem mem_allMatches {s : ℕ} {w : Way α} (h : (s, w) ∈ r.allMatches text) :
    ∃ before : List α, text = before ++ (w.taken ++ w.rest) ∧ s = before.length ∧
      (r.ways before.getLast? (w.taken ++ w.rest)).head? = some w := by
  rcases mem_allMatchesFrom h with ⟨before, htext, hs, hw⟩
  rw [Option.or_none] at hw
  exact ⟨before, htext, by rw [hs, Nat.zero_add], hw⟩

lemma occurrencesFrom_eq (skip start : ℕ) :
    r.occurrencesFrom prev skip start text =
      (r.allMatchesFrom prev skip start text).map fun found => (found.1, found.1 + found.2.taken.length) := by
  induction text generalizing prev skip start with
  | nil =>
      rw [occurrencesFrom, allMatchesFrom]
      cases hw : (r.ways prev []).head? with
      | none => rfl
      | some w =>
          have htext := (mem_ways_iff.mp (List.mem_of_mem_head? hw)).1
          rw [Option.map_some, Option.map_some, Option.toList_some, Option.toList_some, List.map_singleton,
            (List.append_eq_nil_iff.mp htext.symm).1, List.length_nil, Nat.add_zero]
  | cons a text ih =>
      cases skip with
      | succ skip => exact ih skip (start + 1)
      | zero =>
          rw [occurrencesFrom, allMatchesFrom]
          cases (r.ways prev (a :: text)).head? with
          | none => exact ih 0 (start + 1)
          | some w => exact congrArg ((start, start + w.taken.length) :: ·) (ih (w.taken.length - 1) (start + 1))

lemma mem_occurrencesFrom {skip start s e : ℕ} (h : (s, e) ∈ r.occurrencesFrom prev skip start text) :
    ∃ (before : List α) (w : Way α), text = before ++ (w.taken ++ w.rest) ∧ s = start + before.length ∧
      e = s + w.taken.length ∧ (r.ways (before.getLast?.or prev) (w.taken ++ w.rest)).head? = some w := by
  rw [occurrencesFrom_eq, List.mem_map] at h
  rcases h with ⟨⟨s', w⟩, hfound, heq⟩
  cases heq
  rcases mem_allMatchesFrom hfound with ⟨before, htext, hs, hw⟩
  exact ⟨before, w, htext, hs, rfl, hw⟩

/-- Where a pattern is found, its first way takes the text. -/
lemma first_of_mem_occurrences {s e : ℕ} (h : (s, e) ∈ r.occurrences text) :
    ∃ (before : List α) (w : Way α), text = before ++ (w.taken ++ w.rest) ∧ s = before.length ∧
      e = s + w.taken.length ∧ (r.ways before.getLast? (w.taken ++ w.rest)).head? = some w := by
  rcases mem_occurrencesFrom h with ⟨before, w, htext, hs, he, hw⟩
  rw [Option.or_none] at hw
  exact ⟨before, w, htext, by rw [hs, Nat.zero_add], he, hw⟩

/-- **Where a pattern is found**, it takes the text. -/
theorem mem_occurrences {s e : ℕ} (h : (s, e) ∈ r.occurrences text) :
    ∃ (before : List α) (w : Way α), text = before ++ (w.taken ++ w.rest) ∧ s = before.length ∧
      e = s + w.taken.length ∧ r.Matches before.getLast? w.taken w.groups w.rest := by
  rcases first_of_mem_occurrences h with ⟨before, w, htext, hs, he, hw⟩
  exact ⟨before, w, htext, hs, he, (mem_ways_iff.mp (List.mem_of_mem_head? hw)).2⟩

lemma mem_occurrencesFrom_of_first {a : α} {before rest : List α} {w : Way α}
    (hstart : ∀ prev text w, w ∈ r.ways prev text → w.taken ≠ [] ∧ a ∉ w.taken.tail) {skip start : ℕ}
    (hskip : a ∉ (before ++ a :: rest).take skip)
    (hw : (r.ways (before.getLast?.or prev) (a :: rest)).head? = some w) :
    (start + before.length, start + before.length + w.taken.length) ∈
      r.occurrencesFrom prev skip start (before ++ a :: rest) := by
  induction before generalizing prev skip start with
  | nil =>
      cases skip with
      | succ skip => exact absurd List.mem_cons_self hskip
      | zero =>
          rw [List.getLast?_nil, Option.none_or] at hw
          rw [List.nil_append, occurrencesFrom, hw]
          exact List.mem_cons_self
  | cons b before ih =>
      have hlast : (b :: before).getLast?.or prev = before.getLast?.or (some b) := by
        rw [List.getLast?_cons]
        cases before.getLast? <;> rfl
      rw [hlast] at hw
      have hlater : ∀ {skip}, a ∉ (before ++ a :: rest).take skip →
          (start + (b :: before).length, start + (b :: before).length + w.taken.length) ∈
            r.occurrencesFrom (some b) skip (start + 1) (before ++ a :: rest) := by
        intro skip hskip
        rw [List.length_cons, show start + (before.length + 1) = start + 1 + before.length by omega]
        exact ih hskip hw
      rw [List.cons_append] at hskip ⊢
      cases skip with
      | succ skip => exact hlater fun ha => hskip (List.mem_cons_of_mem _ ha)
      | zero =>
          rw [occurrencesFrom]
          split
          · exact hlater List.not_mem_nil
          · rename_i w' hw'
            have hmem := List.mem_of_mem_head? hw'
            rcases hstart _ _ _ hmem with ⟨hne, htail⟩
            refine List.mem_cons_of_mem _ (hlater fun ha => htail ?_)
            -- what the match takes after its first unit is what is skipped
            rcases List.exists_cons_of_ne_nil hne with ⟨c, taken, htaken⟩
            have htext := (mem_ways_iff.mp hmem).1
            rw [htaken, List.cons_append] at htext
            rw [htaken, List.length_cons, Nat.add_sub_cancel, (List.cons.inj htext).2, List.take_left] at ha
            rwa [htaken]

/-- **A pattern is found wherever it can start** with a unit that it takes nowhere else. -/
theorem mem_occurrences_of_first {a : α} {before rest : List α} {w : Way α}
    (hstart : ∀ prev text w, w ∈ r.ways prev text → w.taken ≠ [] ∧ a ∉ w.taken.tail)
    (hw : (r.ways before.getLast? (a :: rest)).head? = some w) :
    (before.length, before.length + w.taken.length) ∈ r.occurrences (before ++ a :: rest) := by
  have hfound : (0 + before.length, 0 + before.length + w.taken.length) ∈
      r.occurrencesFrom none 0 0 (before ++ a :: rest) :=
    mem_occurrencesFrom_of_first hstart List.not_mem_nil (by rwa [Option.or_none])
  rwa [Nat.zero_add] at hfound

end Pattern

end Patterns
