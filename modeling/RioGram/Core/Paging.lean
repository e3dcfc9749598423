import Mathlib.Data.List.Nodup

/-!
# Lists that come in pages

A list whose elements have keys comes page by page, and an element may be on several pages: what counts is
the last page that has it (`latest`).  `Shows` is a list that has every element once as it came last.

* `Shows.append_iff` says when putting the elements of the next page that are new to the list is enough.
* `Shows.stale_iff` and `Shows.dropped_iff` are for a page that does not belong to the list, and for one that
  is dropped.
-/

namespace Paging

variable {α κ : Type*} [DecidableEq κ] (key : α → κ)

/-- The element with the key on the last page that has one. -/
def latest (pages : List (List α)) (k : κ) : Option α := pages.flatten.reverse.find? (key · == k)

/-- The list has every element of the pages once, as it came last. -/
structure Shows (pages : List (List α)) (l : List α) : Prop where
  nodup : (l.map key).Nodup
  mem_iff : ∀ a, a ∈ l ↔ latest key pages (key a) = some a

/-- The elements of a page whose keys are not in the list. -/
def fresh (l page : List α) : List α := page.filter fun a => !l.any (key · == key a)

variable {key} {pages : List (List α)} {l l' page : List α}

lemma mem_fresh {a : α} : a ∈ fresh key l page ↔ a ∈ page ∧ ∀ b ∈ l, key b ≠ key a := by
  simp [fresh]

lemma latest_append (k : κ) :
    latest key (pages ++ [page]) k = (page.reverse.find? (key · == k)).or (latest key pages k) := by
  simp [latest, List.reverse_append, List.find?_append]

lemma find_of_nodup (h : (page.map key).Nodup) {a : α} {k : κ} :
    page.reverse.find? (key · == k) = some a ↔ a ∈ page ∧ key a = k := by
  have found : ∀ {b k}, page.reverse.find? (key · == k) = some b → b ∈ page ∧ key b = k := by
    intro b k hfind
    have hkey := List.find?_some hfind
    exact ⟨List.mem_reverse.mp (List.mem_of_find?_eq_some hfind), by simpa using hkey⟩
  constructor
  · exact found
  · rintro ⟨hmem, rfl⟩
    have hsome : (page.reverse.find? (key · == key a)).isSome :=
      List.find?_isSome.mpr ⟨a, List.mem_reverse.mpr hmem, beq_self_eq_true _⟩
    rcases Option.isSome_iff_exists.mp hsome with ⟨b, hb⟩
    rw [hb, List.inj_on_of_nodup_map h (found hb).1 hmem (found hb).2]

/-- What counts after the next page: its elements, and the others as before. -/
lemma latest_append_iff (h : (page.map key).Nodup) {a : α} :
    latest key (pages ++ [page]) (key a) = some a ↔
      a ∈ page ∨ (∀ b ∈ page, key b ≠ key a) ∧ latest key pages (key a) = some a := by
  rw [latest_append, Option.or_eq_some_iff, find_of_nodup h, List.find?_eq_none]
  simp

lemma Shows.nil : Shows key [] [] := by
  refine ⟨List.nodup_nil, fun a => ?_⟩
  simp [latest]

/-- Elements that are put to a list and have new keys. -/
lemma nodup_append_fresh (hl : (l.map key).Nodup) (hpage : (page.map key).Nodup) :
    ((l ++ fresh key l page).map key).Nodup := by
  rw [List.map_append]
  refine hl.append (hpage.sublist (List.filter_sublist.map key)) ?_
  intro k hold hnew
  rcases List.mem_map.mp hold with ⟨b, hb, rfl⟩
  rcases List.mem_map.mp hnew with ⟨a, ha, hkey⟩
  exact (mem_fresh.mp ha).2 b hb hkey.symm

/-- The new elements of the next page are enough exactly if the others have not changed. -/
theorem Shows.append_iff (h : Shows key pages l) (hpage : (page.map key).Nodup)
    (hl' : l'.Perm (l ++ fresh key l page)) :
    Shows key (pages ++ [page]) l' ↔ ∀ a ∈ page, ∀ b ∈ l, key b = key a → b = a := by
  have hmem : ∀ a, a ∈ l' ↔ a ∈ l ∨ a ∈ fresh key l page := fun a => by
    rw [hl'.mem_iff, List.mem_append]
  constructor
  · intro hshows a ha b hb hkey
    have ha' : a ∈ l' := (hshows.mem_iff a).mpr ((latest_append_iff hpage).mpr (.inl ha))
    exact List.inj_on_of_nodup_map hshows.nodup ((hmem b).mpr (.inl hb)) ha' hkey
  · intro hsame
    refine ⟨(hl'.map key).nodup_iff.mpr (nodup_append_fresh h.nodup hpage), fun a => ?_⟩
    rw [hmem, latest_append_iff hpage, ← h.mem_iff, mem_fresh]
    constructor
    · rintro (hold | hnew)
      · by_cases hagain : ∃ b ∈ page, key b = key a
        · rcases hagain with ⟨b, hb, hkey⟩
          rw [hsame b hb a hold hkey.symm]
          exact .inl hb
        · exact .inr ⟨fun b hb hkey => hagain ⟨b, hb, hkey⟩, hold⟩
      · exact .inl hnew.1
    · rintro (hnew | ⟨-, hold⟩)
      · by_cases hknown : ∃ b ∈ l, key b = key a
        · rcases hknown with ⟨b, hb, hkey⟩
          rw [← hsame a hnew b hb hkey]
          exact .inl hb
        · exact .inr ⟨hnew, fun b hb hkey => hknown ⟨b, hb, hkey⟩⟩
      · exact .inl hold

/-- A page that does not belong to the list does no harm exactly if it brings nothing new. -/
theorem Shows.stale_iff (h : Shows key pages l) (hl' : l'.Perm (l ++ fresh key l page)) :
    Shows key pages l' ↔ ∀ a ∈ page, ∃ b ∈ l, key b = key a := by
  have hnone : fresh key l page = [] ↔ ∀ a ∈ page, ∃ b ∈ l, key b = key a := by
    simp [fresh, List.filter_eq_nil_iff]
  rw [← hnone]
  constructor
  · intro hshows
    rw [List.eq_nil_iff_forall_not_mem]
    intro a hnew
    have ha' : a ∈ l' := hl'.mem_iff.mpr (List.mem_append_right _ hnew)
    exact (mem_fresh.mp hnew).2 a ((h.mem_iff a).mpr ((hshows.mem_iff a).mp ha')) rfl
  · intro hnil
    rw [hnil, List.append_nil] at hl'
    exact ⟨(hl'.map key).nodup_iff.mpr h.nodup, fun a => by rw [hl'.mem_iff, h.mem_iff]⟩

/-- A page may be dropped exactly if all of it is in the list. -/
theorem Shows.dropped_iff (h : Shows key pages l) (hpage : (page.map key).Nodup) :
    Shows key (pages ++ [page]) l ↔ ∀ a ∈ page, a ∈ l := by
  constructor
  · intro hshows a ha
    exact (hshows.mem_iff a).mpr ((latest_append_iff hpage).mpr (.inl ha))
  · intro hall
    refine ⟨h.nodup, fun a => ?_⟩
    rw [latest_append_iff hpage, ← h.mem_iff]
    constructor
    · intro hold
      by_cases hagain : ∃ b ∈ page, key b = key a
      · rcases hagain with ⟨b, hb, hkey⟩
        rw [← List.inj_on_of_nodup_map h.nodup (hall b hb) hold hkey]
        exact .inl hb
      · exact .inr ⟨fun b hb hkey => hagain ⟨b, hb, hkey⟩, hold⟩
    · rintro (hnew | ⟨-, hold⟩)
      · exact hall a hnew
      · exact hold

end Paging
