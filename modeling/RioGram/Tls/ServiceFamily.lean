import RioGram.Tls.DpiBypass
import Mathlib.Data.List.Infix

/-!
# The service a domain belongs to

`detect_service_family` looks for the first entry of `kDomainMappings` whose suffix the domain ends in,
and compares letters without their case.

**The mapping.**  No mapped suffix ends in another one (`mapping_eq_of_suffix`), so at most one entry
matches and the order of the table does not matter: `detectServiceFamily_eq`.

**Labels.**  The comparison does not stop at the dot before the suffix.  A domain of a service is the
mapped one or a subdomain of it (`BelongsTo`), and the classifier finds exactly these on the domains that
end in a mapped suffix only behind a dot, or are one (`AtLabelBoundary`).
-/

namespace RioGram

open Wire

namespace DpiBypass

/-- The byte `.`. -/
def dot : UInt8 := 46

/-- The domain in lower case. -/
def lowered (domain : Bytes) : Bytes := domain.map asciiTolower

@[simp] lemma length_lowered (domain : Bytes) : (lowered domain).length = domain.length := by
  simp [lowered]

lemma asciiIequals_iff (left right : Bytes) :
    asciiIequals left right = true ↔ lowered left = lowered right := by
  simp [asciiIequals, lowered]

/-- The suffix check of the source, as a statement about lists. -/
lemma asciiIequalsSuffix_iff (domain suffix : Bytes) :
    asciiIequalsSuffix domain suffix = true ↔ lowered suffix <:+ lowered domain := by
  unfold asciiIequalsSuffix
  by_cases hshort : domain.length < suffix.length
  · have hnot : ¬ lowered suffix <:+ lowered domain := by
      intro h
      have := h.length_le
      simp only [length_lowered] at this
      omega
    simp [hshort, hnot]
  · rw [if_neg hshort, asciiIequals_iff, List.suffix_iff_eq_drop]
    simp only [length_lowered]
    rw [lowered, List.map_drop, eq_comm]
    rfl

/-- The check for equality adds nothing: a domain is a suffix of itself. -/
lemma domainMatchesService_iff (domain suffix : Bytes) :
    domainMatchesService domain suffix = true ↔ lowered suffix <:+ lowered domain := by
  rw [domainMatchesService, Bool.or_eq_true, asciiIequals_iff, asciiIequalsSuffix_iff]
  constructor
  · rintro (heq | hsuffix)
    · exact heq ▸ List.suffix_rfl
    · exact hsuffix
  · exact Or.inr

/-! ## The table -/

/-- The mapped suffixes are written in lower case. -/
lemma lowered_of_mem : ∀ mapping ∈ domainMappings, lowered mapping.1 = mapping.1 := by decide

lemma family_ne_generic : ∀ mapping ∈ domainMappings, mapping.2 ≠ .generic := by decide

/-- **Mapped suffixes do not overlap.** -/
lemma mapping_eq_of_suffix :
    ∀ a ∈ domainMappings, ∀ b ∈ domainMappings, a.1 <:+ b.1 → a = b := by decide

/-- At most one entry matches. -/
lemma mapping_unique {domain : Bytes} {a b : Bytes × ServiceFamily} (ha : a ∈ domainMappings)
    (hb : b ∈ domainMappings) (hda : a.1 <:+ lowered domain) (hdb : b.1 <:+ lowered domain) : a = b := by
  rcases List.suffix_or_suffix_of_suffix hda hdb with h | h
  · exact mapping_eq_of_suffix a ha b hb h
  · exact (mapping_eq_of_suffix b hb a ha h).symm

lemma domainMatchesService_of_mem {mapping : Bytes × ServiceFamily} (h : mapping ∈ domainMappings)
    (domain : Bytes) :
    domainMatchesService domain mapping.1 = true ↔ mapping.1 <:+ lowered domain := by
  rw [domainMatchesService_iff, lowered_of_mem mapping h]

/-- The family is the one of the entry that matches, whichever place it has in the table. -/
lemma detectServiceFamily_eq {domain : Bytes} {mapping : Bytes × ServiceFamily}
    (hmem : mapping ∈ domainMappings) (hsuffix : mapping.1 <:+ lowered domain) :
    detectServiceFamily domain = mapping.2 := by
  unfold detectServiceFamily
  cases hfind : domainMappings.find? fun mapping => domainMatchesService domain mapping.1 with
  | none =>
      have hnone := List.find?_eq_none.mp hfind mapping hmem
      exact absurd ((domainMatchesService_of_mem hmem domain).mpr hsuffix) hnone
  | some found =>
      have hfound := List.mem_of_find?_eq_some hfind
      have hmatches : domainMatchesService domain found.1 = true := by simpa using List.find?_some hfind
      have hmatch := (domainMatchesService_of_mem hfound domain).mp hmatches
      rw [mapping_unique hfound hmem hmatch hsuffix]

/-- A family other than the generic one comes from an entry that matches. -/
lemma exists_of_detectServiceFamily_ne {domain : Bytes} (h : detectServiceFamily domain ≠ .generic) :
    ∃ mapping ∈ domainMappings, mapping.1 <:+ lowered domain := by
  by_contra hnone
  push Not at hnone
  refine h ?_
  have hfind : (domainMappings.find? fun mapping => domainMatchesService domain mapping.1) = none := by
    refine List.find?_eq_none.mpr fun mapping hmem hmatch => ?_
    exact hnone mapping hmem ((domainMatchesService_of_mem hmem domain).mp hmatch)
  rw [detectServiceFamily, hfind]

/-! ## Domains and their subdomains -/

/-- The domain is `suffix` or a subdomain of it, in any case of the letters. -/
def BelongsTo (domain suffix : Bytes) : Prop :=
  lowered domain = lowered suffix ∨ dot :: lowered suffix <:+ lowered domain

lemma BelongsTo.suffix {domain suffix : Bytes} (h : BelongsTo domain suffix) :
    lowered suffix <:+ lowered domain := by
  rcases h with heq | hdot
  · exact heq ▸ List.suffix_rfl
  · exact (List.suffix_cons _ _).trans hdot

/-- What the classifier is for: a service for the mapped domains and their subdomains only, and the
service that the entry names. -/
def ClassifiesByLabels (domain : Bytes) : Prop :=
  (detectServiceFamily domain ≠ .generic ↔ ∃ mapping ∈ domainMappings, BelongsTo domain mapping.1) ∧
    ∀ mapping ∈ domainMappings, BelongsTo domain mapping.1 → detectServiceFamily domain = mapping.2

/-- Where the domain ends in a mapped suffix there is nothing before it, or a dot. -/
def AtLabelBoundary (domain : Bytes) : Prop :=
  ∀ mapping ∈ domainMappings, asciiIequalsSuffix domain mapping.1 = true →
    domain.length = mapping.1.length ∨ domain[domain.length - mapping.1.length - 1]? = some dot

/-- Only letters change, and they stay letters. -/
lemma asciiTolower_eq_dot (c : UInt8) : asciiTolower c = dot ↔ c = dot := by
  unfold asciiTolower
  split_ifs with hupper
  · rw [← UInt8.toNat_inj, ← UInt8.toNat_inj, UInt8.toNat_add]
    have h32 : (32 : UInt8).toNat = 32 := rfl
    have hdot : dot.toNat = 46 := rfl
    rw [h32, hdot]
    omega
  · rfl

lemma getElem?_lowered_eq_dot (s : Bytes) (i : ℕ) : (lowered s)[i]? = some dot ↔ s[i]? = some dot := by
  rw [lowered, List.getElem?_map, Option.map_eq_some_iff]
  constructor
  · rintro ⟨c, hc, hdot⟩
    rwa [(asciiTolower_eq_dot c).mp hdot] at hc
  · exact fun hc => ⟨dot, hc, by decide⟩

/-- What ends in a suffix ends in a dot and the suffix exactly if the last of what is before is the dot. -/
lemma exists_append_dot_iff (front : Bytes) (last : UInt8) (suffix : Bytes) :
    (∃ other, other ++ dot :: suffix = front ++ last :: suffix) ↔ last = dot := by
  constructor
  · rintro ⟨other, hother⟩
    have happend : (other ++ [dot]) ++ suffix = (front ++ [last]) ++ suffix := by
      rw [List.append_assoc, List.append_assoc]
      exact hother
    have hlast := (List.append_inj' (List.append_cancel_right happend) rfl).2
    exact (List.cons.inj hlast).1.symm
  · rintro rfl
    exact ⟨front, rfl⟩

/-- The byte before a suffix, in the domain and in the domain in lower case. -/
lemma belongsTo_iff {domain suffix : Bytes} (h : lowered suffix <:+ lowered domain) :
    BelongsTo domain suffix ↔
      domain.length = suffix.length ∨ domain[domain.length - suffix.length - 1]? = some dot := by
  obtain ⟨before, hbefore⟩ := h
  have hlength : before.length + suffix.length = domain.length := by
    have := congrArg List.length hbefore
    simpa using this
  rw [← getElem?_lowered_eq_dot]
  rcases List.eq_nil_or_concat before with rfl | ⟨front, last, rfl⟩
  · have heq : lowered domain = lowered suffix := by simpa using hbefore.symm
    have hlen : domain.length = suffix.length := by simpa using hlength.symm
    exact ⟨fun _ => Or.inl hlen, fun _ => Or.inl heq⟩
  · rw [List.concat_eq_append] at hbefore hlength
    rw [List.length_append, List.length_singleton] at hlength
    have hsplit : lowered domain = front ++ last :: lowered suffix := by
      rw [← hbefore, List.append_assoc]
      rfl
    have hne : domain.length ≠ suffix.length := by omega
    have hindex : domain.length - suffix.length - 1 = front.length := by omega
    have hat : (lowered domain)[domain.length - suffix.length - 1]? = some last := by
      rw [hsplit, hindex, List.getElem?_append_right (Nat.le_refl _), Nat.sub_self]
      rfl
    have hlonger : lowered domain ≠ lowered suffix := fun heq => hne (by simpa using congrArg List.length heq)
    rw [hat, or_iff_right hne, Option.some.injEq, ← exists_append_dot_iff front last (lowered suffix), ← hsplit]
    exact or_iff_right hlonger

/-- **The classifier respects labels exactly where no mapped suffix starts inside a label.** -/
theorem classifiesByLabels_iff (domain : Bytes) :
    ClassifiesByLabels domain ↔ AtLabelBoundary domain := by
  constructor
  · rintro ⟨hiff, -⟩ mapping hmem hends
    have hsuffix := (asciiIequalsSuffix_iff _ _).mp hends
    rw [lowered_of_mem mapping hmem] at hsuffix
    have hservice : detectServiceFamily domain ≠ .generic := by
      rw [detectServiceFamily_eq hmem hsuffix]
      exact family_ne_generic mapping hmem
    obtain ⟨other, hother, hbelongs⟩ := hiff.mp hservice
    have hothersuffix := hbelongs.suffix
    rw [lowered_of_mem other hother] at hothersuffix
    obtain rfl := mapping_unique hmem hother hsuffix hothersuffix
    exact (belongsTo_iff hbelongs.suffix).mp hbelongs
  · intro hboundary
    have hfamily : ∀ mapping ∈ domainMappings, BelongsTo domain mapping.1 →
        detectServiceFamily domain = mapping.2 := by
      intro mapping hmem hbelongs
      have hsuffix := hbelongs.suffix
      rw [lowered_of_mem mapping hmem] at hsuffix
      exact detectServiceFamily_eq hmem hsuffix
    refine ⟨⟨fun hservice => ?_, ?_⟩, hfamily⟩
    · obtain ⟨mapping, hmem, hsuffix⟩ := exists_of_detectServiceFamily_ne hservice
      rw [← lowered_of_mem mapping hmem] at hsuffix
      have hends := (asciiIequalsSuffix_iff _ _).mpr hsuffix
      exact ⟨mapping, hmem, (belongsTo_iff hsuffix).mpr (hboundary mapping hmem hends)⟩
    · rintro ⟨mapping, hmem, hbelongs⟩
      rw [hfamily mapping hmem hbelongs]
      exact family_ne_generic mapping hmem

/-- `notya.ru` is none of the mapped domains, and is taken for one of Yandex. -/
theorem notya_not_classifiesByLabels :
    detectServiceFamily (ascii ['n', 'o', 't', 'y', 'a', '.', 'r', 'u']) = .yandex ∧
      ¬ ClassifiesByLabels (ascii ['n', 'o', 't', 'y', 'a', '.', 'r', 'u']) := by
  refine ⟨by decide, ?_⟩
  rintro ⟨hiff, -⟩
  obtain ⟨mapping, hmem, hbelongs⟩ := hiff.mp (by decide)
  revert hbelongs
  unfold BelongsTo
  revert mapping
  decide

end DpiBypass

end RioGram
