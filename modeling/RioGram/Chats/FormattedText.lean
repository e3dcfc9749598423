import RioGram.Chats.InlineMarkdown
import RioGram.Core.Merging
import Mathlib.Data.List.Chain

/-!
# Formatted text

`buildFromComposer` makes a text with entities of what is typed: the inline markup becomes entities, and so do
mentions and hashtags of what is left where there are none yet.

* `buildFromComposer_formats` — what the text and the entities are, for every text that is typed.
* `pair_split` — an entity that ends between two surrogates.
-/

namespace RioGram.Chats

open Excerpts Js Merging Patterns Pattern

structure FormattedText where
  text : Str
  entities : List TextEntity := []
deriving DecidableEq

namespace FormattedTextBuilder

/-! ## The builder -/

/-- `raw.replaceAll('\r\n', '\n')`. -/
def replaceCrlf : Str → Str
  | [] => []
  | [c] => [c]
  | c :: d :: rest => if c = 13 ∧ d = 10 then 10 :: replaceCrlf rest else c :: replaceCrlf (d :: rest)

/-- `[\w\d_]`, and `\w` -/
def isWord (c : UInt16) : Bool := (97 ≤ c && c ≤ 122) || (65 ≤ c && c ≤ 90) || (48 ≤ c && c ≤ 57) || c = 95

/-- A word in any case. -/
def ignoreCase (word : Str) : Pattern UInt16 := units (word.map fun c d => toLower d == c)

/-- `@(all|admins)\b`, case aside -/
def everyonePattern : Pattern UInt16 :=
  seq (literal (ascii "@"))
    (seq (group (alt (ignoreCase (ascii "all")) (ignoreCase (ascii "admins")))) (boundary isWord))

/-- `@[\w\d_]{3,}` -/
def mentionPattern : Pattern UInt16 := seq (literal (ascii "@")) (many isWord 3 true)

/-- `#[\w\d_]{2,}` -/
def hashtagPattern : Pattern UInt16 := seq (literal (ascii "#")) (many isWord 2 true)

/-- What is found of a pattern where nothing is yet. -/
def detect (plain : Str) (existing : List TextEntity) (pattern : Pattern UInt16) (kind : TextEntityKind) :
    List TextEntity :=
  let occupied := existing.map fun entity => (entity.offset, entity.offset + entity.length)
  let isOccupied := fun range : ℕ × ℕ => occupied.any fun other => range.1 < other.2 && range.2 > other.1
  ((pattern.occurrences plain).filter (!isOccupied ·)).map fun range =>
    { offset := range.1, length := range.2 - range.1, kind }

def detectMentionsAndHashtags (plain : Str) (existing : List TextEntity) : List TextEntity :=
  detect plain existing everyonePattern .mention ++ detect plain existing mentionPattern .mention ++
    detect plain existing hashtagPattern .hashtag

/-- The earlier first, and of those that begin at one place the longer. -/
def compareEntities (a b : TextEntity) : Ordering :=
  let byOffset := compare a.offset b.offset
  if byOffset ≠ .eq then byOffset else compare b.length a.length

/-- `_mergeEntities`; the sort of Dart is not stable, which does not matter here (`sort_unique`). -/
def mergeEntities (entities : List TextEntity) : List TextEntity :=
  (entities.mergeSort fun a b => (compareEntities a b).isLE).foldl (fun result entity =>
    let overlaps := result.any fun existing =>
      entity.offset < existing.offset + existing.length && entity.offset + entity.length > existing.offset
    if !overlaps && entity.length > 0 then result ++ [entity] else result) []

def buildFromComposer (raw : Str) : FormattedText :=
  let text := replaceCrlf raw
  if text = [] then { text := [] }
  else
    let segments := parseInlineMarkdown text
    let plain := segments.flatMap (·.plain)
    let entities := entitiesFrom 0 segments
    { text := plain, entities := mergeEntities (entities ++ detectMentionsAndHashtags plain entities) }

end FormattedTextBuilder

/-! ## Spans and surrogates -/

namespace TextEntity

/-- No unit is covered by both. -/
def Apart (a b : TextEntity) : Prop := a.offset + a.length ≤ b.offset ∨ b.offset + b.length ≤ a.offset

instance : DecidableRel Apart := fun _ _ => inferInstanceAs (Decidable (_ ∨ _))

def Covers (e : TextEntity) (i : ℕ) : Prop := e.offset ≤ i ∧ i < e.offset + e.length

/-- One of two neighbours is covered and the other is not. -/
def Splits (e : TextEntity) (i : ℕ) : Prop := ¬(e.Covers i ↔ e.Covers (i + 1))

lemma Apart.symm {a b : TextEntity} (h : a.Apart b) : b.Apart a := Or.symm h

instance : Std.Symm Apart := ⟨fun _ _ => Apart.symm⟩

lemma Splits.cases {e : TextEntity} {i : ℕ} (h : e.Splits i) :
    i + 1 = e.offset ∨ i + 1 = e.offset + e.length := by
  by_contra hno
  refine h ?_
  rw [Covers, Covers]
  omega

end TextEntity

/-- Two units that make one character. -/
def IsPair (s : Str) (i : ℕ) : Prop := s[i]?.any isHighSurrogate ∧ s[i + 1]?.any isLowSurrogate

/-- Every high surrogate is followed by a low one, and every low one comes after a high one. -/
def WellFormed (s : Str) : Prop := (0 :: (s ++ [0])).IsChain fun c d => isHighSurrogate c = isLowSurrogate d

namespace FormattedTextBuilder

variable {pieces before after : List Piece} {m : Markup} {e e' : TextEntity} {offset : ℕ} {raw plain : Str}

/-! ## The entities of the markup -/

lemma entity_mem (offset : ℕ) (before after : List Piece) (m : Markup) :
    m.entity (offset + (excerpt (before.map Piece.fragment)).length) ∈
      markupEntities offset (before ++ .markup m :: after) := by
  induction before generalizing offset with
  | nil => exact List.mem_cons_self
  | cons piece before ih =>
      rw [List.map_cons, excerpt_cons, List.length_append, ← Nat.add_assoc]
      cases piece with
      | literal c => exact ih (offset + 1)
      | markup m' => exact List.mem_cons_of_mem _ (ih (offset + m'.inner.length))

lemma exists_of_mem_markupEntities (h : e ∈ markupEntities offset pieces) :
    ∃ before m after, pieces = before ++ .markup m :: after ∧
      e = m.entity (offset + (excerpt (before.map Piece.fragment)).length) := by
  induction pieces generalizing offset with
  | nil => cases h
  | cons piece pieces ih =>
      have hlater : ∀ k, e ∈ markupEntities (offset + k) pieces → piece.fragment.kept.length = k →
          ∃ before m after, piece :: pieces = before ++ .markup m :: after ∧
            e = m.entity (offset + (excerpt (before.map Piece.fragment)).length) := by
        rintro k h rfl
        rcases ih h with ⟨before, m, after, rfl, he⟩
        refine ⟨piece :: before, m, after, rfl, ?_⟩
        rw [he, List.map_cons, excerpt_cons, List.length_append, Nat.add_assoc]
      cases piece with
      | literal c => exact hlater 1 h rfl
      | markup m =>
          rcases List.mem_cons.mp h with rfl | h
          · exact ⟨[], m, pieces, rfl, rfl⟩
          · exact hlater m.inner.length h rfl

lemma markupEntities_bounds (h : e ∈ markupEntities offset pieces) :
    offset ≤ e.offset ∧ e.offset + e.length ≤ offset + (excerpt (pieces.map Piece.fragment)).length := by
  rcases exists_of_mem_markupEntities h with ⟨before, m, after, rfl, rfl⟩
  rw [List.map_append, excerpt_append, List.map_cons, excerpt_cons, List.length_append, List.length_append]
  have hlength : (m.entity (offset + (excerpt (before.map Piece.fragment)).length)).length =
      (Piece.markup m).fragment.kept.length := rfl
  rw [hlength]
  have hoffset : (m.entity (offset + (excerpt (before.map Piece.fragment)).length)).offset =
      offset + (excerpt (before.map Piece.fragment)).length := rfl
  omega

/-- One markup comes after the other. -/
lemma markupEntities_pairwise (offset : ℕ) (pieces : List Piece) :
    (markupEntities offset pieces).Pairwise fun a b => a.offset + a.length ≤ b.offset := by
  induction pieces generalizing offset with
  | nil => exact .nil
  | cons piece pieces ih =>
      cases piece with
      | literal c => exact ih (offset + 1)
      | markup m =>
          refine List.pairwise_cons.mpr ⟨fun e' he' => ?_, ih (offset + m.inner.length)⟩
          exact (markupEntities_bounds he').1

lemma markupEntities_nonempty (hproper : ∀ m, .markup m ∈ pieces → m.IsProper)
    (h : e ∈ markupEntities offset pieces) : 0 < e.length := by
  rcases exists_of_mem_markupEntities h with ⟨before, m, after, rfl, rfl⟩
  have hm := hproper m (List.mem_append_right _ List.mem_cons_self)
  exact List.length_pos_iff.mpr hm.inner_ne_nil

/-- The markup is apart from what is not it. -/
lemma markupEntities_apart (he : e ∈ markupEntities offset pieces) (he' : e' ∈ markupEntities offset pieces)
    (hne : e ≠ e') : e.Apart e' := by
  have hpairs : (markupEntities offset pieces).Pairwise TextEntity.Apart :=
    (markupEntities_pairwise offset pieces).imp fun h => Or.inl h
  exact hpairs.forall he he' hne

/-! ## What is found of mentions and hashtags -/

def IsSurrogate (c : UInt16) : Prop := isHighSurrogate c ∨ isLowSurrogate c

lemma not_surrogate_of_lt {c : UInt16} (h : c < 128) : ¬IsSurrogate c := by
  rw [IsSurrogate, isHighSurrogate, isLowSurrogate]
  simp only [UInt16.lt_iff_toNat_lt, Bool.and_eq_true, decide_eq_true_eq, UInt16.le_iff_toNat_le] at h ⊢
  simp only [UInt16.reduceToNat] at h ⊢
  omega

lemma isWord_lt {c : UInt16} (h : isWord c) : c < 128 := by
  simp only [isWord, Bool.or_eq_true, Bool.and_eq_true, decide_eq_true_eq, UInt16.le_iff_toNat_le,
    ← UInt16.toNat_inj] at h
  rw [UInt16.lt_iff_toNat_lt]
  simp only [UInt16.reduceToNat] at h ⊢
  omega

lemma lt_of_toLower {c d : UInt16} (h : toLower c = d) (hd : d < 128) : c < 128 := by
  rw [toLower] at h
  split_ifs at h with hupper
  · simp only [Bool.and_eq_true, decide_eq_true_eq, UInt16.le_iff_toNat_le] at hupper
    rw [UInt16.lt_iff_toNat_lt]
    simp only [UInt16.reduceToNat] at hupper ⊢
    omega
  · rwa [h]

lemma lt_of_all {word : Str} (h : word.all fun c => c < 128) : ∀ c ∈ word, c < 128 := fun c hc =>
  of_decide_eq_true (List.all_eq_true.mp h c hc)

/-- All that the pattern takes starts with a unit, and is of ASCII. -/
def TakesAscii (pattern : Pattern UInt16) (first : UInt16) : Prop :=
  ∀ prev taken groups rest, pattern.Matches prev taken groups rest →
    taken.head? = some first ∧ ∀ c ∈ taken, c < 128

lemma takesAscii_everyone : TakesAscii everyonePattern 64 := by
  have hword : ∀ word : Str, (∀ c ∈ word, c < 128) → ∀ taken : Str,
      List.Forall₂ (fun (isUnit : UInt16 → Bool) c => isUnit c = true) (word.map fun c d => toLower d == c) taken →
        ∀ c ∈ taken, c < 128 := by
    intro word hword taken htaken
    rw [List.forall₂_map_left_iff] at htaken
    induction htaken with
    | nil => exact fun c hc => absurd hc List.not_mem_nil
    | cons hunit hothers ih =>
        rw [List.forall_mem_cons] at hword ⊢
        exact ⟨lt_of_toLower (beq_iff_eq.mp hunit) hword.1, ih hword.2⟩
  intro prev taken groups rest h
  rw [everyonePattern, Matches] at h
  rcases h with ⟨t, t', g, g', rfl, -, hat, u, u', k, k', rfl, -, ⟨l, -, hname⟩, rfl, -, -⟩
  rw [(matches_literal.mp hat).1]
  refine ⟨rfl, fun c hc => ?_⟩
  rcases List.mem_append.mp hc with hc | hc
  · exact lt_of_all (by decide) c hc
  · rw [List.append_nil] at hc
    rcases hname with hname | hname
    · exact hword (ascii "all") (lt_of_all (by decide)) u hname.1 c hc
    · exact hword (ascii "admins") (lt_of_all (by decide)) u hname.1 c hc

lemma takesAscii_words {sign : Str} {first : UInt16} (hfirst : sign = [first]) (hsign : first < 128) (least : ℕ) :
    TakesAscii (seq (literal sign) (many isWord least true)) first := by
  intro prev taken groups rest h
  rw [Matches] at h
  rcases h with ⟨t, t', g, g', rfl, -, hat, ⟨-, hwords⟩, -⟩
  rw [(matches_literal.mp hat).1, hfirst]
  refine ⟨rfl, fun c hc => ?_⟩
  rcases List.mem_cons.mp hc with rfl | hc
  · exact hsign
  · exact isWord_lt (hwords c hc)

/-- An entity that is found begins with a sign, is of ASCII and is apart from those that were there. -/
structure IsDetected (plain : Str) (existing : List TextEntity) (first : UInt16) (e : TextEntity) : Prop where
  span : ∃ before taken rest, plain = before ++ (taken ++ rest) ∧ e.offset = before.length ∧
    e.length = taken.length ∧ taken.head? = some first ∧ ∀ c ∈ taken, c < 128
  apart : ∀ e' ∈ existing, e.Apart e'
  bare : e.url = none ∧ e.userId = none

lemma isDetected_of_mem {existing : List TextEntity} {pattern : Pattern UInt16} {kind : TextEntityKind}
    {first : UInt16} (hpattern : TakesAscii pattern first) (h : e ∈ detect plain existing pattern kind) :
    e.kind = kind ∧ IsDetected plain existing first e := by
  rcases List.mem_map.mp h with ⟨⟨start, stop⟩, hrange, rfl⟩
  rcases List.mem_filter.mp hrange with ⟨hfound, hfree⟩
  rcases mem_occurrences hfound with ⟨before, w, hplain, hstart, hstop, hmatches⟩
  rcases hpattern _ _ _ _ hmatches with ⟨hhead, hascii⟩
  have hlength : stop - start = w.taken.length := by omega
  refine ⟨rfl, ⟨before, w.taken, w.rest, hplain, hstart, hlength, hhead, hascii⟩, fun e' he' => ?_, rfl, rfl⟩
  simp only [Bool.not_eq_true', List.any_eq_false, List.mem_map, forall_exists_index, and_imp, Bool.and_eq_true,
    decide_eq_true_eq, not_and] at hfree
  have hno := hfree _ e' he' rfl
  rw [TextEntity.Apart]
  dsimp only at hno ⊢
  omega

lemma detected_of_mem {existing : List TextEntity} (h : e ∈ detectMentionsAndHashtags plain existing) :
    (e.kind = .mention ∧ IsDetected plain existing 64 e) ∨ (e.kind = .hashtag ∧ IsDetected plain existing 35 e) := by
  rw [detectMentionsAndHashtags, List.mem_append, List.mem_append] at h
  rcases h with (h | h) | h
  · exact .inl (isDetected_of_mem takesAscii_everyone h)
  · exact .inl (isDetected_of_mem (takesAscii_words (by decide) (by decide) 3) h)
  · exact .inr (isDetected_of_mem (takesAscii_words (by decide) (by decide) 2) h)

/-! ## Merging -/

lemma compareEntities_isLE {a b : TextEntity} :
    (compareEntities a b).isLE ↔ a.offset < b.offset ∨ a.offset = b.offset ∧ b.length ≤ a.length := by
  rw [compareEntities]
  split_ifs with hoffset
  · rw [Nat.isLE_compare]
    rw [ne_eq, Nat.compare_eq_eq] at hoffset
    omega
  · rw [Nat.isLE_compare]
    rw [ne_eq, not_not, Nat.compare_eq_eq] at hoffset
    omega

lemma sorted_pairwise (entities : List TextEntity) :
    (entities.mergeSort fun a b => (compareEntities a b).isLE).Pairwise fun a b => (compareEntities a b).isLE := by
  refine List.pairwise_mergeSort (fun a b c hab hbc => ?_) (fun a b => ?_) entities
  · rw [compareEntities_isLE] at hab hbc ⊢
    omega
  · rw [Bool.or_eq_true, compareEntities_isLE, compareEntities_isLE]
    omega

lemma IsDetected.sign {existing : List TextEntity} {first : UInt16} (h : IsDetected plain existing first e) :
    plain[e.offset]? = some first := by
  rcases h.span with ⟨before, taken, rest, rfl, hoffset, -, hhead, -⟩
  rcases List.head?_eq_some_iff.mp hhead with ⟨others, rfl⟩
  rw [hoffset, List.getElem?_append_right le_rfl, Nat.sub_self]
  rfl

lemma IsDetected.ext {existing : List TextEntity} {first first' : UInt16} (h : IsDetected plain existing first e)
    (h' : IsDetected plain existing first' e') (hkind : e.kind = e'.kind) (hoffset : e.offset = e'.offset)
    (hlength : e.length = e'.length) : e = e' := by
  cases e
  cases e'
  cases hoffset
  cases hlength
  cases hkind
  cases h.bare.1.trans h'.bare.1.symm
  cases h.bare.2.trans h'.bare.2.symm
  rfl

/-- Entities with one span are one. -/
lemma eq_of_span (hproper : ∀ m, .markup m ∈ pieces → m.IsProper)
    (he : e ∈ markupEntities 0 pieces ++ detectMentionsAndHashtags plain (markupEntities 0 pieces))
    (he' : e' ∈ markupEntities 0 pieces ++ detectMentionsAndHashtags plain (markupEntities 0 pieces))
    (hoffset : e.offset = e'.offset) (hlength : e.length = e'.length) : e = e' := by
  have hmarkup : ∀ a ∈ markupEntities 0 pieces, ∀ b : TextEntity, a.offset = b.offset → a.length = b.length →
      ¬a.Apart b := by
    intro a ha b hoffset hlength hapart
    have hpos := markupEntities_nonempty hproper ha
    rw [TextEntity.Apart] at hapart
    omega
  rcases List.mem_append.mp he with he | he
  · rcases List.mem_append.mp he' with he' | he'
    · by_contra hne
      exact hmarkup e he e' hoffset hlength (markupEntities_apart he he' hne)
    · refine absurd ?_ (hmarkup e he e' hoffset hlength)
      rcases detected_of_mem he' with ⟨-, h⟩ | ⟨-, h⟩
      · exact (h.apart e he).symm
      · exact (h.apart e he).symm
  · rcases List.mem_append.mp he' with he' | he'
    · refine absurd ?_ (hmarkup e' he' e hoffset.symm hlength.symm)
      rcases detected_of_mem he with ⟨-, h⟩ | ⟨-, h⟩
      · exact (h.apart e' he').symm
      · exact (h.apart e' he').symm
    · rcases detected_of_mem he with ⟨hkind, h⟩ | ⟨hkind, h⟩
      · rcases detected_of_mem he' with ⟨hkind', h'⟩ | ⟨hkind', h'⟩
        · exact h.ext h' (hkind.trans hkind'.symm) hoffset hlength
        · cases (hoffset ▸ h.sign).symm.trans h'.sign
      · rcases detected_of_mem he' with ⟨hkind', h'⟩ | ⟨hkind', h'⟩
        · cases (hoffset ▸ h.sign).symm.trans h'.sign
        · exact h.ext h' (hkind.trans hkind'.symm) hoffset hlength

/-- **Any sort gives the same** of the entities of what is typed. -/
theorem sort_unique (hproper : ∀ m, .markup m ∈ pieces → m.IsProper) {sorted : List TextEntity}
    (hperm : sorted.Perm (markupEntities 0 pieces ++ detectMentionsAndHashtags plain (markupEntities 0 pieces)))
    (hsorted : sorted.Pairwise fun a b => (compareEntities a b).isLE) :
    sorted = (markupEntities 0 pieces ++ detectMentionsAndHashtags plain (markupEntities 0 pieces)).mergeSort
      fun a b => (compareEntities a b).isLE := by
  have hsort := List.mergeSort_perm (markupEntities 0 pieces ++ detectMentionsAndHashtags plain
    (markupEntities 0 pieces)) fun a b => (compareEntities a b).isLE
  refine List.Perm.eq_of_pairwise (fun a b ha hb hab hba => ?_) hsorted (sorted_pairwise _) (hperm.trans hsort.symm)
  rw [compareEntities_isLE] at hab hba
  exact eq_of_span hproper (hperm.mem_iff.mp ha) (hsort.mem_iff.mp hb) (by omega) (by omega)

lemma mergeEntities_eq (entities : List TextEntity) :
    mergeEntities entities = chosen TextEntity.Apart (fun e => 0 < e.length)
      (entities.mergeSort fun a b => (compareEntities a b).isLE) := by
  rw [mergeEntities, chosen]
  congr 1
  funext result entity
  have hiff : (!(result.any fun existing => entity.offset < existing.offset + existing.length &&
      entity.offset + entity.length > existing.offset) && decide (entity.length > 0)) = true ↔
        (∀ existing ∈ result, entity.Apart existing) ∧ 0 < entity.length := by
    simp only [Bool.and_eq_true, Bool.not_eq_true', List.any_eq_false, decide_eq_true_eq, not_and]
    refine and_congr_left' (forall₂_congr fun existing _ => ?_)
    rw [TextEntity.Apart]
    omega
  simp only [hiff]

lemma mem_of_mem_mergeEntities {entities : List TextEntity} (h : e ∈ mergeEntities entities) :
    e ∈ entities ∧ 0 < e.length := by
  rw [mergeEntities_eq] at h
  have hfits := fits_of_mem_chosen h
  exact ⟨List.mem_mergeSort.mp (chosen_sublist.subset h), hfits⟩

lemma mergeEntities_sorted (entities : List TextEntity) :
    (mergeEntities entities).Pairwise fun a b => a.offset ≤ b.offset := by
  rw [mergeEntities_eq]
  refine ((sorted_pairwise entities).imp fun h => ?_).sublist chosen_sublist
  rw [compareEntities_isLE] at h
  omega

lemma mergeEntities_apart (entities : List TextEntity) : (mergeEntities entities).Pairwise TextEntity.Apart := by
  rw [mergeEntities_eq]
  exact pairwise_chosen.imp TextEntity.Apart.symm

/-- What is apart from all others stays. -/
lemma mem_mergeEntities {entities : List TextEntity} (he : e ∈ entities) (hlength : 0 < e.length)
    (hapart : ∀ e' ∈ entities, e' ≠ e → e.Apart e') : e ∈ mergeEntities entities := by
  rw [mergeEntities_eq]
  refine mem_chosen (List.mem_mergeSort.mpr he) hlength fun e' he' _ hne => ?_
  have h := hapart e' (List.mem_mergeSort.mp he') hne
  exact ⟨h, h.symm⟩

/-! ## Surrogates -/

lemma getElem?_split (s t u : Str) (i : ℕ) (hi : i < t.length) : (s ++ (t ++ u))[s.length + i]? = t[i]? := by
  rw [List.getElem?_append_right (Nat.le_add_right _ _), Nat.add_sub_cancel_left, List.getElem?_append_left hi]

/-- What is of ASCII begins and ends with whole characters. -/
lemma detected_not_splits {existing : List TextEntity} {first : UInt16} {i : ℕ}
    (h : IsDetected plain existing first e) (hpair : IsPair plain i) : ¬e.Splits i := by
  rcases h.span with ⟨before, taken, rest, rfl, hoffset, hlength, hhead, hascii⟩
  have hnot : ∀ k (hk : k < taken.length), ¬IsSurrogate taken[k] := fun k hk =>
    not_surrogate_of_lt (hascii _ (List.getElem_mem hk))
  have hpos : 0 < taken.length := by
    cases taken with
    | nil => cases hhead
    | cons c taken => exact Nat.succ_pos _
  intro hsplits
  rcases hsplits.cases with hi | hi
  · have hlow := hpair.2
    rw [show i + 1 = before.length + 0 by omega, getElem?_split _ _ _ _ hpos, List.getElem?_eq_getElem hpos] at hlow
    exact hnot 0 hpos (.inr hlow)
  · have hlast : taken.length - 1 < taken.length := by omega
    have hhigh := hpair.1
    rw [show i = before.length + (taken.length - 1) by omega, getElem?_split _ _ _ _ hlast,
      List.getElem?_eq_getElem hlast] at hhigh
    exact hnot _ hlast (.inl hhigh)

lemma text_eq (before after : List Piece) (m : Markup) :
    excerpt ((before ++ .markup m :: after).map Piece.fragment) =
      excerpt (before.map Piece.fragment) ++ (m.inner ++ excerpt (after.map Piece.fragment)) := by
  rw [List.map_append, excerpt_append, List.map_cons, excerpt_cons]
  rfl

/-- A markup that splits two units stands where a delimiter has been between them. -/
lemma gap_of_splits {i : ℕ} (hm : m.IsProper) (hpieces : pieces = before ++ .markup m :: after)
    (hsplits : (m.entity (excerpt (before.map Piece.fragment)).length).Splits i)
    (hnext : i + 1 < (excerpt (pieces.map Piece.fragment)).length) :
    ∃ a b, (places 0 (pieces.map Piece.fragment))[i]? = some a ∧
      (places 0 (pieces.map Piece.fragment))[i + 1]? = some b ∧ a + 1 < b := by
  subst hpieces
  rw [List.map_append, List.map_cons] at hnext ⊢
  rcases hsplits.cases with hi | hi
  · rcases gap_before (p := (Piece.markup m).fragment) (r := after.map Piece.fragment) m.opening_ne_nil
      hm.inner_ne_nil hi with ⟨a, ha, hb, hlt⟩
    exact ⟨a, _, ha, hb, hlt⟩
  · rcases gap_after (p := (Piece.markup m).fragment) (r := after.map Piece.fragment) m.closing_ne_nil
      hm.inner_ne_nil hi hnext with ⟨a, b, ha, hb, hlt, -⟩
    exact ⟨a, b, ha, hb, hlt⟩

lemma opening_last (m : Markup) : ∃ start c, m.opening = start ++ [c] ∧ isHighSurrogate c = false := by
  cases m with
  | bold inner => exact ⟨ascii "*", 42, rfl, by decide⟩
  | star inner => exact ⟨[], 42, rfl, by decide⟩
  | underscore inner => exact ⟨[], 95, rfl, by decide⟩
  | code inner => exact ⟨[], 96, rfl, by decide⟩
  | link label url => exact ⟨[], 91, rfl, by decide⟩

lemma closing_head (m : Markup) : ∃ c others, m.closing = c :: others ∧ isLowSurrogate c = false := by
  cases m with
  | bold inner => exact ⟨42, ascii "*", rfl, by decide⟩
  | star inner => exact ⟨42, [], rfl, by decide⟩
  | underscore inner => exact ⟨95, [], rfl, by decide⟩
  | code inner => exact ⟨96, [], rfl, by decide⟩
  | link label url => exact ⟨93, ascii "(" ++ (url ++ ascii ")"), rfl, by decide⟩

lemma neighbours_of_wellFormed {s a b : Str} {c d : UInt16} (h : WellFormed s) (hs : s = a ++ c :: d :: b) :
    isHighSurrogate c = isLowSurrogate d := by
  have hinfix : [c, d] <:+: 0 :: (s ++ [0]) := ⟨0 :: a, b ++ [0], by rw [hs]; simp⟩
  have hpair := h.infix hinfix
  rwa [List.isChain_pair] at hpair

lemma isChain_replaceCrlf (c : UInt16) (s : Str)
    (h : (c :: (s ++ [0])).IsChain fun c d => isHighSurrogate c = isLowSurrogate d) :
    (c :: (replaceCrlf s ++ [0])).IsChain fun c d => isHighSurrogate c = isLowSurrogate d := by
  induction s using replaceCrlf.induct generalizing c with
  | case1 => exact h
  | case2 d => exact h
  | case3 d d' rest hcrlf ih =>
      rw [replaceCrlf, if_pos hcrlf]
      rcases hcrlf with ⟨rfl, rfl⟩
      simp only [List.cons_append, List.isChain_cons_cons] at h ⊢
      exact ⟨h.1, ih 10 h.2.2⟩
  | case4 d d' rest hcrlf ih =>
      rw [replaceCrlf, if_neg hcrlf]
      simp only [List.cons_append, List.isChain_cons_cons] at h ⊢
      exact ⟨h.1, ih d (List.isChain_cons_cons.mpr h.2)⟩

lemma wellFormed_replaceCrlf (h : WellFormed raw) : WellFormed (replaceCrlf raw) := isChain_replaceCrlf 0 raw h

/-- Of a text without lone surrogates, markup begins and ends with whole characters. -/
lemma markup_not_splits {i : ℕ} {text : Str} (hm : m.IsProper) (hpieces : pieces = before ++ .markup m :: after)
    (hwhole : whole (pieces.map Piece.fragment) = text) (htext : WellFormed text)
    (hpair : IsPair (excerpt (pieces.map Piece.fragment)) i) :
    ¬(m.entity (excerpt (before.map Piece.fragment)).length).Splits i := by
  intro hsplits
  rw [hpieces, text_eq] at hpair
  have hsource : text = whole (before.map Piece.fragment) ++ (m.opening ++ (m.inner ++ m.closing) ++
      whole (after.map Piece.fragment)) := by
    rw [← hwhole, hpieces, List.map_append, whole_append, List.map_cons, whole_cons]
    rfl
  have hpos := List.length_pos_iff.mpr hm.inner_ne_nil
  rcases hsplits.cases with hi | hi
  · -- the first unit comes after the end of a delimiter
    rcases opening_last m with ⟨start, c, hopening, hc⟩
    rcases List.exists_cons_of_ne_nil hm.inner_ne_nil with ⟨d, inner, hinner⟩
    have hlow : isLowSurrogate d = false := by
      rw [← hc]
      refine (neighbours_of_wellFormed htext (a := whole (before.map Piece.fragment) ++ start)
        (b := inner ++ m.closing ++ whole (after.map Piece.fragment)) ?_).symm
      rw [hsource, hopening, hinner]
      simp
    have hpair := hpair.2
    rw [hi, show (m.entity (excerpt (before.map Piece.fragment)).length).offset =
      (excerpt (before.map Piece.fragment)).length + 0 from rfl, getElem?_split _ _ _ _ hpos, hinner] at hpair
    rw [show (d :: inner)[0]? = some d from rfl, Option.any_some, hlow] at hpair
    cases hpair
  · -- the last unit comes before the start of a delimiter
    rcases closing_head m with ⟨d, others, hclosing, hd⟩
    rcases List.eq_nil_or_concat m.inner with hnil | ⟨inner, c, hinner⟩
    · exact hm.inner_ne_nil hnil
    have hhigh : isHighSurrogate c = false := by
      rw [← hd]
      refine neighbours_of_wellFormed htext (a := whole (before.map Piece.fragment) ++ (m.opening ++ inner))
        (b := others ++ whole (after.map Piece.fragment)) ?_
      rw [hsource, hclosing, hinner]
      simp
    have hlength : i = (excerpt (before.map Piece.fragment)).length + inner.length := by
      have hend : (m.entity (excerpt (before.map Piece.fragment)).length).offset +
        (m.entity (excerpt (before.map Piece.fragment)).length).length =
          (excerpt (before.map Piece.fragment)).length + (inner ++ [c]).length := by
        rw [← List.concat_eq_append, ← hinner]
        rfl
      rw [hend, List.length_append, List.length_singleton] at hi
      omega
    have hpair := hpair.1
    rw [hlength, getElem?_split _ _ _ _ (by rw [hinner]; simp), hinner] at hpair
    simp [hhigh] at hpair

/-! ## What is built -/

/-- **The text and the entities that are built** of the pieces of what is typed: the text is that without what is
left out around the inner texts; the entities are in their order, apart, not empty and inside the text; every markup
has one, which covers its inner text, and the others are mentions and hashtags apart from markup; and none splits a
pair of surrogates that are neighbours in what is typed. -/
structure Formats (raw : Str) (pieces : List Piece) (formatted : FormattedText) : Prop where
  input : whole (pieces.map Piece.fragment) = replaceCrlf raw
  text : formatted.text = excerpt (pieces.map Piece.fragment)
  sorted : formatted.entities.Pairwise fun a b => a.offset ≤ b.offset
  apart : formatted.entities.Pairwise TextEntity.Apart
  nonempty : ∀ e ∈ formatted.entities, 0 < e.length
  bounded : ∀ e ∈ formatted.entities, e.offset + e.length ≤ formatted.text.length
  markup : ∀ before m after, pieces = before ++ .markup m :: after →
    m.entity (excerpt (before.map Piece.fragment)).length ∈ formatted.entities ∧
      (formatted.text.drop (excerpt (before.map Piece.fragment)).length).take m.inner.length = m.inner
  others : ∀ e ∈ formatted.entities, e ∈ markupEntities 0 pieces ∨
    (e.kind = .mention ∨ e.kind = .hashtag) ∧ ∀ e' ∈ markupEntities 0 pieces, e.Apart e'
  pairs : ∀ e ∈ formatted.entities, ∀ i, IsPair formatted.text i → e.Splits i →
    ∃ a b, (places 0 (pieces.map Piece.fragment))[i]? = some a ∧
      (places 0 (pieces.map Piece.fragment))[i + 1]? = some b ∧ a + 1 < b
  wellFormed : WellFormed raw → ∀ e ∈ formatted.entities, ∀ i, IsPair formatted.text i → ¬e.Splits i

/-- The entities before they are merged. -/
lemma mem_entities (h : e ∈ mergeEntities (markupEntities 0 pieces ++
      detectMentionsAndHashtags plain (markupEntities 0 pieces))) :
    e ∈ markupEntities 0 pieces ∨
      (e.kind = .mention ∨ e.kind = .hashtag) ∧ ∃ first, IsDetected plain (markupEntities 0 pieces) first e := by
  rcases List.mem_append.mp (mem_of_mem_mergeEntities h).1 with h | h
  · exact .inl h
  · rcases detected_of_mem h with ⟨hkind, h⟩ | ⟨hkind, h⟩
    · exact .inr ⟨.inl hkind, 64, h⟩
    · exact .inr ⟨.inr hkind, 35, h⟩

lemma IsDetected.bounded {existing : List TextEntity} {first : UInt16} (h : IsDetected plain existing first e) :
    e.offset + e.length ≤ plain.length := by
  rcases h.span with ⟨before, taken, rest, rfl, hoffset, hlength, -, -⟩
  rw [List.length_append, List.length_append]
  omega

/-- The markup is among the entities that are left. -/
lemma markup_mem (hproper : ∀ m, .markup m ∈ pieces → m.IsProper) (he : e ∈ markupEntities 0 pieces) :
    e ∈ mergeEntities (markupEntities 0 pieces ++ detectMentionsAndHashtags plain (markupEntities 0 pieces)) := by
  refine mem_mergeEntities (List.mem_append_left _ he) (markupEntities_nonempty hproper he) fun e' he' hne => ?_
  rcases List.mem_append.mp he' with he' | he'
  · exact markupEntities_apart he he' hne.symm
  · rcases detected_of_mem he' with ⟨-, h⟩ | ⟨-, h⟩
    · exact (h.apart e he).symm
    · exact (h.apart e he).symm

lemma formats_of_reads (hreads : Reads (replaceCrlf raw) pieces) {formatted : FormattedText}
    (htext : formatted.text = excerpt (pieces.map Piece.fragment))
    (hentities : formatted.entities = mergeEntities (markupEntities 0 pieces ++
      detectMentionsAndHashtags formatted.text (markupEntities 0 pieces))) : Formats raw pieces formatted := by
  have hproper : ∀ m, .markup m ∈ pieces → m.IsProper := fun m hm => hreads.proper hm
  have hcases : ∀ e ∈ formatted.entities, e ∈ markupEntities 0 pieces ∨ (e.kind = .mention ∨ e.kind = .hashtag) ∧
      ∃ first, IsDetected formatted.text (markupEntities 0 pieces) first e := by
    intro e he
    rw [hentities] at he
    exact mem_entities he
  -- a markup among the entities, with the pieces around it
  have hmarkup : ∀ e ∈ markupEntities 0 pieces, ∃ before m after, pieces = before ++ .markup m :: after ∧
      m.IsProper ∧ e = m.entity (excerpt (before.map Piece.fragment)).length := by
    intro e he
    rcases exists_of_mem_markupEntities he with ⟨before, m, after, hpieces, he⟩
    rw [Nat.zero_add] at he
    exact ⟨before, m, after, hpieces, hproper m (by rw [hpieces]; simp), he⟩
  refine ⟨hreads.whole_eq, htext, ?_, ?_, fun e he => ?_, fun e he => ?_, fun before m after hpieces => ?_,
    fun e he => ?_, fun e he i hpair hsplits => ?_, fun hraw e he i hpair => ?_⟩
  · rw [hentities]
    exact mergeEntities_sorted _
  · rw [hentities]
    exact mergeEntities_apart _
  · rw [hentities] at he
    exact (mem_of_mem_mergeEntities he).2
  · rcases hcases e he with he | ⟨-, first, he⟩
    · have hbounds := markupEntities_bounds he
      rw [htext]
      omega
    · exact he.bounded
  · have hmem := entity_mem 0 before after m
    rw [Nat.zero_add, ← hpieces] at hmem
    refine ⟨?_, ?_⟩
    · rw [hentities]
      exact markup_mem hproper hmem
    · rw [htext, hpieces, text_eq, List.drop_left, List.take_left]
  · rcases hcases e he with he | ⟨hkind, first, he⟩
    · exact .inl he
    · exact .inr ⟨hkind, he.apart⟩
  · rcases hcases e he with he | ⟨-, first, he⟩
    · rcases hmarkup e he with ⟨before, m, after, hpieces, hm, rfl⟩
      refine gap_of_splits hm hpieces hsplits ?_
      rw [← htext]
      by_contra hlt
      have hlow := hpair.2
      rw [List.getElem?_eq_none (Nat.le_of_not_lt hlt)] at hlow
      cases hlow
    · exact absurd hsplits (detected_not_splits he hpair)
  · rcases hcases e he with he | ⟨-, first, he⟩
    · rcases hmarkup e he with ⟨before, m, after, hpieces, hm, rfl⟩
      rw [htext] at hpair
      exact markup_not_splits hm hpieces hreads.whole_eq (wellFormed_replaceCrlf hraw) hpair
    · exact detected_not_splits he hpair

/-- What is built of the pieces that a text is read as. -/
lemma buildFromComposer_of_reads (h : Reads (replaceCrlf raw) pieces) :
    buildFromComposer raw =
      { text := excerpt (pieces.map Piece.fragment)
        entities := mergeEntities (markupEntities 0 pieces ++
          detectMentionsAndHashtags (excerpt (pieces.map Piece.fragment)) (markupEntities 0 pieces)) } := by
  rcases parseInlineMarkdown_reads (replaceCrlf raw) with ⟨pieces', hreads, hrenders⟩
  cases h.unique hreads
  simp only [buildFromComposer]
  split_ifs with hempty
  · rw [hempty] at h
    cases h.unique .done
    decide +kernel
  · rw [hrenders.plain, hrenders.entities 0]

/-- **What is built of a text that is typed**, which is read in one way. -/
theorem buildFromComposer_formats (raw : Str) :
    ∃ pieces, (∀ pieces', Reads (replaceCrlf raw) pieces' ↔ pieces' = pieces) ∧
      Formats raw pieces (buildFromComposer raw) := by
  rcases parseInlineMarkdown_reads (replaceCrlf raw) with ⟨pieces, hreads, -⟩
  refine ⟨pieces, fun pieces' => ⟨fun h => h.unique hreads, fun h => h ▸ hreads⟩, ?_⟩
  rw [buildFromComposer_of_reads hreads]
  exact formats_of_reads hreads rfl rfl

example : buildFromComposer (ascii "see [site](url)") =
    { text := ascii "see site", entities := [⟨4, 4, .textUrl, some (ascii "url"), none⟩] } := by
  decide +kernel

/-- A high surrogate, and a low one in italics. -/
def surrogates : Str := [0xd83d, 42, 0xde00, 42]

/-- **An entity splits a pair** that a delimiter has been between. -/
theorem pair_split :
    IsPair (buildFromComposer surrogates).text 0 ∧
      ∃ e ∈ (buildFromComposer surrogates).entities, e.Splits 0 := by
  have hbuilt : buildFromComposer surrogates =
      { text := [0xd83d, 0xde00], entities := [{ offset := 1, length := 1, kind := .italic }] } := by
    decide +kernel
  rw [hbuilt]
  refine ⟨⟨by decide, by decide⟩, _, List.mem_singleton_self _, ?_⟩
  simp [TextEntity.Splits, TextEntity.Covers]

end FormattedTextBuilder

end RioGram.Chats
