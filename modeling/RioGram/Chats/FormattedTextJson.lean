import RioGram.Chats.Editing

/-!
# Formatted text in JSON

`FormattedText.fromTdlib` reads a `formattedText` of TDLib and `toTdlib` writes one.  The decoder knows eight types
of entities and takes every other for a URL; the encoder writes a URL or a user only where the type has one.

* `FormattedText.fromTdlib_toTdlib_iff` says which texts are read as they were written.
* `FormattedText.toTdlib_fromTdlib_iff` says which are written as they were read.
* `formattedText_kept_iff` is both, and `underline_becomes_url` a text that is not kept.
-/

namespace RioGram.Chats

open Js Merging

/-! ## The types -/

namespace TextEntityKind

def typeName : TextEntityKind → String
  | bold => "textEntityTypeBold"
  | italic => "textEntityTypeItalic"
  | code => "textEntityTypeCode"
  | url => "textEntityTypeUrl"
  | textUrl => "textEntityTypeTextUrl"
  | mention => "textEntityTypeMention"
  | mentionName => "textEntityTypeMentionName"
  | hashtag => "textEntityTypeHashtag"

lemma typeName_injective : Function.Injective typeName := by
  intro kind kind' h
  cases kind <;> cases kind' <;> first | rfl | exact absurd h (by decide)

end TextEntityKind

/-! ## One entity -/

namespace TextEntity

variable {e : TextEntity} {raw : RawTextEntity} {kind : TextEntityKind}

lemma fromTdlib_kind (h : raw.type = kind.typeName) : (fromTdlib raw).kind = kind := by
  cases kind <;> simp [fromTdlib, h, TextEntityKind.typeName]

/-- What can be written of an entity. -/
def written (e : TextEntity) : TextEntity where
  offset := e.offset
  length := e.length
  kind := e.kind
  url := if e.kind = .textUrl then some (e.url.getD []) else none
  userId := if e.kind = .mentionName then some (e.userId.getD 0) else none

lemma toTdlib_eq (e : TextEntity) :
    e.toTdlib = ⟨e.offset, e.length, e.kind.typeName, e.written.url, e.written.userId⟩ := by
  cases hkind : e.kind <;> simp [toTdlib, written, hkind, TextEntityKind.typeName]

lemma fromTdlib_toTdlib (e : TextEntity) : fromTdlib e.toTdlib = e.written := by
  have hkind : (fromTdlib e.toTdlib).kind = e.kind := fromTdlib_kind (by rw [toTdlib_eq])
  calc fromTdlib e.toTdlib
      = ⟨e.toTdlib.offset, e.toTdlib.length, (fromTdlib e.toTdlib).kind, e.toTdlib.url, e.toTdlib.userId⟩ := rfl
    _ = e.written := by rw [hkind, toTdlib_eq]; rfl

/-- A text with a URL has one, a mention of a user without a name has the user, and nothing else has these. -/
structure PayloadFits (e : TextEntity) : Prop where
  url : e.url.isSome ↔ e.kind = .textUrl
  userId : e.userId.isSome ↔ e.kind = .mentionName

lemma some_getD_eq_iff {α : Type} {p : Prop} [Decidable p] {x : Option α} {d : α} :
    (if p then some (x.getD d) else none) = x ↔ (x.isSome ↔ p) := by
  by_cases h : p <;> cases x <;> simp [h]

lemma written_eq_iff : e.written = e ↔ e.PayloadFits := by
  rw [written, TextEntity.mk.injEq]
  simp only [true_and, some_getD_eq_iff]
  exact ⟨fun ⟨hurl, huserId⟩ => ⟨hurl, huserId⟩, fun h => ⟨h.url, h.userId⟩⟩

end TextEntity

namespace RawTextEntity

/-- The types of entities that the decoder has. -/
def IsKnown (raw : RawTextEntity) : Prop := ∃ kind : TextEntityKind, raw.type = kind.typeName

/-- In TDLib only one type has a URL and one a user. -/
structure OfTdlib (raw : RawTextEntity) : Prop where
  url : raw.url.isSome ↔ raw.type = "textEntityTypeTextUrl"
  userId : raw.userId.isSome ↔ raw.type = "textEntityTypeMentionName"

variable {raw : RawTextEntity}

lemma toTdlib_fromTdlib (hraw : raw.OfTdlib) (hknown : raw.IsKnown) : (TextEntity.fromTdlib raw).toTdlib = raw := by
  rcases hknown with ⟨kind, htype⟩
  have hkind : (TextEntity.fromTdlib raw).kind = kind := TextEntity.fromTdlib_kind htype
  have hurl : raw.url.isSome ↔ kind = .textUrl := by
    rw [hraw.url, htype]
    exact TextEntityKind.typeName_injective.eq_iff (b := .textUrl)
  have huserId : raw.userId.isSome ↔ kind = .mentionName := by
    rw [hraw.userId, htype]
    exact TextEntityKind.typeName_injective.eq_iff (b := .mentionName)
  rw [TextEntity.toTdlib_eq, TextEntity.written, hkind, ← htype]
  show RawTextEntity.mk raw.offset raw.length raw.type (if kind = .textUrl then some (raw.url.getD []) else none)
    (if kind = .mentionName then some (raw.userId.getD 0) else none) = raw
  rw [TextEntity.some_getD_eq_iff.mpr hurl, TextEntity.some_getD_eq_iff.mpr huserId]

/-- What the decoder does not know it takes for a URL. -/
lemma fromTdlib_kind_of_unknown (h : ¬raw.IsKnown) : (TextEntity.fromTdlib raw).kind = .url := by
  have hne : ∀ kind : TextEntityKind, raw.type ≠ kind.typeName := fun kind hkind => h ⟨kind, hkind⟩
  rw [TextEntity.fromTdlib]
  split
  case h_1 htype => exact absurd htype (hne .bold)
  case h_2 htype => exact absurd htype (hne .italic)
  case h_3 htype => exact absurd htype (hne .code)
  case h_4 htype => rfl
  case h_5 htype => exact absurd htype (hne .textUrl)
  case h_6 htype => exact absurd htype (hne .mention)
  case h_7 htype => exact absurd htype (hne .mentionName)
  case h_8 htype => exact absurd htype (hne .hashtag)
  case h_9 => rfl

end RawTextEntity

/-! ## Whole texts -/

namespace FormattedText

variable {f : FormattedText} {raw : RawFormattedText}

/-- The entities come one after another, and none is empty. -/
structure InOrder (f : FormattedText) : Prop where
  positive : ∀ e ∈ f.entities, 0 < e.length
  sorted : f.entities.Pairwise fun a b => a.offset < b.offset

/-- All entities are kept, each as it is; their order is not part of it. -/
structure Keeps (raw raw' : RawFormattedText) : Prop where
  text : raw'.text = raw.text
  entities : raw'.entities.Perm raw.entities

lemma fromTdlib_entities_perm (raw : RawFormattedText) :
    (fromTdlib raw).entities.Perm ((raw.entities.map TextEntity.fromTdlib).filter fun e => 0 < e.length) :=
  List.mergeSort_perm _ _

lemma fromTdlib_entities_sorted (raw : RawFormattedText) :
    (fromTdlib raw).entities.Pairwise fun a b => a.offset ≤ b.offset := by
  refine (List.pairwise_mergeSort (fun a b c hab hbc => ?_) (fun a b => ?_) _).imp of_decide_eq_true
  · rw [decide_eq_true_eq] at hab hbc ⊢
    exact hab.trans hbc
  · rw [Bool.or_eq_true, decide_eq_true_eq, decide_eq_true_eq]
    exact Nat.le_total _ _

/-- Any sort gives entities with different offsets in the same order. -/
lemma fromTdlib_entities_eq {sorted : List TextEntity}
    (hperm : sorted.Perm ((raw.entities.map TextEntity.fromTdlib).filter fun e => 0 < e.length))
    (hsorted : sorted.Pairwise fun a b => a.offset < b.offset) : (fromTdlib raw).entities = sorted := by
  have hsame := (fromTdlib_entities_perm raw).trans hperm.symm
  refine List.Perm.eq_of_pairwise (fun a b ha hb hab hba => ?_) (fromTdlib_entities_sorted raw)
    (hsorted.imp Nat.le_of_lt) hsame
  have hoffset : a.offset = b.offset := Nat.le_antisymm hab hba
  by_contra hne
  have happart := List.pairwise_iff_getElem.mp hsorted
  rcases List.getElem_of_mem (hsame.mem_iff.mp ha) with ⟨i, hi, rfl⟩
  rcases List.getElem_of_mem hb with ⟨j, hj, rfl⟩
  rcases Nat.lt_trichotomy i j with hlt | rfl | hlt
  · exact absurd hoffset (happart i j hi hj hlt).ne
  · exact hne rfl
  · exact absurd hoffset (happart j i hj hi hlt).ne'

/-- **A text is read as it was written** exactly if every entity has what its type has and no more. -/
theorem fromTdlib_toTdlib_iff (h : f.InOrder) : fromTdlib f.toTdlib = f ↔ ∀ e ∈ f.entities, e.PayloadFits := by
  have hread : (f.toTdlib.entities.map TextEntity.fromTdlib).filter (fun e => 0 < e.length) =
      f.entities.map TextEntity.written := by
    rw [toTdlib, List.map_map, List.filter_eq_self.mpr]
    · exact List.map_congr_left fun e _ => e.fromTdlib_toTdlib
    · intro entity hentity
      rcases List.mem_map.mp hentity with ⟨e, he, rfl⟩
      rw [Function.comp_apply, TextEntity.fromTdlib_toTdlib]
      exact decide_eq_true (h.positive e he)
  have hentities : (fromTdlib f.toTdlib).entities = f.entities.map TextEntity.written :=
    fromTdlib_entities_eq (List.Perm.of_eq hread.symm) (List.pairwise_map.mpr h.sorted)
  constructor
  · intro hsame e he
    rw [hsame] at hentities
    exact TextEntity.written_eq_iff.mp (map_eq_self_iff.mp hentities.symm e he)
  · intro hfits
    have hself : f.entities.map TextEntity.written = f.entities :=
      map_eq_self_iff.mpr fun e he => TextEntity.written_eq_iff.mpr (hfits e he)
    rw [hself] at hentities
    cases f
    exact congrArg (FormattedText.mk _) hentities

/-- **A text of TDLib is written as it was read** exactly if no entity is empty or of a type that is not known. -/
theorem toTdlib_fromTdlib_iff (h : ∀ e ∈ raw.entities, e.OfTdlib) :
    Keeps raw (fromTdlib raw).toTdlib ↔ ∀ e ∈ raw.entities, 0 < e.length ∧ e.IsKnown := by
  have hperm := fromTdlib_entities_perm raw
  constructor
  · rintro ⟨-, hentities⟩ e he
    rcases List.mem_map.mp (hentities.mem_iff.mpr he) with ⟨entity, hentity, rfl⟩
    have hpositive := of_decide_eq_true (List.mem_filter.mp (hperm.mem_iff.mp hentity)).2
    rw [TextEntity.toTdlib_eq]
    exact ⟨hpositive, entity.kind, rfl⟩
  · intro hfits
    refine ⟨rfl, ?_⟩
    have hall : (raw.entities.map TextEntity.fromTdlib).filter (fun e => 0 < e.length) =
        raw.entities.map TextEntity.fromTdlib := by
      rw [List.filter_eq_self]
      intro entity hentity
      rcases List.mem_map.mp hentity with ⟨e, he, rfl⟩
      exact decide_eq_true (hfits e he).1
    rw [hall] at hperm
    have hself : (raw.entities.map TextEntity.fromTdlib).map TextEntity.toTdlib = raw.entities := by
      rw [List.map_map]
      exact map_eq_self_iff.mpr fun e he => RawTextEntity.toTdlib_fromTdlib (h e he) (hfits e he).2
    exact (hperm.map _).trans (List.Perm.of_eq hself)

end FormattedText

/-- **Formatted text is kept by reading what was written** exactly if every entity has what its type has, **and by
writing what was read** exactly if no entity is empty or of a type that the app does not know. -/
theorem formattedText_kept_iff (f : FormattedText) (raw : RawFormattedText) :
    (f.InOrder → (FormattedText.fromTdlib f.toTdlib = f ↔ ∀ e ∈ f.entities, e.PayloadFits)) ∧
    ((∀ e ∈ raw.entities, e.OfTdlib) →
      (FormattedText.Keeps raw (FormattedText.fromTdlib raw).toTdlib ↔
        ∀ e ∈ raw.entities, 0 < e.length ∧ e.IsKnown)) :=
  ⟨FormattedText.fromTdlib_toTdlib_iff, FormattedText.toTdlib_fromTdlib_iff⟩

/-- `see` in bold -/
def boldText : FormattedText where
  text := ascii "see"
  entities := [{ offset := 0, length := 3, kind := .bold }]

lemma boldText_inOrder : boldText.InOrder := by
  constructor
  · simp [boldText]
  · simp [boldText]

lemma boldText_ofTdlib : ∀ e ∈ boldText.toTdlib.entities, e.OfTdlib := by
  intro e he
  obtain rfl : e = TextEntity.toTdlib { offset := 0, length := 3, kind := .bold } := List.mem_singleton.mp he
  exact ⟨by decide, by decide⟩

theorem boldText_kept :
    FormattedText.fromTdlib boldText.toTdlib = boldText ∧
      FormattedText.Keeps boldText.toTdlib (FormattedText.fromTdlib boldText.toTdlib).toTdlib := by
  have hkept := formattedText_kept_iff boldText boldText.toTdlib
  constructor
  · refine (hkept.1 boldText_inOrder).mpr ?_
    intro e he
    obtain rfl : e = { offset := 0, length := 3, kind := .bold } := List.mem_singleton.mp he
    exact ⟨by decide, by decide⟩
  · refine (hkept.2 boldText_ofTdlib).mpr ?_
    intro e he
    obtain rfl : e = TextEntity.toTdlib { offset := 0, length := 3, kind := .bold } := List.mem_singleton.mp he
    exact ⟨by decide, .bold, rfl⟩

/-- A word that is underlined -/
def underlined : RawFormattedText where
  text := ascii "see"
  entities := [{ offset := 0, length := 3, type := "textEntityTypeUnderline" }]

/-- **An underlined word becomes a link.** -/
theorem underline_becomes_url :
    ¬FormattedText.Keeps underlined (FormattedText.fromTdlib underlined).toTdlib ∧
      (FormattedText.fromTdlib underlined).toTdlib.entities =
        [{ offset := 0, length := 3, type := "textEntityTypeUrl" }] := by
  have hread : (FormattedText.fromTdlib underlined).entities = [{ offset := 0, length := 3, kind := .url }] :=
    FormattedText.fromTdlib_entities_eq (List.Perm.refl _) (List.pairwise_singleton _ _)
  have hwritten : (FormattedText.fromTdlib underlined).toTdlib.entities =
      [{ offset := 0, length := 3, type := "textEntityTypeUrl" }] := by
    rw [FormattedText.toTdlib, hread]
    rfl
  refine ⟨fun h => ?_, hwritten⟩
  have hsame := h.entities
  rw [hwritten] at hsame
  exact absurd (List.perm_singleton.mp hsame.symm) (by decide)

end RioGram.Chats
