import RioGram.Chats.Editing

/-!
# Words in the composer

A text of words without markup may have underscores in user names, hashtags and URLs.  Two of them in one line with
something in between are markup wherever they stand.

* `WordText.isTag_iff`: when a user name or a hashtag is a tag of the text.
* `composer_keeps_iff` says which texts of words stay as they are, with an entity for each user name and hashtag.
* `user_name_without_underscores` is one that does not.
-/

namespace RioGram.Chats

open Js FormattedTextBuilder

/-! ## Texts of words -/

/-- What is no white space and begins no markup. -/
def isPlainChar (c : UInt16) : Bool := !isSpaceDart c && !([42, 95, 96, 91].contains c)

/-- Letters, digits and underscores, where a letter may be anything printed beyond ASCII. -/
def isNameChar (c : UInt16) : Bool := isWord c || (0x80 ≤ c && !isSpaceDart c)

def isUrlChar (c : UInt16) : Bool := isNameChar c || c = 47 || c = 46

abbrev Chars (p : UInt16 → Bool) := { s : Str // ∀ c ∈ s, p c }

inductive Word where
  | plain (chars : Chars isPlainChar)
  | username (name : Chars isNameChar)
  | hashtag (name : Chars isNameChar)
  | url (secure : Bool) (path : Chars isUrlChar)

namespace Word

def text : Word → Str
  | plain chars => chars.val
  | username name => 64 :: name.val
  | hashtag name => 35 :: name.val
  | url secure path => (if secure then ascii "https://" else ascii "http://") ++ path.val

/-- What is behind the sign. -/
def name : Word → Str
  | username name => name.val
  | hashtag name => name.val
  | _ => []

/-- The kind of the entity that a word is to get. -/
def kind : Word → Option TextEntityKind
  | username name => if 3 ≤ name.val.length then some .mention else none
  | hashtag name => if 2 ≤ name.val.length then some .hashtag else none
  | _ => none

end Word

/-- A unit of white space. -/
abbrev Blank := { c : UInt16 // isSpaceDart c }

/-- Words with white space in between; a plain word may be empty. -/
structure WordText where
  first : Word
  others : List (Blank × Word) := []

namespace WordText

def textFrom (word : Word) : List (Blank × Word) → Str
  | [] => word.text
  | (blank, next) :: others => word.text ++ blank.val :: textFrom next others

def tokensFrom (offset : ℕ) (word : Word) : List (Blank × Word) → List (ℕ × Word)
  | [] => [(offset, word)]
  | (_, next) :: others => (offset, word) :: tokensFrom (offset + word.text.length + 1) next others

def text (t : WordText) : Str := textFrom t.first t.others

/-- The words with their places. -/
def tokens (t : WordText) : List (ℕ × Word) := tokensFrom 0 t.first t.others

end WordText

/-- The two have a unit in common. -/
def TextEntity.touches (e e' : TextEntity) : Bool :=
  e.offset < e'.offset + e'.length && e'.offset < e.offset + e.length

/-- The text is built as it is, and all that it has at a user name or a hashtag is one entity for the whole. -/
structure WordText.Kept (t : WordText) : Prop where
  text : (buildFromComposer t.text).text = t.text
  entities : ∀ token ∈ t.tokens, ∀ kind, token.2.kind = some kind →
    let e : TextEntity := { offset := token.1, length := token.2.text.length, kind }
    (buildFromComposer t.text).entities.filter (e.touches ·) = [e]

/-- There is no `CRLF`, and underscores in one line are next to each other. -/
structure Quiet (text : Str) : Prop where
  lines : ¬[13, 10] <:+: text
  underscores : ∀ inner : Str, inner ≠ [] → 95 :: (inner ++ [95]) <:+: text →
    ∃ c ∈ inner, c ∈ [10, 13, 0x2028, 0x2029]

/-- The text is quiet, and what is to be a mention or a hashtag is of ASCII letters, digits and underscores. -/
structure WordText.Survives (t : WordText) : Prop where
  quiet : Quiet t.text
  names : ∀ token ∈ t.tokens, token.2.kind.isSome → ∀ c ∈ token.2.name, isWord c

/-! ## The words in the text -/

namespace Word

lemma toNat_of_isWord {c : UInt16} (h : isWord c) : 48 ≤ c.toNat ∧ c.toNat ≤ 122 ∧ c ≠ 96 ∧ c ≠ 91 := by
  simp only [isWord, Bool.or_eq_true, Bool.and_eq_true, decide_eq_true_eq, UInt16.le_iff_toNat_le,
    ← UInt16.toNat_inj, UInt16.reduceToNat] at h
  simp only [ne_eq, ← UInt16.toNat_inj, UInt16.reduceToNat]
  omega

lemma not_isWord_of_isSpaceDart {c : UInt16} (h : isSpaceDart c) : isWord c = false := by
  rw [Bool.eq_false_iff]
  intro hword
  have hrange := toNat_of_isWord hword
  rw [isSpaceDart_eq_false (by omega) (by omega)] at h
  cases h

/-- What holds for nothing that begins other markup than an underscore holds only for other units. -/
lemma ne_markup {p : UInt16 → Bool} (h : p 42 = false ∧ p 96 = false ∧ p 91 = false) {c : UInt16} (hc : p c) :
    c ≠ 42 ∧ c ≠ 96 ∧ c ≠ 91 := by
  have hne {d : UInt16} (hd : p d = false) : c ≠ d := by
    rintro rfl
    rw [hd] at hc
    cases hc
  exact ⟨hne h.1, hne h.2.1, hne h.2.2⟩

/-- No word has what begins other markup than underscores. -/
lemma text_chars (word : Word) : ∀ c ∈ word.text, c ≠ 42 ∧ c ≠ 96 ∧ c ≠ 91 := by
  intro c hc
  cases word with
  | plain chars => exact ne_markup (by decide) (chars.property c hc)
  | username name =>
      rcases List.mem_cons.mp hc with rfl | hc
      · decide
      · exact ne_markup (by decide) (name.property c hc)
  | hashtag name =>
      rcases List.mem_cons.mp hc with rfl | hc
      · decide
      · exact ne_markup (by decide) (name.property c hc)
  | url secure path =>
      rcases List.mem_append.mp hc with hc | hc
      · have hall : (if secure then ascii "https://" else ascii "http://").all fun d => isUrlChar d || d = 58 := by
          cases secure <;> rfl
        exact ne_markup (p := fun d => isUrlChar d || d = 58) (by decide) (List.all_eq_true.mp hall c hc)
      · exact ne_markup (by decide) (path.property c hc)

/-- What is to get an entity is a sign with a name that is long enough. -/
lemma exists_of_kind (word : Word) {kind : TextEntityKind} (h : word.kind = some kind) :
    ∃ sign : UInt16, word.text = sign :: word.name ∧
      (sign = 64 ∧ 3 ≤ word.name.length ∧ kind = .mention ∨ sign = 35 ∧ 2 ≤ word.name.length ∧ kind = .hashtag) := by
  cases word with
  | plain chars => cases h
  | url secure path => cases h
  | username name =>
      rw [Word.kind] at h
      split_ifs at h with hlength
      cases h
      exact ⟨64, rfl, .inl ⟨rfl, hlength, rfl⟩⟩
  | hashtag name =>
      rw [Word.kind] at h
      split_ifs at h with hlength
      cases h
      exact ⟨35, rfl, .inr ⟨rfl, hlength, rfl⟩⟩

end Word

namespace WordText

variable {t : WordText} {offset : ℕ} {word : Word} {token : ℕ × Word}

lemma textFrom_chars (word : Word) (others : List (Blank × Word)) :
    ∀ c ∈ textFrom word others, c ≠ 42 ∧ c ≠ 96 ∧ c ≠ 91 := by
  induction others generalizing word with
  | nil => exact word.text_chars
  | cons next others ih =>
      rcases next with ⟨blank, next⟩
      intro c hc
      rw [textFrom, List.mem_append, List.mem_cons] at hc
      rcases hc with hc | rfl | hc
      · exact word.text_chars c hc
      · exact Word.ne_markup (by decide) blank.property
      · exact ih next c hc

lemma text_chars (t : WordText) : ∀ c ∈ t.text, c ≠ 42 ∧ c ≠ 96 ∧ c ≠ 91 := textFrom_chars t.first t.others

/-- A word is followed by white space or by nothing. -/
lemma exists_of_mem_tokensFrom {others : List (Blank × Word)} (h : token ∈ tokensFrom offset word others) :
    ∃ before rest, textFrom word others = before ++ token.2.text ++ rest ∧ token.1 = offset + before.length ∧
      rest.head?.any isWord = false := by
  induction others generalizing offset word with
  | nil =>
      obtain rfl := List.mem_singleton.mp h
      exact ⟨[], [], by simp [textFrom], rfl, rfl⟩
  | cons next others ih =>
      rcases next with ⟨blank, next⟩
      rcases List.mem_cons.mp h with rfl | h
      · refine ⟨[], blank.val :: textFrom next others, rfl, rfl, ?_⟩
        exact Word.not_isWord_of_isSpaceDart blank.property
      · rcases ih h with ⟨before, rest, htext, hoffset, hrest⟩
        refine ⟨word.text ++ blank.val :: before, rest, ?_, ?_, hrest⟩
        · rw [textFrom, htext]
          simp
        · rw [hoffset, List.length_append, List.length_cons]
          omega

lemma exists_of_mem_tokens (h : token ∈ t.tokens) :
    ∃ before rest, t.text = before ++ token.2.text ++ rest ∧ token.1 = before.length ∧
      rest.head?.any isWord = false := by
  rcases exists_of_mem_tokensFrom h with ⟨before, rest, htext, hoffset, hrest⟩
  exact ⟨before, rest, htext, by rw [hoffset, Nat.zero_add], hrest⟩

/-- What is to get an entity is a tag of the text exactly if its name is of word units. -/
lemma isTag_iff (h : token ∈ t.tokens) {kind : TextEntityKind} (hkind : token.2.kind = some kind) :
    IsTag t.text { offset := token.1, length := token.2.text.length, kind } ↔ ∀ c ∈ token.2.name, isWord c := by
  rcases exists_of_mem_tokens h with ⟨before, rest, htext, hoffset, hrest⟩
  rcases token.2.exists_of_kind hkind with ⟨sign, hsign, hform⟩
  have hsplit : t.text = before ++ sign :: (token.2.name ++ rest) := by
    rw [htext, hsign]
    simp
  have hlength : token.2.text.length = token.2.name.length + 1 := by rw [hsign, List.length_cons]
  constructor
  · intro htag
    rcases htag.span with ⟨before', run, rest', sign', htext', hoffset', hlength', hrun, -, -⟩
    have hbefore : before.length = before'.length := hoffset.symm.trans hoffset'
    have hafter := (List.cons.inj (List.append_inj (hsplit.symm.trans htext') hbefore).2).2
    have hsame : token.2.name.length = run.length := by
      have hlengths : token.2.text.length = run.length + 1 := hlength'
      omega
    rw [(List.append_inj hafter hsame).1]
    exact hrun
  · intro hname
    exact ⟨⟨before, token.2.name, rest, sign, hsplit, hoffset, hlength, hname, hrest, hform⟩, rfl, rfl⟩

end WordText

/-! ## What is built of them -/

/-- All that touches a tag is the tag itself. -/
lemma FormattedTextBuilder.Tags.filter_touches {text : Str} {tags : List TextEntity} {e : TextEntity}
    (h : Tags text tags) (he : IsTag text e) : tags.filter (e.touches ·) = [e] := by
  have hnodup : tags.Nodup := h.sorted.imp fun hlt heq => absurd (heq ▸ hlt) (lt_irrefl _)
  have hmem : ∀ e', e' ∈ tags.filter (e.touches ·) ↔ e' ∈ [e] := by
    intro e'
    rw [List.mem_filter, List.mem_singleton, h.mem_iff]
    constructor
    · rintro ⟨he', htouches⟩
      by_contra hne
      simp only [TextEntity.touches, Bool.and_eq_true, decide_eq_true_eq] at htouches
      rcases he.apart he' (Ne.symm hne) with hapart | hapart <;> omega
    · rintro rfl
      have hpos := he.length_pos
      simp [TextEntity.touches, he, hpos]
  exact List.perm_singleton.mp
    ((List.perm_ext_iff_of_nodup (hnodup.filter _) (List.nodup_singleton e)).mpr hmem)

/-- Where only underscores can begin markup, a quiet text has none. -/
lemma quiet_iff {text : Str} (h : ∀ c ∈ text, c ≠ 42 ∧ c ≠ 96 ∧ c ≠ 91) :
    Quiet text ↔ (buildFromComposer text).text = text := by
  rw [text_eq_iff]
  constructor
  · intro hquiet
    refine ⟨hquiet.lines, fun m hm hpart => ?_⟩
    have hopening : ∀ c ∈ m.opening, c ∈ text :=
      fun c hc => hpart.subset (List.mem_append_left _ hc)
    cases m with
    | bold inner => exact (h 42 (hopening 42 List.mem_cons_self)).1 rfl
    | star inner => exact (h 42 (hopening 42 List.mem_cons_self)).1 rfl
    | code inner => exact (h 96 (hopening 96 List.mem_cons_self)).2.1 rfl
    | link label url => exact (h 91 (hopening 91 List.mem_cons_self)).2.2 rfl
    | underscore inner =>
        rcases hquiet.underscores inner hm.inner_ne_nil hpart with ⟨c, hc, hline⟩
        have hdot := hm.2 c hc
        rw [isDot, List.contains_iff_mem.mpr hline] at hdot
        cases hdot
  · rintro ⟨hlines, hmarkup⟩
    refine ⟨hlines, fun inner hne hpart => ?_⟩
    by_contra hno
    refine hmarkup (.underscore inner) ⟨List.length_pos_iff.mpr hne, fun c hc => ?_⟩ hpart
    have hdot : c ∉ [10, 13, 0x2028, 0x2029] := fun hline => hno ⟨c, hc, hline⟩
    simp only [isDot, List.contains_eq_mem, hdot, decide_false, Bool.not_false]

/-- **A text of words stays as it is, with an entity for each user name and each hashtag,** exactly if it is quiet
and these are of ASCII letters, digits and underscores. -/
theorem composer_keeps_iff (t : WordText) : t.Kept ↔ t.Survives := by
  constructor
  · intro h
    have htags := tags_of_text_eq h.text
    refine ⟨(quiet_iff t.text_chars).mpr h.text, fun token htoken hsome => ?_⟩
    rcases Option.isSome_iff_exists.mp hsome with ⟨kind, hkind⟩
    have hmem : _ ∈ (buildFromComposer t.text).entities.filter _ :=
      h.entities token htoken kind hkind ▸ List.mem_singleton_self _
    exact (WordText.isTag_iff htoken hkind).mp ((htags.mem_iff _).mp (List.mem_filter.mp hmem).1)
  · intro h
    have htext := (quiet_iff t.text_chars).mp h.quiet
    refine ⟨htext, fun token htoken kind hkind => ?_⟩
    have hname := h.names token htoken (Option.isSome_of_eq_some hkind)
    exact (tags_of_text_eq htext).filter_touches ((WordText.isTag_iff htoken hkind).mpr hname)

/-- `@snake_case_name` -/
def snakeCase : WordText where
  first := .username ⟨ascii "snake_case_name", List.all_eq_true.mp rfl⟩

/-- **A user name loses its underscores,** and it is no mention any more. -/
theorem user_name_without_underscores :
    snakeCase.text = ascii "@snake_case_name" ∧ ¬snakeCase.Kept ∧
      buildFromComposer snakeCase.text =
        { text := ascii "@snakecasename"
          entities := [{ offset := 6, length := 4, kind := .italic }] } := by
  have hbuilt : buildFromComposer snakeCase.text =
      { text := ascii "@snakecasename", entities := [{ offset := 6, length := 4, kind := .italic }] } := by
    decide +kernel
  refine ⟨rfl, fun h => ?_, hbuilt⟩
  have htext := h.text
  rw [hbuilt] at htext
  exact absurd htext (by decide)

end RioGram.Chats
