import RioGram.Chats.FormattedText
import RioGram.Chats.Models

/-!
# Editing a message

The editor is filled with the bare text of a message or of its caption, and what is saved is read as markup again.
Times are in microseconds.

* `tags_mergeEntities` — the mentions and hashtags that are found in a text, without the expressions.
* `openAndSave_same_iff` — which texts stay the same when they are opened and saved, and `formatting_lost`.
-/

namespace RioGram.Chats

open Excerpts Js Patterns Pattern

/-! ## Texts of TDLib -/

/-- A `textEntity` of TDLib, with what its type has. -/
structure RawTextEntity where
  offset : ℕ
  length : ℕ
  type : String
  url : Option Str := none
  userId : Option ℤ := none
deriving DecidableEq

/-- A `formattedText` of TDLib. -/
structure RawFormattedText where
  text : Str
  entities : List RawTextEntity := []
deriving DecidableEq

namespace TextEntity

def fromTdlib (raw : RawTextEntity) : TextEntity where
  offset := raw.offset
  length := raw.length
  kind :=
    match raw.type with
    | "textEntityTypeBold" => .bold
    | "textEntityTypeItalic" => .italic
    | "textEntityTypeCode" => .code
    | "textEntityTypeUrl" => .url
    | "textEntityTypeTextUrl" => .textUrl
    | "textEntityTypeMention" => .mention
    | "textEntityTypeMentionName" => .mentionName
    | "textEntityTypeHashtag" => .hashtag
    | _ => .url
  url := raw.url
  userId := raw.userId

def toTdlib (entity : TextEntity) : RawTextEntity :=
  let raw : RawTextEntity := { offset := entity.offset, length := entity.length, type := "" }
  match entity.kind with
  | .bold => { raw with type := "textEntityTypeBold" }
  | .italic => { raw with type := "textEntityTypeItalic" }
  | .code => { raw with type := "textEntityTypeCode" }
  | .url => { raw with type := "textEntityTypeUrl" }
  | .textUrl => { raw with type := "textEntityTypeTextUrl", url := some (entity.url.getD []) }
  | .mention => { raw with type := "textEntityTypeMention" }
  | .mentionName => { raw with type := "textEntityTypeMentionName", userId := some (entity.userId.getD 0) }
  | .hashtag => { raw with type := "textEntityTypeHashtag" }

end TextEntity

namespace FormattedText

/-- The entities of one offset may come in any order, as the sort of Dart is not stable. -/
def fromTdlib (raw : RawFormattedText) : FormattedText where
  text := raw.text
  entities := ((raw.entities.map TextEntity.fromTdlib).filter fun entity => 0 < entity.length).mergeSort
    fun a b => a.offset ≤ b.offset

def toTdlib (formatted : FormattedText) : RawFormattedText where
  text := formatted.text
  entities := formatted.entities.map TextEntity.toTdlib

end FormattedText

/-! ## The messages -/

/-- What editing looks at of the content of a message. -/
structure TextContent where
  kind : MessageKind
  preview : Str
  formattedText : Option FormattedText := none
  caption : Option Str := none
  formattedCaption : Option FormattedText := none
deriving DecidableEq

namespace TextContent

def optionalFormattedCaption (raw : RawFormattedText) : Option FormattedText :=
  let formatted := FormattedText.fromTdlib raw
  if formatted.text ≠ [] then some formatted else none

/-- A text, or a media message with a label for a preview, that is received. -/
def fromTdlib (kind : MessageKind) (label : Str) (raw : RawFormattedText) : TextContent :=
  if kind = .text then
    let formatted := FormattedText.fromTdlib raw
    { kind, preview := formatted.text, formattedText := some formatted }
  else
    let captionFormatted := optionalFormattedCaption raw
    { kind, preview := label, caption := captionFormatted.map (·.text), formattedCaption := captionFormatted }

end TextContent

/-- What editing looks at of a message. -/
structure OwnMessage where
  id : ℤ
  content : TextContent
  date : ℤ
  canBeEdited : Bool
  isDeleted : Bool := false

namespace OwnMessage

/-- 48 hours. -/
def editWindow : ℤ := 48 * 3600 * 1000000

def canEditWithinWindow (message : OwnMessage) (now : ℤ) : Bool :=
  if !message.canBeEdited || message.isDeleted then false else now - message.date ≤ editWindow

def canEditText (message : OwnMessage) (now : ℤ) : Bool :=
  message.canEditWithinWindow now && message.content.kind = .text

def canEditCaption (message : OwnMessage) (now : ℤ) : Bool :=
  message.canEditWithinWindow now &&
    (message.content.kind = .photo || message.content.kind = .video || message.content.kind = .document ||
      message.content.kind = .voice)

def editableComposerText (message : OwnMessage) : Option Str :=
  if message.content.kind = .text then some ((message.content.formattedText.map (·.text)).getD message.content.preview)
  else (message.content.formattedCaption.map (·.text)) <|> message.content.caption

end OwnMessage

/-! ## The editor -/

structure MessageEditDraft where
  messageId : ℤ
  initialText : Str
  isCaption : Bool
deriving DecidableEq

structure MessageReplyDraft where
  messageId : ℤ
  preview : Str
  authorName : Option Str := none
deriving DecidableEq

inductive EditRequest where
  | editMessageCaption (chatId messageId : ℤ) (caption : RawFormattedText)
  | editMessageText (chatId messageId : ℤ) (text : RawFormattedText)
deriving DecidableEq

/-- What `ChatManager` has of the composer, with the requests for edits that it has sent. -/
structure Composer where
  activeChatId : Option ℤ
  editingMessage : Option MessageEditDraft := none
  pendingReply : Option MessageReplyDraft := none
  scheduledSendAt : Option ℤ := none
  sent : List EditRequest := []
deriving DecidableEq

namespace Composer

def startEditingMessage (composer : Composer) (message : OwnMessage) (now : ℤ) : Composer :=
  if !message.canEditText now && !message.canEditCaption now then composer
  else
    let text := message.editableComposerText.getD []
    { composer with
      editingMessage := some
        { messageId := message.id
          initialText := text
          isCaption := message.canEditCaption now && !message.canEditText now }
      pendingReply := none
      scheduledSendAt := none }

def saveEdit (composer : Composer) (raw : Str) : Composer :=
  match composer.activeChatId, composer.editingMessage with
  | some chatId, some draft =>
      let formatted := FormattedTextBuilder.buildFromComposer raw
      if trimDart formatted.text = [] then composer
      else
        let request :=
          if draft.isCaption then EditRequest.editMessageCaption chatId draft.messageId formatted.toTdlib
          else EditRequest.editMessageText chatId draft.messageId formatted.toTdlib
        { composer with sent := composer.sent ++ [request], editingMessage := none }
  | _, _ => composer

/-- The message is opened, and what the editor offers is saved. -/
def openAndSave (composer : Composer) (message : OwnMessage) (now : ℤ) : Composer :=
  let opened := composer.startEditingMessage message now
  match opened.editingMessage with
  | none => opened
  | some draft => opened.saveEdit draft.initialText

end Composer

/-! ## The mentions and hashtags of a text -/

namespace FormattedTextBuilder

/-- A sign with all the word units that follow it: an `@` with three of them at least is a mention, a `#` with two
is a hashtag. -/
structure IsTag (text : Str) (e : TextEntity) : Prop where
  span : ∃ before run rest, ∃ sign : UInt16, text = before ++ sign :: (run ++ rest) ∧ e.offset = before.length ∧
    e.length = run.length + 1 ∧ (∀ c ∈ run, isWord c) ∧ rest.head?.any isWord = false ∧
      (sign = 64 ∧ 3 ≤ run.length ∧ e.kind = .mention ∨ sign = 35 ∧ 2 ≤ run.length ∧ e.kind = .hashtag)
  bare : e.url = none ∧ e.userId = none

/-- The mentions and hashtags of a text, in their order. -/
structure Tags (text : Str) (tags : List TextEntity) : Prop where
  sorted : tags.Pairwise fun a b => a.offset < b.offset
  mem_iff : ∀ e, e ∈ tags ↔ IsTag text e

variable {text : Str} {e e' : TextEntity}

lemma not_isWord_sign {sign : UInt16} (h : sign = 64 ∨ sign = 35) : isWord sign = false := by
  rcases h with rfl | rfl <;> decide

/-- A tag does not begin inside another. -/
lemma IsTag.le_of_lt (h : IsTag text e) (h' : IsTag text e') (hlt : e.offset < e'.offset) :
    e.offset + e.length ≤ e'.offset := by
  rcases h.span with ⟨before, run, rest, sign, htext, hoffset, hlength, hrun, -, -⟩
  rcases h'.span with ⟨before', run', rest', sign', htext', hoffset', -, -, -, hsign'⟩
  by_contra hinside
  have hat' : text[e'.offset]? = some sign' := by
    rw [htext', hoffset', List.getElem?_append_right le_rfl, Nat.sub_self]
    rfl
  have hindex : e'.offset - (before.length + 1) < run.length := by omega
  have hat : text[e'.offset]? = some run[e'.offset - (before.length + 1)] := by
    rw [htext, List.getElem?_append_right (by omega),
      show e'.offset - before.length = e'.offset - (before.length + 1) + 1 by omega, List.getElem?_cons_succ,
      List.getElem?_append_left hindex, List.getElem?_eq_getElem hindex]
  have hword := hrun _ (List.getElem_mem hindex)
  rw [Option.some.inj (hat.symm.trans hat'), not_isWord_sign (hsign'.imp And.left And.left)] at hword
  cases hword

/-- There is one tag at a place. -/
lemma IsTag.unique (h : IsTag text e) (h' : IsTag text e') (hoffset : e.offset = e'.offset) : e = e' := by
  rcases h.span with ⟨before, run, rest, sign, htext, hbefore, hlength, hrun, hrest, hkind⟩
  rcases h'.span with ⟨before', run', rest', sign', htext', hbefore', hlength', hrun', hrest', hkind'⟩
  have hbeforeEq : before.length = before'.length := by omega
  rcases List.append_inj (htext.symm.trans htext') hbeforeEq with ⟨-, hafter⟩
  rcases List.cons.inj hafter with ⟨rfl, hruns⟩
  replace hruns : run = run' := by
    rw [← takeWhile_run hrun hrest, hruns, takeWhile_run hrun' hrest']
  subst hruns
  have hkinds : e.kind = e'.kind := by
    rcases hkind with ⟨rfl, -, hkind⟩ | ⟨rfl, -, hkind⟩ <;> rcases hkind' with ⟨hsign, -, hkind'⟩ | ⟨hsign, -, hkind'⟩
    · exact hkind.trans hkind'.symm
    · exact absurd hsign (by decide)
    · exact absurd hsign (by decide)
    · exact hkind.trans hkind'.symm
  cases e
  cases e'
  cases hoffset
  cases hlength.trans hlength'.symm
  cases hkinds
  cases h.bare.1.trans h'.bare.1.symm
  cases h.bare.2.trans h'.bare.2.symm
  rfl

lemma IsTag.apart (h : IsTag text e) (h' : IsTag text e') (hne : e ≠ e') : e.Apart e' := by
  rcases Nat.lt_trichotomy e.offset e'.offset with hlt | heq | hgt
  · exact .inl (h.le_of_lt h' hlt)
  · exact absurd (h.unique h' heq) hne
  · exact .inr (h'.le_of_lt h hgt)

/-- What is found where nothing is yet. -/
lemma mem_detect_nil {pattern : Pattern UInt16} {kind : TextEntityKind} :
    e ∈ detect text [] pattern kind ↔ ∃ start stop, (start, stop) ∈ pattern.occurrences text ∧
      e = { offset := start, length := stop - start, kind } := by
  rw [detect, List.map_nil]
  simp only [List.any_nil, Bool.not_false, List.filter_true, List.mem_map, Prod.exists]
  exact exists₂_congr fun start stop => and_congr_right fun _ => eq_comm

/-- What an expression for a sign and a run finds. -/
lemma mem_detect_run {sign : UInt16} {least : ℕ} {kind : TextEntityKind} (hsign : isWord sign = false) :
    e ∈ detect text [] (seq (literal [sign]) (many isWord least true)) kind ↔
      ∃ before run rest, text = before ++ sign :: (run ++ rest) ∧ (∀ c ∈ run, isWord c) ∧
        rest.head?.any isWord = false ∧ least ≤ run.length ∧
          e = { offset := before.length, length := run.length + 1, kind } := by
  rw [mem_detect_nil]
  constructor
  · rintro ⟨start, stop, hfound, rfl⟩
    rcases first_of_mem_occurrences hfound with ⟨before, w, htext, rfl, rfl, hfirst⟩
    rcases head?_ways_literal_run.mp hfirst with ⟨run, -, hleast, hrun, hrest, htaken, -⟩
    rw [htaken] at htext ⊢
    refine ⟨before, run, w.rest, htext, hrun, hrest, hleast, ?_⟩
    rw [List.singleton_append, List.length_cons, Nat.add_sub_cancel_left]
  · rintro ⟨before, run, rest, rfl, hrun, hrest, hleast, rfl⟩
    have hfirst : ((seq (literal [sign]) (many isWord least true)).ways before.getLast?
        (sign :: (run ++ rest))).head? = some ⟨[sign] ++ run, [], rest⟩ :=
      head?_ways_literal_run.mpr ⟨run, rfl, hleast, hrun, hrest, rfl, rfl⟩
    have hfound := mem_occurrences_of_first (fun prev text w hw => ?_) hfirst
    · refine ⟨_, _, hfound, ?_⟩
      rw [Nat.add_sub_cancel_left]
      rfl
    · have hmatches := (mem_ways_iff.mp hw).2
      rw [Matches] at hmatches
      rcases hmatches with ⟨t, t', g, g', htaken, -, hsigns, ⟨-, hwords⟩, -⟩
      rw [htaken, (matches_literal.mp hsigns).1]
      refine ⟨List.cons_ne_nil _ _, fun hmem => ?_⟩
      rw [hwords sign hmem] at hsign
      cases hsign

lemma isWord_of_toLower {c : UInt16} (h : isWord (toLower c)) : isWord c := by
  rw [toLower] at h
  split_ifs at h with hupper
  · simp only [isWord, Bool.or_eq_true]
    exact .inl (.inl (.inr hupper))
  · exact h

lemma isWord_of_ignoreCase {word name : Str} (hall : word.all isWord)
    (hunits : List.Forall₂ (fun c d => (toLower d == c) = true) word name) : ∀ c ∈ name, isWord c := by
  induction hunits with
  | nil => exact fun c hc => absurd hc List.not_mem_nil
  | cons hunit _ ih =>
      rw [List.all_cons, Bool.and_eq_true] at hall
      intro c hc
      rcases List.mem_cons.mp hc with rfl | hc
      · exact isWord_of_toLower (beq_iff_eq.mp hunit ▸ hall.1)
      · exact ih hall.2 c hc

/-- All and the admins are mentioned by words of letters, which the expression for mentions takes too. -/
lemma isTag_of_everyone (h : e ∈ detect text [] everyonePattern .mention) : IsTag text e := by
  rcases mem_detect_nil.mp h with ⟨start, stop, hfound, rfl⟩
  rcases mem_occurrences hfound with ⟨before, w, htext, rfl, rfl, hmatches⟩
  rw [everyonePattern, Matches] at hmatches
  rcases hmatches with ⟨t, t', g, g', htaken, -, hsign, name, b, k, k', rfl, -, ⟨l, -, hname⟩, rfl, -, hboundary⟩
  rw [(matches_literal.mp hsign).1, List.append_nil] at htaken
  -- a word of lower case that is matched with any case
  have hword : ∀ word : Str, word.all isWord → 3 ≤ word.length → (ignoreCase word).Matches (some 64) name l
      ([] ++ w.rest) → 3 ≤ name.length ∧ ∀ c ∈ name, isWord c := by
    intro word hall hlength hmatches
    have hunits := hmatches.1
    rw [List.forall₂_map_left_iff] at hunits
    exact ⟨hunits.length_eq ▸ hlength, isWord_of_ignoreCase hall hunits⟩
  have hname : 3 ≤ name.length ∧ ∀ c ∈ name, isWord c := by
    rcases hname with hname | hname
    · exact hword (ascii "all") (by decide) (by decide) hname
    · exact hword (ascii "admins") (by decide) (by decide) hname
  refine ⟨⟨before, name, w.rest, 64, ?_, rfl, ?_, hname.2, ?_, .inl ⟨rfl, hname.1, rfl⟩⟩, rfl, rfl⟩
  · rw [htext, htaken]
    rfl
  · rw [htaken, Nat.add_sub_cancel_left]
    rfl
  · -- the last unit of the word is before the boundary
    rcases List.eq_nil_or_concat name with hnil | ⟨others, c, hconcat⟩
    · rw [hnil] at hname
      exact absurd hname.1 (by decide)
    · have hlast : isWord c := hname.2 c (by rw [hconcat]; simp)
      rw [hconcat, List.concat_eq_append, List.getLast?_append, List.getLast?_singleton, Option.some_or,
        Option.some_or, Option.any_some, hlast] at hboundary
      simpa using hboundary.symm

/-- **What is detected** in a text without entities. -/
lemma mem_detect_iff : e ∈ detectMentionsAndHashtags text [] ↔ IsTag text e := by
  have hmention : e ∈ detect text [] mentionPattern .mention ↔ _ := mem_detect_run (not_isWord_sign (.inl rfl))
  have hhashtag : e ∈ detect text [] hashtagPattern .hashtag ↔ _ := mem_detect_run (not_isWord_sign (.inr rfl))
  rw [detectMentionsAndHashtags, List.mem_append, List.mem_append]
  constructor
  · rintro ((h | h) | h)
    · exact isTag_of_everyone h
    · rcases hmention.mp h with ⟨before, run, rest, htext, hrun, hrest, hleast, rfl⟩
      exact ⟨⟨before, run, rest, 64, htext, rfl, rfl, hrun, hrest, .inl ⟨rfl, hleast, rfl⟩⟩, rfl, rfl⟩
    · rcases hhashtag.mp h with ⟨before, run, rest, htext, hrun, hrest, hleast, rfl⟩
      exact ⟨⟨before, run, rest, 35, htext, rfl, rfl, hrun, hrest, .inr ⟨rfl, hleast, rfl⟩⟩, rfl, rfl⟩
  · rintro ⟨⟨before, run, rest, sign, htext, hoffset, hlength, hrun, hrest, hkind⟩, hurl, huser⟩
    cases e
    cases hoffset
    cases hlength
    cases hurl
    cases huser
    rcases hkind with ⟨rfl, hleast, hkind⟩ | ⟨rfl, hleast, hkind⟩
    · cases hkind
      exact .inl (.inr (hmention.mpr ⟨before, run, rest, htext, hrun, hrest, hleast, rfl⟩))
    · cases hkind
      exact .inr (hhashtag.mpr ⟨before, run, rest, htext, hrun, hrest, hleast, rfl⟩)

lemma IsTag.length_pos (h : IsTag text e) : 0 < e.length := by
  rcases h.span with ⟨before, run, rest, sign, -, -, hlength, -⟩
  omega

/-- **The tags of a text** are what is left of what is detected. -/
theorem tags_mergeEntities (text : Str) : Tags text (mergeEntities (detectMentionsAndHashtags text [])) := by
  have hmem : ∀ e, e ∈ mergeEntities (detectMentionsAndHashtags text []) ↔ IsTag text e := by
    intro e
    refine ⟨fun h => mem_detect_iff.mp (mem_of_mem_mergeEntities h).1, fun h => ?_⟩
    refine mem_mergeEntities (mem_detect_iff.mpr h) h.length_pos fun e' he' hne => ?_
    exact h.apart (mem_detect_iff.mp he') hne.symm
  refine ⟨?_, hmem⟩
  have hboth := (mergeEntities_sorted (detectMentionsAndHashtags text [])).and
    (mergeEntities_apart (detectMentionsAndHashtags text []))
  refine hboth.imp_of_mem fun {a b} ha hb h => ?_
  have hapos := ((hmem a).mp ha).length_pos
  have hbpos := ((hmem b).mp hb).length_pos
  rcases h with ⟨hle, hapart | hapart⟩ <;> omega

lemma Tags.unique {tags tags' : List TextEntity} (h : Tags text tags) (h' : Tags text tags') : tags = tags' := by
  have hnodup : ∀ {l : List TextEntity}, l.Pairwise (fun a b => a.offset < b.offset) → l.Nodup := fun hl =>
    hl.imp fun hlt heq => absurd (heq ▸ hlt) (lt_irrefl _)
  have hperm : tags.Perm tags' :=
    (List.perm_ext_iff_of_nodup (hnodup h.sorted) (hnodup h'.sorted)).mpr
      fun e => (h.mem_iff e).trans (h'.mem_iff e).symm
  refine hperm.eq_of_pairwise (fun a b _ _ hab hba => ?_) h.sorted h'.sorted
  exact absurd hab (lt_asymm hba)

/-! ## What is built of a bare text -/

variable {pieces : List Piece}

lemma length_replaceCrlf_le (s : Str) : (replaceCrlf s).length ≤ s.length := by
  induction s using replaceCrlf.induct with
  | case1 => exact le_rfl
  | case2 c => exact le_rfl
  | case3 c d rest hcrlf ih =>
      rw [replaceCrlf, if_pos hcrlf, List.length_cons, List.length_cons, List.length_cons]
      omega
  | case4 c d rest hcrlf ih =>
      rw [replaceCrlf, if_neg hcrlf, List.length_cons, List.length_cons]
      omega

/-- A text without `CRLF` stays as it is. -/
lemma replaceCrlf_eq_self_iff (s : Str) : replaceCrlf s = s ↔ ¬[13, 10] <:+: s := by
  induction s using replaceCrlf.induct with
  | case1 => simp [replaceCrlf]
  | case2 c => simp [replaceCrlf, List.infix_cons_iff]
  | case3 c d rest hcrlf ih =>
      rw [replaceCrlf, if_pos hcrlf]
      refine iff_of_false (fun heq => ?_) (fun hno => hno ⟨[], rest, ?_⟩)
      · have hlength := congrArg List.length heq
        have hle := length_replaceCrlf_le rest
        simp only [List.length_cons] at hlength
        omega
      · rw [hcrlf.1, hcrlf.2]
        rfl
  | case4 c d rest hcrlf ih =>
      rw [replaceCrlf, if_neg hcrlf, List.infix_cons_iff, not_or, ← ih, List.cons_inj_right]
      refine (and_iff_right fun hbegin => hcrlf ?_).symm
      rcases List.cons_prefix_cons.mp hbegin with ⟨hc, hrest⟩
      exact ⟨hc.symm, (List.cons_prefix_cons.mp hrest).1.symm⟩

/-- A text is read as nothing but units if there is no markup in it. -/
lemma reads_literals_iff (text : Str) :
    Reads text (text.map .literal) ↔ ∀ m : Markup, m.IsProper → ¬m.source <:+: text := by
  induction text with
  | nil =>
      refine iff_of_true .done fun m _ hpart => m.source_ne_nil ?_
      exact List.infix_nil.mp hpart
  | cons c text ih =>
      constructor
      · intro h m hm hpart
        cases h with
        | literal hnone hrest =>
            rcases List.infix_cons_iff.mp hpart with hbegin | hpart
            · exact hnone m ⟨hm, hbegin⟩
            · exact ih.mp hrest m hm hpart
      · intro h
        refine .literal (fun m hm => h m hm.1 hm.2.isInfix) (ih.mpr fun m hm hpart => h m hm ?_)
        exact List.infix_cons hpart

lemma length_excerpt_le (ps : List (Fragment UInt16)) : (excerpt ps).length ≤ (whole ps).length := by
  induction ps with
  | nil => exact le_rfl
  | cons p ps ih =>
      have hall := length_all p
      rw [excerpt_cons, whole_cons, List.length_append, List.length_append]
      omega

/-- Where nothing is left out, all pieces are units. -/
lemma pieces_of_length_le
    (h : (whole (pieces.map Piece.fragment)).length ≤ (excerpt (pieces.map Piece.fragment)).length) :
    pieces = (whole (pieces.map Piece.fragment)).map .literal := by
  induction pieces with
  | nil => rfl
  | cons piece pieces ih =>
      rw [List.map_cons, whole_cons, excerpt_cons, List.length_append, List.length_append] at h
      have hle := length_excerpt_le (pieces.map Piece.fragment)
      have hall := length_all piece.fragment
      cases piece with
      | literal c =>
          rw [List.map_cons, whole_cons, List.map_append, ← ih (by omega)]
          rfl
      | markup m =>
          have hopening := List.length_pos_iff.mpr m.opening_ne_nil
          change (Piece.markup m).fragment.all.length =
            m.opening.length + (Piece.markup m).fragment.kept.length + _ at hall
          omega

lemma excerpt_map_literal (text : Str) : excerpt ((text.map Piece.literal).map Piece.fragment) = text := by
  have hexcerpt := excerpt_literals text []
  rwa [List.append_nil, List.map_nil, excerpt_nil, List.append_nil] at hexcerpt

/-- **A bare text stays as it is** if it has no markup and no `CRLF`. -/
theorem text_eq_iff (text : Str) :
    (buildFromComposer text).text = text ↔
      ¬[13, 10] <:+: text ∧ ∀ m : Markup, m.IsProper → ¬m.source <:+: text := by
  rcases parseInlineMarkdown_reads (replaceCrlf text) with ⟨pieces, hreads, -⟩
  rw [buildFromComposer_of_reads hreads, ← replaceCrlf_eq_self_iff, ← reads_literals_iff]
  dsimp only
  have hwhole := hreads.whole_eq
  constructor
  · intro htext
    have hpieces : pieces = (whole (pieces.map Piece.fragment)).map .literal := by
      refine pieces_of_length_le ?_
      rw [hwhole, htext]
      exact length_replaceCrlf_le text
    rw [hwhole] at hpieces
    rw [hpieces, excerpt_map_literal] at htext
    rw [hpieces, htext] at hreads
    exact ⟨htext, hreads⟩
  · rintro ⟨hcrlf, hliterals⟩
    rw [hcrlf] at hreads
    rw [hreads.unique hliterals, excerpt_map_literal]

/-- Then its entities are its tags. -/
lemma tags_of_text_eq {text : Str} (h : (buildFromComposer text).text = text) :
    Tags text (buildFromComposer text).entities := by
  rcases (text_eq_iff text).mp h with ⟨hcrlf, hplain⟩
  have hreads := (reads_literals_iff text).mpr hplain
  have hnone := markupEntities_literals 0 text []
  rw [List.append_nil, markupEntities] at hnone
  rw [← (replaceCrlf_eq_self_iff text).mpr hcrlf] at hreads
  rw [buildFromComposer_of_reads hreads, (replaceCrlf_eq_self_iff text).mpr hcrlf, excerpt_map_literal, hnone,
    List.nil_append]
  exact tags_mergeEntities text

end FormattedTextBuilder

/-! ## Opening and saving -/

/-- A text with its entities as they are received can be opened and saved: it does not only have white space, it has
no `CRLF` and no markup, and its entities are its mentions and hashtags. -/
structure Survives (received : RawFormattedText) : Prop where
  visible : trimDart received.text ≠ []
  lines : ¬[13, 10] <:+: received.text
  plain : ∀ m : Markup, m.IsProper → ¬m.source <:+: received.text
  tags : ∃ tags, FormattedTextBuilder.Tags received.text tags ∧ received.entities = tags.map TextEntity.toTdlib

/-- The request that changes nothing. -/
def sameRequest (chatId : ℤ) (message : OwnMessage) (received : RawFormattedText) : EditRequest :=
  if message.content.kind = .text then .editMessageText chatId message.id received
  else .editMessageCaption chatId message.id received

variable {composer : Composer} {message : OwnMessage} {now chatId : ℤ} {received : RawFormattedText} {label : Str}

/-- What is built is what was received. -/
lemma toTdlib_eq_iff :
    (FormattedTextBuilder.buildFromComposer received.text).toTdlib = received ↔
      ¬[13, 10] <:+: received.text ∧ (∀ m : Markup, m.IsProper → ¬m.source <:+: received.text) ∧
        ∃ tags, FormattedTextBuilder.Tags received.text tags ∧ received.entities = tags.map TextEntity.toTdlib := by
  rw [← and_assoc, ← FormattedTextBuilder.text_eq_iff]
  constructor
  · intro h
    have htext : (FormattedTextBuilder.buildFromComposer received.text).text = received.text :=
      congrArg RawFormattedText.text h
    exact ⟨htext, _, FormattedTextBuilder.tags_of_text_eq htext, (congrArg RawFormattedText.entities h).symm⟩
  · rintro ⟨htext, tags, htags, hentities⟩
    rw [FormattedText.toTdlib, htext, (FormattedTextBuilder.tags_of_text_eq htext).unique htags, ← hentities]

lemma editableComposerText_eq (hcontent : message.content = .fromTdlib message.content.kind label received) :
    message.editableComposerText.getD [] = received.text := by
  rw [OwnMessage.editableComposerText]
  split_ifs with htext
  · rw [hcontent, TextContent.fromTdlib, if_pos htext]
    rfl
  · rw [hcontent, TextContent.fromTdlib, if_neg htext, TextContent.optionalFormattedCaption]
    dsimp only
    split_ifs with hempty
    · rfl
    · exact (not_not.mp hempty).symm

/-- The editor is filled with the text that was received. -/
lemma startEditingMessage_eq (hcontent : message.content = .fromTdlib message.content.kind label received)
    (hedit : message.canEditText now ∨ message.canEditCaption now) :
    composer.startEditingMessage message now =
      { composer with
        editingMessage := some ⟨message.id, received.text, decide (message.content.kind ≠ MessageKind.text)⟩
        pendingReply := none
        scheduledSendAt := none } := by
  have hcaption : (message.canEditCaption now && !message.canEditText now) =
      decide (message.content.kind ≠ MessageKind.text) := by
    by_cases htext : message.content.kind = .text
    · simp [OwnMessage.canEditCaption, htext]
    · simpa [OwnMessage.canEditText, htext] using hedit
  have hguard : ¬(!message.canEditText now && !message.canEditCaption now) = true := by
    rw [Bool.and_eq_true, Bool.not_eq_true', Bool.not_eq_true']
    rintro ⟨hno, hno'⟩
    rw [hno, hno'] at hedit
    exact hedit.elim Bool.false_ne_true Bool.false_ne_true
  rw [Composer.startEditingMessage, if_neg hguard, editableComposerText_eq hcontent, hcaption]

/-- **Editing without changes** sends the text and the entities that were received exactly if they survive. -/
theorem openAndSave_same_iff (hactive : composer.activeChatId = some chatId)
    (hcontent : message.content = .fromTdlib message.content.kind label received)
    (hedit : message.canEditText now ∨ message.canEditCaption now) :
    (composer.openAndSave message now).sent = composer.sent ++ [sameRequest chatId message received] ↔
      Survives received := by
  have hrequest : ∀ formatted : RawFormattedText,
      (if decide (message.content.kind ≠ MessageKind.text) then
        EditRequest.editMessageCaption chatId message.id formatted
      else EditRequest.editMessageText chatId message.id formatted) = sameRequest chatId message received ↔
        formatted = received := by
    intro formatted
    by_cases htext : message.content.kind = .text <;> simp [sameRequest, htext]
  rw [Composer.openAndSave, startEditingMessage_eq hcontent hedit]
  simp only [Composer.saveEdit, hactive]
  by_cases hblank : trimDart (FormattedTextBuilder.buildFromComposer received.text).text = []
  · rw [if_pos hblank]
    refine iff_of_false (fun h => List.cons_ne_nil _ _ (List.self_eq_append_right.mp h)) fun h => h.visible ?_
    rwa [(FormattedTextBuilder.text_eq_iff received.text).mpr ⟨h.lines, h.plain⟩] at hblank
  · rw [if_neg hblank]
    dsimp only
    rw [List.append_cancel_left_eq, List.cons.injEq, and_iff_left rfl, hrequest, toTdlib_eq_iff]
    constructor
    · rintro ⟨hlines, hplain, htags⟩
      rw [(FormattedTextBuilder.text_eq_iff received.text).mpr ⟨hlines, hplain⟩] at hblank
      exact ⟨hblank, hlines, hplain, htags⟩
    · intro h
      exact ⟨h.lines, h.plain, h.tags⟩

/-- A text of one's own that is received. -/
def OwnMessage.ofText (received : RawFormattedText) : OwnMessage where
  id := 1
  content := .fromTdlib .text [] received
  date := 0
  canBeEdited := true

def greeting : RawFormattedText where
  text := ascii "hi #all"
  entities := [{ offset := 3, length := 4, type := "textEntityTypeHashtag" }]

theorem openAndSave_greeting :
    (Composer.openAndSave { activeChatId := some 7 } (.ofText greeting) 0).sent =
      [] ++ [sameRequest 7 (.ofText greeting) greeting] := by
  have htext : (FormattedTextBuilder.buildFromComposer greeting.text).text = greeting.text := by decide +kernel
  rcases (FormattedTextBuilder.text_eq_iff _).mp htext with ⟨hlines, hplain⟩
  have hcontent : (OwnMessage.ofText greeting).content = .fromTdlib .text [] greeting := rfl
  refine (openAndSave_same_iff rfl hcontent (.inl (by decide))).mpr ⟨by decide, hlines, hplain, ?_⟩
  exact ⟨_, FormattedTextBuilder.tags_of_text_eq htext, by decide +kernel⟩

def bolded : RawFormattedText where
  text := ascii "bold"
  entities := [{ offset := 0, length := 4, type := "textEntityTypeBold" }]

def product : RawFormattedText where
  text := ascii "2*3*4"

/-- **Formatting is lost and asterisks are taken away** from texts that are opened and saved. -/
theorem formatting_lost :
    (Composer.openAndSave { activeChatId := some 7 } (.ofText bolded) 0).sent =
        [.editMessageText 7 1 { text := ascii "bold" }] ∧
      (Composer.openAndSave { activeChatId := some 7 } (.ofText product) 0).sent =
        [.editMessageText 7 1
          { text := ascii "234", entities := [{ offset := 1, length := 1, type := "textEntityTypeItalic" }] }] ∧
      ∀ received ∈ [bolded, product], (Composer.openAndSave { activeChatId := some 7 } (.ofText received) 0).sent ≠
        [] ++ [sameRequest 7 (.ofText received) received] := by
  decide +kernel

end RioGram.Chats
