import RioGram.Core.Excerpts
import RioGram.Core.Patterns
import RioGram.Js.Strings

/-!
# Inline markup of the composer

`FormattedTextBuilder` goes through a text from the left and tries five regular expressions at each place: where one
matches, the markup becomes a segment with an entity, and what is between markup becomes segments without.

`Reads` says without the expressions what of a text is markup, and a text is read in one way only (`Reads.unique`).

* `parseInlineMarkdown_reads` — the segments are those of the reading.
-/

namespace RioGram.Chats

open Excerpts Js Patterns Pattern

inductive TextEntityKind where
  | bold | italic | code | url | textUrl | mention | mentionName | hashtag
deriving DecidableEq

/-- A part of a text, in units of UTF-16. -/
structure TextEntity where
  offset : ℕ
  length : ℕ
  kind : TextEntityKind
  url : Option Str := none
  userId : Option ℤ := none
deriving DecidableEq

namespace FormattedTextBuilder

structure Segment where
  plain : Str
  entities : List TextEntity := []

structure MarkdownMatch where
  inner : Str
  kind : TextEntityKind
  fullLength : ℕ
  url : Option Str := none

/-! ## The expressions -/

/-- What `.` matches. -/
def isDot (c : UInt16) : Bool := !([10, 13, 0x2028, 0x2029].contains c)

/-- `^\*\*(.+?)\*\*` -/
def boldPattern : Pattern UInt16 := enclosed (ascii "**") (many isDot 1 false) (ascii "**")

/-- `^\*(.+?)\*` -/
def starPattern : Pattern UInt16 := enclosed (ascii "*") (many isDot 1 false) (ascii "*")

/-- `^_(.+?)_` -/
def underscorePattern : Pattern UInt16 := enclosed (ascii "_") (many isDot 1 false) (ascii "_")

/-- The text between two backticks, which has none. -/
def codePattern : Pattern UInt16 := enclosed (ascii "`") (many (· != 96) 1 true) (ascii "`")

/-- `^\[([^\]]+)\]\(([^)]+)\)` -/
def linkPattern : Pattern UInt16 :=
  seq (literal (ascii "[")) (seq (group (many (· != 93) 1 true))
    (enclosed (ascii "](") (many (· != 41) 1 true) (ascii ")")))

/-- `_tryMatch`, which does not use the lengths of the delimiters. -/
def tryMatch (rest : Str) (pattern : Pattern UInt16) (kind : TextEntityKind) : Option MarkdownMatch :=
  (pattern.matchStart rest).map fun w =>
    { inner := w.groups[0]?.getD [], kind, fullLength := w.taken.length }

def tryMatchLink (rest : Str) : Option MarkdownMatch :=
  (linkPattern.matchStart rest).map fun w =>
    { inner := w.groups[0]?.getD []
      kind := .textUrl
      fullLength := w.taken.length
      url := some (w.groups[1]?.getD []) }

/-- `patterns` of `_parseInlineMarkdown`, with those that do not match. -/
def attempts (rest : Str) : List (Option MarkdownMatch) :=
  [tryMatch rest boldPattern .bold, tryMatch rest starPattern .italic, tryMatch rest underscorePattern .italic,
    tryMatch rest codePattern .code, tryMatchLink rest]

/-- The first that matches. -/
def firstMatch (rest : Str) : Option MarkdownMatch := ((attempts rest).filterMap id).head?

end FormattedTextBuilder

/-! ## Markup -/

/-- The five forms of markup with what they contain. -/
inductive Markup where
  | bold (inner : Str)
  | star (inner : Str)
  | underscore (inner : Str)
  | code (inner : Str)
  | link (label url : Str)
deriving DecidableEq

namespace Markup

def opening : Markup → Str
  | bold _ => ascii "**"
  | star _ => ascii "*"
  | underscore _ => ascii "_"
  | code _ => ascii "`"
  | link _ _ => ascii "["

def inner : Markup → Str
  | bold inner | star inner | underscore inner | code inner => inner
  | link label _ => label

def closing : Markup → Str
  | bold _ => ascii "**"
  | star _ => ascii "*"
  | underscore _ => ascii "_"
  | code _ => ascii "`"
  | link _ url => ascii "](" ++ (url ++ ascii ")")

def kind : Markup → TextEntityKind
  | bold _ => .bold
  | star _ | underscore _ => .italic
  | code _ => .code
  | link _ _ => .textUrl

def url : Markup → Option Str
  | link _ url => some url
  | _ => none

/-- The order in which the forms are tried. -/
def rank : Markup → ℕ
  | bold _ => 0
  | star _ => 1
  | underscore _ => 2
  | code _ => 3
  | link _ _ => 4

/-- The markup as a fragment of a text, of which the inner text is kept. -/
def fragment (m : Markup) : Fragment UInt16 := ⟨m.opening, m.inner, m.closing⟩

def source (m : Markup) : Str := m.fragment.all

/-- Something is inside, and nothing that would end it or, where it has to be in one line, the line. -/
def IsProper : Markup → Prop
  | bold inner | star inner | underscore inner => 1 ≤ inner.length ∧ ∀ c ∈ inner, FormattedTextBuilder.isDot c
  | code inner => 1 ≤ inner.length ∧ ∀ c ∈ inner, c != 96
  | link label url => (1 ≤ label.length ∧ ∀ c ∈ label, c != 93) ∧ 1 ≤ url.length ∧ ∀ c ∈ url, c != 41

/-- The text starts with the markup. -/
def Stands (m : Markup) (text : Str) : Prop := m.IsProper ∧ m.source <+: text

/-- No markup that the text starts with is of an earlier form, or of the same form and shorter. -/
def IsFirst (m : Markup) (text : Str) : Prop :=
  m.Stands text ∧ ∀ m' : Markup, m'.Stands text →
    m.rank < m'.rank ∨ m.rank = m'.rank ∧ m.source.length ≤ m'.source.length

def toMatch (m : Markup) : FormattedTextBuilder.MarkdownMatch where
  inner := m.inner
  kind := m.kind
  fullLength := m.source.length
  url := m.url

/-- The entity of the inner text. -/
def entity (m : Markup) (offset : ℕ) : TextEntity :=
  { offset, length := m.inner.length, kind := m.kind, url := m.url }

lemma rank_lt (m : Markup) : m.rank < 5 := by
  cases m <;> (rw [rank]; decide)

lemma opening_ne_nil (m : Markup) : m.opening ≠ [] := by
  cases m <;> (rw [opening]; decide)

lemma closing_ne_nil (m : Markup) : m.closing ≠ [] := by
  cases m with
  | link label url => exact List.append_ne_nil_of_left_ne_nil (by decide) _
  | _ =>
      rw [closing]
      decide

lemma IsProper.inner_ne_nil {m : Markup} (h : m.IsProper) : m.inner ≠ [] := by
  have hlength : 1 ≤ m.inner.length := by
    cases m with
    | link label url => exact h.1.1
    | _ => exact h.1
  exact List.length_pos_iff.mp hlength

lemma source_ne_nil (m : Markup) : m.source ≠ [] := List.append_ne_nil_of_left_ne_nil m.opening_ne_nil _

/-- Code ends at the first backtick. -/
lemma code_unique {a b text : Str} (ha : (code a).Stands text) (hb : (code b).Stands text) : a = b := by
  rcases ha with ⟨⟨-, ha⟩, after, htext⟩
  rcases hb with ⟨⟨-, hb⟩, after', htext'⟩
  have hticks : ∀ c after, (code c).source ++ after = 96 :: (c ++ 96 :: after) := by
    intro c after
    rw [source, fragment, Fragment.all, List.append_assoc, List.append_assoc]
    rfl
  rw [← htext', hticks, hticks] at htext
  exact (run_unique (List.cons.inj htext).2 ha hb (by decide) (by decide)).1

/-- A link ends at the first bracket of each kind. -/
lemma link_unique {a b u v text : Str} (ha : (link a u).Stands text) (hb : (link b v).Stands text) :
    a = b ∧ u = v := by
  rcases ha with ⟨⟨⟨-, ha⟩, -, hu⟩, after, htext⟩
  rcases hb with ⟨⟨⟨-, hb⟩, -, hv⟩, after', htext'⟩
  have hbrackets : ∀ c w after, (link c w).source ++ after = 91 :: (c ++ 93 :: 40 :: (w ++ 41 :: after)) := by
    intro c w after
    rw [source, fragment, Fragment.all, closing]
    simp only [List.append_assoc]
    rfl
  rw [← htext', hbrackets, hbrackets] at htext
  rcases run_unique (List.cons.inj htext).2 ha hb (by decide) (by decide) with ⟨hlabel, hrest⟩
  have hurl := (List.cons.inj (List.cons.inj hrest).2).2
  exact ⟨hlabel, (run_unique hurl hu hv (by decide) (by decide)).1⟩

end Markup

/-! ### What the expressions match -/

namespace FormattedTextBuilder

variable {rest : Str}

/-- An attempt gives the shortest markup of its form that the text starts with, or there is none. -/
structure Tries (rank : ℕ) (rest : Str) (attempt : Option MarkdownMatch) : Prop where
  some : ∀ found, attempt = some found → ∃ m : Markup, m.rank = rank ∧ found = m.toMatch ∧ m.Stands rest ∧
    ∀ m' : Markup, m'.rank = rank → m'.Stands rest → m.source.length ≤ m'.source.length
  none : attempt = none → ∀ m : Markup, m.rank = rank → ¬m.Stands rest

/-- The ways of an expression between delimiters. -/
lemma mem_ways_enclosed {opening closing : Str} {isUnit : UInt16 → Bool} {greedy : Bool} {w : Way UInt16} :
    w ∈ (enclosed opening (many isUnit 1 greedy) closing).ways none rest ↔
      ∃ inner, rest = opening ++ (inner ++ closing) ++ w.rest ∧ w.taken = opening ++ (inner ++ closing) ∧
        w.groups = [inner] ∧ 1 ≤ inner.length ∧ ∀ c ∈ inner, isUnit c := by
  rw [mem_ways_iff, matches_enclosed]
  constructor
  · rintro ⟨htext, inner, groups, htaken, hgroups, hunits, rfl⟩
    exact ⟨inner, by rw [htext, htaken], htaken, hgroups, hunits.1, hunits.2⟩
  · rintro ⟨inner, htext, htaken, hgroups, hlength, hunits⟩
    exact ⟨by rw [htext, htaken], inner, [], htaken, hgroups, ⟨hlength, hunits⟩, rfl⟩

/-- An expression tries the form whose delimiters and units it has, if it matches the shortest first. -/
lemma tries_enclosed {rank : ℕ} {opening closing : Str} {isUnit : UInt16 → Bool} {greedy : Bool}
    {kind : TextEntityKind} (form : Str → Markup)
    (hform : ∀ m : Markup, m.rank = rank ↔ ∃ inner, m = form inner)
    (hproper : ∀ inner, (form inner).IsProper ↔ 1 ≤ inner.length ∧ ∀ c ∈ inner, isUnit c)
    (hsource : ∀ inner, (form inner).source = opening ++ (inner ++ closing))
    (hmatch : ∀ inner, (form inner).toMatch = ⟨inner, kind, (form inner).source.length, none⟩)
    (hfirst : ∀ w w', (enclosed opening (many isUnit 1 greedy) closing).matchStart rest = some w →
      w' ∈ (enclosed opening (many isUnit 1 greedy) closing).ways none rest → w.taken.length ≤ w'.taken.length) :
    Tries rank rest (tryMatch rest (enclosed opening (many isUnit 1 greedy) closing) kind) := by
  have hways : ∀ inner, (form inner).Stands rest → ∃ w, w.taken = (form inner).source ∧
      w ∈ (enclosed opening (many isUnit 1 greedy) closing).ways none rest := by
    rintro inner ⟨hinner, after, hafter⟩
    refine ⟨⟨(form inner).source, [inner], after⟩, rfl, mem_ways_enclosed.mpr ⟨inner, ?_, ?_, rfl, ?_⟩⟩
    · rw [← hsource, hafter]
    · exact hsource inner
    · exact (hproper inner).mp hinner
  constructor
  · intro found hfound
    rcases Option.map_eq_some_iff.mp hfound with ⟨w, hw, rfl⟩
    rcases mem_ways_enclosed.mp (mem_ways_of_matchStart hw) with ⟨inner, hrest, htaken, hgroups, hinner⟩
    refine ⟨form inner, (hform _).mpr ⟨inner, rfl⟩, ?_, ⟨(hproper inner).mpr hinner, ?_⟩, ?_⟩
    · rw [hmatch, hsource, hgroups, htaken]
      rfl
    · rw [hsource]
      exact ⟨w.rest, hrest.symm⟩
    · intro m' hrank hstands
      rcases (hform m').mp hrank with ⟨inner', rfl⟩
      rcases hways inner' hstands with ⟨w', htaken', hw'⟩
      rw [← htaken', hsource, ← htaken]
      exact hfirst w w' hw hw'
  · intro hnone m hrank hstands
    rcases (hform m).mp hrank with ⟨inner, rfl⟩
    rcases hways inner hstands with ⟨w, -, hw⟩
    exact matchStart_eq_none_iff.mp (Option.map_eq_none_iff.mp hnone) w hw

/-- An expression that is not greedy matches the shortest first. -/
lemma tries_shortest {rank : ℕ} {opening closing : Str} {isUnit : UInt16 → Bool} {kind : TextEntityKind}
    (form : Str → Markup) (hform : ∀ m : Markup, m.rank = rank ↔ ∃ inner, m = form inner)
    (hproper : ∀ inner, (form inner).IsProper ↔ 1 ≤ inner.length ∧ ∀ c ∈ inner, isUnit c)
    (hsource : ∀ inner, (form inner).source = opening ++ (inner ++ closing))
    (hmatch : ∀ inner, (form inner).toMatch = ⟨inner, kind, (form inner).source.length, none⟩) :
    Tries rank rest (tryMatch rest (enclosed opening (many isUnit 1 false) closing) kind) := by
  have hascending := (ascending_many isUnit 1).enclosed opening closing
  exact tries_enclosed form hform hproper hsource hmatch fun w w' hw hw' => hascending.first_le hw hw'

lemma tries_bold : Tries 0 rest (tryMatch rest boldPattern .bold) := by
  refine tries_shortest .bold (fun m => ?_) (fun _ => Iff.rfl) (fun _ => rfl) fun _ => rfl
  cases m <;> simp [Markup.rank]

lemma tries_star : Tries 1 rest (tryMatch rest starPattern .italic) := by
  refine tries_shortest .star (fun m => ?_) (fun _ => Iff.rfl) (fun _ => rfl) fun _ => rfl
  cases m <;> simp [Markup.rank]

lemma tries_underscore : Tries 2 rest (tryMatch rest underscorePattern .italic) := by
  refine tries_shortest .underscore (fun m => ?_) (fun _ => Iff.rfl) (fun _ => rfl) fun _ => rfl
  cases m <;> simp [Markup.rank]

lemma tries_code : Tries 3 rest (tryMatch rest codePattern .code) := by
  refine tries_enclosed .code (fun m => ?_) (fun _ => Iff.rfl) (fun _ => rfl) (fun _ => rfl) fun w w' hw hw' => ?_
  · cases m <;> simp [Markup.rank]
  · rcases mem_ways_enclosed.mp (mem_ways_of_matchStart hw) with ⟨inner, hrest, htaken, -, hinner⟩
    rcases mem_ways_enclosed.mp hw' with ⟨inner', hrest', htaken', -, hinner'⟩
    have hsame := Markup.code_unique ⟨hinner, w.rest, hrest.symm⟩ ⟨hinner', w'.rest, hrest'.symm⟩
    rw [htaken, htaken', hsame]

/-- The ways of the expression for links. -/
lemma mem_ways_link {w : Way UInt16} :
    w ∈ linkPattern.ways none rest ↔ ∃ label url, (Markup.link label url).IsProper ∧
      rest = (Markup.link label url).source ++ w.rest ∧ w.taken = (Markup.link label url).source ∧
        w.groups = [label, url] := by
  rw [mem_ways_iff, linkPattern, Matches]
  constructor
  · rintro ⟨htext, t, t', g, g', htaken, hgroups, hopening, hlabel⟩
    rw [matches_literal] at hopening
    rw [Matches] at hlabel
    rcases hlabel with ⟨label, t'', g'', g''', rfl, rfl, ⟨g₁, rfl, hlabel, rfl⟩, hurl⟩
    rw [matches_enclosed] at hurl
    rcases hurl with ⟨url, g₂, rfl, rfl, hurl, rfl⟩
    rw [hopening.1] at htaken
    rw [hopening.2] at hgroups
    exact ⟨label, url, ⟨hlabel, hurl⟩, by rw [htext, htaken]; rfl, htaken, hgroups⟩
  · rintro ⟨label, url, ⟨hlabel, hurl⟩, htext, htaken, hgroups⟩
    refine ⟨by rw [htext, htaken], _, _, _, _, htaken, hgroups, matches_literal.mpr ⟨rfl, rfl⟩, ?_⟩
    refine ⟨label, _, [label], [url], rfl, rfl, ⟨[], rfl, hlabel, rfl⟩, ?_⟩
    exact matches_enclosed.mpr ⟨url, [], rfl, rfl, hurl, rfl⟩

lemma tries_link : Tries 4 rest (tryMatchLink rest) := by
  have hrank : ∀ m : Markup, m.rank = 4 → ∃ label url, m = .link label url := by
    intro m hm
    cases m with
    | link label url => exact ⟨label, url, rfl⟩
    | _ => cases hm
  constructor
  · intro found hfound
    rcases Option.map_eq_some_iff.mp hfound with ⟨w, hw, rfl⟩
    rcases mem_ways_link.mp (mem_ways_of_matchStart hw) with ⟨label, url, hproper, hrest, htaken, hgroups⟩
    have hstands : (Markup.link label url).Stands rest := ⟨hproper, w.rest, hrest.symm⟩
    refine ⟨.link label url, rfl, ?_, hstands, ?_⟩
    · rw [hgroups, htaken]
      rfl
    · intro m' hm' hstands'
      rcases hrank m' hm' with ⟨label', url', rfl⟩
      rcases Markup.link_unique hstands hstands' with ⟨rfl, rfl⟩
      exact le_rfl
  · rintro hnone m hm ⟨hproper, after, hafter⟩
    rcases hrank m hm with ⟨label, url, rfl⟩
    have hways := matchStart_eq_none_iff.mp (Option.map_eq_none_iff.mp hnone)
    refine hways ⟨(Markup.link label url).source, [label, url], after⟩ ?_
    exact mem_ways_link.mpr ⟨label, url, hproper, hafter.symm, rfl, rfl⟩

/-- Attempts for the forms from a rank on, in their order. -/
inductive TriesFrom (rest : Str) : ℕ → List (Option MarkdownMatch) → Prop
  | nil (rank : ℕ) : TriesFrom rest rank []
  | cons {rank : ℕ} {attempt : Option MarkdownMatch} {others : List (Option MarkdownMatch)}
      (hattempt : Tries rank rest attempt) (hothers : TriesFrom rest (rank + 1) others) :
      TriesFrom rest rank (attempt :: others)

lemma triesFrom_attempts (rest : Str) : TriesFrom rest 0 (attempts rest) :=
  .cons tries_bold (.cons tries_star (.cons tries_underscore (.cons tries_code (.cons tries_link (.nil 5)))))

/-- The first attempt that gives a markup gives the first one, and if none does there is none. -/
lemma TriesFrom.head {rank : ℕ} {attempts : List (Option MarkdownMatch)} (h : TriesFrom rest rank attempts) :
    (∀ found, (attempts.filterMap id).head? = some found → ∃ m : Markup, found = m.toMatch ∧ m.Stands rest ∧
      ∀ m' : Markup, rank ≤ m'.rank → m'.Stands rest →
        m.rank < m'.rank ∨ m.rank = m'.rank ∧ m.source.length ≤ m'.source.length) ∧
    ((attempts.filterMap id).head? = none → ∀ m : Markup, rank ≤ m.rank → m.rank < rank + attempts.length →
      ¬m.Stands rest) := by
  induction h with
  | nil rank =>
      refine ⟨fun found hfound => ?_, fun _ m hle hlt => absurd hlt (Nat.not_lt.mpr hle)⟩
      cases hfound
  | @cons rank attempt others hattempt hothers ih =>
      cases attempt with
      | none =>
          rw [List.filterMap_cons_none rfl]
          constructor
          · intro found hfound
            rcases ih.1 found hfound with ⟨m, hm, hstands, hfirst⟩
            refine ⟨m, hm, hstands, fun m' hle hstands' => ?_⟩
            rcases Nat.lt_or_eq_of_le hle with hlt | heq
            · exact hfirst m' hlt hstands'
            · exact absurd hstands' (hattempt.none rfl m' heq.symm)
          · intro hnone m hle hlt
            rcases Nat.lt_or_eq_of_le hle with hlt' | heq
            · refine ih.2 hnone m hlt' ?_
              rw [List.length_cons] at hlt
              omega
            · exact hattempt.none rfl m heq.symm
      | some found =>
          rw [show (some found :: others).filterMap id = found :: others.filterMap id from rfl]
          constructor
          · intro found' hfound'
            cases hfound'
            rcases hattempt.some found rfl with ⟨m, hrank, hm, hstands, hshort⟩
            refine ⟨m, hm, hstands, fun m' hle hstands' => ?_⟩
            rcases Nat.lt_or_eq_of_le hle with hlt | heq
            · exact .inl (hrank ▸ hlt)
            · exact .inr ⟨hrank.trans heq, hshort m' heq.symm hstands'⟩
          · intro hnone
            cases hnone

/-- **What is matched** is the first markup. -/
theorem firstMatch_some {found : MarkdownMatch} (h : firstMatch rest = some found) :
    ∃ m : Markup, found = m.toMatch ∧ m.IsFirst rest := by
  rcases (triesFrom_attempts rest).head.1 found h with ⟨m, hm, hstands, hfirst⟩
  exact ⟨m, hm, hstands, fun m' => hfirst m' (Nat.zero_le _)⟩

theorem firstMatch_none (h : firstMatch rest = none) (m : Markup) : ¬m.Stands rest :=
  (triesFrom_attempts rest).head.2 h m (Nat.zero_le _) m.rank_lt

/-! ## The loop -/

/-- `String.indexOf`. -/
def indexOf (rest s : Str) : Option ℕ := (List.range (rest.length + 1)).find? fun i => s.isPrefixOf (rest.drop i)

def nextSpecialIndex (rest : Str) : ℕ :=
  match [ascii "**", ascii "*", ascii "_", ascii "`", ascii "["].filterMap (indexOf rest) with
  | [] => rest.length
  | i :: others => others.foldl (fun a b => if a < b then a else b) i

lemma length_drop_lt {n : ℕ} (hrest : rest ≠ []) (hn : 0 < n) : (rest.drop n).length < rest.length := by
  have hlength := List.length_pos_iff.mpr hrest
  rw [List.length_drop]
  omega

lemma firstMatch_pos {found : MarkdownMatch} (h : firstMatch rest = some found) : 0 < found.fullLength := by
  rcases firstMatch_some h with ⟨m, rfl, -⟩
  exact List.length_pos_iff.mpr m.source_ne_nil

/-- `_parseInlineMarkdown` from an index on: every turn takes something of the rest. -/
def parseInlineMarkdown (rest : Str) : List Segment :=
  if _ : rest = [] then []
  else
    match _ : firstMatch rest with
    | some found =>
        { plain := found.inner
          entities := [{ offset := 0, length := found.inner.length, kind := found.kind, url := found.url }] } ::
          parseInlineMarkdown (rest.drop found.fullLength)
    | none =>
        let nextSpecial := nextSpecialIndex rest
        if _ : nextSpecial = 0 then { plain := rest.take 1 } :: parseInlineMarkdown (rest.drop 1)
        else if rest.length ≤ nextSpecial then [{ plain := rest }]
        else { plain := rest.take nextSpecial } :: parseInlineMarkdown (rest.drop nextSpecial)
termination_by rest.length
decreasing_by
  · exact length_drop_lt ‹_› (firstMatch_pos ‹_›)
  · exact length_drop_lt ‹_› Nat.one_pos
  · exact length_drop_lt ‹_› (Nat.pos_of_ne_zero ‹_›)

lemma parseInlineMarkdown_some {found : MarkdownMatch} (hrest : rest ≠ []) (hfound : firstMatch rest = some found) :
    parseInlineMarkdown rest =
      { plain := found.inner
        entities := [{ offset := 0, length := found.inner.length, kind := found.kind, url := found.url }] } ::
        parseInlineMarkdown (rest.drop found.fullLength) := by
  rw [parseInlineMarkdown, dif_neg hrest]
  split
  · rename_i found' hfound'
    cases hfound.symm.trans hfound'
    rfl
  · rename_i hnone
    cases hfound.symm.trans hnone

lemma parseInlineMarkdown_none (hrest : rest ≠ []) (hnone : firstMatch rest = none) :
    parseInlineMarkdown rest =
      if nextSpecialIndex rest = 0 then { plain := rest.take 1 } :: parseInlineMarkdown (rest.drop 1)
      else if rest.length ≤ nextSpecialIndex rest then [{ plain := rest }]
      else { plain := rest.take (nextSpecialIndex rest) } ::
        parseInlineMarkdown (rest.drop (nextSpecialIndex rest)) := by
  rw [parseInlineMarkdown, dif_neg hrest]
  split
  · rename_i found hfound
    cases hnone.symm.trans hfound
  · dsimp only
    split_ifs <;> rfl

/-! ## What is read -/

/-- A unit that stays as it is, or a markup. -/
inductive Piece where
  | literal (c : UInt16)
  | markup (m : Markup)
deriving DecidableEq

def Piece.fragment : Piece → Fragment UInt16
  | literal c => { kept := [c] }
  | markup m => m.fragment

/-- From the left, a text is markup wherever it starts with some, the first there is, and else one unit. -/
inductive Reads : Str → List Piece → Prop
  | done : Reads [] []
  | markup {m : Markup} {text rest : Str} {pieces : List Piece} (hfirst : m.IsFirst text)
      (htext : text = m.source ++ rest) (hrest : Reads rest pieces) : Reads text (.markup m :: pieces)
  | literal {c : UInt16} {rest : Str} {pieces : List Piece} (hnone : ∀ m : Markup, ¬m.Stands (c :: rest))
      (hrest : Reads rest pieces) : Reads (c :: rest) (.literal c :: pieces)

variable {text : Str} {pieces : List Piece}

lemma Reads.whole_eq (h : Reads text pieces) : whole (pieces.map Piece.fragment) = text := by
  induction h with
  | done => rfl
  | markup hfirst htext hrest ih =>
      rw [List.map_cons, whole_cons, ih, htext]
      rfl
  | literal hnone hrest ih =>
      rw [List.map_cons, whole_cons, ih]
      rfl

lemma Reads.proper (h : Reads text pieces) {m : Markup} (hm : .markup m ∈ pieces) : m.IsProper := by
  induction h with
  | done => cases hm
  | markup hfirst htext hrest ih =>
      rcases List.mem_cons.mp hm with heq | hm
      · cases heq
        exact hfirst.1.1
      · exact ih hm
  | literal hnone hrest ih =>
      rcases List.mem_cons.mp hm with heq | hm
      · cases heq
      · exact ih hm

lemma isFirst_unique {m m' : Markup} (h : m.IsFirst text) (h' : m'.IsFirst text) : m = m' := by
  have hle := h.2 m' h'.1
  have hge := h'.2 m h.1
  have hrank : m.rank = m'.rank := by omega
  have hlength : m.source.length = m'.source.length := by omega
  have hsource : m.source = m'.source :=
    (List.prefix_of_prefix_length_le h.1.2 h'.1.2 hlength.le).eq_of_length hlength
  have hinner : ∀ s t c : Str, s ++ (t ++ c) = s ++ (m'.inner ++ c) → t = m'.inner := fun s t c heq =>
    List.append_cancel_right (List.append_cancel_left heq)
  cases m <;> cases m'
  case bold.bold a b =>
    rw [hinner _ a _ hsource]
    rfl
  case star.star a b =>
    rw [hinner _ a _ hsource]
    rfl
  case underscore.underscore a b =>
    rw [hinner _ a _ hsource]
    rfl
  case code.code a b =>
    rw [hinner _ a _ hsource]
    rfl
  case link.link a u b v =>
    rcases Markup.link_unique h.1 h'.1 with ⟨rfl, rfl⟩
    rfl
  all_goals cases hrank

/-- **A text is read in one way.** -/
theorem Reads.unique {pieces' : List Piece} (h : Reads text pieces) (h' : Reads text pieces') : pieces = pieces' := by
  induction h generalizing pieces' with
  | done =>
      cases h' with
      | done => rfl
      | markup hfirst htext hrest => exact absurd (List.append_eq_nil_iff.mp htext.symm).1 (Markup.source_ne_nil _)
  | markup hfirst htext hrest ih =>
      cases h' with
      | done => exact absurd (List.append_eq_nil_iff.mp htext.symm).1 (Markup.source_ne_nil _)
      | markup hfirst' htext' hrest' =>
          have hsame := isFirst_unique hfirst hfirst'
          subst hsame
          rw [htext] at htext'
          rw [List.append_cancel_left htext'] at ih
          rw [ih hrest']
      | literal hnone' hrest' => exact absurd hfirst.1 (hnone' _)
  | literal hnone hrest ih =>
      cases h' with
      | markup hfirst' htext' hrest' => exact absurd hfirst'.1 (hnone _)
      | literal hnone' hrest' => rw [ih hrest']

/-! ## The segments -/

/-- What markup starts with. -/
def specials : Str := [42, 95, 96, 91]

lemma head_of_stands {m : Markup} {c : UInt16} {rest : Str} (h : m.Stands (c :: rest)) : c ∈ specials := by
  rcases h.2 with ⟨after, hafter⟩
  have hhead : m.opening.head? = some c := by
    have hall : (m.opening ++ (m.inner ++ m.closing) ++ after).head? = some c := by
      rw [show m.opening ++ (m.inner ++ m.closing) = m.source from rfl, hafter]
      rfl
    rwa [List.append_assoc, List.head?_append_of_ne_nil _ m.opening_ne_nil] at hall
  cases m <;> (cases hhead; decide)

lemma indexOf_le {rest s : Str} {i : ℕ} (hi : i ≤ rest.length) (hs : s <+: rest.drop i) :
    ∃ j, indexOf rest s = some j ∧ j ≤ i := by
  cases hfound : indexOf rest s with
  | none =>
      have hno := List.find?_eq_none.mp hfound i (List.mem_range.mpr (Nat.lt_succ_of_le hi))
      exact absurd (List.isPrefixOf_iff_prefix.mpr hs) hno
  | some j =>
      refine ⟨j, rfl, ?_⟩
      by_contra hlt
      rw [indexOf, List.find?_range_eq_some] at hfound
      have hno := hfound.2.2 i (Nat.lt_of_not_le hlt)
      simp [List.isPrefixOf_iff_prefix.mpr hs] at hno

lemma foldl_min_le {i : ℕ} {others : List ℕ} {j : ℕ} (hj : j ∈ i :: others) :
    others.foldl (fun a b => if a < b then a else b) i ≤ j := by
  induction others generalizing i j with
  | nil => rw [List.mem_singleton.mp hj]; exact le_rfl
  | cons k others ih =>
      have hfirst := ih (i := if i < k then i else k) List.mem_cons_self
      rw [List.foldl_cons]
      rcases List.mem_cons.mp hj with rfl | hj
      · split_ifs at hfirst ⊢ <;> omega
      · rcases List.mem_cons.mp hj with rfl | hj
        · split_ifs at hfirst ⊢ <;> omega
        · exact ih (List.mem_cons_of_mem _ hj)

lemma nextSpecialIndex_le {rest : Str} {s : Str} {j : ℕ} (hj : indexOf rest s = some j)
    (hs : s ∈ [ascii "**", ascii "*", ascii "_", ascii "`", ascii "["]) : nextSpecialIndex rest ≤ j := by
  have hmem : j ∈ [ascii "**", ascii "*", ascii "_", ascii "`", ascii "["].filterMap (indexOf rest) :=
    List.mem_filterMap.mpr ⟨s, hs, hj⟩
  rw [nextSpecialIndex]
  split
  · rename_i hnil
    rw [hnil] at hmem
    cases hmem
  · rename_i i others hcons
    rw [hcons] at hmem
    exact foldl_min_le hmem

/-- No markup starts before the index. -/
lemma not_special_of_lt {rest : Str} {c : UInt16} (hc : c ∈ rest.take (nextSpecialIndex rest)) : c ∉ specials := by
  intro hspecial
  rcases List.mem_iff_getElem.mp hc with ⟨i, hi, rfl⟩
  rw [List.length_take] at hi
  rw [List.getElem_take] at hspecial
  have hdrop : [rest[i]] <+: rest.drop i := by
    rw [List.drop_eq_getElem_cons (by omega)]
    exact ⟨_, rfl⟩
  rcases indexOf_le (by omega) hdrop with ⟨j, hj, hle⟩
  have hmem : [rest[i]] ∈ [ascii "**", ascii "*", ascii "_", ascii "`", ascii "["] := by
    have hall : specials.all fun c => [ascii "**", ascii "*", ascii "_", ascii "`", ascii "["].contains [c] := by
      decide
    exact List.contains_iff_mem.mp (List.all_eq_true.mp hall _ hspecial)
  have hnext := nextSpecialIndex_le hj hmem
  omega

lemma Reads.literals {run rest : Str} {pieces : List Piece} (hrun : ∀ c ∈ run, c ∉ specials)
    (h : Reads rest pieces) : Reads (run ++ rest) (run.map .literal ++ pieces) := by
  induction run with
  | nil => exact h
  | cons c run ih =>
      refine .literal (fun m hm => hrun c List.mem_cons_self (head_of_stands hm)) (ih fun c' hc' => ?_)
      exact hrun c' (List.mem_cons_of_mem _ hc')

/-- The loop over the segments in `buildFromComposer`, from an offset on. -/
def entitiesFrom : ℕ → List Segment → List TextEntity
  | _, [] => []
  | offset, segment :: segments =>
      (segment.entities.map fun entity =>
        { offset := entity.offset + offset, length := entity.length, kind := entity.kind, url := entity.url }) ++
        entitiesFrom (offset + segment.plain.length) segments

/-- The entities of the markup, each of which covers the inner text. -/
def markupEntities : ℕ → List Piece → List TextEntity
  | _, [] => []
  | offset, .literal _ :: pieces => markupEntities (offset + 1) pieces
  | offset, .markup m :: pieces => m.entity offset :: markupEntities (offset + m.inner.length) pieces

lemma markupEntities_literals (offset : ℕ) (run : Str) (pieces : List Piece) :
    markupEntities offset (run.map Piece.literal ++ pieces) = markupEntities (offset + run.length) pieces := by
  induction run generalizing offset with
  | nil => rfl
  | cons c run ih =>
      rw [List.map_cons, List.cons_append, markupEntities, ih, List.length_cons]
      congr 1
      omega

lemma excerpt_literals (run : Str) (pieces : List Piece) :
    excerpt ((run.map Piece.literal ++ pieces).map Piece.fragment) = run ++ excerpt (pieces.map Piece.fragment) := by
  induction run with
  | nil => rfl
  | cons c run ih =>
      rw [List.map_cons, List.cons_append, List.map_cons, excerpt_cons, ih]
      rfl

/-- The segments are what is kept of the pieces, and have the entities of the markup. -/
structure Renders (segments : List Segment) (pieces : List Piece) : Prop where
  plain : segments.flatMap (·.plain) = excerpt (pieces.map Piece.fragment)
  entities : ∀ offset, entitiesFrom offset segments = markupEntities offset pieces

lemma renders_literals {segments : List Segment} {pieces : List Piece} (run : Str) (h : Renders segments pieces) :
    Renders ({ plain := run } :: segments) (run.map Piece.literal ++ pieces) where
  plain := by rw [List.flatMap_cons, h.plain, excerpt_literals]
  entities offset := by rw [entitiesFrom, h.entities, markupEntities_literals]; rfl

lemma renders_markup {segments : List Segment} {pieces : List Piece} (m : Markup) (h : Renders segments pieces) :
    Renders ({ plain := m.inner, entities := [m.entity 0] } :: segments) (.markup m :: pieces) where
  plain := by
    rw [List.flatMap_cons, h.plain]
    rfl
  entities offset := by
    rw [entitiesFrom, h.entities, markupEntities, List.map_singleton, List.singleton_append]
    congr 1
    rw [Markup.entity, Nat.zero_add]
    rfl

/-- **The segments are those of the reading.** -/
theorem parseInlineMarkdown_reads (text : Str) :
    ∃ pieces, Reads text pieces ∧ Renders (parseInlineMarkdown text) pieces := by
  induction text using parseInlineMarkdown.induct with
  | case1 =>
      refine ⟨[], .done, ?_⟩
      rw [parseInlineMarkdown, dif_pos rfl]
      exact ⟨rfl, fun _ => rfl⟩
  | case2 rest hrest found hfound ih =>
      rcases firstMatch_some hfound with ⟨m, rfl, hfirst⟩
      rcases hfirst.1.2 with ⟨after, hafter⟩
      rcases ih with ⟨pieces, hreads, hrenders⟩
      have hdrop : rest.drop m.toMatch.fullLength = after := by
        rw [← hafter]
        exact List.drop_left
      rw [hdrop] at hreads hrenders
      refine ⟨.markup m :: pieces, .markup hfirst hafter.symm hreads, ?_⟩
      rw [parseInlineMarkdown_some hrest hfound, hdrop]
      exact renders_markup m hrenders
  | case3 rest hrest hnone next hnext ih =>
      rcases ih with ⟨pieces, hreads, hrenders⟩
      rcases List.exists_cons_of_ne_nil hrest with ⟨c, others, rfl⟩
      refine ⟨.literal c :: pieces, .literal (firstMatch_none hnone) hreads, ?_⟩
      rw [parseInlineMarkdown_none hrest hnone, if_pos hnext]
      exact renders_literals [c] hrenders
  | case4 rest hrest hnone next hnext hle =>
      have hrun : ∀ c ∈ rest, c ∉ specials := by
        intro c hc
        rw [← List.take_of_length_le hle] at hc
        exact not_special_of_lt hc
      have hreads := Reads.literals hrun .done
      have hempty : Renders [] [] := ⟨rfl, fun _ => rfl⟩
      have hrenders := renders_literals rest hempty
      rw [List.append_nil] at hreads
      refine ⟨_, hreads, ?_⟩
      rw [parseInlineMarkdown_none hrest hnone, if_neg hnext, if_pos hle]
      exact hrenders
  | case5 rest hrest hnone next hnext hle ih =>
      rcases ih with ⟨pieces, hreads, hrenders⟩
      have hrun : ∀ c ∈ rest.take next, c ∉ specials := fun _ hc => not_special_of_lt hc
      have hreads := hreads.literals hrun
      rw [List.take_append_drop] at hreads
      refine ⟨_, hreads, ?_⟩
      rw [parseInlineMarkdown_none hrest hnone, if_neg hnext, if_neg hle]
      exact renders_literals _ hrenders

end FormattedTextBuilder

end RioGram.Chats
