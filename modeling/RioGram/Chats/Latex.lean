import RioGram.Chats.InlineMarkdown
import RioGram.Core.Keyed

/-!
# LaTeX in messages

`LatexParser.parse` looks for formulas with four regular expressions, takes the matches from the left that do not
overlap, and makes segments of them and of what is between them.

`LatexCut` says without the expressions what it is to cut a text at formulas.

* `parse_partitions` — the segments are those of such a cut; the empty text is one empty segment
  (`empty_text_is_a_segment`).
-/

namespace RioGram.Chats

open FormattedTextBuilder Js Keyed Patterns Pattern

inductive LatexSegment where
  | text (text : Str)
  | formula (expression : Str) (isBlock : Bool)
deriving DecidableEq

structure LatexMatch where
  start : ℕ
  stop : ℕ
  expression : Str
  isBlock : Bool

namespace LatexParser

/-- `(?<!\$)\$(?!\$)`: on both sides of a dollar there is a boundary where no other dollar follows. -/
def singleDollar : Pattern UInt16 := seq (boundary (· == 36)) (seq (literal (ascii "$")) (boundary (· == 36)))

/-- `(?<!\$)\$(?!\$)(.+?)(?<!\$)\$(?!\$)` -/
def inlineDollar : Pattern UInt16 := seq singleDollar (seq (group (many isDot 1 false)) singleDollar)

/-- `\$\$(.+?)\$\$`, where a dot matches everything. -/
def blockDollar : Pattern UInt16 := enclosed (ascii "$$") (many (fun _ => true) 1 false) (ascii "$$")

/-- `\\\((.+?)\\\)` -/
def inlineParen : Pattern UInt16 := enclosed (ascii "\\(") (many isDot 1 false) (ascii "\\)")

/-- `\\\[(.+?)\\\]`, where a dot matches everything. -/
def blockBracket : Pattern UInt16 := enclosed (ascii "\\[") (many (fun _ => true) 1 false) (ascii "\\]")

/-- The expressions, with whether they are for blocks. -/
def patterns : List (Pattern UInt16 × Bool) :=
  [(blockDollar, true), (blockBracket, true), (inlineDollar, false), (inlineParen, false)]

def matchesOf (text : Str) (pattern : Pattern UInt16) (isBlock : Bool) : List LatexMatch :=
  (pattern.allMatches text).map fun found =>
    { start := found.1, stop := found.1 + found.2.taken.length, expression := found.2.groups[0]?.getD [], isBlock }

def allMatches (text : Str) : List LatexMatch :=
  patterns.flatMap fun pattern => matchesOf text pattern.1 pattern.2

/-- The matches that do not begin before the end of the last one that is taken. -/
def filtered : ℤ → List LatexMatch → List LatexMatch
  | _, [] => []
  | cursor, found :: others =>
      if found.start < cursor then filtered cursor others else found :: filtered found.stop others

/-- The segments from `index` on. -/
def segments (text : Str) : ℕ → List LatexMatch → List LatexSegment
  | index, [] => if index < text.length then [.text (text.drop index)] else []
  | index, found :: others =>
      (if index < found.start then [.text ((text.take found.start).drop index)] else []) ++
        .formula (trimDart found.expression) found.isBlock :: segments text found.stop others

def parse (sort : Sorting LatexMatch.start) (text : Str) : List LatexSegment :=
  if text = [] then [.text []]
  else if allMatches text = [] then [.text text]
  else segments text 0 (filtered (-1) (sort.run (allMatches text)))

def containsLatex (text : Str) : Bool :=
  blockDollar.hasMatch text || blockBracket.hasMatch text || inlineDollar.hasMatch text || inlineParen.hasMatch text

end LatexParser

/-! ## Texts cut at formulas -/

inductive LatexDelimiter where
  | dollar | dollars | paren | bracket
deriving DecidableEq

namespace LatexDelimiter

def opening : LatexDelimiter → Str
  | dollar => ascii "$"
  | dollars => ascii "$$"
  | paren => ascii "\\("
  | bracket => ascii "\\["

def closing : LatexDelimiter → Str
  | dollar => ascii "$"
  | dollars => ascii "$$"
  | paren => ascii "\\)"
  | bracket => ascii "\\]"

def isBlock : LatexDelimiter → Bool
  | dollar | paren => false
  | dollars | bracket => true

end LatexDelimiter

/-- A formula between its delimiters. -/
structure LatexFormula where
  delimiter : LatexDelimiter
  inner : Str

namespace LatexFormula

def source (f : LatexFormula) : Str := f.delimiter.opening ++ (f.inner ++ f.delimiter.closing)

def segment (f : LatexFormula) : LatexSegment := .formula (trimDart f.inner) f.delimiter.isBlock

end LatexFormula

/-- Formulas with what is before each of them, and what is after the last one. -/
structure LatexCut where
  formulas : List (Str × LatexFormula) := []
  last : Str

/-- A segment, if there is something in it. -/
def pieceSegments (piece : Str) : List LatexSegment := if piece = [] then [] else [.text piece]

namespace LatexCut

def text (cut : LatexCut) : Str := (cut.formulas.flatMap fun part => part.1 ++ part.2.source) ++ cut.last

def segments (cut : LatexCut) : List LatexSegment :=
  (cut.formulas.flatMap fun part => pieceSegments part.1 ++ [part.2.segment]) ++ pieceSegments cut.last

/-- Where the formulas begin and end, in a text that begins at `offset`. -/
def rangesFrom : ℕ → List (Str × LatexFormula) → List (ℕ × ℕ)
  | _, [] => []
  | offset, part :: parts =>
      (offset + part.1.length, offset + part.1.length + part.2.source.length) ::
        rangesFrom (offset + part.1.length + part.2.source.length) parts

def ranges (cut : LatexCut) : List (ℕ × ℕ) := rangesFrom 0 cut.formulas

end LatexCut

variable {text : Str} {cut : LatexCut}

namespace LatexFormula

lemma source_ne_nil (f : LatexFormula) : f.source ≠ [] := by
  refine List.append_ne_nil_of_left_ne_nil ?_ _
  cases f.delimiter <;> decide

end LatexFormula

lemma pieceSegments_drop (index : ℕ) (piece : Str) :
    pieceSegments (piece.drop index) = if index < piece.length then [.text (piece.drop index)] else [] := by
  rw [pieceSegments]
  simp only [List.drop_eq_nil_iff]
  split_ifs with hnone hsome
  · omega
  · rfl
  · rfl
  · omega

namespace LatexCut

/-- A formula in front, after a piece of text. -/
def cons (piece : Str) (f : LatexFormula) (cut : LatexCut) : LatexCut :=
  { cut with formulas := (piece, f) :: cut.formulas }

lemma text_cons (piece : Str) (f : LatexFormula) (cut : LatexCut) :
    (cut.cons piece f).text = piece ++ (f.source ++ cut.text) := by
  simp [text, cons]

lemma segments_cons (piece : Str) (f : LatexFormula) (cut : LatexCut) :
    (cut.cons piece f).segments = pieceSegments piece ++ f.segment :: cut.segments := by
  simp [segments, cons]

/-- Ranges begin where the text does or later. -/
lemma le_of_mem_rangesFrom {offset : ℕ} {parts : List (Str × LatexFormula)} {range : ℕ × ℕ}
    (h : range ∈ rangesFrom offset parts) : offset ≤ range.1 := by
  induction parts generalizing offset with
  | nil => cases h
  | cons part parts ih =>
      rcases List.mem_cons.mp h with rfl | h
      · exact Nat.le_add_right _ _
      · have hlater := ih h
        omega

/-- **The ranges are disjoint and increasing.** -/
lemma rangesFrom_increasing (offset : ℕ) (parts : List (Str × LatexFormula)) :
    (rangesFrom offset parts).Pairwise fun range range' => range.2 ≤ range'.1 := by
  induction parts generalizing offset with
  | nil => exact .nil
  | cons part parts ih => exact .cons (fun range h => le_of_mem_rangesFrom h) (ih _)

/-- **The ranges are those of the formulas.** -/
lemma slices_rangesFrom (before last : Str) (parts : List (Str × LatexFormula)) :
    (rangesFrom before.length parts).map (fun range =>
      ((before ++ ((parts.flatMap fun part => part.1 ++ part.2.source) ++ last)).take range.2).drop range.1) =
      parts.map (·.2.source) := by
  induction parts generalizing before with
  | nil => rfl
  | cons part parts ih =>
      have hlength : before.length + part.1.length + part.2.source.length =
          (before ++ (part.1 ++ part.2.source)).length := by simp [Nat.add_assoc]
      have hnext := ih (before ++ (part.1 ++ part.2.source))
      simp only [rangesFrom, List.map_cons, List.flatMap_cons]
      rw [hlength]
      simp only [List.append_assoc] at hnext ⊢
      rw [hnext]
      congr 1
      have hsplit (rest : Str) : before ++ (part.1 ++ (part.2.source ++ rest)) =
          (before ++ (part.1 ++ part.2.source)) ++ rest := by simp
      rw [hsplit, List.take_left, ← List.append_assoc, ← List.length_append, List.drop_left]

end LatexCut

/-! ## What is matched -/

namespace LatexParser

/-- A match is a formula of the text, with its place. -/
def Stands (text : Str) (found : LatexMatch) : Prop :=
  ∃ (before rest : Str) (f : LatexFormula), text = before ++ (f.source ++ rest) ∧ found.start = before.length ∧
    found.stop = found.start + f.source.length ∧ found.expression = f.inner ∧ found.isBlock = f.delimiter.isBlock

lemma Stands.ne_nil {found : LatexMatch} (h : Stands text found) : text ≠ [] := by
  rcases h with ⟨before, rest, f, rfl, -⟩
  simp [f.source_ne_nil]

/-- Where all ways of a pattern are formulas of a kind, so are its matches. -/
lemma stands_of_ways {pattern : Pattern UInt16} (delimiter : LatexDelimiter)
    (h : ∀ prev (t : Str) (w : Way UInt16), w ∈ pattern.ways prev t →
      ∃ inner, w.taken = (LatexFormula.mk delimiter inner).source ∧ w.groups = [inner]) :
    ∀ found ∈ matchesOf text pattern delimiter.isBlock, Stands text found := by
  intro found hfound
  rcases List.mem_map.mp hfound with ⟨⟨start, w⟩, hmem, rfl⟩
  rcases mem_allMatches hmem with ⟨before, htext, rfl, hw⟩
  rcases h _ _ w (List.mem_of_mem_head? hw) with ⟨inner, htaken, hgroups⟩
  refine ⟨before, w.rest, ⟨delimiter, inner⟩, ?_, rfl, ?_, ?_, rfl⟩
  · rw [← htaken]
    exact htext
  · rw [← htaken]
  · rw [hgroups]
    rfl

/-- What is taken between two texts. -/
lemma exists_of_mem_enclosed {opening closing : Str} {isUnit : UInt16 → Bool} {prev : Option UInt16} {t : Str}
    {w : Way UInt16} (h : w ∈ (enclosed opening (many isUnit 1 false) closing).ways prev t) :
    ∃ inner, w.taken = opening ++ (inner ++ closing) ∧ w.groups = [inner] := by
  rcases matches_enclosed.mp (mem_ways_iff.mp h).2 with ⟨inner, groups, htaken, hgroups, -, rfl⟩
  exact ⟨inner, htaken, hgroups⟩

lemma matches_singleDollar {prev : Option UInt16} {taken rest : Str} {groups : List Str}
    (h : singleDollar.Matches prev taken groups rest) : taken = ascii "$" ∧ groups = [] := by
  rcases h with ⟨_, _, _, _, rfl, rfl, ⟨rfl, rfl, -⟩, _, _, _, _, rfl, rfl, hdollar, rfl, rfl, -⟩
  rcases matches_literal.mp hdollar with ⟨rfl, rfl⟩
  exact ⟨rfl, rfl⟩

lemma exists_of_mem_inlineDollar {prev : Option UInt16} {t : Str} {w : Way UInt16} (h : w ∈ inlineDollar.ways prev t) :
    ∃ inner, w.taken = ascii "$" ++ (inner ++ ascii "$") ∧ w.groups = [inner] := by
  rcases (mem_ways_iff.mp h).2 with ⟨_, _, _, _, htaken, hgroups, hfirst, inner, _, _, _, rfl, rfl, hinner, hlast⟩
  rcases matches_singleDollar hfirst with ⟨rfl, rfl⟩
  rcases matches_singleDollar hlast with ⟨rfl, rfl⟩
  rcases hinner with ⟨_, rfl, -, rfl⟩
  exact ⟨inner, htaken, hgroups⟩

/-- **Every match is a formula of the text.** -/
lemma stands_of_mem : ∀ found ∈ allMatches text, Stands text found := by
  intro found hfound
  rcases List.mem_flatMap.mp hfound with ⟨pattern, hpattern, hmem⟩
  simp only [patterns, List.mem_cons, List.not_mem_nil, or_false] at hpattern
  rcases hpattern with rfl | rfl | rfl | rfl
  · exact stands_of_ways .dollars (fun _ _ _ hw => exists_of_mem_enclosed hw) found hmem
  · exact stands_of_ways .bracket (fun _ _ _ hw => exists_of_mem_enclosed hw) found hmem
  · exact stands_of_ways .dollar (fun _ _ _ hw => exists_of_mem_inlineDollar hw) found hmem
  · exact stands_of_ways .paren (fun _ _ _ hw => exists_of_mem_enclosed hw) found hmem

lemma containsLatex_eq_false_iff : containsLatex text = false ↔ allMatches text = [] := by
  simp [containsLatex, hasMatch, allMatches, patterns, matchesOf, and_assoc]

/-! ## What is taken of it -/

/-- The first match is taken. -/
lemma filtered_eq_nil_iff {others : List LatexMatch} : filtered (-1) others = [] ↔ others = [] := by
  cases others with
  | nil => rfl
  | cons first others =>
      have hfirst : ¬(first.start : ℤ) < -1 := by omega
      rw [filtered, if_neg hfirst]
      exact iff_of_false (List.cons_ne_nil _ _) (List.cons_ne_nil _ _)

/-- **What is taken cuts the text**, from where the last one ended. -/
lemma exists_cut {others : List LatexMatch} (index : ℕ) (cursor : ℤ) (hcursor : (index : ℤ) ≤ cursor ∨ index = 0)
    (hindex : index ≤ text.length) (h : ∀ found ∈ others, Stands text found) :
    ∃ cut : LatexCut, cut.text = text.drop index ∧ segments text index (filtered cursor others) = cut.segments := by
  induction others generalizing index cursor with
  | nil =>
      refine ⟨{ last := text.drop index }, rfl, ?_⟩
      exact (pieceSegments_drop index text).symm
  | cons found others ih =>
      rw [List.forall_mem_cons] at h
      rw [filtered]
      split_ifs with hskip
      · exact ih index cursor hcursor hindex h.2
      · rcases h.1 with ⟨before, rest, f, htext, hstart, hstop, hexpression, hblock⟩
        have hle : index ≤ found.start := by omega
        have hfits : found.stop ≤ text.length := by
          rw [hstop, hstart, htext]
          simp
        rcases ih found.stop found.stop (.inl le_rfl) hfits h.2 with ⟨cut, hcut, hsegments⟩
        have hdrop : text.drop found.start = f.source ++ text.drop found.stop := by
          rw [hstop, ← List.drop_drop, hstart, htext, List.drop_left, List.drop_left]
        have hlength : (text.take found.start).length = found.start := by
          rw [List.length_take]
          omega
        refine ⟨cut.cons ((text.take found.start).drop index) f, ?_, ?_⟩
        · rw [LatexCut.text_cons, hcut, ← hdrop, ← List.drop_append_of_le_length (hlength.symm ▸ hle),
            List.take_append_drop]
        · rw [segments, LatexCut.segments_cons, hsegments, pieceSegments_drop, hlength, LatexFormula.segment,
            hexpression, hblock]

lemma formula_mem_segments_iff :
    (∃ expression isBlock, .formula expression isBlock ∈ cut.segments) ↔ cut.formulas ≠ [] := by
  constructor
  · rintro ⟨expression, isBlock, hmem⟩ hnone
    rw [LatexCut.segments, hnone, List.flatMap_nil, List.nil_append, pieceSegments] at hmem
    split_ifs at hmem <;> simp at hmem
  · intro hne
    rcases List.exists_cons_of_ne_nil hne with ⟨part, parts, hparts⟩
    refine ⟨trimDart part.2.inner, part.2.delimiter.isBlock, ?_⟩
    rw [LatexCut.segments, hparts]
    simp [LatexFormula.segment]

/-- **A text that is not empty is cut**, at formulas if anything is matched. -/
lemma exists_parse_eq (sort : Sorting LatexMatch.start) (h : text ≠ []) :
    ∃ cut : LatexCut, cut.text = text ∧ parse sort text = cut.segments ∧
      (cut.formulas ≠ [] ↔ allMatches text ≠ []) := by
  rw [parse, if_neg h]
  by_cases hnone : allMatches text = []
  · refine ⟨{ last := text }, rfl, ?_, by simp [hnone]⟩
    rw [if_pos hnone]
    simp [LatexCut.segments, pieceSegments, h]
  · have hstands : ∀ found ∈ sort.run (allMatches text), Stands text found :=
      fun found hfound => stands_of_mem found ((sort.perm _).mem_iff.mp hfound)
    rcases exists_cut 0 (-1) (.inr rfl) (Nat.zero_le text.length) hstands with ⟨cut, hcut, hsegments⟩
    rw [if_neg hnone]
    refine ⟨cut, hcut, hsegments, iff_of_true ?_ hnone⟩
    rw [← formula_mem_segments_iff, ← hsegments]
    have hsorted : filtered (-1) (sort.run (allMatches text)) ≠ [] := by
      intro hnil
      have hperm := sort.perm (allMatches text)
      rw [filtered_eq_nil_iff.mp hnil] at hperm
      exact hnone hperm.nil_eq.symm
    rcases List.exists_cons_of_ne_nil hsorted with ⟨found, others, hfiltered⟩
    rw [hfiltered, segments]
    exact ⟨_, _, List.mem_append_right _ List.mem_cons_self⟩

end LatexParser

open LatexParser

/-- **The segments partition the text**, which is cut at formulas between delimiters: what is in between is kept as
it is, and the formulas are trimmed.  There are formulas exactly if `containsLatex` says so.  Only the empty text is
a segment without anything in it. -/
theorem parse_partitions (sort : Sorting LatexMatch.start) (text : Str) :
    (text ≠ [] → ∃ cut : LatexCut, cut.text = text ∧ parse sort text = cut.segments ∧
      (cut.ranges.Pairwise fun range range' => range.2 ≤ range'.1) ∧
      cut.ranges.map (fun range => (text.take range.2).drop range.1) = cut.formulas.map (·.2.source)) ∧
    (text = [] → parse sort text = [.text []]) ∧
    ((∃ expression isBlock, .formula expression isBlock ∈ parse sort text) ↔ containsLatex text) := by
  by_cases hempty : text = []
  · have hnone : ∀ found, found ∉ allMatches text := fun found hfound => (stands_of_mem found hfound).ne_nil hempty
    have hcontains := containsLatex_eq_false_iff.mpr (List.eq_nil_iff_forall_not_mem.mpr hnone)
    have hparse : parse sort text = [.text []] := if_pos hempty
    refine ⟨fun hne => absurd hempty hne, fun _ => hparse, ?_⟩
    rw [hparse, hcontains]
    simp
  · rcases exists_parse_eq sort hempty with ⟨cut, hcut, hparse, hsome⟩
    refine ⟨fun _ => ⟨cut, hcut, hparse, LatexCut.rangesFrom_increasing 0 _, ?_⟩, fun hnil => absurd hnil hempty, ?_⟩
    · rw [← hcut]
      exact LatexCut.slices_rangesFrom [] cut.last cut.formulas
    · rw [hparse, formula_mem_segments_iff, hsome]
      cases hcontains : containsLatex text with
      | false => simp [containsLatex_eq_false_iff.mp hcontains]
      | true =>
          refine iff_of_true (fun hnil => ?_) rfl
          rw [containsLatex_eq_false_iff.mpr hnil] at hcontains
          cases hcontains

/-- `$a$ b` is a formula and a text. -/
theorem parse_partitions_sum :
    ∃ cut : LatexCut, cut.text = ascii "$a$ b" ∧ parse (.insertion _) (ascii "$a$ b") = cut.segments := by
  rcases (parse_partitions (.insertion _) (ascii "$a$ b")).1 (by decide) with ⟨cut, hcut, hparse, -⟩
  exact ⟨cut, hcut, hparse⟩

/-- **The empty text is a segment**, though there is nothing in it. -/
theorem empty_text_is_a_segment :
    parse (.insertion _) [] = [.text []] ∧
      ¬∃ cut : LatexCut, cut.text = [] ∧ parse (.insertion _) [] = cut.segments := by
  refine ⟨rfl, ?_⟩
  rintro ⟨cut, -, hparse⟩
  have hmem : .text [] ∈ cut.segments := hparse ▸ List.mem_singleton_self _
  have hpiece (piece : Str) : .text [] ∉ pieceSegments piece := by
    rw [pieceSegments]
    split_ifs with hempty
    · exact List.not_mem_nil
    · simp [Ne.symm hempty]
  rcases List.mem_append.mp hmem with hmem | hmem
  · rcases List.mem_flatMap.mp hmem with ⟨part, -, hmem⟩
    rcases List.mem_append.mp hmem with hmem | hmem
    · exact hpiece part.1 hmem
    · simp [LatexFormula.segment] at hmem
  · exact hpiece cut.last hmem

end RioGram.Chats
