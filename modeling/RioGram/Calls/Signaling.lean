import RioGram.Core.Quoted
import RioGram.Js.Strings

/-!
# Signaling messages of the media engine

What the engine writes for the other side of a call, and what it reads, by looking for texts in messages.  JSON is
written as `jsonEncode` of Dart does.

* `extractCandidate_encode_iff` — the candidates that are read as they were written.
* `readSignal_answer_iff` — the answers that are read as they were written.
* `readSignal_jsonEncode_iff` — the descriptions in JSON that are read as they were.
-/

namespace RioGram.Calls

open Js Quoted

/-- An ICE candidate of WebRTC. -/
structure RTCIceCandidate where
  candidate : Option Str
  sdpMid : Option Str
  sdpMLineIndex : Option ℤ
deriving DecidableEq

namespace WebRtcMediaEngine

/-! ## Writing -/

/-- `'${…}'` of what may be null. -/
def interpolate (s : Option Str) : Str := s.getD (ascii "null")

def encodeIceCandidate (candidate : RTCIceCandidate) : Str :=
  ascii "\x7b\"type\":\"candidate\",\"candidate\":\"" ++ (interpolate candidate.candidate ++
    (ascii "\",\"sdpMid\":\"" ++ (interpolate candidate.sdpMid ++
      (ascii "\",\"sdpMLineIndex\":" ++
        (interpolate (candidate.sdpMLineIndex.map intToString) ++ ascii "\x7d")))))

/-- What is sent of an answer: the text of its session description. -/
def encodeAnswer (sdp : Option Str) : Str := sdp.getD []

/-! ## Reading -/

def quote : UInt16 := 34

/-- `message.contains(…)`. -/
def containsText (message text : Str) : Bool := (indexOf message text).isSome

/-- `replaceAll(r'\n', '\n')`. -/
def unescapeLineFeeds : Str → Str
  | [] => []
  | [c] => [c]
  | c :: d :: s => if c = 92 ∧ d = 110 then 10 :: unescapeLineFeeds s else c :: unescapeLineFeeds (d :: s)

def extractSdp (message : Str) : Str :=
  match indexOf message (ascii "\"sdp\":\"") with
  | none => message
  | some start =>
      match indexOfFrom message [quote] (start + 7) with
      | none => message.drop (start + 7)
      | some stop => unescapeLineFeeds (substring message (start + 7) stop)

def extractJsonString (message key : Str) : Option Str :=
  let token := ascii "\"" ++ (key ++ ascii "\":\"")
  match indexOf message token with
  | none => none
  | some start =>
      (indexOfFrom message [quote] (start + token.length)).map fun stop => substring message (start + token.length) stop

def extractCandidate (message : Str) : Option RTCIceCandidate :=
  match indexOf message (ascii "\"candidate\":\"") with
  | none => none
  | some candidateStart =>
      let candidate :=
        match indexOfFrom message [quote] (candidateStart + 13) with
        | none => message.drop (candidateStart + 13)
        | some stop => substring message (candidateStart + 13) stop
      let sdpMid := (extractJsonString message (ascii "sdpMid")).getD []
      let sdpMLineIndex :=
        (tryParseInt ((extractJsonString message (ascii "sdpMLineIndex")).getD (ascii "0"))).getD 0
      some { candidate := some candidate, sdpMid := some sdpMid, sdpMLineIndex := some sdpMLineIndex }

/-- What a message is for the engine.  Of a candidate without its text nothing is read. -/
inductive Signal where
  | offer (sdp : Str)
  | answer (sdp : Str)
  | candidate (candidate : Option RTCIceCandidate)
  | binary
deriving DecidableEq

/-- The cases of `handleSignalingData` and `_handleSdpMessage`. -/
def readSignal (message : Str) : Signal :=
  if !(ascii "\x7b").isPrefixOf message then .binary
  else if containsText message (ascii "\"type\":\"offer\"") then .offer (extractSdp message)
  else if containsText message (ascii "\"type\":\"answer\"") then .answer (extractSdp message)
  else if containsText message (ascii "\"type\":\"candidate\"") then .candidate (extractCandidate message)
  else .binary

/-! ## Descriptions in JSON -/

def unicodeEscape (c : UInt16) : Str :=
  ascii "\\u" ++ [hexDigit (c.toNat / 4096), hexDigit (c.toNat / 256 % 16), hexDigit (c.toNat / 16 % 16),
    hexDigit (c.toNat % 16)]

/-- A unit of a JSON string between two others: a surrogate without the other half is escaped. -/
def jsonEscapeUnit (prev : Option UInt16) (c : UInt16) (next : Option UInt16) : Str :=
  if c = 34 then ascii "\\\""
  else if c = 92 then ascii "\\\\"
  else if c = 8 then ascii "\\b"
  else if c = 9 then ascii "\\t"
  else if c = 10 then ascii "\\n"
  else if c = 12 then ascii "\\f"
  else if c = 13 then ascii "\\r"
  else if c < 32 then unicodeEscape c
  else if isHighSurrogate c && !next.any isLowSurrogate || isLowSurrogate c && !prev.any isHighSurrogate then
    unicodeEscape c
  else [c]

def jsonEscape (prev : Option UInt16) : Str → Str
  | [] => []
  | c :: s => jsonEscapeUnit prev c s.head? ++ jsonEscape (some c) s

inductive SdpType where
  | offer | answer
deriving DecidableEq

def SdpType.name : SdpType → Str
  | offer => ascii "offer"
  | answer => ascii "answer"

/-- `jsonEncode` of a description with its type and its text. -/
def jsonEncode (type : SdpType) (sdp : Str) : Str :=
  ascii "\x7b\"type\":\"" ++ (type.name ++ (ascii "\",\"sdp\":\"" ++ (jsonEscape none sdp ++ ascii "\"\x7d")))

def SdpType.signal : SdpType → Str → Signal
  | offer => .offer
  | answer => .answer

/-! ## Candidates -/

lemma quote_notMem_intToString (i : ℤ) : quote ∉ intToString i := by
  intro hmem
  rcases List.mem_append.mp hmem with hsign | hdigits
  · split_ifs at hsign
    · exact absurd hsign (by decide)
    · exact List.not_mem_nil hsign
  · rcases List.mem_map.mp hdigits with ⟨d, hd, hquote⟩
    have hdigit := Nat.isDigit_of_mem_toDigits (by decide) (by decide) hd
    simp only [Char.isDigit, Bool.and_eq_true, decide_eq_true_eq, UInt32.le_iff_toNat_le] at hdigit
    have hlow : 48 ≤ d.toNat := hdigit.1
    have hhigh : d.toNat ≤ 57 := hdigit.2
    have hnat : d.toNat % 2 ^ 16 = 34 := (UInt16.toNat_ofNat' (n := d.toNat)).symm.trans (congrArg UInt16.toNat hquote)
    omega

lemma quote_notMem_interpolate {s : Option Str} (h : ∀ t, s = some t → quote ∉ t) : quote ∉ interpolate s := by
  rcases s with _ | t
  · decide
  · exact h t rfl

variable {c : RTCIceCandidate} {text : Str}

/-- The texts between the quotes up to the first one of `sdpMid`. -/
def toMid (text : Str) : List Str :=
  [ascii "type", ascii ":", ascii "candidate", ascii ",", ascii "candidate", ascii ":", text, ascii ",",
    ascii "sdpMid", ascii ":"]

lemma encode_toMid (h : c.candidate = some text) : ∃ after, encodeIceCandidate c =
    joined quote (ascii "\x7b" :: (toMid text ++ [[]])) ++ (interpolate c.sdpMid ++ quote :: after) := by
  refine ⟨ascii ",\"sdpMLineIndex\":" ++ (interpolate (c.sdpMLineIndex.map intToString) ++ ascii "\x7d"), ?_⟩
  rw [encodeIceCandidate, h]
  simp only [toMid, joined, List.cons_append, List.append_assoc, List.nil_append]
  rfl

lemma encode_text (h : c.candidate = some text) : ∃ after, encodeIceCandidate c =
    ascii "\x7b\"type\":\"candidate\",\"candidate\":\"" ++ (text ++ quote :: after) := by
  rw [encodeIceCandidate, h]
  exact ⟨_, rfl⟩

lemma encode_joined (h : c.candidate = some text) : encodeIceCandidate c =
    joined quote (ascii "\x7b" :: (toMid text ++ [interpolate c.sdpMid, ascii ",", ascii "sdpMLineIndex",
      ascii ":" ++ (interpolate (c.sdpMLineIndex.map intToString) ++ ascii "\x7d")])) := by
  rw [encodeIceCandidate, h]
  simp only [toMid, joined, List.cons_append, List.nil_append]
  rfl

/-- The text is read up to its first quote. -/
lemma extract_text (h : c.candidate = some text) : extractCandidate (encodeIceCandidate c) = some {
    candidate := some (unquoted quote text)
    sdpMid := some ((extractJsonString (encodeIceCandidate c) (ascii "sdpMid")).getD [])
    sdpMLineIndex := some ((tryParseInt
      ((extractJsonString (encodeIceCandidate c) (ascii "sdpMLineIndex")).getD (ascii "0"))).getD 0) } := by
  rcases encode_text h with ⟨after, hmessage⟩
  have hstart : indexOf (encodeIceCandidate c) (ascii "\"candidate\":\"") = some 20 := by
    rw [hmessage]
    exact indexOf_append_right (by decide)
  have hdrop : (encodeIceCandidate c).drop (20 + 13) = text ++ quote :: after := by
    rw [hmessage]
    exact List.drop_left' (by decide)
  rcases indexOfFrom_quote hdrop with ⟨stop, hstop, hsubstring⟩
  simp only [extractCandidate, hstart, hstop, hsubstring]

lemma quote_notMem_toMid (htext : quote ∉ text) : ∀ s ∈ toMid text, quote ∉ s := by
  intro s hs
  rcases List.mem_append.mp (show s ∈ (toMid []).take 6 ++ text :: (toMid []).drop 7 from hs) with hs | hs
  · exact (by decide : ∀ s ∈ (toMid []).take 6, quote ∉ s) s hs
  · rcases List.mem_cons.mp hs with rfl | hs
    · exact htext
    · exact (by decide : ∀ s ∈ (toMid []).drop 7, quote ∉ s) s hs

/-- After a text without quotes, `sdpMid` is read up to its first quote. -/
lemma extract_sdpMid (h : c.candidate = some text) (htext : quote ∉ text) :
    extractJsonString (encodeIceCandidate c) (ascii "sdpMid") = some (unquoted quote (interpolate c.sdpMid)) := by
  have hsegments : ∀ s ∈ toMid text ++ [[]], quote ∉ s :=
    List.forall_mem_append.mpr ⟨quote_notMem_toMid htext, by decide⟩
  have hparts : ∀ s ∈ [ascii "sdpMid", ascii ":"], quote ∉ s := by decide
  have hafter : findAfter [ascii "sdpMid", ascii ":"] (toMid text ++ [[]]) = some [[]] := by
    simp +decide [toMid, findAfter, List.cons_prefix_cons]
  rcases encode_toMid h with ⟨after, hmessage⟩
  rcases indexOf_joined_append hparts hsegments (by decide : quote ∉ ascii "\x7b") hafter
    (interpolate c.sdpMid ++ quote :: after) with ⟨start, hstart, hdrop⟩
  rw [← hmessage] at hstart hdrop
  rcases indexOfFrom_quote hdrop with ⟨stop, hstop, hsubstring⟩
  have htoken : ascii "\"" ++ (ascii "sdpMid" ++ ascii "\":\"") = inQuotes quote [ascii "sdpMid", ascii ":"] := by
    decide
  simp only [extractJsonString, htoken, hstart, hstop, hsubstring, Option.map_some]

/-- The index, which is written without quotes, is not found. -/
lemma extract_sdpMLineIndex (h : c.candidate = some text) (htext : quote ∉ text)
    (hmid : quote ∉ interpolate c.sdpMid) :
    extractJsonString (encodeIceCandidate c) (ascii "sdpMLineIndex") = none := by
  have hindex : quote ∉ ascii ":" ++ (interpolate (c.sdpMLineIndex.map intToString) ++ ascii "\x7d") := by
    rw [List.mem_append, List.mem_append, not_or, not_or]
    refine ⟨by decide, quote_notMem_interpolate fun t ht => ?_, by decide⟩
    rcases Option.map_eq_some_iff.mp ht with ⟨i, -, rfl⟩
    exact quote_notMem_intToString i
  generalize hlast : ascii ":" ++ (interpolate (c.sdpMLineIndex.map intToString) ++ ascii "\x7d") = last at hindex
  have hsegments : ∀ s ∈ toMid text ++ [interpolate c.sdpMid, ascii ",", ascii "sdpMLineIndex", last], quote ∉ s := by
    refine List.forall_mem_append.mpr ⟨quote_notMem_toMid htext, ?_⟩
    simp only [List.forall_mem_cons]
    exact ⟨hmid, by decide, by decide, hindex, by simp⟩
  have hparts : ∀ s ∈ [ascii "sdpMLineIndex", ascii ":"], quote ∉ s := by decide
  have hafter : findAfter [ascii "sdpMLineIndex", ascii ":"]
      (toMid text ++ [interpolate c.sdpMid, ascii ",", ascii "sdpMLineIndex", last]) = none := by
    simp +decide [toMid, findAfter, List.cons_prefix_cons]
  have hfound := indexOf_joined hparts hsegments (by decide : quote ∉ ascii "\x7b")
  rw [hafter] at hfound
  have htoken : ascii "\"" ++ (ascii "sdpMLineIndex" ++ ascii "\":\"") =
      inQuotes quote [ascii "sdpMLineIndex", ascii ":"] := by decide
  have hmessage := encode_joined h
  rw [hlast] at hmessage
  rw [← hmessage] at hfound
  simp only [extractJsonString, htoken, hfound]

/-- **A candidate is read as it was written** exactly when no text in it has a quote, and its index is 0: the index is
looked for in quotes, which it is not written in. -/
theorem extractCandidate_encode_iff (h : c.candidate = some text) :
    extractCandidate (encodeIceCandidate c) = some c ↔
      quote ∉ text ∧ (∃ mid, c.sdpMid = some mid ∧ quote ∉ mid) ∧ c.sdpMLineIndex = some 0 := by
  have hzero : tryParseInt (ascii "0") = some 0 := by decide
  rw [extract_text h, Option.some_inj]
  constructor
  · intro hread
    have htext : quote ∉ text := by
      have hcandidate := congrArg RTCIceCandidate.candidate hread
      rw [h, Option.some_inj] at hcandidate
      exact unquoted_eq_self_iff.mp hcandidate
    have hsdpMid := congrArg RTCIceCandidate.sdpMid hread
    rw [extract_sdpMid h htext, Option.getD_some] at hsdpMid
    have hmid : quote ∉ interpolate c.sdpMid := by
      rw [← hsdpMid]
      exact quote_notMem_unquoted _
    have hindex := congrArg RTCIceCandidate.sdpMLineIndex hread
    rw [extract_sdpMLineIndex h htext hmid, Option.getD_none, hzero, Option.getD_some] at hindex
    exact ⟨htext, ⟨_, hsdpMid.symm, quote_notMem_unquoted _⟩, hindex.symm⟩
  · rintro ⟨htext, ⟨mid, hsdpMid, hmid⟩, hindex⟩
    have hinterpolate : interpolate c.sdpMid = mid := by rw [hsdpMid, interpolate, Option.getD_some]
    rw [extract_sdpMid h htext, hinterpolate, extract_sdpMLineIndex h htext (hinterpolate ▸ hmid), Option.getD_some,
      Option.getD_none, hzero, Option.getD_some, unquoted_eq_self_iff.mpr htext, unquoted_eq_self_iff.mpr hmid, ← h,
      ← hsdpMid, ← hindex]

/-! ## Answers -/

lemma length_unescapeLineFeeds_le (s : Str) : (unescapeLineFeeds s).length ≤ s.length := by
  induction s using unescapeLineFeeds.induct with
  | case1 => simp [unescapeLineFeeds]
  | case2 c => simp [unescapeLineFeeds]
  | case3 c d s hescape ih =>
      rw [unescapeLineFeeds, if_pos hescape, List.length_cons, List.length_cons, List.length_cons]
      omega
  | case4 c d s hescape ih =>
      rw [unescapeLineFeeds, if_neg hescape, List.length_cons, List.length_cons]
      omega

/-- A message is its own description when it has none in it. -/
lemma extractSdp_eq_self_iff {message : Str} :
    extractSdp message = message ↔ ¬containsText message (ascii "\"sdp\":\"") := by
  rw [containsText, Option.not_isSome_iff_eq_none]
  refine ⟨fun hself => ?_, fun hnone => by rw [extractSdp, hnone]⟩
  rw [Option.eq_none_iff_forall_ne_some]
  intro start hstart
  have hlength := add_length_le_of_indexOf hstart
  have htoken : (ascii "\"sdp\":\"").length = 7 := by decide
  rw [htoken] at hlength
  have hsame := congrArg List.length hself
  rcases hstop : indexOfFrom message [quote] (start + 7) with _ | stop
  · simp only [extractSdp, hstart, hstop, List.length_drop] at hsame
    omega
  · have hle := length_unescapeLineFeeds_le (substring message (start + 7) stop)
    simp only [extractSdp, hstart, hstop] at hsame
    rw [hsame, substring, List.length_drop, List.length_take] at hle
    omega

/-- **An answer is read as it was written** exactly when its text is a message of that type: what is sent is the text
only. -/
theorem readSignal_answer_iff (sdp : Str) : readSignal (encodeAnswer (some sdp)) = .answer sdp ↔
    ascii "\x7b" <+: sdp ∧ ¬containsText sdp (ascii "\"type\":\"offer\"") ∧
      containsText sdp (ascii "\"type\":\"answer\"") ∧ ¬containsText sdp (ascii "\"sdp\":\"") := by
  rw [← extractSdp_eq_self_iff, ← List.isPrefixOf_iff_prefix, encodeAnswer, Option.getD_some, readSignal]
  split_ifs <;> simp_all

/-! ## Reading JSON -/

/-- The units that JSON escapes. -/
def escapedUnits (prev : Option UInt16) : Str → Str
  | [] => []
  | c :: s => (if jsonEscapeUnit prev c s.head? = [c] then [] else [c]) ++ escapedUnits (some c) s

/-- A unit stands for itself, or for others after a backslash.  Only a line feed becomes an `n` there. -/
lemma jsonEscapeUnit_cases (prev : Option UInt16) (c : UInt16) (next : Option UInt16) :
    jsonEscapeUnit prev c next = [c] ∧ c ≠ quote ∧ c ≠ 92 ∨ jsonEscapeUnit prev c next = [92, 110] ∧ c = 10 ∨
      jsonEscapeUnit prev c next = [92, 92] ∧ c = 92 ∨
      ∃ d others, jsonEscapeUnit prev c next = 92 :: d :: others ∧ d ≠ 110 ∧ c ≠ 10 ∧ c ≠ 92 := by
  have hunicode : ∃ others, unicodeEscape c = 92 :: 117 :: others := ⟨_, rfl⟩
  rcases hunicode with ⟨others, hunicode⟩
  rw [jsonEscapeUnit, hunicode]
  by_cases hquote : c = 34
  · rw [if_pos hquote, hquote]
    exact .inr (.inr (.inr ⟨34, [], by decide, by decide, by decide, by decide⟩))
  rw [if_neg hquote]
  by_cases hbackslash : c = 92
  · rw [if_pos hbackslash]
    exact .inr (.inr (.inl ⟨by decide, hbackslash⟩))
  rw [if_neg hbackslash]
  by_cases hbackspace : c = 8
  · rw [if_pos hbackspace, hbackspace]
    exact .inr (.inr (.inr ⟨98, [], by decide, by decide, by decide, by decide⟩))
  rw [if_neg hbackspace]
  by_cases htab : c = 9
  · rw [if_pos htab, htab]
    exact .inr (.inr (.inr ⟨116, [], by decide, by decide, by decide, by decide⟩))
  rw [if_neg htab]
  by_cases hfeed : c = 10
  · rw [if_pos hfeed]
    exact .inr (.inl ⟨by decide, hfeed⟩)
  rw [if_neg hfeed]
  by_cases hform : c = 12
  · rw [if_pos hform]
    exact .inr (.inr (.inr ⟨102, [], by decide, by decide, hfeed, hbackslash⟩))
  rw [if_neg hform]
  by_cases hreturn : c = 13
  · rw [if_pos hreturn]
    exact .inr (.inr (.inr ⟨114, [], by decide, by decide, hfeed, hbackslash⟩))
  rw [if_neg hreturn]
  split_ifs
  · exact .inr (.inr (.inr ⟨117, others, rfl, by decide, hfeed, hbackslash⟩))
  · exact .inr (.inr (.inr ⟨117, others, rfl, by decide, hfeed, hbackslash⟩))
  · exact .inl ⟨rfl, hquote, hbackslash⟩

lemma unescapeLineFeeds_cons {c : UInt16} (h : c ≠ 92) (s : Str) :
    unescapeLineFeeds (c :: s) = c :: unescapeLineFeeds s := by
  rcases s with _ | ⟨d, s⟩
  · rfl
  · rw [unescapeLineFeeds, if_neg fun hescape => h hescape.1]

lemma unescapeLineFeeds_backslash {s : Str} (h : s.head? ≠ some 110) :
    unescapeLineFeeds (92 :: s) = 92 :: unescapeLineFeeds s := by
  rcases s with _ | ⟨d, s⟩
  · rfl
  · rw [unescapeLineFeeds, if_neg fun hescape => h (congrArg some hescape.2)]

/-- What is escaped otherwise than a line feed is read from a backslash on. -/
lemma head?_unescape_unquoted {d : UInt16} (h : d ≠ 110) (s : Str) :
    (unescapeLineFeeds (unquoted quote (92 :: d :: s))).head? = some 92 := by
  rw [unquoted_cons (by decide), unescapeLineFeeds_backslash, List.head?_cons]
  intro hhead
  rw [unquoted, List.takeWhile_cons] at hhead
  split_ifs at hhead
  · exact h (Option.some_inj.mp hhead)
  · cases hhead

/-- What is read of a text that follows a unit. -/
def readBack (prev : Option UInt16) (s : Str) : Str := unescapeLineFeeds (unquoted quote (jsonEscape prev s))

lemma ne_of_head? {k : ℕ} {c : UInt16} {s t : Str} (hbackslash : c ≠ 92) (hhead : t.head? ≠ some c) :
    List.replicate k 92 ++ t ≠ c :: s := by
  intro hsame
  rcases k with _ | k
  · exact hhead (by rw [show t = c :: s from hsame, List.head?_cons])
  · rw [List.replicate_succ, List.cons_append] at hsame
    exact hbackslash (List.cons.inj hsame).1.symm

/-- Backslashes are read as more than there are. -/
lemma replicate_append_unescape_ne (k : ℕ) (prev : Option UInt16) (s : Str) :
    List.replicate k 92 ++ unescapeLineFeeds (92 :: unquoted quote (jsonEscape prev s)) ≠ s := by
  induction s generalizing k prev with
  | nil => simp [jsonEscape, unquoted, unescapeLineFeeds]
  | cons c s ih =>
      rw [jsonEscape]
      rcases jsonEscapeUnit_cases prev c s.head? with
        ⟨hunit, hquote, hbackslash⟩ | ⟨hunit, hc⟩ | ⟨hunit, hc⟩ | ⟨d, others, hunit, hd, hfeed, hbackslash⟩
      · rw [hunit, List.singleton_append, unquoted_cons hquote]
        by_cases hn : c = 110
        · rw [hn, unescapeLineFeeds, if_pos ⟨rfl, rfl⟩]
          exact ne_of_head? (by decide) (by simp)
        · rw [unescapeLineFeeds_backslash (by simpa using hn)]
          exact ne_of_head? hbackslash (by simpa using hbackslash.symm)
      · rw [hunit, hc, List.cons_append, unquoted_cons (by decide), unescapeLineFeeds_backslash (by simp)]
        exact ne_of_head? (by decide) (by simp)
      · rw [hunit, hc, List.cons_append, List.singleton_append, unquoted_cons (by decide), unquoted_cons (by decide),
          unescapeLineFeeds_backslash (by simp), unescapeLineFeeds_backslash (by simp), ← List.singleton_append,
          ← List.append_assoc, ← List.replicate_succ', List.replicate_succ, List.cons_append, ne_eq,
          List.cons_inj_right, ← List.singleton_append, ← List.append_assoc, ← List.replicate_succ']
        exact ih (k + 1) (some 92)
      · rw [hunit, List.cons_append, unquoted_cons (by decide), unescapeLineFeeds_backslash (by simp)]
        exact ne_of_head? hbackslash (by simpa using hbackslash.symm)

lemma readBack_eq_iff {prev : Option UInt16} {s : Str} :
    readBack prev s = s ↔ ∀ c ∈ escapedUnits prev s, c = 10 := by
  induction s generalizing prev with
  | nil => simp [readBack, jsonEscape, unquoted, unescapeLineFeeds, escapedUnits]
  | cons c s ih =>
      rw [escapedUnits, List.forall_mem_append, ← ih, readBack, jsonEscape]
      rcases jsonEscapeUnit_cases prev c s.head? with
        ⟨hunit, hquote, hbackslash⟩ | ⟨hunit, hc⟩ | ⟨hunit, hc⟩ | ⟨d, others, hunit, hd, hfeed, hbackslash⟩
      · rw [hunit, if_pos rfl, List.singleton_append, unquoted_cons hquote, unescapeLineFeeds_cons hbackslash,
          List.cons_inj_right]
        simp [readBack]
      · rw [hunit, if_neg (by simp), List.cons_append, List.singleton_append, unquoted_cons (by decide),
          unquoted_cons (by decide), unescapeLineFeeds, if_pos ⟨rfl, rfl⟩, hc, List.cons_inj_right]
        simp [readBack]
      · rw [hunit, if_neg (by simp), List.cons_append, List.singleton_append, unquoted_cons (by decide),
          unquoted_cons (by decide), unescapeLineFeeds_backslash (by simp), hc, List.cons_inj_right]
        refine iff_of_false (replicate_append_unescape_ne 0 _ s) fun hfeeds => ?_
        exact absurd (hfeeds.1 92 List.mem_cons_self) (by decide)
      · rw [hunit, if_neg (by simp)]
        refine iff_of_false (fun hsame => hbackslash ?_) fun hfeeds => hfeed (hfeeds.1 c List.mem_cons_self)
        have hhead := head?_unescape_unquoted hd (others ++ jsonEscape (some c) s)
        rw [List.cons_append, List.cons_append] at hsame
        rw [hsame] at hhead
        exact Option.some_inj.mp hhead

lemma quote_notMem_jsonEscape {prev : Option UInt16} {s : Str} (h : ∀ c ∈ escapedUnits prev s, c = 10) :
    quote ∉ jsonEscape prev s := by
  induction s generalizing prev with
  | nil => exact List.not_mem_nil
  | cons c s ih =>
      rw [escapedUnits, List.forall_mem_append] at h
      rw [jsonEscape, List.mem_append, not_or]
      refine ⟨?_, ih h.2⟩
      have hfeed := h.1
      split_ifs at hfeed with hunit
      · rw [hunit, List.mem_singleton]
        rintro rfl
        rw [jsonEscapeUnit, if_pos (by decide : quote = 34)] at hunit
        exact absurd hunit (by decide)
      · rw [hfeed c List.mem_cons_self, show jsonEscapeUnit prev 10 s.head? = [92, 110] from rfl]
        decide

lemma jsonEncode_eq (type : SdpType) (sdp : Str) : jsonEncode type sdp =
    ascii "\x7b\"type\":\"" ++ (type.name ++ ascii "\",\"sdp\":\"") ++
      (jsonEscape none sdp ++ quote :: ascii "\x7d") := by
  rw [jsonEncode]
  simp only [List.append_assoc]
  rfl

lemma extractSdp_jsonEncode (type : SdpType) (sdp : Str) : extractSdp (jsonEncode type sdp) = readBack none sdp := by
  have hstart : indexOf (jsonEncode type sdp) (ascii "\"sdp\":\"") = some (11 + type.name.length) := by
    rw [jsonEncode_eq]
    cases type <;> exact indexOf_append_right (by decide)
  have hdrop : (jsonEncode type sdp).drop (11 + type.name.length + 7) =
      jsonEscape none sdp ++ quote :: ascii "\x7d" := by
    rw [jsonEncode_eq]
    cases type <;> exact List.drop_left' (by decide)
  rcases indexOfFrom_quote hdrop with ⟨stop, hstop, hsubstring⟩
  simp only [extractSdp, hstart, hstop, hsubstring, readBack]

/-- An answer whose text has no quotes is no offer. -/
lemma not_offer_of_answer {sdp : Str} (h : quote ∉ jsonEscape none sdp) :
    ¬containsText (jsonEncode .answer sdp) (ascii "\"type\":\"offer\"") := by
  have hmessage : jsonEncode .answer sdp = joined quote (ascii "\x7b" :: [ascii "type", ascii ":", ascii "answer",
      ascii ",", ascii "sdp", ascii ":", jsonEscape none sdp, ascii "\x7d"]) := by
    simp only [jsonEncode, SdpType.name, joined]
    rfl
  generalize jsonEscape none sdp = text at h hmessage
  have htoken : ascii "\"type\":\"offer\"" = inQuotes quote [ascii "type", ascii ":", ascii "offer"] := by decide
  have hparts : ∀ s ∈ [ascii "type", ascii ":", ascii "offer"], quote ∉ s := by decide
  have hsegments : ∀ s ∈ [ascii "type", ascii ":", ascii "answer", ascii ",", ascii "sdp", ascii ":", text,
      ascii "\x7d"], quote ∉ s := by
    simp only [List.forall_mem_cons]
    exact ⟨by decide, by decide, by decide, by decide, by decide, by decide, h, by decide, by simp⟩
  have hafter : findAfter [ascii "type", ascii ":", ascii "offer"] [ascii "type", ascii ":", ascii "answer", ascii ",",
      ascii "sdp", ascii ":", text, ascii "\x7d"] = none := by
    simp +decide [findAfter, List.cons_prefix_cons]
  have hfound := indexOf_joined hparts hsegments (by decide : quote ∉ ascii "\x7b")
  rw [hafter, ← hmessage, ← htoken] at hfound
  rw [containsText, hfound]
  exact Bool.false_ne_true

/-- **A description in JSON is read as it was** exactly when line feeds are all that JSON escapes in it. -/
theorem readSignal_jsonEncode_iff (type : SdpType) (sdp : Str) :
    readSignal (jsonEncode type sdp) = type.signal sdp ↔ ∀ c ∈ escapedUnits none sdp, c = 10 := by
  rw [← readBack_eq_iff, ← extractSdp_jsonEncode type]
  have hbegin : (ascii "\x7b").isPrefixOf (jsonEncode type sdp) := rfl
  cases type with
  | offer =>
      have hoffer : containsText (jsonEncode .offer sdp) (ascii "\"type\":\"offer\"") := by
        rw [containsText, jsonEncode_eq, indexOf_append_right (by decide : _ = some 1), Option.isSome_some]
      rw [readSignal, hbegin, hoffer]
      exact Signal.offer.injEq _ _ ▸ Iff.rfl
  | answer =>
      have hanswer : containsText (jsonEncode .answer sdp) (ascii "\"type\":\"answer\"") := by
        rw [containsText, jsonEncode_eq, indexOf_append_right (by decide : _ = some 1), Option.isSome_some]
      by_cases hoffer : containsText (jsonEncode .answer sdp) (ascii "\"type\":\"offer\"")
      · rw [readSignal, hbegin, hoffer]
        refine iff_of_false (fun hread => nomatch hread) fun hsame => ?_
        rw [extractSdp_jsonEncode, readBack_eq_iff] at hsame
        exact not_offer_of_answer (quote_notMem_jsonEscape hsame) hoffer
      · rw [Bool.not_eq_true] at hoffer
        rw [readSignal, hbegin, hoffer, hanswer]
        exact Signal.answer.injEq _ _ ▸ Iff.rfl

/-! ## The two sides -/

/-- **What one engine writes the other understands** exactly where the messages have nothing in them that would need
another encoding: candidates of the first line without quotes, answers that are JSON themselves, and descriptions in
which only line feeds are escaped. -/
theorem understood_iff (text : Str) (mid : Option Str) (index : Option ℤ) (answer : Str) (type : SdpType) (sdp : Str) :
    (extractCandidate (encodeIceCandidate ⟨some text, mid, index⟩) = some ⟨some text, mid, index⟩ ↔
      quote ∉ text ∧ (∃ t, mid = some t ∧ quote ∉ t) ∧ index = some 0) ∧
    (readSignal (encodeAnswer (some answer)) = .answer answer ↔
      ascii "\x7b" <+: answer ∧ ¬containsText answer (ascii "\"type\":\"offer\"") ∧
        containsText answer (ascii "\"type\":\"answer\"") ∧ ¬containsText answer (ascii "\"sdp\":\"")) ∧
    (readSignal (jsonEncode type sdp) = type.signal sdp ↔ ∀ c ∈ escapedUnits none sdp, c = 10) :=
  ⟨extractCandidate_encode_iff rfl, readSignal_answer_iff answer, readSignal_jsonEncode_iff type sdp⟩

/-- The candidate of a second line becomes one of the first, an answer is not known as one, and a carriage return stays
escaped. -/
theorem misunderstood :
    let candidate : RTCIceCandidate :=
      ⟨some (ascii "candidate:1 1 udp 1 10.0.0.1 9 typ host"), some (ascii "1"), some 1⟩
    let sdp := ascii "v=0\r\n"
    extractCandidate (encodeIceCandidate candidate) = some { candidate with sdpMLineIndex := some 0 } ∧
      extractCandidate (encodeIceCandidate candidate) ≠ some candidate ∧
      readSignal (encodeAnswer (some sdp)) = .binary ∧
      readSignal (jsonEncode .offer sdp) = .offer (ascii "v=0\\r\n") ∧
      readSignal (jsonEncode .offer sdp) ≠ .offer sdp := by
  decide +kernel

end WebRtcMediaEngine

end RioGram.Calls
