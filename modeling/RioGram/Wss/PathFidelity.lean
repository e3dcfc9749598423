import RioGram.Core.Trimming
import RioGram.Wss.Proxy

/-!
# The path that goes upstream

The path of a request is decoded by the server, trimmed of slashes, split, put into a URL as it is and
parsed again.  What the upstream receives is the path the client has sent only if none of this changes
anything, and `serveHTTP_faithful_iff` says when.
-/

namespace RioGram

open Wire Go

namespace Wss

/-! ## The request as it is received -/

/-- A request target in origin form. -/
def originForm (host rest query : Bytes) : Bytes := 47 :: host ++ rest ++ 63 :: query

lemma unescape_append {s t : Bytes} (h : 37 ∉ s) : unescape (s ++ t) = (unescape t).map (s ++ ·) := by
  induction s with
  | nil => simp
  | cons c s ih =>
      rw [List.mem_cons, not_or] at h
      rw [List.cons_append, unescape_cons (Ne.symm h.1), ih h.2, Option.map_map]
      rfl

/-- What the server makes of a target: the path behind the host is decoded, and the query is kept. -/
lemma parseRequestURI_originForm {host rest query : Bytes} (hhost : ∀ c ∈ host, IsPlain c)
    (hrest : 63 ∉ rest) {url : URL} (h : parseRequestURI (originForm host rest query) = some url) :
    ∃ path, unescape rest = some path ∧ url.path = 47 :: host ++ path ∧ url.rawQuery = query ∧
      query.any isCtl = false := by
  have hquestion : 63 ∉ 47 :: host ++ rest := by
    simp only [List.cons_append, List.mem_cons, List.mem_append, not_or]
    exact ⟨by decide, not_mem_of_plain hhost (by simp [IsPlain, isAlphanumeric]), hrest⟩
  have hbefore : before 63 (originForm host rest query) = 47 :: host ++ rest := by
    rw [originForm, before_append hquestion, before_sep, List.append_nil]
  have hafter : after 63 (originForm host rest query) = query := by
    rw [originForm, after_append hquestion, after_sep]
  have hstart : ∃ tail, originForm host rest query = 47 :: tail := ⟨_, rfl⟩
  have hscheme : getScheme (originForm host rest query) = some ([], originForm host rest query) := by
    rcases hstart with ⟨tail, htail⟩
    rw [htail]
    simp [getScheme, isAlphanumeric]
  have hstar : originForm host rest query ≠ [42] := by simp [originForm]
  have hnil : originForm host rest query ≠ [] := by simp [originForm]
  have hhead : (47 :: host ++ rest).head? = some 47 := rfl
  simp only [parseRequestURI, parseUrl, hstar, hnil, hscheme, hbefore, hafter, hhead, false_and,
    if_false, Option.bind_some, List.map_nil, ne_eq, not_true_eq_false, false_or] at h
  split_ifs at h with hctl
  rcases Option.map_eq_some_iff.mp h with ⟨⟨decoded, rawPath⟩, hset, rfl⟩
  rcases Option.map_eq_some_iff.mp hset with ⟨decoded', hdecoded, hpair⟩
  injection hpair with hsame _
  subst hsame
  have hpercent : 37 ∉ 47 :: host := by
    simp only [List.mem_cons, not_or]
    exact ⟨by decide, not_mem_of_plain hhost (by simp [IsPlain, isAlphanumeric])⟩
  rw [unescape_append hpercent] at hdecoded
  rcases Option.map_eq_some_iff.mp hdecoded with ⟨path, hpath, rfl⟩
  refine ⟨path, hpath, rfl, rfl, ?_⟩
  rw [originForm, List.any_append, Bool.or_eq_true, not_or] at hctl
  simpa [isCtl] using hctl.2

/-- The slashes behind a host are trimmed, and those in front of it. -/
lemma trimSlashes_append {host : Bytes} (hne : host ≠ []) (hslash : 47 ∉ host) (path : Bytes) :
    trimSlashes (host ++ path) = host ++ path.rdropWhile (· = 47) := by
  refine Trimming.trimBy_append hne ?_ path
  intro c hc
  simpa using fun h : c = 47 => hslash (h ▸ hc)

/-- What becomes of the path when it is trimmed and split. -/
lemma parseTargetPath_host {host path targetPath : Bytes} (hhost : ∀ c ∈ host, IsPlain c)
    (h : parseTargetPath (host ++ path) = some (host, targetPath)) :
    targetPath = if path.rdropWhile (· = 47) = [] then apiws else path.rdropWhile (· = 47) := by
  have hslash : 47 ∉ host := not_mem_of_plain hhost (by simp [IsPlain, isAlphanumeric])
  rcases parseTargetPath_some h with ⟨hbefore, hpattern, rfl⟩
  have hnonempty : host ≠ [] := (telegramHostPattern_plain hpattern).1
  have htrim := trimSlashes_append hnonempty hslash path
  rw [htrim] at hbefore ⊢
  rw [before_append hslash] at hbefore
  rw [after_append hslash]
  have hcut : before 47 (path.rdropWhile (· = 47)) = [] := List.self_eq_append_right.mp hbefore
  rcases hrest : path.rdropWhile (· = 47) with _ | ⟨c, rest⟩ <;> rw [hrest]
  · rfl
  · rw [hrest] at hcut
    have hc : c = 47 := by simpa [before] using hcut
    subst hc
    have hlast : rest ≠ [] := by
      rintro rfl
      have := List.rdropWhile_last_not (· = 47) path (by simp [hrest])
      simp [hrest] at this
    rw [after_sep, if_neg hlast, if_neg (List.cons_ne_nil _ _)]

/-! ## The request that is sent -/

/-- A path that goes upstream as it is: nothing but the decoded form is lost, which does not end in a
slash, has nothing in it that means something else in a URL, and encodes to the path again. -/
def Canonical (rest : Bytes) : Prop :=
  rest = [] ∨ ∃ path, unescape rest = some path ∧ path.getLast? ≠ some 47 ∧
    (∀ c ∈ path, c ≠ 37 ∧ c ≠ 35 ∧ c ≠ 63 ∧ isCtl c = false) ∧
    rest = if validEncoded path then path else escape path

/-- The query that is put behind the target path. -/
def queryPart (query : Bytes) : Bytes := if query ≠ [] then 63 :: query else []

/-- The part of a URL up to the query or the fragment does not see the query. -/
lemma before_queryPart (path query : Bytes) :
    before 63 (before 35 (path ++ queryPart query)) = before 63 (before 35 path) := by
  induction path with
  | nil =>
      simp only [queryPart]
      split_ifs
      · simp [before]
      · rfl
  | cons c path ih =>
      by_cases hhash : c = 35
      · simp [hhash]
      · rw [List.cons_append, before_cons hhash, before_cons hhash]
        by_cases hquestion : c = 63
        · simp [hquestion]
        · rw [before_cons hquestion, before_cons hquestion, ih]

/-- A path without `#` and `?` and a query without `#` are told apart again. -/
lemma after_queryPart {path query : Bytes} (hhash : 35 ∉ path) (hquestion : 63 ∉ path)
    (hquery : 35 ∉ query) :
    before 35 (path ++ queryPart query) = path ++ queryPart query ∧
    after 35 (path ++ queryPart query) = [] ∧
    after 63 (path ++ queryPart query) = query := by
  have hpart : 35 ∉ queryPart query := by
    simp only [queryPart]
    split_ifs <;> simp [hquery]
  refine ⟨?_, ?_, ?_⟩
  · rw [before_append hhash, before_of_not_mem hpart]
  · rw [after_append hhash, after_of_not_mem hpart]
  · rw [after_append hquestion]
    simp only [queryPart]
    split_ifs with hnil
    · rw [after_sep]
    · rw [not_not.mp hnil]
      rfl

lemma escape_eq_nil {s : Bytes} (h : escape s = []) : s = [] := by
  have := unescape_escape s
  rw [h] at this
  exact (Option.some.inj this).symm

/-- What is sent decodes to the decoded path. -/
lemma unescape_escapedPath {u : URL} {path : Bytes}
    (h : setPath (47 :: path) = some (u.path, u.rawPath)) : unescape u.escapedPath = some u.path := by
  rcases Option.map_eq_some_iff.mp h with ⟨decoded, hdecoded, hpair⟩
  injection hpair with hsame _
  subst hsame
  rw [escapedPath_of_setPath h]
  split_ifs
  · exact hdecoded
  · exact unescape_escape _

lemma length_before_le (sep : UInt8) (s : Bytes) : (before sep s).length ≤ s.length :=
  (List.takeWhile_prefix _).length_le

/-- A string that is as long after it has been cut has not been cut. -/
lemma not_mem_of_length {sep : UInt8} {s : Bytes} (h : s.length ≤ (before sep s).length) : sep ∉ s := by
  have hsame : before sep s = s :=
    (List.takeWhile_prefix _).eq_of_length (Nat.le_antisymm (length_before_le sep s) h)
  rw [← hsame]
  exact not_mem_before sep s

section Upstream

variable {scheme host rest query : Bytes} (hscheme : scheme ≠ [])
  (hlower : ∀ c ∈ scheme, 97 ≤ c ∧ c ≤ 122) (hhost : ∀ c ∈ host, IsPlain c)

include hscheme hlower hhost

/-- The URL for a path without `#`, `?`, `%` and control characters. -/
lemma parse_clean {path : Bytes} (hpath : ∀ c ∈ 47 :: path, c ≠ 37 ∧ c ≠ 35 ∧ c ≠ 63 ∧ isCtl c = false)
    (hquery : 35 ∉ query) (hctl : query.any isCtl = false) :
    ∃ u, parse (schemePrefix scheme ++ host ++ 47 :: path ++ queryPart query) = some u ∧
      u.escapedPath = (if validEncoded (47 :: path) then 47 :: path else escape (47 :: path)) ∧
      u.rawQuery = query := by
  have hhash : 35 ∉ path := fun h => (hpath 35 (List.mem_cons_of_mem _ h)).2.1 rfl
  have hquestion : 63 ∉ path := fun h => (hpath 63 (List.mem_cons_of_mem _ h)).2.2.1 rfl
  have hpercent : 37 ∉ 47 :: path := fun h => (hpath 37 h).1 rfl
  rcases after_queryPart hhash hquestion hquery with ⟨hbefore, hfragment, hafter⟩
  have hcut : before 63 (before 35 (path ++ queryPart query)) = path := by
    rw [before_queryPart, before_of_not_mem hhash, before_of_not_mem hquestion]
  have hclean : (path ++ queryPart query).any isCtl = false := by
    rw [List.any_append, Bool.or_eq_false_iff, List.any_eq_false]
    refine ⟨fun c hc => by simp [(hpath c (List.mem_cons_of_mem _ hc)).2.2.2], ?_⟩
    simp only [queryPart]
    split_ifs <;> simp [isCtl, hctl]
  rw [List.append_assoc, List.cons_append, parse_absolute hscheme hlower hhost, hcut, hfragment, hbefore,
    hafter, hclean, if_neg Bool.false_ne_true]
  have hset : setPath (47 :: path) =
      some (47 :: path, if 47 :: path = escape (47 :: path) then [] else 47 :: path) := by
    rw [setPath, unescape_of_not_mem hpercent]
    rfl
  rw [hset]
  refine ⟨_, rfl, ?_, rfl⟩
  exact escapedPath_of_setPath hset

/-- What is known of a URL that could be parsed. -/
lemma parse_sent {tail : Bytes} {u : URL}
    (h : parse (schemePrefix scheme ++ host ++ 47 :: tail ++ queryPart query) = some u) :
    setPath (47 :: before 63 (before 35 tail)) = some (u.path, u.rawPath) ∧
    (before 35 (tail ++ queryPart query)).any isCtl = false ∧
    u.rawQuery = after 63 (before 35 (tail ++ queryPart query)) := by
  rw [List.append_assoc, List.cons_append, parse_absolute hscheme hlower hhost, before_queryPart] at h
  split_ifs at h with hctl
  rcases Option.bind_eq_some_iff.mp h with ⟨⟨path, rawPath⟩, hset, h⟩
  rcases Option.map_eq_some_iff.mp h with ⟨fragment, -, rfl⟩
  exact ⟨hset, by simpa using hctl, rfl⟩

end Upstream

/-- **A path that comes out as it was sent** has not been changed on its way: decoding makes nothing
longer, so that nothing can have been cut off. -/
lemma sent_unchanged {rest path tail : Bytes} (hrest : unescape rest = some path)
    (htarget : 47 :: tail =
      if path.rdropWhile (· = 47) = [] then apiws else path.rdropWhile (· = 47)) {u : URL}
    (hset : setPath (47 :: before 63 (before 35 tail)) = some (u.path, u.rawPath))
    (hescaped : u.escapedPath = rest) :
    path = 47 :: tail ∧ 37 ∉ 47 :: tail ∧ 35 ∉ tail ∧ 63 ∉ tail := by
  have hdecoded : u.path = path := by
    have h := unescape_escapedPath hset
    rw [hescaped, hrest] at h
    exact (Option.some.inj h).symm
  rcases Option.map_eq_some_iff.mp hset with ⟨path', hpath, hpair⟩
  injection hpair with hsame _
  rw [hsame, hdecoded] at hpath
  have hlength := length_unescape hpath
  have hcut : (before 63 (before 35 tail)).length ≤ tail.length :=
    (length_before_le 63 _).trans (length_before_le 35 tail)
  have htrimmed : path.rdropWhile (· = 47) ≠ [] := by
    intro hnil
    rw [if_pos hnil] at htarget
    injection htarget with _ htail
    have hplain : unescape (47 :: before 63 (before 35 tail)) = some apiws := by
      rw [htail]
      decide
    rw [hpath] at hplain
    rw [Option.some.inj hplain] at hnil
    exact absurd hnil (by decide)
  rw [if_neg htrimmed] at htarget
  have hinitial := List.rdropWhile_prefix (· = 47) path
  rw [← htarget] at hinitial
  have hshorter := hinitial.length_le
  simp only [List.length_cons] at hlength hshorter
  have hwhole : path = 47 :: tail := by
    refine (hinitial.eq_of_length ?_).symm
    simp only [List.length_cons]
    omega
  have hhash : 35 ∉ tail := by
    apply not_mem_of_length
    have := length_before_le 63 (before 35 tail)
    omega
  rw [before_of_not_mem hhash] at hlength hpath hcut
  have hquestion : 63 ∉ tail := by
    apply not_mem_of_length
    omega
  rw [before_of_not_mem hquestion] at hlength
  refine ⟨hwhole, hlength.2 ?_, hhash, hquestion⟩
  simp [hwhole]

/-- A path that is not changed by trimming does not end in a slash. -/
lemma getLast?_of_trimmed {path : Bytes}
    (h : (if path.rdropWhile (· = 47) = [] then apiws else path.rdropWhile (· = 47)) = path) :
    path.getLast? ≠ some 47 := by
  split_ifs at h with hempty
  · rw [← h]
    decide
  · intro hlast
    rw [← h] at hlast
    have hnot := List.rdropWhile_last_not (· = 47) path hempty
    rw [List.getLast?_eq_some_getLast hempty, Option.some_inj] at hlast
    simp [hlast] at hnot

/-- A path that comes out as it was sent is canonical. -/
lemma canonical_of_sent {rest path tail query : Bytes} (hpath : unescape rest = some path)
    (htarget : 47 :: tail =
      if path.rdropWhile (· = 47) = [] then apiws else path.rdropWhile (· = 47)) {u : URL}
    (hset : setPath (47 :: before 63 (before 35 tail)) = some (u.path, u.rawPath))
    (hclean : (before 35 (tail ++ queryPart query)).any isCtl = false) (hescaped : u.escapedPath = rest) :
    Canonical rest := by
  rcases sent_unchanged hpath htarget hset hescaped with ⟨rfl, hpercent, hfragment, hquestion⟩
  have hnoctl : ∀ c ∈ 47 :: tail, isCtl c = false := by
    rw [before_append hfragment, List.any_append, Bool.or_eq_false_iff, List.any_eq_false] at hclean
    simpa [isCtl] using hclean.1
  have hbytes : ∀ c ∈ 47 :: tail, c ≠ 37 ∧ c ≠ 35 ∧ c ≠ 63 ∧ isCtl c = false := by
    intro c hc
    refine ⟨fun h => hpercent (h ▸ hc), ?_, ?_, hnoctl c hc⟩
    · rintro rfl
      exact hfragment ((List.mem_cons.mp hc).resolve_left (by decide))
    · rintro rfl
      exact hquestion ((List.mem_cons.mp hc).resolve_left (by decide))
  refine .inr ⟨47 :: tail, hpath, getLast?_of_trimmed htarget.symm, hbytes, ?_⟩
  rw [before_of_not_mem hfragment, before_of_not_mem hquestion] at hset
  rw [← hescaped, escapedPath_of_setPath hset]
  rcases Option.map_eq_some_iff.mp hset with ⟨path', hpath', hpair⟩
  injection hpair with hsame _
  rw [unescape_of_not_mem hpercent] at hpath'
  rw [← hsame, ← Option.some.inj hpath']

/-- What is put in the place of an empty path is sent as it is. -/
lemma parse_apiws {scheme host query : Bytes} (hscheme : scheme ≠ [])
    (hlower : ∀ c ∈ scheme, 97 ≤ c ∧ c ≤ 122) (hhost : ∀ c ∈ host, IsPlain c) (hquery : 35 ∉ query)
    (hctl : query.any isCtl = false) :
    ∃ u, parse (schemePrefix scheme ++ host ++ apiws ++ queryPart query) = some u ∧
      u.escapedPath = apiws ∧ u.rawQuery = query := by
  have hbytes : ∀ c ∈ 47 :: utf8 "apiws", c ≠ 37 ∧ c ≠ 35 ∧ c ≠ 63 ∧ isCtl c = false := by
    decide +kernel
  exact parse_clean hscheme hlower hhost hbytes hquery hctl

/-- A canonical path comes out as it was sent. -/
lemma sent_of_canonical {scheme host rest path tail query : Bytes} (hscheme : scheme ≠ [])
    (hlower : ∀ c ∈ scheme, 97 ≤ c ∧ c ≤ 122) (hhost : ∀ c ∈ host, IsPlain c)
    (hcanonical : Canonical rest) (hpath : unescape rest = some path)
    (htarget : 47 :: tail =
      if path.rdropWhile (· = 47) = [] then apiws else path.rdropWhile (· = 47))
    (hquery : 35 ∉ query) (hctl : query.any isCtl = false) :
    ∃ u, parse (schemePrefix scheme ++ host ++ 47 :: tail ++ queryPart query) = some u ∧
      u.escapedPath = (if rest = [] then apiws else rest) ∧ u.rawQuery = query := by
  rcases hcanonical with rfl | ⟨path', hpath', hlast, hbytes, hencoded⟩
  · cases hpath
    rw [htarget]
    exact parse_apiws hscheme hlower hhost hquery hctl
  · obtain rfl : path = path' := Option.some.inj (hpath.symm.trans hpath')
    by_cases hempty : path = []
    · subst hempty
      have hnil : rest = [] := hencoded.trans (ite_self _)
      rw [if_pos hnil, htarget]
      exact parse_apiws hscheme hlower hhost hquery hctl
    · have hkept : path.rdropWhile (· = 47) = path := by
        refine List.rdropWhile_eq_self_iff.mpr fun hne => ?_
        simpa [List.getLast?_eq_some_getLast hne] using hlast
      rw [hkept, if_neg hempty] at htarget
      subst htarget
      have hne : rest ≠ [] := by
        rintro rfl
        split_ifs at hencoded
        exact absurd (escape_eq_nil hencoded.symm) hempty
      rw [if_neg hne, hencoded]
      exact parse_clean hscheme hlower hhost hbytes hquery hctl

/-- The URL that is built says what the target said, exactly if the path is canonical and the query has no
`#` in it. -/
theorem targetURL_faithful_iff {host rest query : Bytes} (hhost : telegramHostPattern host)
    (hrest : 63 ∉ rest) {url : URL} (hrequest : parseRequestURI (originForm host rest query) = some url)
    {targetPath : Bytes} (htarget : parseTargetPath (trimPrefix url.path) = some (host, targetPath))
    {r : Request} (hr : r.rawQuery = url.rawQuery) {scheme : Bytes}
    (hscheme : scheme = utf8 "https" ∨ scheme = utf8 "wss") :
    (∃ u, parse (targetURL scheme r host targetPath) = some u ∧
      u.escapedPath = (if rest = [] then apiws else rest) ∧ u.rawQuery = query) ↔
    Canonical rest ∧ 35 ∉ query := by
  have hplain := (telegramHostPattern_plain hhost).2
  have hletters : scheme ≠ [] ∧ ∀ c ∈ scheme, 97 ≤ c ∧ c ≤ 122 := by
    rcases hscheme with rfl | rfl <;> decide +kernel
  rcases parseRequestURI_originForm hplain hrest hrequest with ⟨path, hpath, hurl, hquery, hctl⟩
  have htrim : trimPrefix url.path = host ++ path := by
    rw [hurl]
    simp [trimPrefix]
  rw [htrim] at htarget
  have htargetPath := parseTargetPath_host hplain htarget
  obtain ⟨tail, rfl⟩ : ∃ tail, targetPath = 47 :: tail := by
    rw [(parseTargetPath_some htarget).2.2]
    split_ifs
    · exact ⟨_, rfl⟩
    · exact ⟨_, rfl⟩
  have hbuilt : targetURL scheme r host (47 :: tail) =
      schemePrefix scheme ++ host ++ 47 :: tail ++ queryPart query := by
    rw [targetURL, hr, hquery, queryPart]
  rw [hbuilt]
  constructor
  · rintro ⟨u, hparse, hescaped, hsent⟩
    rcases parse_sent hletters.1 hletters.2 hplain hparse with ⟨hset, hclean, hrawQuery⟩
    have hhash : 35 ∉ query := by
      rw [← hsent, hrawQuery]
      intro h
      exact not_mem_before 35 _ ((List.dropWhile_suffix _).subset (List.drop_subset 1 _ h))
    refine ⟨?_, hhash⟩
    by_cases hempty : rest = []
    · exact .inl hempty
    · rw [if_neg hempty] at hescaped
      exact canonical_of_sent hpath htargetPath hset hclean hescaped
  · rintro ⟨hcanonical, hhash⟩
    exact sent_of_canonical hletters.1 hletters.2 hplain hcanonical hpath htargetPath hhash hctl

/-- **The path goes upstream as it is**, and the query, exactly if the path is canonical and the query has
no `#` in it.  The request may be sent: it is no `OPTIONS` request, it carries the token if there is one,
and if it asks for a WebSocket, then the handshake is accepted. -/
theorem serveHTTP_faithful_iff {host rest query : Bytes} (hhost : telegramHostPattern host)
    (hrest : 63 ∉ rest) {url : URL} (hrequest : parseRequestURI (originForm host rest query) = some url)
    {targetPath : Bytes} (htarget : parseTargetPath (trimPrefix url.path) = some (host, targetPath))
    {upgrades : Request → Bool} {cfg : Config} {r : Request} (hpath : r.path = url.path)
    (hquery : r.rawQuery = url.rawQuery) (hmethod : r.method ≠ utf8 "OPTIONS")
    (hauth : cfg.authToken ≠ [] → isAuthorized cfg r)
    (hupgrades : isWebSocketUpgrade r → upgrades r) :
    (∃ request, (serveHTTP upgrades cfg r).upstream = some request ∧
      request.url.escapedPath = (if rest = [] then apiws else rest) ∧ request.url.rawQuery = query) ↔
    Canonical rest ∧ 35 ∉ query := by
  have hhealth : ¬(trimPrefix url.path = [] ∨ trimPrefix url.path = utf8 "health") := by
    rintro (h | h) <;> rw [h] at htarget <;> exact nomatch htarget
  have hallowed : ¬(cfg.authToken ≠ [] ∧ ¬ isAuthorized cfg r) := fun h => h.2 (hauth h.1)
  have hserve : serveHTTP upgrades cfg r =
      if ¬ isWebSocketUpgrade r then proxyHTTP cfg r host targetPath
      else proxyWebSocket upgrades cfg r host targetPath := by
    simp only [serveHTTP, hpath, if_neg hhealth, if_neg hmethod, htarget, if_neg hallowed]
  by_cases hupgrade : isWebSocketUpgrade r
  · rw [← targetURL_faithful_iff hhost hrest hrequest htarget hquery (.inr rfl), hserve,
      if_neg (not_not.mpr hupgrade)]
    constructor
    · rintro ⟨request, h, hsame⟩
      exact ⟨request.url, (proxyWebSocket_upstream h).1, hsame⟩
    · rintro ⟨u, hparse, hsame⟩
      have huser := (parse_targetURL (by decide) (by decide +kernel) htarget hparse).1
      rcases proxyWebSocket_of_parse (hupgrades hupgrade) hparse huser with ⟨request, hsent, rfl⟩
      exact ⟨request, hsent, hsame⟩
  · rw [← targetURL_faithful_iff hhost hrest hrequest htarget hquery (.inl rfl), hserve, if_pos hupgrade]
    constructor
    · rintro ⟨request, h, hsame⟩
      exact ⟨request.url, (proxyHTTP_upstream h).1, hsame⟩
    · rintro ⟨u, hparse, hsame⟩
      rcases proxyHTTP_of_parse hparse with ⟨request, hsent, rfl⟩
      exact ⟨request, hsent, hsame⟩

/-- The request for an endpoint, as the server reads it. -/
def endpointRequest (url : URL) : Request where
  method := utf8 "GET"
  path := url.path
  rawQuery := url.rawQuery
  header := Header.empty

/-- The path of the endpoint, with a query. -/
theorem serveHTTP_faithful_apiws : ∃ request,
    (serveHTTP (fun _ => true) {} (endpointRequest
      { path := utf8 "/venus.web.telegram.org/apiws", rawQuery := utf8 "x=1" })).upstream =
        some request ∧
    request.url.escapedPath = apiws ∧ request.url.rawQuery = utf8 "x=1" := by
  have hrequest : parseRequestURI (originForm (utf8 "venus.web.telegram.org") apiws (utf8 "x=1")) =
      some { path := utf8 "/venus.web.telegram.org/apiws", rawQuery := utf8 "x=1" } := rfl
  have htarget : parseTargetPath (trimPrefix (utf8 "/venus.web.telegram.org/apiws")) =
      some (utf8 "venus.web.telegram.org", apiws) := rfl
  exact (serveHTTP_faithful_iff (by decide) (by decide) hrequest htarget rfl rfl (by decide)
    (by decide) (by decide)).mpr ⟨.inr ⟨apiws, rfl, by decide, by decide +kernel, rfl⟩, by decide⟩

/-- An encoded `?` becomes the start of a query. -/
theorem serveHTTP_unfaithful : ∃ url request,
    parseRequestURI (originForm (utf8 "venus.web.telegram.org") (utf8 "/a%3Fb") []) = some url ∧
    parseTargetPath (trimPrefix url.path) = some (utf8 "venus.web.telegram.org", utf8 "/a?b") ∧
    (serveHTTP (fun _ => true) {} (endpointRequest url)).upstream = some request ∧
    request.url.escapedPath = utf8 "/a" ∧ request.url.rawQuery = utf8 "b" ∧
    request.url.escapedPath ≠ utf8 "/a%3Fb" :=
  ⟨_, _, rfl, rfl, rfl, rfl, rfl, by decide⟩

end Wss

end RioGram
