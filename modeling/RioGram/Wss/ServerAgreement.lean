import RioGram.Wss.PathFidelity
import RioGram.Wss.UrlRewriter

/-!
# Do the client and the server agree?

A rewriter puts the host of a URL into the path of another, and the server takes it out again.  They do
not have the same idea of a host, nor of a path.

`serverAgrees_iff` — the server finds the host and the path that a rewriter has put there, unless the host
has more than one label before the domain, the path ends in a slash, or the base URL has a path of its own.
-/

namespace RioGram

open Wire Go Js

namespace Wss

/-! ## The path of a URL -/

/-- What ends the path of a URL: a query or a fragment. -/
def isPathEnd (c : UInt16) : Bool := c = 63 || c = 35

/-- The string up to its query or fragment. -/
def cutPath (s : Str) : Str := s.takeWhile (¬ isPathEnd ·)

/-- The path of a URL, in the generic syntax: what stands behind the scheme and the authority, up to the
query or the fragment. -/
def pathPart (url : Str) : Str :=
  let rest := (url.dropWhile (· ≠ 58)).drop 1
  if [47, 47].isPrefixOf rest then cutPath ((rest.drop 2).dropWhile fun c => c ≠ 47 ∧ ¬ isPathEnd c)
  else cutPath rest

/-- The server takes the host, case aside, and the path, up to the query or the fragment, from the path of
the URL. -/
def ServerAgrees (host path url : Str) : Prop :=
  ∃ host', parseTargetPath (encodeUtf8 (pathPart url)) = some (host', encodeUtf8 (cutPath path)) ∧
    foldCase host' = foldCase (encodeUtf8 host)

lemma cutPath_cons {c : UInt16} (h : isPathEnd c = false) (s : Str) : cutPath (c :: s) = c :: cutPath s := by
  simp [cutPath, h]

lemma cutPath_append {s : Str} (h : ∀ c ∈ s, isPathEnd c = false) (t : Str) :
    cutPath (s ++ t) = s ++ cutPath t := by
  apply List.takeWhile_append_of_pos
  simpa using h

lemma cutPath_append_of_end {s : Str} (h : ∃ c ∈ s, isPathEnd c) (t : Str) :
    cutPath (s ++ t) = cutPath s := by
  induction s with
  | nil => exact absurd h (by simp)
  | cons c s ih =>
      cases hc : isPathEnd c with
      | true => simp [cutPath, hc]
      | false =>
          have hrest : ∃ d ∈ s, isPathEnd d := by simpa [hc] using h
          rw [List.cons_append, cutPath_cons hc, cutPath_cons hc, ih hrest]

lemma pathPart_scheme {scheme : Str} (h : scheme ∈ [Js.ascii "wss:", Js.ascii "ws:"]) (rest : Str) :
    pathPart (scheme ++ rest) =
      if [47, 47].isPrefixOf rest then
        cutPath ((rest.drop 2).dropWhile fun c => c ≠ 47 ∧ ¬ isPathEnd c)
      else cutPath rest := by
  simp only [List.mem_cons, List.not_mem_nil, or_false] at h
  rcases h with rfl | rfl <;> rfl

lemma isBase_not_end {scheme : Str} (h : scheme ∈ [Js.ascii "wss:", Js.ascii "ws:"]) :
    ∀ c ∈ scheme, isPathEnd c = false := by
  simp only [List.mem_cons, List.not_mem_nil, or_false] at h
  rcases h with rfl | rfl <;> exact List.all_iff_forall_prop.mp (by decide)

/-- **The path of a proxied URL** is that of the base URL, with what is put behind it; or that of the base
URL alone, if that has a query or a fragment. -/
lemma pathPart_append {base : Str} (hbase : IsBase base) {c : UInt16} (hc : c ≠ 47) (s : Str) :
    ((∃ d ∈ base, isPathEnd d) → pathPart (base ++ 47 :: c :: s) = pathPart base) ∧
    ((∀ d ∈ base, isPathEnd d = false) →
      pathPart (base ++ 47 :: c :: s) = pathPart base ++ 47 :: cutPath (c :: s)) := by
  rcases hbase with ⟨scheme, hscheme, rfl | ⟨rest, rfl⟩⟩
  · have hend := isBase_not_end hscheme
    constructor
    · rintro ⟨d, hd, hdend⟩
      rw [hend d hd] at hdend
      cases hdend
    · intro _
      have hempty := pathPart_scheme hscheme []
      rw [List.append_nil] at hempty
      have hslash : [47, 47].isPrefixOf (47 :: c :: s) = false := by simp [List.isPrefixOf, hc.symm]
      rw [pathPart_scheme hscheme, hempty, hslash]
      rfl
  · have hauthority (t : Str) : pathPart (scheme ++ 47 :: 47 :: t) =
        cutPath (t.dropWhile fun c => c ≠ 47 ∧ ¬ isPathEnd c) := by
      rw [pathPart_scheme hscheme]
      rfl
    have hdrop : (rest ++ 47 :: c :: s).dropWhile (fun c => c ≠ 47 ∧ ¬ isPathEnd c) =
        rest.dropWhile (fun c => c ≠ 47 ∧ ¬ isPathEnd c) ++ 47 :: c :: s := by
      rw [List.dropWhile_append]
      split_ifs with hnil
      · rw [List.isEmpty_iff.mp hnil]
        simp
      · rfl
    have hsplit : scheme ++ 47 :: 47 :: rest ++ 47 :: c :: s =
        scheme ++ 47 :: 47 :: (rest ++ 47 :: c :: s) := by simp
    rw [hsplit, hauthority, hauthority, hdrop]
    constructor
    · rintro ⟨d, hd, hdend⟩
      have hmem : d ∈ rest := by
        rcases List.mem_append.mp hd with hd | hd
        · rw [isBase_not_end hscheme d hd] at hdend
          cases hdend
        · simp only [List.mem_cons] at hd
          rcases hd with rfl | rfl | hd
          · exact absurd hdend (by decide)
          · exact absurd hdend (by decide)
          · exact hd
      rw [← List.takeWhile_append_dropWhile (p := fun c => c ≠ 47 ∧ ¬ isPathEnd c) (l := rest)] at hmem
      rcases List.mem_append.mp hmem with hmem | hmem
      · have hkept := List.mem_takeWhile_imp hmem
        simp [hdend] at hkept
      · exact cutPath_append_of_end ⟨d, hmem, hdend⟩ _
    · intro hend
      have hkept : ∀ d ∈ rest.dropWhile (fun c => c ≠ 47 ∧ ¬ isPathEnd c), isPathEnd d = false := by
        intro d hd
        apply hend
        have := (List.dropWhile_suffix _).subset hd
        simp [this]
      rw [cutPath_append hkept]
      have hall := cutPath_append hkept []
      rw [List.append_nil] at hall
      rw [hall]
      simp [cutPath, isPathEnd]

/-! ## What the server makes of it -/

lemma parseTargetPath_slashes {slashes : Bytes} (h : ∀ b ∈ slashes, b = 47) (path : Bytes) :
    parseTargetPath (slashes ++ path) = parseTargetPath path := by
  have htrim : trimSlashes (slashes ++ path) = trimSlashes path := by
    rw [trimSlashes, trimSlashes, List.dropWhile_append_of_pos]
    simpa using h
  simp only [parseTargetPath, htrim]

/-- A host in front, and a path behind it. -/
lemma parseTargetPath_append {host : Bytes} (hne : host ≠ []) (hslash : 47 ∉ host) (path : Bytes) :
    parseTargetPath (host ++ 47 :: path) =
      if telegramHostPattern host then
        some (host, if (47 :: path).rdropWhile (· = 47) = [] then apiws
          else (47 :: path).rdropWhile (· = 47))
      else none := by
  have htrim := trimSlashes_append hne hslash (47 :: path)
  have hbefore : before 47 (trimSlashes (host ++ 47 :: path)) = host := by
    have hstart := List.rdropWhile_prefix (· = 47) (47 :: path)
    rw [htrim, before_append hslash]
    rcases hrest : (47 :: path).rdropWhile (· = 47) with _ | ⟨c, rest⟩ <;> rw [hrest]
    · simp [before]
    · rw [hrest] at hstart
      rw [(List.cons_prefix_cons.mp hstart).1, before_sep, List.append_nil]
  have hnonempty : trimSlashes (host ++ 47 :: path) ≠ [] := by
    rw [htrim]
    simp [hne]
  have hparse : parseTargetPath (host ++ 47 :: path) =
      if telegramHostPattern host then
        some (host, if after 47 (trimSlashes (host ++ 47 :: path)) = [] then apiws
          else 47 :: after 47 (trimSlashes (host ++ 47 :: path)))
      else none := by
    simp only [parseTargetPath, if_neg hnonempty, hbefore]
    split_ifs <;> simp_all
  by_cases hpattern : telegramHostPattern host
  · rw [if_pos hpattern] at hparse ⊢
    rw [hparse, parseTargetPath_host (telegramHostPattern_plain hpattern).2 hparse]
  · rw [hparse, if_neg hpattern, if_neg hpattern]

lemma after_suffix (sep : UInt8) (s : Bytes) : after sep s <:+ s :=
  (List.drop_suffix 1 _).trans (List.dropWhile_suffix _)

lemma getLast?_of_suffix {s t : Bytes} (h : s <:+ t) (hne : s ≠ []) : t.getLast? = s.getLast? := by
  rcases h with ⟨front, rfl⟩
  rw [List.getLast?_append, List.getLast?_eq_some_getLast hne, Option.some_or]

lemma trimSlashes_getLast? (path : Bytes) : (trimSlashes path).getLast? ≠ some 47 := by
  intro hlast
  rw [trimSlashes] at hlast
  have hne : (path.dropWhile (· = 47)).rdropWhile (· = 47) ≠ [] := by
    intro hnil
    rw [hnil] at hlast
    cases hlast
  have hnot := List.rdropWhile_last_not _ _ hne
  rw [List.getLast?_eq_some_getLast hne, Option.some_inj] at hlast
  simp [hlast] at hnot

/-- No path that the server finds ends in a slash. -/
lemma parseTargetPath_getLast? {path host targetPath : Bytes}
    (h : parseTargetPath path = some (host, targetPath)) : targetPath.getLast? ≠ some 47 := by
  rcases parseTargetPath_some h with ⟨-, -, rfl⟩
  split_ifs with hempty
  · decide
  · rw [getLast?_of_suffix (List.suffix_cons 47 _) hempty,
      ← getLast?_of_suffix (after_suffix 47 (trimSlashes path)) hempty]
    exact trimSlashes_getLast? path

/-- What stands behind a separator stands behind the first one. -/
lemma suffix_after (sep : UInt8) (s t : Bytes) : t <:+ after sep (s ++ sep :: t) := by
  induction s with
  | nil =>
      rw [List.nil_append, after_sep]
  | cons c s ih =>
      rw [List.cons_append]
      by_cases hc : c = sep
      · rw [hc, after_sep]
        exact (List.suffix_cons sep t).trans (List.suffix_append s _)
      · rw [after_cons hc]
        exact ih

/-- A path is not found behind another one. -/
lemma parseTargetPath_front {front host path host' : Bytes} (hfront : ∃ b ∈ front, b ≠ 47)
    (hhost : host ≠ []) (hpath : path ≠ []) :
    parseTargetPath (front ++ 47 :: (host ++ path)) ≠ some (host', path) := by
  intro h
  have hlast := parseTargetPath_getLast? h
  rcases parseTargetPath_some h with ⟨-, -, htarget⟩
  have htrim : trimSlashes (front ++ 47 :: (host ++ path)) =
      front.dropWhile (· = 47) ++ 47 :: (host ++ path) := by
    have hdrop : (front ++ 47 :: (host ++ path)).dropWhile (· = 47) =
        front.dropWhile (· = 47) ++ 47 :: (host ++ path) := by
      rw [List.dropWhile_append, if_neg]
      rw [List.isEmpty_iff, List.dropWhile_eq_nil_iff]
      rcases hfront with ⟨b, hb, hne⟩
      intro hall
      simpa [hne] using hall b hb
    rw [trimSlashes, hdrop]
    refine List.rdropWhile_eq_self_iff.mpr fun hne => ?_
    have hsuffix : path <:+ front.dropWhile (· = 47) ++ 47 :: (host ++ path) :=
      ((List.suffix_append host path).trans (List.suffix_cons 47 _)).trans (List.suffix_append _ _)
    have hsame := getLast?_of_suffix hsuffix hpath
    rw [List.getLast?_eq_some_getLast hne] at hsame
    intro hslash
    rw [decide_eq_true_eq] at hslash
    rw [hslash] at hsame
    exact hlast hsame.symm
  have hlong := (suffix_after 47 (front.dropWhile (· = 47)) (host ++ path)).length_le
  rw [← htrim] at hlong
  have hpos := List.length_pos_iff.mpr hhost
  split_ifs at htarget with hempty
  · rw [hempty, List.length_append] at hlong
    simp only [List.length_nil] at hlong
    omega
  · have hlength := congrArg List.length htarget
    simp at hlong hlength
    omega

/-! ## What the client has put there -/

/-- The host, one that the server knows, the path up to its end, and a base URL with nothing behind its
authority; or else a base URL whose own path, which ends there, is one that the server reads in the same
way. -/
def ServerAgreesWhen (base host path : Str) : Prop :=
  (telegramHostPattern (encodeUtf8 host) ∧ (cutPath path).getLast? ≠ some 47 ∧
    (∀ c ∈ base, isPathEnd c = false) ∧ ∀ c ∈ pathPart base, c = 47) ∨
  (∃ c ∈ base, isPathEnd c) ∧ ServerAgrees host path base

section Server

variable {base host tail : Str} (hbase : IsBase base) (hhost : IsHost host)

include hhost

lemma isAscii_of_isHost : ∀ c ∈ host, c.toNat < 0x80 := by
  intro c hc
  have := (isVisible_of_isHostUnit (hhost.units c hc)).2
  omega

lemma encodeUtf8_host (s : Str) : encodeUtf8 (host ++ s) = host.map UInt16.toUInt8 ++ encodeUtf8 s :=
  encodeUtf8_ascii_append (isAscii_of_isHost hhost) s

lemma encodeUtf8_host_self : encodeUtf8 host = host.map UInt16.toUInt8 := by
  simpa [encodeUtf8] using encodeUtf8_host hhost []

lemma isHost_ne_nil : host ≠ [] := by
  rintro rfl
  exact absurd hhost.telegram (by decide)

lemma slash_not_mem_host : 47 ∉ host.map UInt16.toUInt8 := by
  intro hmem
  rcases List.mem_map.mp hmem with ⟨c, hc, hslash⟩
  have hascii := isAscii_of_isHost hhost c hc
  have hnat := congrArg UInt8.toNat hslash
  simp only [UInt16.toNat_toUInt8, UInt8.reduceToNat] at hnat
  have hsame : c = 47 := UInt16.toNat_inj.mp (by simp only [UInt16.reduceToNat]; omega)
  have hunit := hhost.units c hc
  rw [hsame] at hunit
  exact absurd hunit (by decide)

lemma exists_host_cons : ∃ c others, host = c :: others ∧ c ≠ 47 := by
  rcases List.exists_cons_of_ne_nil (isHost_ne_nil hhost) with ⟨c, others, rfl⟩
  refine ⟨c, others, rfl, ?_⟩
  rintro rfl
  exact absurd (hhost.units 47 List.mem_cons_self) (by decide)

include hbase

/-- **What the server is given**: the path of the base URL, the host and the path. -/
lemma encodeUtf8_pathPart (hend : ∀ c ∈ base, isPathEnd c = false) :
    encodeUtf8 (pathPart (base ++ 47 :: (host ++ 47 :: tail))) =
      encodeUtf8 (pathPart base) ++
        47 :: (host.map UInt16.toUInt8 ++ encodeUtf8 (cutPath (47 :: tail))) := by
  have hunits : ∀ c ∈ host, isPathEnd c = false := by
    intro c hc
    cases hcend : isPathEnd c with
    | false => rfl
    | true =>
        have hunit := hhost.units c hc
        simp only [isPathEnd, Bool.or_eq_true, decide_eq_true_eq] at hcend
        rcases hcend with rfl | rfl <;> exact absurd hunit (by decide)
  have hpath : pathPart (base ++ 47 :: (host ++ 47 :: tail)) =
      pathPart base ++ 47 :: (host ++ cutPath (47 :: tail)) := by
    rw [← cutPath_append hunits]
    rcases exists_host_cons hhost with ⟨c, others, rfl, hc⟩
    exact (pathPart_append hbase hc _).2 hend
  rw [hpath, encodeUtf8_append _ (by decide), encodeUtf8_cons (by decide), encodeUtf8_host hhost]
  rfl

end Server

/-- The path that is put behind the host starts with a slash. -/
lemma IsPath.exists_tail {path : Option Str} (h : IsPath path) :
    ∃ tail, path.getD (Js.ascii "/apiws") = 47 :: tail := by
  rcases path with _ | path
  · exact ⟨Js.ascii "apiws", rfl⟩
  · rcases h path rfl with ⟨tail, rfl, -⟩
    exact ⟨tail, rfl⟩

/-- A base URL with a path of its own hides the host. -/
lemma not_serverAgrees_of_path {base host tail : Str} (hbase : IsBase base) (hhost : IsHost host)
    (hend : ∀ c ∈ base, isPathEnd c = false) {c : UInt16} (hc : c ∈ pathPart base) (hne : c ≠ 47) :
    ¬ ServerAgrees host (47 :: tail) (base ++ 47 :: (host ++ 47 :: tail)) := by
  rintro ⟨host', hparse, -⟩
  rw [encodeUtf8_pathPart hbase hhost hend] at hparse
  have hfront : ∃ b ∈ encodeUtf8 (pathPart base), b ≠ 47 := by
    rcases exists_mem_encodeUtf8 hc with ⟨b, hb, ⟨rfl, hascii⟩ | hlarge⟩
    · refine ⟨_, hb, fun hslash => hne ?_⟩
      have hnat := congrArg UInt8.toNat hslash
      simp only [UInt16.toNat_toUInt8, UInt8.reduceToNat] at hnat
      exact UInt16.toNat_inj.mp (by simp only [UInt16.reduceToNat]; omega)
    · refine ⟨b, hb, ?_⟩
      rintro rfl
      exact absurd hlarge (by decide)
  have hpath : encodeUtf8 (cutPath (47 :: tail)) ≠ [] := by
    rw [cutPath_cons rfl]
    exact encodeUtf8_ne_nil (List.cons_ne_nil _ _)
  have hhostNe : host.map UInt16.toUInt8 ≠ [] := by simpa using isHost_ne_nil hhost
  exact parseTargetPath_front hfront hhostNe hpath hparse

/-- What the server finds behind a base URL without a path. -/
lemma parseTargetPath_proxied {base host tail : Str} (hbase : IsBase base) (hhost : IsHost host)
    (hend : ∀ c ∈ base, isPathEnd c = false) (hslashes : ∀ c ∈ pathPart base, c = 47) :
    parseTargetPath (encodeUtf8 (pathPart (base ++ 47 :: (host ++ 47 :: tail)))) =
      if telegramHostPattern (encodeUtf8 host) then
        some (encodeUtf8 host,
          if (encodeUtf8 (cutPath (47 :: tail))).rdropWhile (· = 47) = [] then apiws
          else (encodeUtf8 (cutPath (47 :: tail))).rdropWhile (· = 47))
      else none := by
  have hfront : ∀ b ∈ encodeUtf8 (pathPart base) ++ [47], b = 47 := by
    have hascii : ∀ c ∈ pathPart base, c.toNat < 0x80 := by
      intro c hc
      rw [hslashes c hc]
      decide
    have hmap := encodeUtf8_ascii_append hascii []
    rw [List.append_nil, encodeUtf8, List.append_nil] at hmap
    intro b hb
    rcases List.mem_append.mp hb with hb | hb
    · rw [hmap] at hb
      rcases List.mem_map.mp hb with ⟨c, hc, rfl⟩
      rw [hslashes c hc]
      rfl
    · exact List.mem_singleton.mp hb
  have hhostNe : host.map UInt16.toUInt8 ≠ [] := by simpa using isHost_ne_nil hhost
  have hsplit (front rest : Bytes) : front ++ 47 :: rest = front ++ [47] ++ rest := by simp
  rw [encodeUtf8_pathPart hbase hhost hend, hsplit, parseTargetPath_slashes hfront, cutPath_cons rfl,
    encodeUtf8_cons (by decide), encodeUtf8_host_self hhost]
  exact parseTargetPath_append hhostNe (slash_not_mem_host hhost) _

/-- **The client and the server agree** exactly under the condition above. -/
theorem serverAgrees_iff {r : Rewriter} {url host base : Str} {path : Option Str}
    (hmatch : telegramMatch (r.rawUrl url) = some (host, path)) (hbase : r.proxyBase = some base) :
    ServerAgrees host (path.getD (Js.ascii "/apiws")) (r.rewriteUrl url) ↔
      ServerAgreesWhen base host (path.getD (Js.ascii "/apiws")) := by
  rcases telegramMatch_iff.mp hmatch with ⟨hhost, hpath, -⟩
  have hisBase := Rewriter.isBase hbase
  rw [Rewriter.rewriteUrl_of_some hmatch hbase, proxied]
  obtain ⟨tail, htail⟩ := hpath.exists_tail
  rw [htail]
  by_cases hend : ∃ c ∈ base, isPathEnd c
  · -- the path of the base URL is all that the server is given
    have hsame : pathPart (base ++ 47 :: (host ++ 47 :: tail)) = pathPart base := by
      rcases exists_host_cons hhost with ⟨c, others, rfl, hc⟩
      exact (pathPart_append hisBase hc _).1 hend
    rw [ServerAgrees, hsame]
    constructor
    · exact fun h => .inr ⟨hend, h⟩
    · rintro (⟨-, -, hclean, -⟩ | ⟨-, h⟩)
      · rcases hend with ⟨c, hc, hcend⟩
        rw [hclean c hc] at hcend
        cases hcend
      · exact h
  · have hclean : ∀ c ∈ base, isPathEnd c = false := by
      intro c hc
      exact Bool.eq_false_iff.mpr fun h => hend ⟨c, hc, h⟩
    by_cases hslashes : ∀ c ∈ pathPart base, c = 47
    · have hparse := @parseTargetPath_proxied base host tail hisBase hhost hclean hslashes
      constructor
      · rintro ⟨host', h, -⟩
        rw [hparse] at h
        by_cases hpattern : telegramHostPattern (encodeUtf8 host)
        · rw [if_pos hpattern, Option.some_inj, Prod.mk.injEq] at h
          refine .inl ⟨hpattern, fun hlast => ?_, hclean, hslashes⟩
          exact getLast?_of_trimmed h.2 ((getLast?_encodeUtf8 (by decide)).mpr hlast)
        · rw [if_neg hpattern] at h
          cases h
      · rintro (⟨hpattern, hlast, -, -⟩ | ⟨h, -⟩)
        · have hkept : (encodeUtf8 (cutPath (47 :: tail))).rdropWhile (· = 47) =
              encodeUtf8 (cutPath (47 :: tail)) := by
            refine List.rdropWhile_eq_self_iff.mpr fun hne hslash => hlast ?_
            have hlastByte : (encodeUtf8 (cutPath (47 :: tail))).getLast? = some 47 := by
              rw [List.getLast?_eq_some_getLast hne, decide_eq_true_eq.mp hslash]
            exact (getLast?_encodeUtf8 (c := 47) (by decide)).mp hlastByte
          have hne : encodeUtf8 (cutPath (47 :: tail)) ≠ [] := by
            rw [cutPath_cons rfl]
            exact encodeUtf8_ne_nil (List.cons_ne_nil _ _)
          refine ⟨encodeUtf8 host, ?_, rfl⟩
          rw [hparse, if_pos hpattern, hkept, if_neg hne]
        · exact absurd h hend
    · obtain ⟨c, hc, hne⟩ := by simpa using hslashes
      refine iff_of_false (not_serverAgrees_of_path hisBase hhost hclean hc hne) ?_
      rintro (⟨-, -, -, h⟩ | ⟨h, -⟩)
      · exact hne (h c hc)
      · exact hend h

/-- A proxy without a path of its own. -/
def proxyRewriter : Rewriter := .dart { enabled := true, url := Js.ascii "https://proxy.example/" }

/-- The endpoint of a data center is found. -/
theorem serverAgrees_venus :
    ServerAgrees (Js.ascii "venus.web.telegram.org") (Js.ascii "/apiws")
      (proxyRewriter.rewriteUrl (Js.ascii "wss://venus.web.telegram.org:443/apiws")) := by
  have hmatch : telegramMatch (proxyRewriter.rawUrl (Js.ascii "wss://venus.web.telegram.org:443/apiws")) =
      some (Js.ascii "venus.web.telegram.org", some (Js.ascii "/apiws")) := by decide
  have hbase : proxyRewriter.proxyBase = some (Js.ascii "wss://proxy.example") := by decide
  exact (serverAgrees_iff hmatch hbase).mpr (.inl ⟨by decide, by decide,
    List.all_iff_forall_prop.mp (by decide), List.all_iff_forall_prop.mp (by decide)⟩)

/-- **A host of two labels** is proxied by the client and refused by the server. -/
theorem server_refuses_labels :
    proxyRewriter.rewriteUrl (Js.ascii "wss://a.b.telegram.org/apiws") =
      Js.ascii "wss://proxy.example/a.b.telegram.org/apiws" ∧
    parseTargetPath (encodeUtf8 (pathPart (Js.ascii "wss://proxy.example/a.b.telegram.org/apiws"))) = none ∧
    ¬ ServerAgrees (Js.ascii "a.b.telegram.org") (Js.ascii "/apiws")
      (proxyRewriter.rewriteUrl (Js.ascii "wss://a.b.telegram.org/apiws")) := by
  have hrewrite : proxyRewriter.rewriteUrl (Js.ascii "wss://a.b.telegram.org/apiws") =
      Js.ascii "wss://proxy.example/a.b.telegram.org/apiws" := by decide
  have hrefused :
      parseTargetPath (encodeUtf8 (pathPart (Js.ascii "wss://proxy.example/a.b.telegram.org/apiws"))) =
        none := by decide
  refine ⟨hrewrite, hrefused, ?_⟩
  rintro ⟨host', h, -⟩
  rw [hrewrite, hrefused] at h
  exact nomatch h

end Wss

end RioGram
