import Mathlib.Data.List.TakeWhile
import Mathlib.Tactic.IntervalCases
import RioGram.Core.Wire

/-!
# The package `net/url`

Parsing of URLs as Go does it, on byte strings: a URL is cut at `#` and `?`, the authority is what
stands between `//` and the next slash, and the path is percent-decoded, with the encoded form kept
beside it where the decoded one does not determine it.  Errors are not told apart.

* `parse_absolute` — what `parse` makes of a scheme, a plain host, a path and a query in a row.
* `escapedPath_of_setPath` — the path that is sent for a URL, in terms of the path it was parsed from.

Hosts in brackets are not read.
-/

namespace Go

open Wire

/-! ## Cutting strings -/

/-- The part before the first `sep`, or all there is. -/
def before (sep : UInt8) (s : Bytes) : Bytes := s.takeWhile (· ≠ sep)

/-- The part after the first `sep`, or nothing. -/
def after (sep : UInt8) (s : Bytes) : Bytes := (s.dropWhile (· ≠ sep)).drop 1

lemma before_append {sep : UInt8} {s : Bytes} (h : sep ∉ s) (t : Bytes) :
    before sep (s ++ t) = s ++ before sep t := by
  induction s with
  | nil => rfl
  | cons c s ih =>
      rw [List.mem_cons, not_or] at h
      simp only [before] at ih ⊢
      simpa [Ne.symm h.1] using ih h.2

lemma after_append {sep : UInt8} {s : Bytes} (h : sep ∉ s) (t : Bytes) :
    after sep (s ++ t) = after sep t := by
  induction s with
  | nil => rfl
  | cons c s ih =>
      rw [List.mem_cons, not_or] at h
      simp only [after] at ih ⊢
      simpa [Ne.symm h.1] using ih h.2

@[simp] lemma before_sep (sep : UInt8) (t : Bytes) : before sep (sep :: t) = [] := by
  simp [before]

@[simp] lemma after_sep (sep : UInt8) (t : Bytes) : after sep (sep :: t) = t := by
  simp [after]

lemma before_of_not_mem {sep : UInt8} {s : Bytes} (h : sep ∉ s) : before sep s = s := by
  simpa [before] using before_append h []

lemma after_of_not_mem {sep : UInt8} {s : Bytes} (h : sep ∉ s) : after sep s = [] := by
  simpa [after] using after_append h []

lemma not_mem_before (sep : UInt8) (s : Bytes) : sep ∉ before sep s := by
  intro h
  simpa using List.mem_takeWhile_imp h

/-- A string that starts with another byte still does when it is cut. -/
lemma before_cons {sep c : UInt8} (h : c ≠ sep) (t : Bytes) : before sep (c :: t) = c :: before sep t := by
  simp [before, h]

lemma after_cons {sep c : UInt8} (h : c ≠ sep) (t : Bytes) : after sep (c :: t) = after sep t := by
  simp [after, h]

/-! ## Percent encoding -/

def isAlphanumeric (c : UInt8) : Bool :=
  (97 ≤ c && c ≤ 122) || (65 ≤ c && c ≤ 90) || (48 ≤ c && c ≤ 57)

/-- `unhex` of a byte that `ishex` lets through. -/
def unhex (c : UInt8) : Option UInt8 :=
  if 48 ≤ c && c ≤ 57 then some (c - 48)
  else if 97 ≤ c && c ≤ 102 then some (c - 87)
  else if 65 ≤ c && c ≤ 70 then some (c - 55)
  else none

/-- `unescape` for paths and fragments. -/
def unescape : Bytes → Option Bytes
  | [] => some []
  | c :: s =>
      if c = 37 then
        match s with
        | a :: b :: t => (unhex a).bind fun x => (unhex b).bind fun y =>
            (unescape t).map ((x * 16 + y) :: ·)
        | _ => none
      else (unescape s).map (c :: ·)

/-- `shouldEscape` for paths: `-_.~$&+,/:;=@` and letters and digits are left as they are. -/
def shouldEscape (c : UInt8) : Bool :=
  !(isAlphanumeric c || [45, 95, 46, 126, 36, 38, 43, 44, 47, 58, 59, 61, 64].contains c)

/-- A digit of `upperhex`. -/
def upperhex (n : UInt8) : UInt8 := if n < 10 then n + 48 else n + 55

/-- `escape` for paths. -/
def escape (s : Bytes) : Bytes :=
  s.flatMap fun c => if shouldEscape c then [37, upperhex (c / 16), upperhex (c % 16)] else [c]

/-- A byte that `validEncoded` lets through: `!'()*[]%` besides those that are not escaped. -/
def isValidEncoded (c : UInt8) : Bool := [33, 39, 40, 41, 42, 91, 93, 37].contains c || !shouldEscape c

/-- `validEncoded` for paths. -/
def validEncoded (s : Bytes) : Bool := s.all isValidEncoded

lemma unhex_upperhex {n : UInt8} (h : n.toNat < 16) : unhex (upperhex n) = some n := by
  obtain ⟨k, hk, rfl⟩ : ∃ k < 16, n = UInt8.ofNat k := ⟨n.toNat, h, by simp⟩
  interval_cases k <;> rfl

lemma unescape_cons {c : UInt8} (h : c ≠ 37) (s : Bytes) :
    unescape (c :: s) = (unescape s).map (c :: ·) := by
  rw [unescape.eq_def]
  exact if_neg h

/-- An encoded byte is decoded. -/
lemma unescape_escaped (c : UInt8) (s : Bytes) :
    unescape (37 :: upperhex (c / 16) :: upperhex (c % 16) :: s) = (unescape s).map (c :: ·) := by
  have hhigh : (c / 16).toNat < 16 := by
    have := c.toNat_lt
    simp only [UInt8.toNat_div, UInt8.reduceToNat]
    omega
  have hlow : (c % 16).toNat < 16 := by
    simp only [UInt8.toNat_mod, UInt8.reduceToNat]
    omega
  have hbyte : c / 16 * 16 + c % 16 = c := by
    have := c.toNat_lt
    apply UInt8.toNat_inj.mp
    simp only [UInt8.toNat_add, UInt8.toNat_mul, UInt8.toNat_div, UInt8.toNat_mod, UInt8.reduceToNat]
    omega
  simp [unescape, unhex_upperhex hhigh, unhex_upperhex hlow, hbyte]

lemma not_shouldEscape_ne {c : UInt8} (h : shouldEscape c = false) : c ≠ 37 := by
  rintro rfl
  exact absurd h (by decide)

lemma escape_cons (c : UInt8) (s : Bytes) :
    escape (c :: s) =
      (if shouldEscape c then [37, upperhex (c / 16), upperhex (c % 16)] else [c]) ++ escape s := rfl

/-- **Decoding undoes encoding.** -/
lemma unescape_escape (s : Bytes) : unescape (escape s) = some s := by
  induction s with
  | nil => rfl
  | cons c s ih =>
      rw [escape_cons]
      cases h : shouldEscape c with
      | false => simp [unescape_cons (not_shouldEscape_ne h), ih]
      | true => simp [unescape_escaped, ih]

/-- A string without escapes stands for itself. -/
lemma unescape_of_not_mem {s : Bytes} (h : 37 ∉ s) : unescape s = some s := by
  induction s with
  | nil => rfl
  | cons c s ih =>
      rw [List.mem_cons, not_or] at h
      rw [unescape_cons (Ne.symm h.1), ih h.2]
      rfl

/-- Decoding does not make a string longer, and shorter if there is anything to decode. -/
lemma length_unescape {s t : Bytes} (h : unescape s = some t) :
    t.length ≤ s.length ∧ (t.length = s.length → 37 ∉ s) := by
  induction s using unescape.induct generalizing t with
  | case1 =>
      cases h
      simp
  | case2 a b s ih =>
      simp only [unescape, if_true, Option.bind_eq_some_iff, Option.map_eq_some_iff] at h
      rcases h with ⟨x, -, y, -, u, hu, rfl⟩
      have := (ih hu).1
      simp only [List.length_cons]
      omega
  | case3 s hs =>
      simp only [unescape, if_true] at h
      exact nomatch h
  | case4 c s hc ih =>
      rw [unescape_cons hc] at h
      rcases Option.map_eq_some_iff.mp h with ⟨u, hu, rfl⟩
      have hlength := ih hu
      simp only [List.length_cons, List.mem_cons, not_or, add_left_inj]
      refine ⟨by omega, ?_⟩
      intro hsame
      exact ⟨Ne.symm hc, hlength.2 hsame⟩

/-! ## `URL` -/

structure URL where
  scheme : Bytes := []
  /-- `Opaque` -/
  rootless : Bytes := []
  user : Option (Bytes × Option Bytes) := none
  host : Bytes := []
  path : Bytes := []
  rawPath : Bytes := []
  forceQuery : Bool := false
  rawQuery : Bytes := []
  fragment : Bytes := []
  deriving DecidableEq, Repr

/-- `EscapedPath`. -/
def URL.escapedPath (u : URL) : Bytes :=
  if u.rawPath ≠ [] ∧ validEncoded u.rawPath ∧ unescape u.rawPath = some u.path then u.rawPath
  else if u.path = [42] then [42]
  else escape u.path

/-! ## `Parse` -/

def isLetter (c : UInt8) : Bool := (97 ≤ c && c ≤ 122) || (65 ≤ c && c ≤ 90)

def toLower (c : UInt8) : UInt8 := if 65 ≤ c && c ≤ 90 then c + 32 else c

/-- `getScheme`: the scheme and what follows its colon. -/
def getScheme (raw : Bytes) : Option (Bytes × Bytes) :=
  let scheme := raw.takeWhile fun c => isAlphanumeric c || c = 43 || c = 45 || c = 46
  match raw.dropWhile fun c => isAlphanumeric c || c = 43 || c = 45 || c = 46 with
  | [] => some ([], raw)
  | c :: rest =>
      if c ≠ 58 then some ([], raw)
      else match scheme with
      | [] => none
      | first :: _ => some (if isLetter first then (scheme, rest) else ([], raw))

/-- A byte that `unescape` lets through in a host: any beyond ASCII, and `!$&'()*+,;=:[]<>"-_.~`
besides letters and digits. -/
def isHostByte (c : UInt8) : Bool :=
  128 ≤ c || isAlphanumeric c ||
    [33, 36, 38, 39, 40, 41, 42, 43, 44, 59, 61, 58, 91, 93, 60, 62, 34, 45, 95, 46, 126].contains c

/-- `unescape` for hosts, where only what is not ASCII may be encoded. -/
def unescapeHost : Bytes → Option Bytes
  | [] => some []
  | c :: s =>
      if c = 37 then
        match s with
        | a :: b :: t => (unhex a).bind fun x => (unhex b).bind fun y =>
            if x < 8 ∧ ¬(a = 50 ∧ b = 53) then none else (unescapeHost t).map ((x * 16 + y) :: ·)
        | _ => none
      else if isHostByte c then (unescapeHost s).map (c :: ·)
      else none

/-- `validOptionalPort` of what follows the last colon of a host. -/
def validPort (host : Bytes) : Bool :=
  if 58 ∈ host then (before 58 host.reverse).all fun c => 48 ≤ c && c ≤ 57 else true

/-- `parseHost`. -/
def parseHost (host : Bytes) : Option Bytes :=
  if host.head? = some 91 then none
  else if validPort host then unescapeHost host
  else none

/-- `validUserinfo`: `-._:~!$&'()*+,;=%@` and letters and digits. -/
def validUserinfo (s : Bytes) : Bool :=
  s.all fun c => isAlphanumeric c ||
    [45, 46, 95, 58, 126, 33, 36, 38, 39, 40, 41, 42, 43, 44, 59, 61, 37, 64].contains c

/-- `parseAuthority`: what stands before the last `@` is a user name, with a password after its first
colon. -/
def parseAuthority (authority : Bytes) : Option (Option (Bytes × Option Bytes) × Bytes) :=
  if 64 ∈ authority then
    let host := (before 64 authority.reverse).reverse
    let userinfo := (after 64 authority.reverse).reverse
    (parseHost host).bind fun host =>
      if ¬ validUserinfo userinfo then none
      else if 58 ∈ userinfo then
        (unescape (before 58 userinfo)).bind fun username =>
          (unescape (after 58 userinfo)).map fun password => (some (username, some password), host)
      else (unescape userinfo).map fun username => (some (username, none), host)
  else (parseHost authority).map fun host => (none, host)

/-- `setPath`: the decoded path, and the encoded one if it is not the default encoding. -/
def setPath (p : Bytes) : Option (Bytes × Bytes) :=
  (unescape p).map fun path => (path, if p = escape path then [] else p)

/-- `stringContainsCTLByte`. -/
def isCtl (c : UInt8) : Bool := c < 32 || c = 127

/-- `parse`, of a URL without a fragment.  A `?` at the end, if it is the only one, is remembered in
`forceQuery`. -/
def parseUrl (viaRequest : Bool) (raw : Bytes) : Option URL :=
  if raw.any isCtl then none
  else if raw = [] ∧ viaRequest then none
  else if raw = [42] then some { path := [42] }
  else (getScheme raw).bind fun (scheme, rest) =>
    let scheme := scheme.map toLower
    let forceQuery := decide (63 ∈ rest ∧ after 63 rest = [])
    let rawQuery := after 63 rest
    let rest := before 63 rest
    let withPath (user : Option (Bytes × Option Bytes)) (host rest : Bytes) : Option URL :=
      (setPath rest).map fun (path, rawPath) =>
        { scheme, user, host, path, rawPath, forceQuery, rawQuery }
    if rest.head? ≠ some 47 ∧ scheme ≠ [] then some { scheme, rootless := rest, forceQuery, rawQuery }
    else if rest.head? ≠ some 47 ∧ viaRequest then none
    else if rest.head? ≠ some 47 ∧ 58 ∈ before 47 rest then none
    else if (scheme ≠ [] ∨ ¬ viaRequest ∧ rest.take 3 ≠ [47, 47, 47]) ∧ rest.take 2 = [47, 47] then
      let authority := rest.drop 2
      (parseAuthority (before 47 authority)).bind fun (user, host) =>
        withPath user host (authority.dropWhile (· ≠ 47))
    else withPath none [] rest

/-- `Parse`. -/
def parse (raw : Bytes) : Option URL :=
  (parseUrl false (before 35 raw)).bind fun u =>
    (unescape (after 35 raw)).map fun fragment => { u with fragment }

/-- `ParseRequestURI`. -/
def parseRequestURI (raw : Bytes) : Option URL := parseUrl true raw

/-! ## The path that is sent -/

/-- **The path that is sent** for a URL that was parsed: the path it was parsed from, where that is
well formed, or else the default encoding of the decoded path. -/
lemma escapedPath_of_setPath {u : URL} {p : Bytes} (h : setPath (47 :: p) = some (u.path, u.rawPath)) :
    u.escapedPath = if validEncoded (47 :: p) then 47 :: p else escape u.path := by
  rcases Option.map_eq_some_iff.mp h with ⟨path, hpath, hpair⟩
  injection hpair with hsame hraw
  subst hsame
  have hstar : u.path ≠ [42] := by
    intro hstar
    rw [hstar, unescape_cons (by decide)] at hpath
    rcases Option.map_eq_some_iff.mp hpath with ⟨t, -, ht⟩
    exact absurd ht (by simp)
  rw [URL.escapedPath, if_neg hstar, ← hraw]
  by_cases hdefault : 47 :: p = escape u.path
  · rw [if_pos hdefault, if_neg (by simp), ← hdefault, ite_self]
  · rw [if_neg hdefault]
    by_cases hvalid : validEncoded (47 :: p)
    · rw [if_pos ⟨by simp, hvalid, hpath⟩, if_pos hvalid]
    · rw [if_neg (fun h => hvalid h.2.1), if_neg hvalid]

/-! ## Plain URLs -/

/-- A byte that stands for itself in a host, and does not end it. -/
def IsPlain (c : UInt8) : Prop := 128 ≤ c ∨ isAlphanumeric c ∨ c = 45 ∨ c = 46

lemma IsPlain.ne {c d : UInt8} (h : IsPlain c) (hd : ¬ IsPlain d) : c ≠ d := by
  rintro rfl
  exact hd h

lemma not_mem_of_plain {host : Bytes} (h : ∀ c ∈ host, IsPlain c) {d : UInt8} (hd : ¬ IsPlain d) :
    d ∉ host := fun hmem => hd (h d hmem)

lemma parseAuthority_plain {host : Bytes} (h : ∀ c ∈ host, IsPlain c) :
    parseAuthority host = some (none, host) := by
  have hat : 64 ∉ host := not_mem_of_plain h (by simp [IsPlain, isAlphanumeric])
  have hcolon : 58 ∉ host := not_mem_of_plain h (by simp [IsPlain, isAlphanumeric])
  have hbracket : host.head? ≠ some 91 := by
    intro hhead
    exact not_mem_of_plain h (by simp [IsPlain, isAlphanumeric]) (List.mem_of_mem_head? hhead)
  have hhost : unescapeHost host = some host := by
    clear hat hcolon hbracket
    induction host with
    | nil => rfl
    | cons c host ih =>
        have hc := h c List.mem_cons_self
        have hpercent : c ≠ 37 := hc.ne (by simp [IsPlain, isAlphanumeric])
        have hbyte : isHostByte c := by
          rcases hc with hc | hc | rfl | rfl <;> simp_all [isHostByte]
        rw [unescapeHost.eq_def]
        simp only [hpercent, if_false, hbyte, if_true]
        rw [ih fun d hd => h d (List.mem_cons_of_mem _ hd)]
        rfl
  simp [parseAuthority, hat, parseHost, hbracket, validPort, hcolon, hhost]

/-- The schemes below, with the colon and the slashes. -/
def schemePrefix (scheme : Bytes) : Bytes := scheme ++ [58, 47, 47]

lemma getScheme_prefix {scheme : Bytes} (hscheme : scheme ≠ []) (hlower : ∀ c ∈ scheme, 97 ≤ c ∧ c ≤ 122)
    (rest : Bytes) : getScheme (schemePrefix scheme ++ rest) = some (scheme, 47 :: 47 :: rest) := by
  have hspan : ∀ c ∈ scheme, (isAlphanumeric c || c = 43 || c = 45 || c = 46) = true := by
    intro c hc
    simp [isAlphanumeric, hlower c hc]
  have htake : (scheme ++ 58 :: 47 :: 47 :: rest).takeWhile
      (fun c => isAlphanumeric c || c = 43 || c = 45 || c = 46) = scheme := by
    rw [List.takeWhile_append_of_pos hspan, List.takeWhile_cons_of_neg (by decide), List.append_nil]
  have hdrop : (scheme ++ 58 :: 47 :: 47 :: rest).dropWhile
      (fun c => isAlphanumeric c || c = 43 || c = 45 || c = 46) = 58 :: 47 :: 47 :: rest := by
    rw [List.dropWhile_append_of_pos hspan, List.dropWhile_cons_of_neg (by decide)]
  obtain ⟨first, others, rfl⟩ := List.exists_cons_of_ne_nil hscheme
  have hletter : isLetter first := by simp [isLetter, hlower first List.mem_cons_self]
  simp only [getScheme, schemePrefix, List.append_assoc, List.cons_append, List.nil_append] at htake hdrop ⊢
  rw [htake, hdrop]
  simp [hletter]

lemma isCtl_of_plain {c : UInt8} (h : IsPlain c) : isCtl c = false := by
  rcases h with h | h | rfl | rfl
  · simp only [isCtl, Bool.or_eq_false_iff, decide_eq_false_iff_not, UInt8.not_lt]
    refine ⟨UInt8.le_trans (by decide) h, ?_⟩
    rintro rfl
    exact absurd h (by decide)
  · simp only [isAlphanumeric, Bool.or_eq_true, Bool.and_eq_true, decide_eq_true_eq] at h
    simp only [isCtl, Bool.or_eq_false_iff, decide_eq_false_iff_not, UInt8.not_lt]
    constructor
    · rcases h with (h | h) | h <;> exact UInt8.le_trans (by decide) h.1
    · rintro rfl
      exact absurd h (by decide)
  · decide
  · decide

section Absolute

variable {scheme host : Bytes} (hscheme : scheme ≠ []) (hlower : ∀ c ∈ scheme, 97 ≤ c ∧ c ≤ 122)
  (hhost : ∀ c ∈ host, IsPlain c)

include hlower

lemma schemePrefix_chars : ∀ c ∈ schemePrefix scheme, c ≠ 35 ∧ c ≠ 63 ∧ isCtl c = false := by
  intro c hc
  rcases List.mem_append.mp hc with hc | hc
  · have hletter : IsPlain c := .inr (.inl (by simp [isAlphanumeric, hlower c hc]))
    exact ⟨hletter.ne (by simp [IsPlain, isAlphanumeric]),
      hletter.ne (by simp [IsPlain, isAlphanumeric]), isCtl_of_plain hletter⟩
  · simp only [List.mem_cons, List.not_mem_nil, or_false] at hc
    rcases hc with rfl | rfl | rfl <;> decide

lemma map_toLower : scheme.map toLower = scheme := by
  refine (List.map_congr_left ?_).trans (List.map_id _)
  intro c hc
  have hle : ¬ c ≤ 90 := UInt8.not_le.mpr (UInt8.lt_of_lt_of_le (by decide) (hlower c hc).1)
  simp [toLower, hle]

include hhost

/-- No control character stands before the tail. -/
lemma any_isCtl_absolute (tail : Bytes) :
    (schemePrefix scheme ++ host ++ 47 :: tail).any isCtl = tail.any isCtl := by
  have hstart : (schemePrefix scheme ++ host).any isCtl = false := by
    rw [List.any_eq_false]
    intro c hc
    rcases List.mem_append.mp hc with hc | hc
    · simp [(schemePrefix_chars hlower c hc).2.2]
    · simp [isCtl_of_plain (hhost c hc)]
  rw [List.any_append, hstart]
  simp [isCtl]

include hscheme

/-- A URL without a fragment. -/
lemma parseUrl_absolute (tail : Bytes) :
    parseUrl false (schemePrefix scheme ++ host ++ 47 :: tail) =
      if tail.any isCtl then none
      else (setPath (47 :: before 63 tail)).map fun (path, rawPath) =>
        { scheme, host, path, rawPath, forceQuery := decide (63 ∈ tail ∧ after 63 tail = []),
          rawQuery := after 63 tail } := by
  have hquestion : 63 ∉ 47 :: 47 :: host := by
    simp only [List.mem_cons, not_or]
    exact ⟨by decide, by decide, not_mem_of_plain hhost (by simp [IsPlain, isAlphanumeric])⟩
  have hslash : 47 ∉ host := not_mem_of_plain hhost (by simp [IsPlain, isAlphanumeric])
  have hlength : 4 ≤ (schemePrefix scheme ++ host ++ 47 :: tail).length := by
    have := List.length_pos_iff.mpr hscheme
    simp only [schemePrefix, List.length_append, List.length_cons, List.length_nil]
    omega
  have hnil : schemePrefix scheme ++ host ++ 47 :: tail ≠ [] := by
    intro h
    rw [h] at hlength
    exact absurd hlength (by decide)
  have hstar : schemePrefix scheme ++ host ++ 47 :: tail ≠ [42] := by
    intro h
    rw [h] at hlength
    exact absurd hlength (by decide)
  have hrest : 47 :: 47 :: (host ++ 47 :: tail) = (47 :: 47 :: host) ++ 47 :: tail := rfl
  simp only [parseUrl, any_isCtl_absolute hlower hhost, hnil, hstar, false_and, if_false]
  rw [List.append_assoc, getScheme_prefix hscheme hlower]
  simp only [Option.bind_some, map_toLower hlower, hrest, before_append hquestion,
    after_append hquestion]
  have hauthority : before 47 (host ++ 47 :: before 63 tail) = host := by
    rw [before_append hslash, before_sep, List.append_nil]
  have hne : ∀ c ∈ host, (!decide (c = 47)) = true := by
    intro c hc
    simpa using fun h : c = 47 => hslash (h ▸ hc)
  have hpath : (host ++ 47 :: before 63 tail).dropWhile (fun c => !decide (c = 47)) =
      47 :: before 63 tail := by
    rw [List.dropWhile_append_of_pos hne, List.dropWhile_cons_of_neg (by simp)]
  have hhostQuestion : 63 ∉ host := fun h => hquestion (by simp [h])
  simp [before_cons, after_cons, hscheme, hauthority, hpath, parseAuthority_plain hhost, hhostQuestion]

/-- **What `parse` makes of a plain URL**: the authority is the host, whatever follows the slash behind
it. -/
lemma parse_absolute (tail : Bytes) :
    parse (schemePrefix scheme ++ host ++ 47 :: tail) =
      if (before 35 tail).any isCtl then none
      else (setPath (47 :: before 63 (before 35 tail))).bind fun (path, rawPath) =>
        (unescape (after 35 tail)).map fun fragment =>
          { scheme, host, path, rawPath, fragment,
            forceQuery := decide (63 ∈ before 35 tail ∧ after 63 (before 35 tail) = []),
            rawQuery := after 63 (before 35 tail) } := by
  have hhash : 35 ∉ schemePrefix scheme ++ host := by
    intro h
    rcases List.mem_append.mp h with h | h
    · exact (schemePrefix_chars hlower _ h).1 rfl
    · exact not_mem_of_plain hhost (by simp [IsPlain, isAlphanumeric]) h
  rw [parse, before_append hhash, after_append hhash, before_cons (by decide), after_cons (by decide),
    parseUrl_absolute hscheme hlower hhost]
  split_ifs
  · rfl
  · cases setPath (47 :: before 63 (before 35 tail)) <;> rfl

end Absolute

end Go
