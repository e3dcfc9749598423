import Mathlib.Data.Bool.AllAny
import RioGram.Js.Strings

/-!
# The URL rewriters

Three copies of one rewriter: in Dart, in the hook of the main thread and in that of the workers.  URLs of
Telegram's WebSocket endpoints are sent through the proxy, whose base URL comes from the configuration
or, in the hooks, from the page.

* `telegramMatch_iff` — what the regular expression of the three accepts, and its groups.
* `Rewriter.rewriteUrl_eq` — the three are the same but for the base URL and what they read of the URL.
* `Rewriter.rewriteUrl_eq_iff` — which URLs are left as they are.
-/

namespace RioGram

open Wire Js Trimming

namespace Wss

/-! ## URLs of Telegram -/

/-- The class `[a-z0-9.-]`, case aside. -/
def isHostUnit (c : UInt16) : Bool :=
  (97 ≤ c && c ≤ 122) || (65 ≤ c && c ≤ 90) || (48 ≤ c && c ≤ 57) || c = 46 || c = 45

/-- The class `\d`. -/
def isDigit (c : UInt16) : Bool := 48 ≤ c && c ≤ 57

/-- What `.` does not match. -/
def isLineTerminator (c : UInt16) : Bool := [10, 13, 0x2028, 0x2029].contains c

/-- `wss?://` at the start, and what follows. -/
def matchScheme (s : Str) : Option Str :=
  if (s.take 6).map toLower = Js.ascii "wss://" then some (s.drop 6)
  else if (s.take 5).map toLower = Js.ascii "ws://" then some (s.drop 5)
  else none

/-- `[a-z0-9.-]+\.(?:web\.)?telegram\.org`, of units that are all in the class. -/
def isTelegramHost (host : Str) : Bool :=
  [Js.ascii ".telegram.org", Js.ascii ".web.telegram.org"].any fun domain =>
    domain.length < host.length && domain.isSuffixOf (host.map toLower)

/-- `(?::\d+)?` at the start, and what follows. -/
def matchPort : Str → Option Str
  | [] => some []
  | c :: s =>
      if c ≠ 58 then some (c :: s)
      else if s.takeWhile isDigit = [] then none
      else some (s.dropWhile isDigit)

/-- `(/.*)?$`. -/
def matchPath : Str → Option (Option Str)
  | [] => some none
  | c :: s => if c = 47 ∧ s.all (¬ isLineTerminator ·) then some (some (c :: s)) else none

/-- `TELEGRAM_WS_RE`, `_telegramHostPattern`: the two groups, of which the second may not take part in the
match.  What a host is made of neither starts a port nor a path, so there is one way to match. -/
def telegramMatch (s : Str) : Option (Str × Option Str) :=
  (matchScheme s).bind fun rest =>
    if ¬ isTelegramHost (rest.takeWhile isHostUnit) then none
    else (matchPort (rest.dropWhile isHostUnit)).bind fun rest' =>
      (matchPath rest').map fun path => (rest.takeWhile isHostUnit, path)

/-- `[a-z0-9.-]+`: a host of Telegram. -/
structure IsHost (host : Str) : Prop where
  units : ∀ c ∈ host, isHostUnit c
  telegram : isTelegramHost host

/-- A port, with its colon, or nothing. -/
def IsPort (port : Str) : Prop :=
  port = [] ∨ ∃ digits, port = 58 :: digits ∧ digits ≠ [] ∧ ∀ c ∈ digits, isDigit c

/-- A path in one line, or nothing. -/
def IsPath (path : Option Str) : Prop :=
  ∀ s ∈ path, ∃ tail, s = 47 :: tail ∧ ∀ c ∈ tail, isLineTerminator c = false

/-- A scheme that the expression accepts. -/
def IsScheme (scheme : Str) : Prop :=
  scheme.map toLower = Js.ascii "wss://" ∨ scheme.map toLower = Js.ascii "ws://"

lemma matchScheme_some {s rest : Str} (h : matchScheme s = some rest) :
    ∃ scheme, IsScheme scheme ∧ s = scheme ++ rest := by
  simp only [matchScheme] at h
  split_ifs at h with hsecure hplain
  · cases h
    exact ⟨_, .inl hsecure, (List.take_append_drop 6 s).symm⟩
  · cases h
    exact ⟨_, .inr hplain, (List.take_append_drop 5 s).symm⟩

lemma matchScheme_append {scheme : Str} (h : IsScheme scheme) (rest : Str) :
    matchScheme (scheme ++ rest) = some rest := by
  have hlength (n : String) (hn : scheme.map toLower = Js.ascii n) :
      scheme.length = (Js.ascii n).length := by rw [← hn, List.length_map]
  rcases h with h | h
  · have hsix : scheme.length = 6 := hlength _ h
    rw [matchScheme, List.take_left' hsix, if_pos h, List.drop_left' hsix]
  · have hfive : scheme.length = 5 := hlength _ h
    have hsix : ¬ ((scheme ++ rest).take 6).map toLower = Js.ascii "wss://" := by
      intro hsecure
      have hthird : (((scheme ++ rest).take 6).map toLower)[2]? = (scheme.map toLower)[2]? := by
        rw [List.getElem?_map, List.getElem?_map, List.getElem?_take_of_lt (by decide),
          List.getElem?_append_left (by rw [hfive]; decide)]
      rw [hsecure, h] at hthird
      exact absurd hthird (by decide)
    rw [matchScheme, if_neg hsix, List.take_left' hfive, if_pos h, List.drop_left' hfive]

lemma matchPort_some {s rest : Str} (h : matchPort s = some rest) :
    ∃ port, IsPort port ∧ s = port ++ rest := by
  rcases s with _ | ⟨c, s⟩
  · cases h
    exact ⟨[], .inl rfl, rfl⟩
  simp only [matchPort] at h
  split_ifs at h with hcolon hdigits
  · cases h
    exact ⟨[], .inl rfl, rfl⟩
  · cases h
    refine ⟨58 :: s.takeWhile isDigit, .inr ⟨_, rfl, hdigits, ?_⟩, ?_⟩
    · intro c hc
      exact List.mem_takeWhile_imp hc
    · rw [not_not.mp hcolon, List.cons_append, List.takeWhile_append_dropWhile]

lemma matchPort_append {port rest : Str} (h : IsPort port) (hrest : ∀ c ∈ rest.head?, c = 47) :
    matchPort (port ++ rest) = some rest := by
  rcases h with rfl | ⟨digits, rfl, hne, hdigits⟩
  · rcases rest with _ | ⟨c, rest⟩
    · rfl
    · have hc : c = 47 := hrest c rfl
      simp [matchPort, hc]
  · have hstop : rest.takeWhile isDigit = [] ∧ rest.dropWhile isDigit = rest := by
      rcases rest with _ | ⟨c, rest⟩
      · exact ⟨rfl, rfl⟩
      · have hc : c = 47 := hrest c rfl
        simp [hc, isDigit]
    simp only [matchPort, List.cons_append, ne_eq, not_true_eq_false, if_false]
    rw [List.takeWhile_append_of_pos hdigits, List.dropWhile_append_of_pos hdigits, hstop.1, hstop.2,
      List.append_nil, if_neg hne]

lemma matchPath_iff {s : Str} {path : Option Str} :
    matchPath s = some path ↔ s = path.getD [] ∧ IsPath path := by
  rcases s with _ | ⟨c, s⟩
  · constructor
    · intro h
      cases h
      exact ⟨rfl, nofun⟩
    · rintro ⟨hs, hpath⟩
      rcases path with _ | path
      · rfl
      · rcases hpath path rfl with ⟨tail, rfl, -⟩
        exact nomatch hs
  · simp only [matchPath]
    constructor
    · intro h
      split_ifs at h with hc
      cases h
      refine ⟨rfl, ?_⟩
      rintro path ⟨rfl⟩
      exact ⟨s, by rw [hc.1], by simpa using hc.2⟩
    · rintro ⟨hs, hpath⟩
      rcases path with _ | path
      · exact nomatch hs
      · rcases hpath path rfl with ⟨tail, rfl, htail⟩
        cases hs
        rw [if_pos ⟨rfl, by simpa using htail⟩]

/-- **What the expression accepts**: a scheme, a host, a port or none, and a path or none, in a row. -/
theorem telegramMatch_iff {s host : Str} {path : Option Str} :
    telegramMatch s = some (host, path) ↔
    IsHost host ∧ IsPath path ∧ ∃ scheme port, IsScheme scheme ∧ IsPort port ∧
      s = scheme ++ host ++ port ++ path.getD [] := by
  constructor
  · intro h
    rcases Option.bind_eq_some_iff.mp h with ⟨rest, hfront, h⟩
    split_ifs at h with hhost
    rcases Option.bind_eq_some_iff.mp h with ⟨rest', hport, h⟩
    rcases Option.map_eq_some_iff.mp h with ⟨path', hpath, hpair⟩
    injection hpair with hfirst hsecond
    subst hfirst hsecond
    rcases matchScheme_some hfront with ⟨scheme, hscheme, rfl⟩
    rcases matchPort_some hport with ⟨port, hport, hrest⟩
    rcases matchPath_iff.mp hpath with ⟨hrest', hpath⟩
    refine ⟨⟨fun c hc => List.mem_takeWhile_imp hc, hhost⟩, hpath, scheme, port, hscheme, hport, ?_⟩
    rw [← hrest', List.append_assoc, List.append_assoc, ← hrest, List.takeWhile_append_dropWhile]
  · rintro ⟨hhost, hpath, scheme, port, hscheme, hport, rfl⟩
    have hslash : ∀ c ∈ (path.getD []).head?, c = 47 := by
      intro c hc
      rcases path with _ | path
      · exact nomatch hc
      · rcases hpath path rfl with ⟨tail, rfl, -⟩
        exact (Option.mem_some.mp hc).symm
    have hstop : ∀ c ∈ (port ++ path.getD []).head?, isHostUnit c = false := by
      intro c hc
      rcases hport with rfl | ⟨digits, rfl, -⟩
      · rw [hslash c hc]
        rfl
      · rw [← Option.mem_some.mp hc]
        rfl
    have hspan : (host ++ (port ++ path.getD [])).takeWhile isHostUnit = host ∧
        (host ++ (port ++ path.getD [])).dropWhile isHostUnit = port ++ path.getD [] := by
      rw [List.takeWhile_append_of_pos hhost.units, List.dropWhile_append_of_pos hhost.units]
      rcases hrest : port ++ path.getD [] with _ | ⟨c, rest⟩
      · simp
      · have hc := hstop c (by rw [hrest]; rfl)
        simp [hc]
    rw [telegramMatch, List.append_assoc, List.append_assoc, matchScheme_append hscheme]
    simp only [Option.bind_some, hspan, hhost.telegram, not_true_eq_false, if_false]
    rw [matchPort_append hport hslash, Option.bind_some, matchPath_iff.mpr ⟨rfl, hpath⟩]
    rfl

/-! ## Configurations -/

/-- `WssProxyConfig`, with what the rewriters read of it. -/
structure WssProxyConfig where
  enabled : Bool := false
  url : Str := []
  deriving DecidableEq, Repr

/-- A configuration as JSON, whose fields may be missing. -/
structure ConfigJson where
  enabled : Option Bool := none
  url : Option Str := none
  deriving DecidableEq, Repr

/-- `toJson`, and what `JSON.stringify` stores. -/
def WssProxyConfig.toJson (config : WssProxyConfig) : ConfigJson where
  enabled := some config.enabled
  url := some config.url

/-- `Object.assign`. -/
def WssProxyConfig.assign (config : WssProxyConfig) (json : ConfigJson) : WssProxyConfig where
  enabled := json.enabled.getD config.enabled
  url := json.url.getD config.url

/-- `Location`, of a page or a worker. -/
structure Location where
  protocol : Str
  host : Str
  href : Str
  deriving DecidableEq, Repr

/-! ## Base URLs -/

/-- What the three `normalizeProxyBase` do with a URL that has been trimmed. -/
def normalizeBase (value : Str) : Str :=
  (if (Js.ascii "https://").isPrefixOf value then Js.ascii "wss://" ++ value.drop 8
  else if (Js.ascii "http://").isPrefixOf value then Js.ascii "ws://" ++ value.drop 7
  else if ¬ (Js.ascii "wss://").isPrefixOf value ∧ ¬ (Js.ascii "ws://").isPrefixOf value then
    Js.ascii "wss://" ++ value
  else value).rdropWhile (· = 47)

namespace WssUrlRewriter

/-- `WssUrlRewriter.normalizeProxyBase`. -/
def normalizeProxyBase (raw : Str) : Option Str :=
  if trimDart raw = [] then none else some (normalizeBase (trimDart raw))

/-- The base URL that is used: `isConfigured` is checked besides. -/
def proxyBase (config : WssProxyConfig) : Option Str :=
  if ¬ config.enabled ∨ trimDart config.url = [] then none else normalizeProxyBase config.url

end WssUrlRewriter

namespace Hook

/-- `normalizeProxyBase`, in the main thread. -/
def normalizeProxyBase (raw : Str) : Option Str :=
  if trim raw = [] then none else some (normalizeBase (trim raw))

def sameOriginProxyUrl (location : Option Location) : Str :=
  match location with
  | some location =>
      if location.host ≠ [] ∧ location.protocol = Js.ascii "https:" then Js.ascii "wss://" ++ location.host
      else []
  | none => []

def defaultConfig (location : Option Location) : WssProxyConfig where
  enabled := sameOriginProxyUrl location ≠ []
  url := sameOriginProxyUrl location

/-- `writeConfig`: what is stored, and returned. -/
def writeConfig (location : Option Location) (config : ConfigJson) : WssProxyConfig :=
  (defaultConfig location).assign config

/-- `readConfig`: a page that could be its own proxy does not take no for an answer, unless it has been
given another proxy. -/
def readConfig (location : Option Location) (stored : Option ConfigJson) : WssProxyConfig :=
  match stored with
  | none => defaultConfig location
  | some parsed =>
      let auto := defaultConfig location
      if parsed.enabled = some false ∧ parsed.url.getD [] = [] ∧ auto.url ≠ [] then auto
      else auto.assign parsed

/-- The base URL that `rewriteUrl` uses. -/
def proxyBase (location : Option Location) (config : WssProxyConfig) : Option Str :=
  if ¬ config.enabled then none
  else (normalizeProxyBase config.url).or (normalizeProxyBase (sameOriginProxyUrl location))

end Hook

namespace Worker

/-- `normalizeProxyBase`, in a worker.  The placeholder that is looked for is replaced when a proxy is
baked in, as that of `__RIOGRAM_BAKED_PROXY__` is, so that the two are the same. -/
def normalizeProxyBase (baked raw : Str) : Option Str :=
  if trim raw = [] then none
  else if baked <:+: trim raw then none
  else some (normalizeBase (trim raw))

/-- The group of `/^https?:\/\/([^/]+)/i`. -/
def hrefHost (href : Str) : Str :=
  let lower := href.map toLower
  if (Js.ascii "https://").isPrefixOf lower then (href.drop 8).takeWhile (· ≠ 47)
  else if (Js.ascii "http://").isPrefixOf lower then (href.drop 7).takeWhile (· ≠ 47)
  else []

def sameOriginProxyBase (location : Option Location) : Option Str :=
  location.bind fun loc =>
    let host := if loc.host = [] ∧ loc.href ≠ [] then hrefHost loc.href else loc.host
    if host = [] then none
    else if loc.protocol = Js.ascii "https:" ∨ loc.protocol = Js.ascii "wss:" ∨
        (Js.ascii "https://").isPrefixOf loc.href then some (Js.ascii "wss://" ++ host)
    else if loc.protocol = Js.ascii "http:" ∨ loc.protocol = Js.ascii "ws:" ∨
        (Js.ascii "http://").isPrefixOf loc.href then some (Js.ascii "ws://" ++ host)
    else none

/-- The base URL of a configuration, `self.RIOGRAM_WSS_CONFIG`. -/
def configBase (baked : Str) (config : Option WssProxyConfig) : Option Str :=
  config.bind fun config =>
    if config.enabled ∧ config.url ≠ [] then normalizeProxyBase baked config.url else none

/-- `proxyBase`: what was baked in, or what the configuration says, or the page. -/
def proxyBase (baked : Str) (location : Option Location) (config : Option WssProxyConfig) : Option Str :=
  ((if baked ≠ [] then normalizeProxyBase baked baked else none).or (configBase baked config)).or
    (sameOriginProxyBase location)

end Worker

/-! ## Rewriting -/

/-- `normalizeUrlInput`, of a string. -/
def normalizeUrlInput (url : Str) : Str := trim ((url.filter (· ≠ 0)).filter (· ≠ 13))

/-- The host and the path, behind a base URL. -/
def proxied (base host : Str) (path : Option Str) : Str :=
  base ++ 47 :: (host ++ path.getD (Js.ascii "/apiws"))

/-- What the three rewriters do: what is not a URL of Telegram, or has no proxy to go to, is left as it
is. -/
def rewriteThrough (base : Option Str) (raw url : Str) : Str :=
  match telegramMatch raw, base with
  | some (host, path), some base => proxied base host path
  | _, _ => url

/-- `WssUrlRewriter.rewrite`. -/
def WssUrlRewriter.rewrite (config : WssProxyConfig) (url : Str) : Str :=
  rewriteThrough (WssUrlRewriter.proxyBase config) url url

/-- `rewriteUrl`, in the main thread, of what `readConfig` returns. -/
def Hook.rewriteUrl (location : Option Location) (config : WssProxyConfig) (url : Str) : Str :=
  rewriteThrough (Hook.proxyBase location config) (normalizeUrlInput url) url

/-- `rewriteUrl`, in a worker. -/
def Worker.rewriteUrl (baked : Str) (location : Option Location) (config : Option WssProxyConfig)
    (url : Str) : Str :=
  rewriteThrough (Worker.proxyBase baked location config) (normalizeUrlInput url) url

/-- The rewriters, each with what it reads from its surroundings. -/
inductive Rewriter where
  | dart (config : WssProxyConfig)
  | mainThread (location : Option Location) (stored : Option ConfigJson)
  | worker (baked : Str) (location : Option Location) (config : Option WssProxyConfig)

namespace Rewriter

def rewriteUrl : Rewriter → Str → Str
  | .dart config => WssUrlRewriter.rewrite config
  | .mainThread location stored => Hook.rewriteUrl location (Hook.readConfig location stored)
  | .worker baked location config => Worker.rewriteUrl baked location config

/-- The URL that is matched. -/
def rawUrl : Rewriter → Str → Str
  | .dart _, url => url
  | .mainThread .., url => normalizeUrlInput url
  | .worker .., url => normalizeUrlInput url

/-- The base URL. -/
def proxyBase : Rewriter → Option Str
  | .dart config => WssUrlRewriter.proxyBase config
  | .mainThread location stored => Hook.proxyBase location (Hook.readConfig location stored)
  | .worker baked location config => Worker.proxyBase baked location config

lemma rewriteUrl_eq (r : Rewriter) (url : Str) :
    r.rewriteUrl url = rewriteThrough r.proxyBase (r.rawUrl url) url := by
  cases r <;> rfl

end Rewriter

/-! ## What is left of a URL -/

/-- A unit that is neither removed nor a space. -/
def IsVisible (c : UInt16) : Prop := 33 ≤ c.toNat ∧ c.toNat < 127

lemma IsVisible.not_space {c : UInt16} (h : IsVisible c) : isSpace c = false := by
  simp only [isSpace, Bool.or_eq_false_iff, Bool.and_eq_false_iff, decide_eq_false_iff_not,
    UInt16.le_iff_toNat_le, UInt16.reduceToNat, List.contains_eq_mem, List.mem_cons, List.not_mem_nil,
    or_false, not_or, ← UInt16.toNat_inj]
  have := h.1
  have := h.2
  omega

lemma toLower_toNat (c : UInt16) :
    (toLower c).toNat = if 65 ≤ c.toNat ∧ c.toNat ≤ 90 then c.toNat + 32 else c.toNat := by
  simp only [toLower, Bool.and_eq_true, decide_eq_true_eq, UInt16.le_iff_toNat_le, UInt16.reduceToNat]
  split_ifs with h
  · simp only [UInt16.toNat_add, UInt16.reduceToNat]
    omega
  · rfl

lemma toLower_eq_slash {c : UInt16} : toLower c = 47 ↔ c = 47 := by
  rw [← UInt16.toNat_inj, ← UInt16.toNat_inj, toLower_toNat]
  simp only [UInt16.reduceToNat]
  split_ifs <;> omega

lemma isVisible_of_toLower {c : UInt16} (h : IsVisible (toLower c)) : IsVisible c := by
  simp only [IsVisible, toLower_toNat] at h ⊢
  split_ifs at h <;> omega

lemma isVisible_of_isHostUnit {c : UInt16} (h : isHostUnit c) : IsVisible c := by
  simp only [isHostUnit, Bool.or_eq_true, Bool.and_eq_true, decide_eq_true_eq, UInt16.le_iff_toNat_le,
    UInt16.reduceToNat, ← UInt16.toNat_inj] at h
  simp only [IsVisible]
  omega

lemma isVisible_of_isDigit {c : UInt16} (h : isDigit c) : IsVisible c := by
  simp only [isDigit, Bool.and_eq_true, decide_eq_true_eq, UInt16.le_iff_toNat_le,
    UInt16.reduceToNat] at h
  simp only [IsVisible]
  omega

instance (c : UInt16) : Decidable (IsVisible c) := inferInstanceAs (Decidable (_ ∧ _))

lemma IsScheme.visible {scheme : Str} (h : IsScheme scheme) : ∀ c ∈ scheme, IsVisible c := by
  intro c hc
  apply isVisible_of_toLower
  have hlower : toLower c ∈ scheme.map toLower := List.mem_map_of_mem hc
  have hsecure : ∀ d ∈ Js.ascii "wss://", IsVisible d :=
    List.all_iff_forall_prop.mp (by decide)
  have hplain : ∀ d ∈ Js.ascii "ws://", IsVisible d :=
    List.all_iff_forall_prop.mp (by decide)
  rcases h with h | h <;> rw [h] at hlower
  · exact hsecure _ hlower
  · exact hplain _ hlower

lemma IsPort.visible {port : Str} (h : IsPort port) : ∀ c ∈ port, IsVisible c := by
  rcases h with rfl | ⟨digits, rfl, -, hdigits⟩
  · exact nofun
  · intro c hc
    rcases List.mem_cons.mp hc with rfl | hc
    · decide
    · exact isVisible_of_isDigit (hdigits c hc)

/-- What is visible at the front stays. -/
lemma normalizeUrlInput_append {front : Str} (hne : front ≠ []) (h : ∀ c ∈ front, IsVisible c)
    (s : Str) : normalizeUrlInput (front ++ s) =
      front ++ ((s.filter (· ≠ 0)).filter (· ≠ 13)).rdropWhile isSpace := by
  have hkept : (front.filter (· ≠ 0)).filter (· ≠ 13) = front := by
    rw [List.filter_filter, List.filter_eq_self]
    intro c hc
    have hvisible := h c hc
    have hzero : c ≠ 0 := by
      rintro rfl
      exact absurd hvisible (by decide)
    have hreturn : c ≠ 13 := by
      rintro rfl
      exact absurd hvisible (by decide)
    simp [hzero, hreturn]
  rw [normalizeUrlInput, List.filter_append, List.filter_append, hkept, trim]
  exact trimBy_append hne (fun c hc => (h c hc).not_space) _

lemma count_filter_ne {a b : UInt16} (h : a ≠ b) (s : Str) : (s.filter (· ≠ b)).count a = s.count a :=
  List.count_filter (by simpa using h)

/-- A unit that is neither removed nor a space is as often in what is read of the URL as in the URL. -/
lemma Rewriter.count_rawUrl (r : Rewriter) {a : UInt16} (hzero : a ≠ 0) (hreturn : a ≠ 13)
    (hspace : isSpace a = false) (url : Str) : (r.rawUrl url).count a = url.count a := by
  have hinput : (normalizeUrlInput url).count a = url.count a := by
    rw [normalizeUrlInput, trim, count_trimBy hspace, count_filter_ne hreturn, count_filter_ne hzero]
  cases r with
  | dart config => rfl
  | mainThread location stored => exact hinput
  | worker baked location config => exact hinput

/-- **A URL that matches still does when it is cleaned up**, and the path is the same only if nothing had
to be. -/
lemma telegramMatch_normalizeUrlInput {url host : Str} {path : Option Str}
    (h : telegramMatch url = some (host, path)) :
    ∃ path', telegramMatch (normalizeUrlInput url) = some (host, path') ∧
      (path'.getD (Js.ascii "/apiws") = path.getD (Js.ascii "/apiws") → normalizeUrlInput url = url) := by
  rcases telegramMatch_iff.mp h with ⟨hhost, hpath, scheme, port, hscheme, hport, hurl⟩
  have hvisible : ∀ c ∈ scheme ++ host ++ port, IsVisible c := by
    intro c hc
    rcases List.mem_append.mp hc with hc | hc
    · rcases List.mem_append.mp hc with hc | hc
      · exact hscheme.visible c hc
      · exact isVisible_of_isHostUnit (hhost.units c hc)
    · exact hport.visible c hc
  have hne : scheme ++ host ++ port ≠ [] := by
    intro hnil
    have hscheme' : scheme = [] := (List.append_eq_nil_iff.mp (List.append_eq_nil_iff.mp hnil).1).1
    rw [hscheme'] at hscheme
    rcases hscheme with h | h <;> exact absurd h (by decide)
  rcases path with _ | path
  · have hsame : normalizeUrlInput url = url := by
      rw [hurl, normalizeUrlInput_append hne hvisible]
      rfl
    exact ⟨none, by rw [hsame, h], fun _ => hsame⟩
  · rcases hpath path rfl with ⟨tail, rfl, htail⟩
    have hurl' : url = (scheme ++ host ++ port ++ [47]) ++ tail := by
      rw [hurl]
      simp
    have hvisible' : ∀ c ∈ scheme ++ host ++ port ++ [47], IsVisible c := by
      intro c hc
      rcases List.mem_append.mp hc with hc | hc
      · exact hvisible c hc
      · rw [List.mem_singleton.mp hc]
        decide
    have hclean := normalizeUrlInput_append (by simp) hvisible' tail
    rw [← hurl'] at hclean
    refine ⟨some (47 :: ((tail.filter (· ≠ 0)).filter (· ≠ 13)).rdropWhile isSpace), ?_, ?_⟩
    · refine telegramMatch_iff.mpr ⟨hhost, ?_, scheme, port, hscheme, hport, ?_⟩
      · rintro path ⟨rfl⟩
        refine ⟨_, rfl, fun c hc => htail c ?_⟩
        exact List.mem_of_mem_filter (List.mem_of_mem_filter ((List.rdropWhile_prefix _ _).subset hc))
      · rw [hclean]
        simp
    · intro hsame
      injection hsame with _ hsame
      rw [hclean, hsame, ← hurl']

/-- What is counted in a proxied URL: what is in the base URL, and what is in the path. -/
lemma count_proxied {raw host : Str} {path : Option Str} (h : telegramMatch raw = some (host, path))
    (base : Str) :
    (proxied base host path).count 0x85 = base.count 0x85 + raw.count 0x85 := by
  rcases telegramMatch_iff.mp h with ⟨hhost, hpath, scheme, port, hscheme, hport, rfl⟩
  have hzero {s : Str} (hs : ∀ c ∈ s, IsVisible c) : s.count 0x85 = 0 :=
    List.count_eq_zero_of_not_mem fun hmem => absurd (hs _ hmem) (by decide)
  have hdefault : (path.getD (Js.ascii "/apiws")).count 0x85 = (path.getD []).count 0x85 := by
    cases path <;> rfl
  simp only [proxied, List.count_append, List.count_cons, hzero hscheme.visible, hzero hport.visible,
    hzero fun c hc => isVisible_of_isHostUnit (hhost.units c hc), hdefault]
  simp

/-! ## URLs that are rewritten -/

/-- A base URL: a scheme, with an authority and whatever else behind it unless that was all slashes. -/
def IsBase (base : Str) : Prop :=
  ∃ scheme ∈ [Js.ascii "wss:", Js.ascii "ws:"], base = scheme ∨ ∃ rest, base = scheme ++ 47 :: 47 :: rest

lemma rdropWhile_slashes {scheme : Str} (h : scheme ∈ [Js.ascii "wss:", Js.ascii "ws:"]) (rest : Str) :
    IsBase ((scheme ++ 47 :: 47 :: rest).rdropWhile (· = 47)) := by
  refine ⟨scheme, h, ?_⟩
  have hscheme : scheme.rdropWhile (· = 47) = scheme := by
    simp only [List.mem_cons, List.not_mem_nil, or_false] at h
    rcases h with rfl | rfl <;> rfl
  have hsplit : scheme ++ 47 :: 47 :: rest = (scheme ++ [47, 47]) ++ rest := by simp
  rw [hsplit, rdropWhile_append, rdropWhile_append, hscheme]
  split_ifs with hrest hslashes
  · exact .inl rfl
  · exact absurd rfl hslashes
  · exact .inr ⟨rest.rdropWhile (· = 47), by simp⟩

lemma isBase_normalizeBase (value : Str) : IsBase (normalizeBase value) := by
  have hsecure : Js.ascii "wss:" ∈ [Js.ascii "wss:", Js.ascii "ws:"] := by decide
  have hplain : Js.ascii "ws:" ∈ [Js.ascii "wss:", Js.ascii "ws:"] := by decide
  rw [normalizeBase]
  split_ifs with hhttps hhttp hnone
  · exact rdropWhile_slashes hsecure _
  · exact rdropWhile_slashes hplain _
  · exact rdropWhile_slashes hsecure _
  · rw [not_and_or, not_not, not_not, List.isPrefixOf_iff_prefix, List.isPrefixOf_iff_prefix] at hnone
    rcases hnone with ⟨rest, rfl⟩ | ⟨rest, rfl⟩
    · exact rdropWhile_slashes hsecure rest
    · exact rdropWhile_slashes hplain rest

lemma Hook.isBase_normalizeProxyBase {raw base : Str} (h : Hook.normalizeProxyBase raw = some base) :
    IsBase base := by
  simp only [Hook.normalizeProxyBase] at h
  split_ifs at h
  cases h
  exact isBase_normalizeBase _

lemma Worker.isBase_normalizeProxyBase {baked raw base : Str}
    (h : Worker.normalizeProxyBase baked raw = some base) : IsBase base := by
  simp only [Worker.normalizeProxyBase] at h
  split_ifs at h
  cases h
  exact isBase_normalizeBase _

lemma Worker.isBase_sameOriginProxyBase {location : Option Location} {base : Str}
    (h : Worker.sameOriginProxyBase location = some base) : IsBase base := by
  rcases Option.bind_eq_some_iff.mp h with ⟨loc, rfl, h'⟩
  dsimp only at h'
  split_ifs at h'
  all_goals cases h'
  all_goals first
    | exact ⟨Js.ascii "wss:", by decide, .inr ⟨_, rfl⟩⟩
    | exact ⟨Js.ascii "ws:", by decide, .inr ⟨_, rfl⟩⟩

/-- **The base URLs that are used** are base URLs. -/
lemma Rewriter.isBase {r : Rewriter} {base : Str} (h : r.proxyBase = some base) : IsBase base := by
  cases r with
  | dart config =>
      simp only [Rewriter.proxyBase, WssUrlRewriter.proxyBase, WssUrlRewriter.normalizeProxyBase] at h
      split_ifs at h
      cases h
      exact isBase_normalizeBase _
  | mainThread location stored =>
      simp only [Rewriter.proxyBase, Hook.proxyBase] at h
      split_ifs at h
      rcases Option.or_eq_some_iff.mp h with h | ⟨-, h⟩
      · exact Hook.isBase_normalizeProxyBase h
      · exact Hook.isBase_normalizeProxyBase h
  | worker baked location config =>
      rcases Option.or_eq_some_iff.mp h with h | ⟨-, h⟩
      · rcases Option.or_eq_some_iff.mp h with h | ⟨-, h⟩
        · split_ifs at h
          exact Worker.isBase_normalizeProxyBase h
        · rcases Option.bind_eq_some_iff.mp h with ⟨config, rfl, h'⟩
          split_ifs at h'
          exact Worker.isBase_normalizeProxyBase h'
      · exact Worker.isBase_sameOriginProxyBase h

/-- A URL with one slash behind its scheme is none of Telegram's. -/
lemma telegramMatch_single_slash {scheme : Str} (h : scheme ∈ [Js.ascii "wss:", Js.ascii "ws:"]) {c : UInt16}
    (hc : isHostUnit c) (s : Str) : telegramMatch (scheme ++ 47 :: c :: s) = none := by
  have hslash : toLower c ≠ 47 := by
    rw [Ne, toLower_eq_slash]
    rintro rfl
    exact absurd hc (by decide)
  have hscheme : matchScheme (scheme ++ 47 :: c :: s) = none := by
    simp only [List.mem_cons, List.not_mem_nil, or_false] at h
    rcases h with rfl | rfl
    · have hsix : ((Js.ascii "wss:" ++ 47 :: c :: s).take 6).map toLower =
          [119, 115, 115, 58, 47, toLower c] := rfl
      have hfive : ((Js.ascii "wss:" ++ 47 :: c :: s).take 5).map toLower = [119, 115, 115, 58, 47] := rfl
      rw [matchScheme, hsix, hfive, if_neg, if_neg]
      · decide
      · intro hsame
        have hlast := congrArg (fun s => s[5]?) hsame
        exact hslash (Option.some.inj hlast)
    · have hsix : ((Js.ascii "ws:" ++ 47 :: c :: s).take 3).map toLower = [119, 115, 58] := rfl
      have hfive : ((Js.ascii "ws:" ++ 47 :: c :: s).take 5).map toLower = [119, 115, 58, 47, toLower c] := rfl
      rw [matchScheme, hfive, if_neg, if_neg]
      · intro hsame
        have hlast := congrArg (fun s => s[4]?) hsame
        exact hslash (Option.some.inj hlast)
      · intro hsame
        have hthird := congrArg (List.take 3) hsame
        rw [← List.map_take, List.take_take, Nat.min_eq_left (by decide), hsix] at hthird
        exact absurd hthird (by decide)
  rw [telegramMatch, hscheme, Option.bind_none]

/-- **A URL that is rewritten** is not the URL it was. -/
lemma Rewriter.proxied_ne (r : Rewriter) {url host base : Str} {path : Option Str}
    (h : telegramMatch (r.rawUrl url) = some (host, path)) (hbase : IsBase base) :
    proxied base host path ≠ url := by
  intro hsame
  rcases telegramMatch_iff.mp h with ⟨hhost, hpath, front, port, hfront, hport, hraw⟩
  rcases hbase with ⟨scheme, hscheme, rfl | ⟨rest, rfl⟩⟩
  · -- the slash behind such a base URL is the only one before the host
    rcases hhost' : host with _ | ⟨c, others⟩
    · have hempty := hhost.telegram
      rw [hhost'] at hempty
      exact absurd hempty (by decide)
    · have hc : isHostUnit c := hhost.units c (by simp [hhost'])
      have hurl : url = base ++ 47 :: c :: (others ++ path.getD (Js.ascii "/apiws")) := by
        rw [← hsame, proxied, hhost']
        rfl
      have hvisible : ∀ d ∈ base ++ [47, c], IsVisible d := by
        have hschemes : ∀ scheme ∈ [Js.ascii "wss:", Js.ascii "ws:"], scheme.all fun d => IsVisible d := by
          decide
        intro d hd
        rcases List.mem_append.mp hd with hd | hd
        · exact List.all_iff_forall_prop.mp (hschemes base hscheme) d hd
        · simp only [List.mem_cons, List.not_mem_nil, or_false] at hd
          rcases hd with rfl | rfl
          · decide
          · exact isVisible_of_isHostUnit hc
      have hread : ∃ s, r.rawUrl url = base ++ 47 :: c :: s := by
        have hclean := normalizeUrlInput_append (by simp) hvisible (others ++ path.getD (Js.ascii "/apiws"))
        simp only [List.append_assoc, List.cons_append, List.nil_append] at hclean
        rw [hurl]
        cases r with
        | dart config => exact ⟨_, rfl⟩
        | mainThread location stored => exact ⟨_, hclean⟩
        | worker baked location config => exact ⟨_, hclean⟩
      rcases hread with ⟨s, hread⟩
      rw [hread, telegramMatch_single_slash hscheme hc] at h
      cases h
  · -- there are two slashes in the base URL, and one more behind it
    have hcount := r.count_rawUrl (a := 47) (by decide) (by decide) (by decide) url
    have hfront' : front.count 47 = 2 := by
      have hmap : front.count 47 = (front.map toLower).count 47 := by
        rw [List.count_eq_countP, List.count_eq_countP, List.countP_map]
        exact List.countP_congr fun c _ => by simp [toLower_eq_slash]
      rw [hmap]
      rcases hfront with hfront | hfront <;> rw [hfront] <;> rfl
    have hzero {s : Str} (hs : 47 ∉ s) : s.count 47 = 0 := List.count_eq_zero.mpr hs
    have hhost' : 47 ∉ host := fun hmem => absurd (hhost.units _ hmem) (by decide)
    have hport' : 47 ∉ port := by
      rcases hport with rfl | ⟨digits, rfl, -, hdigits⟩
      · simp
      · intro hmem
        rcases List.mem_cons.mp hmem with hmem | hmem
        · exact absurd hmem (by decide)
        · exact absurd (hdigits _ hmem) (by decide)
    have hpath' : (path.getD []).count 47 ≤ (path.getD (Js.ascii "/apiws")).count 47 := by
      cases path
      · decide
      · exact Nat.le_refl _
    rw [hraw, ← hsame] at hcount
    simp only [proxied, List.count_append, List.count_cons, hfront', hzero hhost', hzero hport'] at hcount
    simp at hcount
    omega

lemma Rewriter.rewriteUrl_of_none {r : Rewriter} {url : Str}
    (h : telegramMatch (r.rawUrl url) = none ∨ r.proxyBase = none) : r.rewriteUrl url = url := by
  rw [r.rewriteUrl_eq]
  rcases h with h | h
  · simp only [rewriteThrough, h]
  · cases hmatch : telegramMatch (r.rawUrl url) <;> simp only [rewriteThrough, h, hmatch]

lemma Rewriter.rewriteUrl_of_some {r : Rewriter} {url host base : Str} {path : Option Str}
    (hmatch : telegramMatch (r.rawUrl url) = some (host, path)) (hbase : r.proxyBase = some base) :
    r.rewriteUrl url = proxied base host path := by
  simp only [r.rewriteUrl_eq, rewriteThrough, hmatch, hbase]

/-- **What a rewriter does**: it leaves the URL as it is, or it gives another one. -/
lemma Rewriter.rewriteUrl_eq_iff (r : Rewriter) (url : Str) :
    r.rewriteUrl url = url ↔ telegramMatch (r.rawUrl url) = none ∨ r.proxyBase = none := by
  constructor
  · intro h
    rcases hmatch : telegramMatch (r.rawUrl url) with _ | ⟨host, path⟩
    · exact .inl rfl
    · rcases hbase : r.proxyBase with _ | base
      · exact .inr rfl
      · rw [Rewriter.rewriteUrl_of_some hmatch hbase] at h
        exact absurd h (r.proxied_ne hmatch (Rewriter.isBase hbase))
  · exact Rewriter.rewriteUrl_of_none

end Wss

end RioGram
