import RioGram.Wss.UrlRewriter

/-!
# Do the rewriters agree?

The three rewriters are given one configuration: the hook of the main thread reads it from where
`writeConfig` has stored it, and the worker is handed what was stored.  `agree_iff` says for which
configurations and URLs they return the same URL.
-/

namespace RioGram

open Wire Js Trimming

namespace Wss

/-- No proxy has been baked in: the hook is the file itself, or it was patched with an empty URL. -/
def NoBakedProxy (baked : Str) : Prop := baked = Js.ascii "__RIOGRAM_BAKED_PROXY_URL__" ∨ baked = []

section

variable (baked : Str) (location : Option Location) (config : WssProxyConfig) (url : Str)

/-- The hook of the main thread, once the configuration has been written. -/
def mainThreadOf : Rewriter := .mainThread location (some (Hook.writeConfig location config.toJson).toJson)

/-- The hook of a worker that is handed the configuration that was written. -/
def workerOf : Rewriter := .worker baked location (some (Hook.writeConfig location config.toJson))

/-- The three return the same URL, and the URL they were given if the proxy is not enabled. -/
def Agree : Prop :=
  (mainThreadOf location config).rewriteUrl url = (Rewriter.dart config).rewriteUrl url ∧
  (workerOf baked location config).rewriteUrl url = (Rewriter.dart config).rewriteUrl url ∧
  (config.enabled = false → (Rewriter.dart config).rewriteUrl url = url)

/-- The URL is none of Telegram's; or there is no proxy, neither in the configuration nor in the page; or
there is one in the configuration, trimmed alike by all and without the placeholder in it, and there is
nothing to be removed from the URL. -/
def AgreeWhen : Prop :=
  telegramMatch (normalizeUrlInput url) = none ∨
  (Worker.sameOriginProxyBase location = none ∧ (config.enabled = false ∨ trim config.url = [])) ∨
  (config.enabled = true ∧ trim config.url ≠ [] ∧ trimDart config.url = trim config.url ∧
    (¬ baked <:+: trim config.url ∨
      Worker.sameOriginProxyBase location = Hook.normalizeProxyBase config.url) ∧
    normalizeUrlInput url = url)

end

/-! ## The base URLs of the three -/

lemma count_normalizeBase (value : Str) : (normalizeBase value).count 0x85 = value.count 0x85 := by
  rw [normalizeBase, count_rdropWhile (by decide)]
  split_ifs with hhttps hhttp hnone
  · rcases List.isPrefixOf_iff_prefix.mp hhttps with ⟨rest, rfl⟩
    have hdrop : (Js.ascii "https://" ++ rest).drop 8 = rest := List.drop_left' rfl
    rw [hdrop, List.count_append, List.count_append]
    rfl
  · rcases List.isPrefixOf_iff_prefix.mp hhttp with ⟨rest, rfl⟩
    have hdrop : (Js.ascii "http://" ++ rest).drop 7 = rest := List.drop_left' rfl
    rw [hdrop, List.count_append, List.count_append]
    rfl
  · rw [List.count_append]
    exact Nat.zero_add _
  · rfl

lemma sameOriginProxyUrl_eq_nil {location : Option Location}
    (h : Worker.sameOriginProxyBase location = none) : Hook.sameOriginProxyUrl location = [] := by
  rcases location with _ | loc
  · rfl
  · simp only [Hook.sameOriginProxyUrl]
    split_ifs with hsecure
    · exfalso
      simp [Worker.sameOriginProxyBase, hsecure.1, hsecure.2] at h
    · rfl

lemma workerOf_proxyBase {baked : Str} (hbaked : NoBakedProxy baked) (location : Option Location)
    (config : WssProxyConfig) : (workerOf baked location config).proxyBase =
      (Worker.configBase baked (some config)).or (Worker.sameOriginProxyBase location) := by
  have hnone : (if baked ≠ [] then Worker.normalizeProxyBase baked baked else none) = none := by
    rcases hbaked with rfl | rfl <;> decide
  rw [workerOf, Rewriter.proxyBase, Worker.proxyBase, hnone, Option.none_or]
  rfl

/-- The configuration is read as it was written, unless the page takes the place of an empty one. -/
lemma mainThreadOf_proxyBase_enabled {location : Option Location} {config : WssProxyConfig}
    (h : config.enabled = true) : (mainThreadOf location config).proxyBase =
      (Hook.normalizeProxyBase config.url).or
        (Hook.normalizeProxyBase (Hook.sameOriginProxyUrl location)) := by
  simp [mainThreadOf, Rewriter.proxyBase, Hook.readConfig, Hook.writeConfig, WssProxyConfig.toJson,
    WssProxyConfig.assign, Hook.proxyBase, h]

lemma mainThreadOf_proxyBase_disabled {location : Option Location} {config : WssProxyConfig}
    (h : config.enabled = false) (hpage : Hook.sameOriginProxyUrl location = []) :
    (mainThreadOf location config).proxyBase = none := by
  simp [mainThreadOf, Rewriter.proxyBase, Hook.readConfig, Hook.writeConfig, WssProxyConfig.toJson,
    WssProxyConfig.assign, Hook.proxyBase, Hook.defaultConfig, h, hpage]

lemma dart_proxyBase {config : WssProxyConfig} (h : config.enabled = true) :
    (Rewriter.dart config).proxyBase =
      if trimDart config.url = [] then none else some (normalizeBase (trimDart config.url)) := by
  simp only [Rewriter.proxyBase, WssUrlRewriter.proxyBase, WssUrlRewriter.normalizeProxyBase, h]
  split_ifs <;> simp_all

/-! ## When they agree -/

section Cases

variable {baked : Str} {location : Option Location} {config : WssProxyConfig} {url : Str}

/-- URLs that are not Telegram's are left as they are. -/
lemma agree_of_not_telegram (h : telegramMatch (normalizeUrlInput url) = none) :
    Agree baked location config url := by
  have hurl : telegramMatch url = none := by
    rcases hmatch : telegramMatch url with _ | ⟨host, path⟩
    · rfl
    · rcases telegramMatch_normalizeUrlInput hmatch with ⟨path', hclean, -⟩
      rw [h] at hclean
      exact nomatch hclean
  have hdart : (Rewriter.dart config).rewriteUrl url = url := Rewriter.rewriteUrl_of_none (.inl hurl)
  have hmain : (mainThreadOf location config).rewriteUrl url = url := Rewriter.rewriteUrl_of_none (.inl h)
  have hworker : (workerOf baked location config).rewriteUrl url = url :=
    Rewriter.rewriteUrl_of_none (.inl h)
  rw [Agree, hdart, hmain, hworker]
  exact ⟨rfl, rfl, fun _ => rfl⟩

/-- Without any base URL, no URL is rewritten. -/
lemma agree_of_no_proxy (hbaked : NoBakedProxy baked)
    (hpage : Worker.sameOriginProxyBase location = none)
    (hconfig : config.enabled = false ∨ trim config.url = []) : Agree baked location config url := by
  have hpageUrl := sameOriginProxyUrl_eq_nil hpage
  have hdart : (Rewriter.dart config).proxyBase = none := by
    rcases hconfig with h | h
    · simp [Rewriter.proxyBase, WssUrlRewriter.proxyBase, h]
    · simp [Rewriter.proxyBase, WssUrlRewriter.proxyBase, trimDart_eq_nil h]
  have hmain : (mainThreadOf location config).proxyBase = none := by
    cases henabled : config.enabled with
    | false => exact mainThreadOf_proxyBase_disabled henabled hpageUrl
    | true =>
        have hblank : trim config.url = [] := hconfig.resolve_left (by simp [henabled])
        rw [mainThreadOf_proxyBase_enabled henabled, hpageUrl, Hook.normalizeProxyBase, if_pos hblank]
        rfl
  have hworker : (workerOf baked location config).proxyBase = none := by
    rw [workerOf_proxyBase hbaked, hpage, Option.or_none]
    rcases hconfig with h | h
    · simp [Worker.configBase, h]
    · simp [Worker.configBase, Worker.normalizeProxyBase, h]
  rw [Agree, Rewriter.rewriteUrl_of_none (.inr hdart), Rewriter.rewriteUrl_of_none (.inr hmain),
    Rewriter.rewriteUrl_of_none (.inr hworker)]
  exact ⟨rfl, rfl, fun _ => rfl⟩

/-- With a base URL that all read alike, the URL is rewritten alike. -/
lemma agree_of_proxy (hbaked : NoBakedProxy baked) (henabled : config.enabled = true)
    (hne : trim config.url ≠ []) (htrim : trimDart config.url = trim config.url)
    (hplaceholder : ¬ baked <:+: trim config.url ∨
      Worker.sameOriginProxyBase location = Hook.normalizeProxyBase config.url)
    (hurl : normalizeUrlInput url = url) : Agree baked location config url := by
  have hnormal : Hook.normalizeProxyBase config.url = some (normalizeBase (trim config.url)) := by
    rw [Hook.normalizeProxyBase, if_neg hne]
  have hdart : (Rewriter.dart config).proxyBase = some (normalizeBase (trim config.url)) := by
    rw [dart_proxyBase henabled, htrim, if_neg hne]
  have hmain : (mainThreadOf location config).proxyBase = some (normalizeBase (trim config.url)) := by
    rw [mainThreadOf_proxyBase_enabled henabled, hnormal, Option.some_or]
  have hworker : (workerOf baked location config).proxyBase = some (normalizeBase (trim config.url)) := by
    have hurlNe : config.url ≠ [] := by
      rintro hnil
      exact hne (by rw [hnil]; rfl)
    rw [workerOf_proxyBase hbaked, Worker.configBase, Option.bind_some, if_pos ⟨henabled, hurlNe⟩,
      Worker.normalizeProxyBase, if_neg hne]
    by_cases hinfix : baked <:+: trim config.url
    · rw [if_pos hinfix, Option.none_or, hplaceholder.resolve_left (not_not.mpr hinfix), hnormal]
    · rw [if_neg hinfix, Option.some_or]
  have hraw : normalizeUrlInput url = url := hurl
  simp only [Agree, Rewriter.rewriteUrl_eq, hdart, hmain, hworker]
  refine ⟨?_, ?_, fun h => absurd (h.symm.trans henabled) (by decide)⟩
  · exact congrArg (fun raw => rewriteThrough _ raw url) hraw
  · exact congrArg (fun raw => rewriteThrough _ raw url) hraw

/-! ## When they do not -/

variable {host : Str} {path : Option Str}
  (hmatch : telegramMatch (normalizeUrlInput url) = some (host, path))

include hmatch

/-- If the URL is left as it is, then there is no base URL. -/
lemma no_proxy_of_unchanged (hbaked : NoBakedProxy baked)
    (hmain : (mainThreadOf location config).rewriteUrl url = url)
    (hworker : (workerOf baked location config).rewriteUrl url = url) :
    Worker.sameOriginProxyBase location = none ∧ (config.enabled = false ∨ trim config.url = []) := by
  have hsome : ¬ telegramMatch (normalizeUrlInput url) = none := by simp [hmatch]
  have hmainBase := (((mainThreadOf location config).rewriteUrl_eq_iff url).mp hmain).resolve_left hsome
  have hworkerBase :=
    (((workerOf baked location config).rewriteUrl_eq_iff url).mp hworker).resolve_left hsome
  rw [workerOf_proxyBase hbaked, Option.or_eq_none_iff] at hworkerBase
  refine ⟨hworkerBase.2, ?_⟩
  cases henabled : config.enabled with
  | false => exact .inl rfl
  | true =>
      rw [mainThreadOf_proxyBase_enabled henabled, Option.or_eq_none_iff] at hmainBase
      by_contra hne
      rw [not_or] at hne
      rw [Hook.normalizeProxyBase, if_neg hne.2] at hmainBase
      cases hmainBase.1

/-- If the URL is rewritten alike, then the base URLs and what is read of the URL are the same. -/
lemma proxy_of_changed (hbaked : NoBakedProxy baked) (hagree : Agree baked location config url)
    (hdart : (Rewriter.dart config).rewriteUrl url ≠ url) :
    config.enabled = true ∧ trim config.url ≠ [] ∧ trimDart config.url = trim config.url ∧
    (¬ baked <:+: trim config.url ∨
      Worker.sameOriginProxyBase location = Hook.normalizeProxyBase config.url) ∧
    normalizeUrlInput url = url := by
  rcases hagree with ⟨hmainEq, hworkerEq, hoff⟩
  have henabled : config.enabled = true := by
    by_contra h
    exact hdart (hoff (Bool.eq_false_iff.mpr h))
  -- what is used in Dart, and that the path is the same only if nothing is removed
  rw [Ne, Rewriter.rewriteUrl_eq_iff, not_or] at hdart
  obtain ⟨⟨hostDart, pathDart⟩, hmatchDart⟩ := Option.ne_none_iff_exists'.mp hdart.1
  have hrawDart : (Rewriter.dart config).rawUrl url = url := rfl
  obtain ⟨path', hclean, hsamePath⟩ := telegramMatch_normalizeUrlInput (hrawDart ▸ hmatchDart)
  rw [hmatch] at hclean
  obtain ⟨rfl, rfl⟩ := Prod.mk.inj (Option.some.inj hclean)
  have hneDart : trimDart config.url ≠ [] := by
    intro hnil
    rw [dart_proxyBase henabled, if_pos hnil] at hdart
    exact hdart.2 rfl
  have hne : trim config.url ≠ [] := fun hnil => hneDart (trimDart_eq_nil hnil)
  have hbaseDart : (Rewriter.dart config).proxyBase = some (normalizeBase (trimDart config.url)) := by
    rw [dart_proxyBase henabled, if_neg hneDart]
  have hnormal : Hook.normalizeProxyBase config.url = some (normalizeBase (trim config.url)) := by
    rw [Hook.normalizeProxyBase, if_neg hne]
  have hbaseMain : (mainThreadOf location config).proxyBase = some (normalizeBase (trim config.url)) := by
    rw [mainThreadOf_proxyBase_enabled henabled, hnormal, Option.some_or]
  rw [Rewriter.rewriteUrl_of_some hmatchDart hbaseDart] at hmainEq hworkerEq
  rw [Rewriter.rewriteUrl_of_some (r := mainThreadOf location config) hmatch hbaseMain] at hmainEq
  -- the rewritten URLs are told apart by how often `NEL` is in them
  have hcount := congrArg (List.count 0x85) hmainEq
  have hraw := (mainThreadOf location config).count_rawUrl (a := 0x85) (by decide) (by decide) (by decide)
    url
  have hrawUrl : (mainThreadOf location config).rawUrl url = normalizeUrlInput url := rfl
  rw [hrawUrl] at hraw
  rw [count_proxied hmatch, count_proxied hmatchDart, count_normalizeBase, count_normalizeBase, hraw,
    count_trim] at hcount
  have htrim : trimDart config.url = trim config.url :=
    trimDart_eq_of_count (Nat.add_right_cancel hcount).symm
  rw [htrim] at hmainEq hworkerEq hbaseDart
  have hpath := List.append_cancel_left hmainEq
  injection hpath with _ hpath
  refine ⟨henabled, hne, htrim, ?_, hsamePath (List.append_cancel_left hpath)⟩
  by_cases hinfix : baked <:+: trim config.url
  · right
    have hconfigBase : Worker.configBase baked (some config) = none := by
      simp [Worker.configBase, Worker.normalizeProxyBase, hinfix]
    have hbaseWorker := workerOf_proxyBase hbaked location config
    rw [hconfigBase, Option.none_or] at hbaseWorker
    have hchanged : (workerOf baked location config).rewriteUrl url ≠ url := by
      rw [hworkerEq]
      exact (Rewriter.dart config).proxied_ne hmatchDart (Rewriter.isBase hbaseDart)
    rw [Ne, Rewriter.rewriteUrl_eq_iff, not_or] at hchanged
    obtain ⟨base, hbase⟩ := Option.ne_none_iff_exists'.mp hchanged.2
    rw [Rewriter.rewriteUrl_of_some (r := workerOf baked location config) hmatch hbase] at hworkerEq
    rw [← hbaseWorker, hbase, hnormal]
    congr 1
    refine List.append_cancel_right (hworkerEq.trans ?_)
    rw [List.append_cancel_left hpath]
    rfl
  · exact .inl hinfix

end Cases

/-- **The rewriters agree** exactly under the condition above. -/
theorem agree_iff {baked : Str} (hbaked : NoBakedProxy baked) (location : Option Location)
    (config : WssProxyConfig) (url : Str) :
    Agree baked location config url ↔ AgreeWhen baked location config url := by
  constructor
  · intro h
    rcases hmatch : telegramMatch (normalizeUrlInput url) with _ | ⟨host, path⟩
    · exact .inl hmatch
    · by_cases hdart : (Rewriter.dart config).rewriteUrl url = url
      · exact .inr (.inl (no_proxy_of_unchanged hmatch hbaked (h.1.trans hdart) (h.2.1.trans hdart)))
      · exact .inr (.inr (proxy_of_changed hmatch hbaked h hdart))
  · rintro (h | ⟨hpage, hconfig⟩ | ⟨henabled, hne, htrim, hplaceholder, hurl⟩)
    · exact agree_of_not_telegram h
    · exact agree_of_no_proxy hbaked hpage hconfig
    · exact agree_of_proxy hbaked henabled hne htrim hplaceholder hurl

/-- The configuration that is applied when the proxy is used, on a page that could be one. -/
def enabledConfig : WssProxyConfig where
  enabled := true
  url := Js.ascii "https://proxy.example/"

/-- A page with a host of its own. -/
def page : Location where
  protocol := Js.ascii "https:"
  host := Js.ascii "app.example"
  href := Js.ascii "https://app.example/"

/-- A proxy that all use. -/
theorem agree_enabled : Agree (Js.ascii "__RIOGRAM_BAKED_PROXY_URL__") (some page) enabledConfig
    (Js.ascii "wss://venus.web.telegram.org:443/apiws") :=
  (agree_iff (.inl rfl) _ _ _).mpr
    (.inr (.inr ⟨rfl, by decide, by decide, .inl (by decide), by decide⟩))

/-- **A proxy that has been switched off** is replaced by the page in a worker. -/
theorem worker_rewrites_disabled :
    NoBakedProxy (Js.ascii "__RIOGRAM_BAKED_PROXY_URL__") ∧
    (workerOf (Js.ascii "__RIOGRAM_BAKED_PROXY_URL__") (some page)
      { enabledConfig with enabled := false }).rewriteUrl (Js.ascii "wss://venus.web.telegram.org/apiws") =
        Js.ascii "wss://app.example/venus.web.telegram.org/apiws" ∧
    ¬ Agree (Js.ascii "__RIOGRAM_BAKED_PROXY_URL__") (some page) { enabledConfig with enabled := false }
      (Js.ascii "wss://venus.web.telegram.org/apiws") := by
  refine ⟨.inl rfl, by decide, fun h => ?_⟩
  exact absurd (h.2.1.trans (h.2.2 rfl)) (by decide)

end Wss

end RioGram
