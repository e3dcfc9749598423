import RioGram.Net.Creator.Steps

/-!
# Which proxy is the transport proxy

A SOCKS5 or HTTP proxy with the comment `RioGram:Transport` is to become the transport proxy when it is
added.  `add_proxy` moves the comment into the entry before `update_transport_proxy_id` looks at it, so
that this happens only for a proxy that is stored with the comment already:
`addProxy_sets_transport_iff`.

The other way round, `transport_proxy_id_` is to name a stored proxy of that kind with that comment.
`TransportRegistered` says so; the requests that break it are `add_proxy` on the transport proxy itself,
and `run_transportRegistered` is the invariant for the runs that keep to `KeepsTransport`.
-/

namespace RioGram

namespace ConnectionCreator

open Transition

/-! ## Adding a proxy with the comment -/

/-- The identifier of an equal proxy, or the next new one. -/
def targetId (s : ConnectionCreator) (proxy : Proxy) : ℤ :=
  (findProxy s.proxies proxy).getD s.maxProxyId

lemma Placed.id_eq_targetId {s t : ConnectionCreator} {oldProxyId id : ℤ} {proxy : Proxy}
    {comment left : String} (h : Placed s oldProxyId proxy comment id left t) (hold : oldProxyId < 0) :
    id = s.targetId proxy := by
  rcases h.target with hfind | ⟨hfind, -, hid, -⟩
  · rw [targetId, hfind]
    rfl
  · rw [targetId, hfind, hid, if_neg (Int.not_le.mpr hold)]
    rfl

/-- After the proxy is placed, the transport proxy is set if the entry had the comment before. -/
lemma Placed.transport_iff {s t u : ConnectionCreator} {oldProxyId id : ℤ} {proxy : Proxy}
    {left : String} (h : Placed s oldProxyId proxy transportProxyComment id left t)
    (htype : isTransportType proxy) (hu : Unchanged (t.updateTransportProxyId id left) u) :
    (u.transportProxyId = id ∧ u.transportProxyIpAddress = none) ↔
      s.proxies[id]? = some (proxy, transportProxyComment) ∨
      s.transportProxyId = id ∧ s.transportProxyIpAddress = none := by
  rcases updateTransportProxyId_cases t id left with ⟨hsame, hnot⟩ | ⟨hleft, -, -, -, hset⟩
  · have hentry : s.proxies[id]? ≠ some (proxy, transportProxyComment) := by
      intro hentry
      exact hnot (h.marker.mpr ⟨rfl, hentry⟩) _ h.entry htype
    have hid : t.transportProxyId = s.transportProxyId := by rw [h.frame]
    have hip : t.transportProxyIpAddress = s.transportProxyIpAddress := by rw [h.frame]
    rw [hu.transportProxyId, hu.transportProxyIpAddress, hsame, hid, hip]
    simp only [hentry, false_or]
  · rw [hu.transportProxyId, hu.transportProxyIpAddress, hset]
    simp only [(h.marker.mp hleft).2, and_self, true_or]

/-- **When `add_proxy` sets the transport proxy.**  A new call with the marker comment makes the proxy
the transport proxy, with no address, only if it was stored with that comment already, or was the
transport proxy with no address already. -/
theorem addProxy_sets_transport_iff {s : ConnectionCreator} {oldProxyId : ℤ}
    {input : Option InputProxy} {enable : Bool} {proxy : Proxy} {added : AddedProxy}
    {t : ConnectionCreator} (hold : oldProxyId < 0) (hproxy : Proxy.createProxy input = .ok proxy)
    (htype : isTransportType proxy)
    (h : s.addProxy oldProxyId input enable transportProxyComment = .ok (.ok added, t)) :
    (t.transportProxyId = added.id ∧ t.transportProxyIpAddress = none) ↔
      s.proxies[s.targetId proxy]? = some (proxy, transportProxyComment) ∨
      s.transportProxyId = s.targetId proxy ∧ s.transportProxyIpAddress = none := by
  have hstore : s.addProxy oldProxyId input enable transportProxyComment =
      s.storeProxy oldProxyId proxy enable transportProxyComment := by
    simp only [addProxy, hproxy, addCreatedProxy, if_neg (Int.not_le.mpr hold)]
  rw [hstore] at h
  have hyields : Yields (s.storeProxy oldProxyId proxy enable transportProxyComment)
      (fun result => ∀ added, result.1 = .ok added →
        ((result.2.transportProxyId = added.id ∧ result.2.transportProxyIpAddress = none) ↔
          s.proxies[s.targetId proxy]? = some (proxy, transportProxyComment) ∨
          s.transportProxyId = s.targetId proxy ∧ s.transportProxyIpAddress = none))
      fun _ => True := by
    refine storeProxy_yields (fun _ _ _ => trivial) ?_
    intro id left u hplaced
    refine ((unchanged_housekeeping _).enableIf (Unchanged.refl _) enable id).mono ?_
    rintro v hv added hid _ ⟨⟩
    rw [hid, ← hplaced.id_eq_targetId hold]
    exact hplaced.transport_iff htype hv
  exact hyields.result h added rfl

/-- A SOCKS5 proxy, as it comes in a request. -/
def exampleProxy : InputProxy := ⟨"10.0.0.1", 1080, some (.socks5 "" "")⟩

/-- A state with this proxy as the transport proxy. -/
def exampleState : ConnectionCreator where
  proxies := (∅ : ProxyMap).insert 2
    ({ type := .socks5, server := "10.0.0.1", port := 1080 }, transportProxyComment)
  maxProxyId := 3
  transportProxyId := 2
  transportProxyIpAddress := some ⟨"10.0.0.1", 1080, false⟩
  isInited := true

/-- Adding the stored transport proxy once more makes it the transport proxy without an address. -/
theorem addProxy_again_sets_transport : ∃ added t,
    exampleState.addProxy (-1) (some exampleProxy) false transportProxyComment = .ok (.ok added, t) ∧
    t.transportProxyId = added.id ∧ t.transportProxyIpAddress = none := by
  refine ⟨_, _, rfl, ?_⟩
  apply (@addProxy_sets_transport_iff exampleState (-1) (some exampleProxy) false _ _ _ (by decide) rfl
    rfl rfl).mpr
  exact .inl rfl

/-- A new proxy with the comment does not become the transport proxy. -/
theorem addProxy_new_not_transport : ∃ s added t, startUp 0 {} = .ok s ∧
    s.addProxy (-1) (some exampleProxy) false transportProxyComment = .ok (.ok added, t) ∧
    ¬ (t.transportProxyId = added.id ∧ t.transportProxyIpAddress = none) := by
  refine ⟨_, _, _, rfl, rfl, ?_⟩
  decide

/-! ## The transport proxy is a stored proxy -/

/-- The transport proxy, if there is one, is stored, can be one, and has the comment. -/
def TransportRegistered (s : ConnectionCreator) : Prop :=
  s.transportProxyId ≠ 0 → ∃ proxy,
    s.proxies[s.transportProxyId]? = some (proxy, transportProxyComment) ∧ isTransportType proxy

lemma useProxy_of_isTransportType {proxy : Proxy} (h : isTransportType proxy) : proxy.useProxy := by
  cases htype : proxy.type <;>
    simp_all [isTransportType, Proxy.useProxy, Proxy.useSocks5Proxy, Proxy.useHttpTcpProxy]

lemma TransportRegistered.of_unchanged {s t : ConnectionCreator} (hs : TransportRegistered s)
    (h : Unchanged s t) : TransportRegistered t := by
  intro hid
  rw [h.transportProxyId] at hid ⊢
  rcases hs hid with ⟨proxy, hstored, htype⟩
  exact ⟨proxy, h.stored _ _ hstored, htype⟩

lemma transportRegistered_background : Background TransportRegistered fun _ => True where
  subscriptActive := fun s _ hs => hs.of_unchanged ((Unchanged.refl s).subscript _)
  subscriptTransport := fun s _ hs => hs.of_unchanged ((Unchanged.refl s).subscript _)
  nextToken := fun _ hs => hs
  resolveTransport := fun s hrunning hid hpast htoken hs =>
    hs.of_unchanged ((unchanged_housekeeping s).resolveTransport s hrunning hid hpast htoken (.refl s))
  resolveMain := fun s hid hpast htoken hs =>
    hs.of_unchanged ((unchanged_housekeeping s).resolveMain s hid hpast htoken (.refl s))
  setTimeout := fun _ _ hs => hs
  forgetMain := fun _ hs => hs
  setActiveProxyId := fun _ _ hs => hs
  transportQueryToken := fun _ _ _ _ => trivial
  proxyQueryToken := fun _ _ _ _ => trivial
  otherCheck := fun _ _ _ => trivial
  pings := fun _ _ _ _ hs => hs
  ask := fun _ _ _ _ hs => hs
  number := fun _ _ hs => hs
  network := fun _ _ _ hs => hs
  main := fun _ _ _ hs => hs
  tick := fun _ _ hs => hs
  alarm := fun _ hs => hs
  close := fun _ hs => hs
  receive := by
    intro s query result hs
    cases result <;> exact hs
  transportError := fun _ hs => hs
  transportAddress := fun _ _ _ _ _ hs => hs

/-! ## Which calls of `add_proxy` keep it so -/

/-- If the transport proxy is edited, it gets the comment and a proxy that can be one; if its
replacement is stored elsewhere already, it is with the comment.  If it is found to be the proxy that is
added, it keeps the comment. -/
def TransportKept (s : ConnectionCreator) (oldProxyId : ℤ) (proxy : Proxy) (comment : String) : Prop :=
  (oldProxyId = s.transportProxyId → comment = transportProxyComment ∧ isTransportType proxy) ∧
  (s.Stores oldProxyId proxy → ∀ id, findProxy (s.remaining oldProxyId) proxy = some id →
    (id = s.transportProxyId → comment = transportProxyComment) ∧
    (oldProxyId = s.transportProxyId → s.proxies[id]? = some (proxy, transportProxyComment)))

/-- The condition on a step. -/
def KeepsTransport (s : ConnectionCreator) : Event → Prop
  | .addProxy oldProxyId input _ comment => s.transportProxyId ≠ 0 →
      ∀ proxy, Proxy.createProxy input = .ok proxy → s.TransportKept oldProxyId proxy comment
  | _ => True

/-- After the proxy is placed, `update_transport_proxy_id` leaves a registered transport proxy, if it
finds one that is left alone, one that keeps the comment, or sets it. -/
lemma Placed.transportRegistered {s t : ConnectionCreator} {oldProxyId id : ℤ} {proxy : Proxy}
    {comment left : String} (h : Placed s oldProxyId proxy comment id left t)
    (hother : s.transportProxyId ≠ 0 → id ≠ s.transportProxyId →
      TransportRegistered s ∨ left = transportProxyComment ∧ isTransportType proxy)
    (hself : s.transportProxyId ≠ 0 → id = s.transportProxyId →
      comment = transportProxyComment ∧ isTransportType proxy) :
    TransportRegistered (t.updateTransportProxyId id left) := by
  rcases updateTransportProxyId_cases t id left with ⟨hsame, hnot⟩ | ⟨hleft, entry, hentry, htype, hset⟩
  · rw [hsame]
    intro hid
    have hframe : t.transportProxyId = s.transportProxyId := by rw [h.frame]
    rw [hframe] at hid ⊢
    by_cases hsame : id = s.transportProxyId
    · rcases hself hid hsame with ⟨rfl, htype⟩
      subst hsame
      exact ⟨proxy, h.entry, htype⟩
    · rcases hother hid hsame with hs | ⟨hleft, htype⟩
      · rcases hs hid with ⟨stored, hstored, htype⟩
        exact ⟨stored, (h.other _ (Ne.symm hsame)).trans hstored, htype⟩
      · exact absurd htype (hnot hleft _ h.entry)
  · rw [hset]
    intro _
    rw [h.entry] at hentry
    cases hentry
    have hcomment := (h.marker.mp hleft).1
    subst hcomment
    exact ⟨proxy, h.entry, htype⟩

lemma storeProxy_transportRegistered {s : ConnectionCreator} {oldProxyId : ℤ} {proxy : Proxy}
    {enable : Bool} {comment : String}
    (h : ∀ id left t, Placed s oldProxyId proxy comment id left t →
      TransportRegistered (t.updateTransportProxyId id left)) :
    Yields (s.storeProxy oldProxyId proxy enable comment) (fun result => TransportRegistered result.2)
      fun _ => True := by
  refine storeProxy_yields (fun _ _ _ => trivial) ?_
  intro id left t hplaced
  refine (transportRegistered_background.enableIf (h id left t hplaced) enable id).mono ?_
  intro u hu _ _
  exact hu

lemma TransportRegistered.isTransportType {s : ConnectionCreator} (hs : TransportRegistered s)
    (hid : s.transportProxyId ≠ 0) {entry : Proxy × String}
    (h : s.proxies[s.transportProxyId]? = some entry) : isTransportType entry.1 := by
  rcases hs hid with ⟨proxy, hproxy, htype⟩
  rw [h] at hproxy
  cases hproxy
  exact htype

/-- `add_proxy` from where a different proxy has been erased. -/
lemma editProxy_transportRegistered {s t : ConnectionCreator} (hs : TransportRegistered s)
    {oldProxyId : ℤ} (hold : 0 ≤ oldProxyId) {input : Option InputProxy} {proxy : Proxy}
    (hproxy : Proxy.createProxy input = .ok proxy) {stored : Proxy × String}
    (hstored : s.proxies[oldProxyId]? = some stored) (hdiffers : stored.1 ≠ proxy)
    (ht : Unchanged s t) {enable : Bool} {comment : String}
    (hkept : s.transportProxyId ≠ 0 → s.TransportKept oldProxyId proxy comment) :
    Yields (storeProxy { t with proxies := t.proxies.erase oldProxyId } oldProxyId proxy enable comment)
      (fun result => TransportRegistered result.2) fun _ => True := by
  refine storeProxy_transportRegistered ?_
  intro id left u hplaced
  have huse := Proxy.createProxy_useProxy hproxy
  have hremaining : s.remaining oldProxyId = s.proxies.erase oldProxyId := if_pos hold
  have hstores : s.Stores oldProxyId proxy := fun _ => ⟨stored, hstored, hdiffers⟩
  have hfindProxy : ∀ h : id ≠ oldProxyId, findProxy (s.remaining oldProxyId) proxy = some id := by
    intro hne
    exact (hplaced.edit_target hold ht huse).resolve_right fun h => hne h.2
  refine hplaced.transportRegistered ?_ ?_ <;> intro hnonzero hid <;>
    simp only [ht.transportProxyId] at hnonzero hid <;> rcases hkept hnonzero with ⟨hedited, hfound⟩
  · by_cases hsame : oldProxyId = s.transportProxyId
    · rcases hedited hsame with ⟨hcomment, htype⟩
      have hne : id ≠ oldProxyId := fun h => hid (h.trans hsame)
      have hmarked := (hfound hstores id (hfindProxy hne)).2 hsame
      refine .inr ⟨hplaced.marker.mpr ⟨hcomment, ?_⟩, htype⟩
      refine (ht.erase oldProxyId id huse).mpr ?_
      rw [getElem?_erase_of_ne hne.symm]
      exact hmarked
    · left
      intro _
      rcases hs hnonzero with ⟨transport, htransport, htype⟩
      refine ⟨transport, ?_, htype⟩
      simp only [ht.transportProxyId]
      refine (ht.erase oldProxyId _ (useProxy_of_isTransportType htype)).mpr ?_
      rw [getElem?_erase_of_ne hsame]
      exact htransport
  · by_cases hsame : oldProxyId = s.transportProxyId
    · exact hedited hsame
    · have hfind := hfindProxy fun h => hsame (h ▸ hid)
      refine ⟨(hfound hstores id hfind).1 hid, ?_⟩
      rcases findProxy_some hfind with ⟨comment, hentry⟩
      rw [hremaining, hid, getElem?_erase_of_ne hsame] at hentry
      exact hs.isTransportType hnonzero hentry

/-- `add_proxy` where the transport proxy is kept. -/
lemma addProxy_transportRegistered {s : ConnectionCreator} (hs : TransportRegistered s)
    {oldProxyId : ℤ} {input : Option InputProxy} {enable : Bool} {comment : String}
    (hkeeps : s.KeepsTransport (.addProxy oldProxyId input enable comment)) :
    Yields (s.addProxy oldProxyId input enable comment) (fun result => TransportRegistered result.2)
      fun _ => True := by
  refine addProxy_yields (fun _ _ _ => trivial) (fun _ => hs) ?_ ?_
    ((unchanged_housekeeping s).disableIfActive (Unchanged.refl s) oldProxyId) ?_
  · intro proxy stored t hproxy hold hstored hframe hentry hother
    have ht : TransportRegistered t := by
      have hid : t.transportProxyId = s.transportProxyId := by rw [hframe]
      intro hnonzero
      rw [hid] at hnonzero ⊢
      by_cases hsame : oldProxyId = s.transportProxyId
      · rcases (hkeeps hnonzero proxy hproxy).1 hsame with ⟨rfl, htype⟩
        subst hsame
        exact ⟨proxy, hentry, htype⟩
      · rcases hs hnonzero with ⟨transport, htransport, htype⟩
        exact ⟨transport, (hother _ (Ne.symm hsame)).trans htransport, htype⟩
    refine (transportRegistered_background.enableIf ht enable oldProxyId).mono ?_
    intro u hu _ _
    exact hu
  · intro proxy hproxy hold
    refine storeProxy_transportRegistered ?_
    intro id left t hplaced
    refine hplaced.transportRegistered (fun _ _ => .inl hs) ?_
    intro hnonzero hid
    have hremaining : s.remaining oldProxyId = s.proxies := if_neg (Int.not_le.mpr hold)
    rcases hplaced.target with hfind | ⟨-, hnone, -⟩
    · rcases findProxy_some hfind with ⟨stored, hstored⟩
      rw [hid] at hstored
      refine ⟨?_, hs.isTransportType hnonzero hstored⟩
      rw [← hremaining] at hfind
      exact ((hkeeps hnonzero proxy hproxy).2 (fun h => absurd hold (Int.not_lt.mpr h)) id hfind).1 hid
    · rcases hs hnonzero with ⟨transport, htransport, -⟩
      rw [← hid, hnone] at htransport
      exact nomatch htransport
  · intro proxy stored t hproxy hold hstored hdiffers _ ht
    exact editProxy_transportRegistered hs hold hproxy hstored hdiffers ht
      fun hnonzero => hkeeps hnonzero proxy hproxy

/-- **Every step** that keeps the transport proxy leaves it registered. -/
theorem TransportRegistered.step {s : ConnectionCreator} (hs : TransportRegistered s) {e : Event}
    (hkeeps : s.KeepsTransport e) : Yields (s.step e) TransportRegistered fun _ => True := by
  refine transportRegistered_background.step hs e ?_ ?_
  · rintro oldProxyId input enable comment rfl
    exact addProxy_transportRegistered hs hkeeps
  · rintro proxyId -
    refine removeProxy_yields (fun _ _ _ => trivial) hs
      (fun _ => transportRegistered_background.disableIfActive hs proxyId) ?_
    intro t ht
    simp only [forgetTransport]
    split_ifs with hid
    · exact fun h => absurd rfl h
    · intro hnonzero
      rcases ht hnonzero with ⟨proxy, hproxy, htype⟩
      refine ⟨proxy, ?_, htype⟩
      simp only [getElem?_erase_of_ne hid]
      exact hproxy

lemma startUp_transportRegistered (now : Time) (db : ProxyDatabase) :
    Yields (startUp now db) TransportRegistered fun _ => True := by
  refine (startUp_yields (fun _ _ _ => trivial) now db).mono ?_
  rintro _ ⟨t, ⟨proxies, maxProxyId, activeProxyId, -, rfl⟩, rfl⟩
  have hpass : TransportRegistered (loaded now proxies maxProxyId activeProxyId).initTransport := by
    refine initTransport_keeps (fun h => absurd rfl h) ?_
    intro t id entry hproxies hentry ht
    rcases updateTransportProxyId_cases t id entry.2 with ⟨h, -⟩ | ⟨hmarker, stored, hstored, htype, h⟩
    · rw [h]
      exact ht
    · rw [h]
      intro _
      rw [hproxies, hentry] at hstored
      cases hstored
      refine ⟨entry.1, ?_, htype⟩
      simp only [hproxies, hentry, ← hmarker]
  exact hpass

/-- **The transport proxy is registered** in every state of every run whose calls of `add_proxy` keep
it: it is stored, it is a SOCKS5 or HTTP proxy, and it has the comment.  Hence `proxies_[id]` for it
never inserts an empty proxy. -/
theorem run_transportRegistered {now : Time} {db : ProxyDatabase} {s : ConnectionCreator}
    (hstart : startUp now db = .ok s) {es : List Event} (hkeeps : Meets step KeepsTransport s es)
    {t : ConnectionCreator} (hrun : run step s es = .ok t) (hid : t.transportProxyId ≠ 0) :
    (∃ proxy, t.proxies[t.transportProxyId]? = some (proxy, transportProxyComment) ∧
      isTransportType proxy) ∧ (t.subscript t.transportProxyId).2 = t := by
  have hs := (startUp_transportRegistered now db).result hstart
  have ht := (run_yields (fun s e hs he => TransportRegistered.step hs he) hs hkeeps).result hrun
  rcases ht hid with ⟨proxy, hproxy, htype⟩
  exact ⟨⟨proxy, hproxy, htype⟩, by rw [subscript_of_some hproxy]⟩

/-- The transport proxy and another proxy in the database. -/
def exampleDatabase : ProxyDatabase where
  maxId := some 4
  proxies := [(2, { type := .socks5, server := "10.0.0.1", port := 1080 }),
    (3, { type := .httpTcp, server := "10.0.0.2", port := 8080 })]
  comments := [(2, transportProxyComment)]

/-- The transport proxy stays registered when it is added once more. -/
theorem run_transportRegistered_again : ∃ s t, startUp 0 exampleDatabase = .ok s ∧
    run step s [.addProxy (-1) (some exampleProxy) true transportProxyComment] = .ok t ∧
    t.transportProxyId ≠ 0 ∧ ∃ proxy,
      t.proxies[t.transportProxyId]? = some (proxy, transportProxyComment) ∧ isTransportType proxy := by
  refine ⟨_, _, rfl, rfl, by decide, ?_⟩
  refine (@run_transportRegistered 0 exampleDatabase _ rfl
    [.addProxy (-1) (some exampleProxy) true transportProxyComment] ⟨?_, fun _ _ => trivial⟩ _ rfl
    (by decide)).1
  intro _ proxy _
  refine ⟨fun h => absurd h (by decide), ?_⟩
  intro _ id _
  exact ⟨fun _ => rfl, fun h => absurd h (by decide)⟩

/-- The transport proxy is edited to be equal to another proxy: its identifier stays, but names nothing. -/
theorem editProxy_transport_unstored : ∃ s t, startUp 0 exampleDatabase = .ok s ∧
    run step s [.addProxy 2 (some ⟨"10.0.0.2", 8080, some (.http "" "" false)⟩) false
      transportProxyComment] = .ok t ∧
    t.transportProxyId ≠ 0 ∧ t.proxies[t.transportProxyId]? = none := by
  refine ⟨_, _, rfl, rfl, by decide, rfl⟩

end ConnectionCreator

end RioGram
