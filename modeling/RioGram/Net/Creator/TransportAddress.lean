import RioGram.Net.Creator.Steps

/-!
# The address of the transport proxy

An answer about the transport proxy is installed if it comes with the token of the transport slot, and
the slot keeps its token when the transport proxy is removed, edited or exchanged.  So an answer about
one proxy can be installed as the address of another.

`AddressCurrent` says that both the address and the query that is out are about the proxy now named by
`transport_proxy_id_`.  `KeepsAddress` is the condition under which every step preserves it, and
`run_addressCurrent` is the result for runs.
-/

namespace RioGram

namespace ConnectionCreator

open Transition

/-! ## The invariant -/

/-- The address of the transport proxy, and the query that is out for it, are about `proxy`. -/
def Serves (s : ConnectionCreator) (proxy : Proxy) : Prop :=
  (∀ address, s.transportProxyIpAddress = some address →
    (proxy.server, proxy.port, address) ∈ s.resolved) ∧
  (s.resolveTransportProxyQueryToken ≠ 0 → ∀ server port,
    .transport s.resolveTransportProxyQueryToken server port ∈ s.resolving →
      server = proxy.server ∧ port = proxy.port)

/-- There is an address, or a query is out for it. -/
def Engaged (s : ConnectionCreator) : Prop :=
  s.transportProxyIpAddress ≠ none ∨ s.resolveTransportProxyQueryToken ≠ 0

/-- The tokens of transport queries are numbers that have been given out. -/
def TransportIssued (s : ConnectionCreator) : Prop :=
  ∀ token server port, .transport token server port ∈ s.resolving →
    0 < token ∧ token ≤ s.currentToken

/-- What is known or asked about the transport proxy is about the one that is stored. -/
def AddressCurrent (s : ConnectionCreator) : Prop :=
  s.TransportIssued ∧
  (s.Engaged → ∃ entry, s.proxies[s.transportProxyId]? = some entry ∧ s.Serves entry.1)

/-- A change of the stored proxies that keeps what is stored. -/
lemma AddressCurrent.of_stored {s : ConnectionCreator} (hs : AddressCurrent s) {proxies : ProxyMap}
    (h : ∀ entry, s.proxies[s.transportProxyId]? = some entry →
      proxies[s.transportProxyId]? = some entry) : AddressCurrent { s with proxies := proxies } := by
  refine ⟨hs.1, ?_⟩
  intro hengaged
  rcases hs.2 hengaged with ⟨entry, hentry, hserves⟩
  exact ⟨entry, h entry hentry, hserves⟩

/-- A query of another kind, or with a token that is given out for it. -/
lemma AddressCurrent.of_query {s : ConnectionCreator} (hs : AddressCurrent s) {query : Query}
    (hquery : ∀ token server port, query ≠ .transport token server port) {current : ℕ}
    (hcurrent : s.currentToken ≤ current) :
    AddressCurrent { s with resolving := s.resolving ++ [query], currentToken := current } := by
  have hmem : ∀ {token server port}, .transport token server port ∈ s.resolving ++ [query] →
      .transport token server port ∈ s.resolving := by
    intro token server port h
    rcases List.mem_append.mp h with h | h
    · exact h
    · exact absurd (List.mem_singleton.mp h).symm (hquery token server port)
  refine ⟨?_, ?_⟩
  · intro token server port h
    have hissued := hs.1 token server port (hmem h)
    exact ⟨hissued.1, hissued.2.trans hcurrent⟩
  · intro hengaged
    rcases hs.2 hengaged with ⟨entry, hentry, haddress, hqueries⟩
    exact ⟨entry, hentry, haddress, fun htoken server port h => hqueries htoken server port (hmem h)⟩

/-- The query that `loop` sends out is for the proxy that is stored, or has just been inserted. -/
lemma AddressCurrent.resolveTransport {s : ConnectionCreator} (hs : AddressCurrent s) :
    AddressCurrent s.resolveTransport := by
  rw [resolveTransport_eq]
  refine ⟨?_, ?_⟩
  · intro token server port h
    rcases List.mem_append.mp h with h | h
    · have hissued := hs.1 token server port h
      exact ⟨hissued.1, Nat.le_succ_of_le hissued.2⟩
    · cases List.mem_singleton.mp h
      exact ⟨Nat.succ_pos _, le_rfl⟩
  · intro _
    refine ⟨_, subscript_self s s.transportProxyId, ?_, ?_⟩
    · intro address haddress
      have hsome : s.transportProxyIpAddress = some address := haddress
      rcases hs.2 (.inl (by simp [hsome])) with ⟨entry, hentry, hserves⟩
      rw [subscript_of_some hentry]
      exact hserves.1 address haddress
    · intro _ server port h
      rcases List.mem_append.mp h with h | h
      · exact absurd (hs.1 _ server port h).2 (Nat.not_succ_le_self _)
      · cases List.mem_singleton.mp h
        exact ⟨rfl, rfl⟩

/-- An answer to the query that is out is about the stored proxy. -/
lemma AddressCurrent.transportAddress {s : ConnectionCreator} (hs : AddressCurrent s) {server : String}
    {port : ℕ} (address : IpAddress)
    (hquery : .transport s.resolveTransportProxyQueryToken server port ∈ s.resolving) (timestamp : Time) :
    AddressCurrent
      { s.receive (.transport s.resolveTransportProxyQueryToken server port) (.ok address) with
        resolveTransportProxyQueryToken := 0
        transportProxyIpAddress := some address
        resolveTransportProxyTimestamp := timestamp } := by
  have htoken : s.resolveTransportProxyQueryToken ≠ 0 := (hs.1 _ server port hquery).1.ne'
  rcases hs.2 (.inr htoken) with ⟨entry, hentry, -, hqueries⟩
  rcases hqueries htoken server port hquery with ⟨rfl, rfl⟩
  refine ⟨?_, ?_⟩
  · intro token server port h
    exact hs.1 token server port (List.mem_of_mem_erase h)
  · intro _
    refine ⟨entry, hentry, ?_, fun h => absurd rfl h⟩
    rintro _ ⟨⟩
    exact List.mem_append_right _ (List.mem_singleton.mpr rfl)

lemma addressCurrent_background : Background AddressCurrent fun _ => True where
  subscriptActive := by
    intro s _ hs
    rw [subscript_eq]
    exact hs.of_stored fun entry => subscript_stored s.activeProxyId
  subscriptTransport := by
    intro s _ hs
    rw [subscript_eq]
    exact hs.of_stored fun entry => subscript_stored s.transportProxyId
  nextToken := by
    rintro s ⟨hissued, hcurrent⟩
    refine ⟨?_, hcurrent⟩
    intro token server port h
    exact ⟨(hissued token server port h).1, Nat.le_succ_of_le (hissued token server port h).2⟩
  resolveTransport := fun s _ _ _ _ hs => hs.resolveTransport
  resolveMain := by
    intro s _ _ _ hs
    rw [resolveMain_eq]
    exact (hs.of_stored fun entry => subscript_stored s.activeProxyId).of_query (by simp) (Nat.le_succ _)
  setTimeout := fun _ _ hs => hs
  forgetMain := fun _ hs => hs
  setActiveProxyId := fun _ _ hs => hs
  transportQueryToken := fun _ _ _ _ => trivial
  proxyQueryToken := fun _ _ _ _ => trivial
  otherCheck := fun _ _ _ => trivial
  pings := fun _ _ _ _ hs => hs
  ask := fun s _ _ _ hs => hs.of_query (by simp) le_rfl
  number := fun _ _ hs => hs
  network := fun _ _ _ hs => hs
  main := fun _ _ _ hs => hs
  tick := fun _ _ hs => hs
  alarm := fun _ hs => hs
  close := fun _ hs => hs
  receive := by
    rintro s query result ⟨hissued, hcurrent⟩
    have hmem : ∀ {other}, other ∈ s.resolving.erase query → other ∈ s.resolving :=
      List.mem_of_mem_erase
    cases result with
    | error e =>
        refine ⟨fun token server port h => hissued token server port (hmem h), ?_⟩
        intro hengaged
        rcases hcurrent hengaged with ⟨entry, hentry, haddress, hqueries⟩
        exact ⟨entry, hentry, haddress,
          fun htoken server port h => hqueries htoken server port (hmem h)⟩
    | ok address =>
        refine ⟨fun token server port h => hissued token server port (hmem h), ?_⟩
        intro hengaged
        rcases hcurrent hengaged with ⟨entry, hentry, haddress, hqueries⟩
        exact ⟨entry, hentry, fun other hother => List.mem_append_left _ (haddress other hother),
          fun htoken server port h => hqueries htoken server port (hmem h)⟩
  transportError := by
    rintro s ⟨hissued, hcurrent⟩
    refine ⟨hissued, ?_⟩
    rintro (hip | htoken)
    · rcases hcurrent (.inl hip) with ⟨entry, hentry, hserves⟩
      exact ⟨entry, hentry, hserves.1, fun h => absurd rfl h⟩
    · exact absurd rfl htoken
  transportAddress := fun s server port address hquery hs => hs.transportAddress address hquery _

/-! ## Which requests keep it so -/

/-- No query about the transport proxy is out, and disabling the proxy `id` sends none. -/
def QueryIdle (s : ConnectionCreator) (id : ℤ) : Prop :=
  s.resolveTransportProxyQueryToken = 0 ∧
  (id = s.activeProxyId → s.transportProxyId ≠ 0 → s.Running →
    s.now < s.resolveTransportProxyTimestamp)

lemma QueryIdle.disableIfActive {s : ConnectionCreator} {id : ℤ} (h : s.QueryIdle id) :
    Yields (s.disableIfActive id) (fun t => t.resolveTransportProxyQueryToken = 0) fun _ => True := by
  simp only [ConnectionCreator.disableIfActive]
  split_ifs with hactive
  · have hhousekeeping : Housekeeping (fun t => t.resolveTransportProxyQueryToken = 0 ∧
        (t.transportProxyId ≠ 0 → t.Running → t.now < t.resolveTransportProxyTimestamp))
        fun _ => True :=
      { subscriptActive := by
          intro t _ ht
          rw [subscript_eq]
          exact ht
        subscriptTransport := by
          intro t _ ht
          rw [subscript_eq]
          exact ht
        nextToken := fun _ ht => ht
        resolveTransport := by
          intro t hrunning hid hpast _ ht
          exact absurd (ht.2 hid hrunning) (Nat.not_lt_of_le hpast)
        resolveMain := by
          intro t _ _ _ ht
          rw [resolveMain_eq]
          exact ht
        setTimeout := fun _ _ ht => ht
        forgetMain := fun _ ht => ht
        setActiveProxyId := fun _ _ ht => ht
        transportQueryToken := fun _ _ _ _ => trivial
        proxyQueryToken := fun _ _ _ _ => trivial
        otherCheck := fun _ _ _ => trivial }
    exact (hhousekeeping.disableProxyImpl ⟨h.1, h.2 hactive⟩).mono fun t ht => ht.1
  · exact h.1

/-- `update_transport_proxy_id` sets the transport proxy to `id`. -/
def Sets (s : ConnectionCreator) (id : ℤ) (proxy : Proxy) (comment : String) : Prop :=
  comment = transportProxyComment ∧ s.proxies[id]? = some (proxy, transportProxyComment) ∧
  isTransportType proxy

/-- If another proxy becomes the transport proxy, no query is out.  If the transport proxy is edited and
nothing takes its place, or what takes its place has another server or port, there is no address for it
and no query is out. -/
def AddressKept (s : ConnectionCreator) (oldProxyId : ℤ) (proxy : Proxy) (comment : String) : Prop :=
  match findProxy (s.remaining oldProxyId) proxy with
  | some id =>
      (s.Sets id proxy comment → id ≠ s.transportProxyId → s.QueryIdle oldProxyId) ∧
      (¬ s.Sets id proxy comment → oldProxyId = s.transportProxyId →
        s.QueryIdle oldProxyId ∧ s.transportProxyIpAddress = none)
  | none => oldProxyId = s.transportProxyId →
      (∃ stored, s.proxies[oldProxyId]? = some stored ∧
        stored.1.server = proxy.server ∧ stored.1.port = proxy.port) ∨
      s.QueryIdle oldProxyId ∧ s.transportProxyIpAddress = none

/-- The condition on a step. -/
def KeepsAddress (s : ConnectionCreator) : Event → Prop
  | .addProxy oldProxyId input _ comment => ∀ proxy, Proxy.createProxy input = .ok proxy →
      s.Stores oldProxyId proxy → s.AddressKept oldProxyId proxy comment
  | .removeProxy proxyId => s.proxies[proxyId]?.isSome → proxyId = s.transportProxyId →
      s.QueryIdle proxyId
  | _ => True

/-- After the proxy is placed, what `update_transport_proxy_id` leaves. -/
lemma Placed.addressCurrent {s t : ConnectionCreator} {oldProxyId id : ℤ} {proxy : Proxy}
    {comment left : String} (h : Placed s oldProxyId proxy comment id left t)
    (hissued : s.TransportIssued)
    (hset : left = transportProxyComment → isTransportType proxy →
      s.resolveTransportProxyQueryToken ≠ 0 → s.Serves proxy)
    (hkeep : ¬ (left = transportProxyComment ∧ isTransportType proxy) → s.Engaged →
      (id = s.transportProxyId → s.Serves proxy) ∧
      (id ≠ s.transportProxyId →
        ∃ entry, s.proxies[s.transportProxyId]? = some entry ∧ s.Serves entry.1)) :
    AddressCurrent (t.updateTransportProxyId id left) := by
  rcases h with ⟨hframe, hentry, hother, -, -⟩
  obtain ⟨proxies, maxProxyId, rfl⟩ : ∃ proxies maxProxyId,
      t = { s with proxies := proxies, maxProxyId := maxProxyId } := ⟨_, _, hframe⟩
  dsimp only at hentry hother
  rcases updateTransportProxyId_cases { s with proxies := proxies, maxProxyId := maxProxyId } id left
    with ⟨hsame, hnot⟩ | ⟨hleft, entry, hstored, htype, heq⟩
  · rw [hsame]
    refine ⟨hissued, ?_⟩
    intro hengaged
    have hkept := hkeep (fun hboth => hnot hboth.1 _ hentry hboth.2) hengaged
    by_cases hid : id = s.transportProxyId
    · subst hid
      exact ⟨_, hentry, hkept.1 rfl⟩
    · rcases hkept.2 hid with ⟨entry, hstored, hserves⟩
      exact ⟨entry, (hother _ (Ne.symm hid)).trans hstored, hserves⟩
  · rw [heq]
    rw [hentry] at hstored
    cases hstored
    refine ⟨hissued, ?_⟩
    rintro (hip | htoken)
    · exact absurd rfl hip
    · exact ⟨_, hentry, nofun, (hset hleft htype htoken).2⟩

lemma storeProxy_addressCurrent {s : ConnectionCreator} {oldProxyId : ℤ} {proxy : Proxy}
    {enable : Bool} {comment : String}
    (h : ∀ id left t, Placed s oldProxyId proxy comment id left t →
      AddressCurrent (t.updateTransportProxyId id left)) :
    Yields (s.storeProxy oldProxyId proxy enable comment) (fun result => AddressCurrent result.2)
      fun _ => True := by
  refine storeProxy_yields (fun _ _ _ => trivial) ?_
  intro id left t hplaced
  refine (addressCurrent_background.enableIf (h id left t hplaced) enable id).mono ?_
  intro u hu _ _
  exact hu

/-- The entry of the transport proxy is the one the invariant speaks about. -/
lemma AddressCurrent.serves {s : ConnectionCreator} (hs : AddressCurrent s) (hengaged : s.Engaged)
    {entry : Proxy × String} (hentry : s.proxies[s.transportProxyId]? = some entry) :
    s.Serves entry.1 := by
  rcases hs.2 hengaged with ⟨stored, hstored, hserves⟩
  rw [hentry] at hstored
  cases hstored
  exact hserves

/-- A new proxy. -/
lemma newProxy_addressCurrent {s : ConnectionCreator} (hs : AddressCurrent s) {oldProxyId : ℤ}
    (hold : oldProxyId < 0) {proxy : Proxy} {enable : Bool} {comment : String}
    (hkept : s.AddressKept oldProxyId proxy comment) :
    Yields (s.storeProxy oldProxyId proxy enable comment) (fun result => AddressCurrent result.2)
      fun _ => True := by
  refine storeProxy_addressCurrent ?_
  intro id left t hplaced
  have hremaining : s.remaining oldProxyId = s.proxies := if_neg (Int.not_le.mpr hold)
  rw [AddressKept, hremaining] at hkept
  refine hplaced.addressCurrent hs.1 ?_ ?_
  · intro hleft htype htoken
    rcases hplaced.marker.mp hleft with ⟨hcomment, hmarked⟩
    have hfind : findProxy s.proxies proxy = some id := by
      rcases hplaced.target with hfind | ⟨-, hnone, -⟩
      · exact hfind
      · rw [hmarked] at hnone
        exact nomatch hnone
    rw [hfind] at hkept
    by_cases hid : id = s.transportProxyId
    · subst hid
      exact hs.serves (.inr htoken) hmarked
    · exact absurd (hkept.1 ⟨hcomment, hmarked, htype⟩ hid).1 htoken
  · intro _ hengaged
    refine ⟨?_, fun _ => hs.2 hengaged⟩
    intro hid
    rcases hplaced.target with hfind | ⟨-, hnone, -⟩
    · rcases findProxy_some hfind with ⟨stored, hstored⟩
      rw [hid] at hstored
      exact hs.serves hengaged hstored
    · rcases hs.2 hengaged with ⟨entry, hentry, -⟩
      rw [← hid, hnone] at hentry
      exact nomatch hentry

/-- `Serves` looks at the address and the queries only. -/
lemma Serves.of_endpoint {s : ConnectionCreator} {proxy other : Proxy} (h : s.Serves proxy)
    (hserver : proxy.server = other.server) (hport : proxy.port = other.port) : s.Serves other := by
  rw [Serves, ← hserver, ← hport]
  exact h

/-- The erased entry is not found any more, and every other one is. -/
lemma getElem?_erase_eq_some {proxies : ProxyMap} {oldProxyId id : ℤ} {entry : Proxy × String}
    (h : (proxies.erase oldProxyId)[id]? = some entry) :
    oldProxyId ≠ id ∧ proxies[id]? = some entry := by
  have hne : oldProxyId ≠ id := by
    rintro rfl
    simp at h
  rw [getElem?_erase_of_ne hne] at h
  exact ⟨hne, h⟩

/-- A proxy that takes the place of a different one. -/
lemma editProxy_addressCurrent {s t : ConnectionCreator} (ht : AddressCurrent t)
    {oldProxyId : ℤ} (hold : 0 ≤ oldProxyId) {proxy : Proxy} (huse : proxy.useProxy)
    (hunchanged : Unchanged s t)
    (hidle : s.QueryIdle oldProxyId → t.resolveTransportProxyQueryToken = 0)
    {enable : Bool} {comment : String} (hkept : s.AddressKept oldProxyId proxy comment) :
    Yields (storeProxy { t with proxies := t.proxies.erase oldProxyId } oldProxyId proxy enable comment)
      (fun result => AddressCurrent result.2) fun _ => True := by
  refine storeProxy_addressCurrent ?_
  intro id left u hplaced
  have hremaining : s.remaining oldProxyId = s.proxies.erase oldProxyId := if_pos hold
  have hid : t.transportProxyId = s.transportProxyId := hunchanged.transportProxyId
  have htarget := hplaced.edit_target hold hunchanged huse
  -- an idle slot without an address has nothing to be wrong about
  have hquiet : s.QueryIdle oldProxyId ∧ s.transportProxyIpAddress = none → ¬ t.Engaged := by
    rintro ⟨hquery, hip⟩ (h | h)
    · exact h (hunchanged.transportProxyIpAddress.trans hip)
    · exact h (hidle hquery)
  rw [AddressKept] at hkept
  refine hplaced.addressCurrent ht.1 ?_ ?_
  · intro hleft htype htoken
    rcases hplaced.marker.mp hleft with ⟨hcomment, hentry⟩
    rcases getElem?_erase_eq_some hentry with ⟨hne, htentry⟩
    have hsentry := hunchanged.useProxy _ _ huse htentry
    rw [htarget.resolve_right fun h => hne h.2.symm] at hkept
    by_cases hsame : id = s.transportProxyId
    · rw [← hid] at hsame
      subst hsame
      exact ht.serves (.inr htoken) htentry
    · exact absurd (hidle (hkept.1 ⟨hcomment, hsentry, htype⟩ hsame)) htoken
  · intro hnot hengaged
    have hother : oldProxyId ≠ s.transportProxyId →
        ∃ entry, (t.proxies.erase oldProxyId)[t.transportProxyId]? = some entry ∧ t.Serves entry.1 := by
      intro hne
      rw [getElem?_erase_of_ne (hid ▸ hne)]
      exact ht.2 hengaged
    rcases htarget with hfind | ⟨hnone, rfl⟩
    · rcases findProxy_some hfind with ⟨stored, hstored⟩
      rw [hremaining] at hstored
      rcases getElem?_erase_eq_some hstored with ⟨hne, hsentry⟩
      rw [hfind] at hkept
      constructor
      · rintro rfl
        exact ht.serves hengaged (hunchanged.stored _ _ hsentry)
      · intro _
        by_cases hsame : oldProxyId = s.transportProxyId
        · refine absurd hengaged (hquiet (hkept.2 ?_ hsame))
          rintro ⟨hcomment, hmarked, htype⟩
          refine hnot ⟨hplaced.marker.mpr ⟨hcomment, ?_⟩, htype⟩
          exact (getElem?_erase_of_ne hne).trans (hunchanged.stored _ _ hmarked)
        · exact hother hsame
    · rw [hnone] at hkept
      constructor
      · intro hsame
        have hsame' : id = s.transportProxyId := hsame.trans hid
        rcases hkept hsame' with ⟨stored, hstored, hserver, hport⟩ | hquietly
        · have hserves := ht.serves hengaged (hsame ▸ hunchanged.stored _ _ hstored)
          exact hserves.of_endpoint hserver hport
        · exact absurd hengaged (hquiet hquietly)
      · intro hne
        exact hother (hid ▸ hne)

/-- The comment of an entry does not matter. -/
lemma AddressCurrent.recomment {s t : ConnectionCreator} (hs : AddressCurrent s) {id : ℤ}
    {proxy : Proxy} {stored comment : String} (hstored : s.proxies[id]? = some (proxy, stored))
    (hframe : t = { s with proxies := t.proxies }) (hentry : t.proxies[id]? = some (proxy, comment))
    (hother : ∀ j, j ≠ id → t.proxies[j]? = s.proxies[j]?) : AddressCurrent t := by
  obtain ⟨proxies, rfl⟩ : ∃ proxies, t = { s with proxies := proxies } := ⟨_, hframe⟩
  refine ⟨hs.1, ?_⟩
  intro hengaged
  by_cases hid : s.transportProxyId = id
  · subst hid
    have hserves : s.Serves proxy := hs.serves hengaged hstored
    exact ⟨_, hentry, hserves⟩
  · rcases hs.2 hengaged with ⟨entry, htransport, hserves⟩
    exact ⟨entry, (hother _ hid).trans htransport, hserves⟩

/-! ## Steps and runs -/

/-- **Every step** that keeps to the condition leaves the address current. -/
theorem AddressCurrent.step {s : ConnectionCreator} (hs : AddressCurrent s) {e : Event}
    (hkeeps : s.KeepsAddress e) : Yields (s.step e) AddressCurrent fun _ => True := by
  have hbackground := addressCurrent_background
  have hdisable : ∀ id, Yields (s.disableIfActive id)
      (fun t => (AddressCurrent t ∧ Unchanged s t) ∧
        (s.QueryIdle id → t.resolveTransportProxyQueryToken = 0)) fun _ => True := by
    intro id
    have hboth := (hbackground.disableIfActive hs id).and
      ((unchanged_housekeeping s).disableIfActive (Unchanged.refl s) id)
    by_cases hidle : s.QueryIdle id
    · exact (hboth.and hidle.disableIfActive).mono fun t ht => ⟨ht.1, fun _ => ht.2⟩
    · exact hboth.mono fun t ht => ⟨ht, fun h => absurd h hidle⟩
  refine hbackground.step hs e ?_ ?_
  · rintro oldProxyId input enable comment rfl
    refine addProxy_yields (fun _ _ _ => trivial) (fun _ => hs) ?_ ?_ (hdisable oldProxyId) ?_
    · intro proxy stored t _ _ hstored hframe hentry hother
      have ht := hs.recomment hstored hframe hentry hother
      refine (hbackground.enableIf ht enable oldProxyId).mono ?_
      intro u hu _ _
      exact hu
    · intro proxy hproxy hold
      exact newProxy_addressCurrent hs hold
        (hkeeps proxy hproxy fun h => absurd hold (Int.not_lt.mpr h))
    · rintro proxy stored t hproxy hold hstored hdiffers - ⟨⟨ht, hunchanged⟩, hidle⟩
      exact editProxy_addressCurrent ht hold (Proxy.createProxy_useProxy hproxy) hunchanged hidle
        (hkeeps proxy hproxy fun _ => ⟨stored, hstored, hdiffers⟩)
  · rintro proxyId rfl
    refine removeProxy_yields (fun _ _ _ => trivial) hs (J := fun t => AddressCurrent t ∧
      (proxyId = t.transportProxyId → t.resolveTransportProxyQueryToken = 0)) ?_ ?_
    · intro hstored
      refine (hdisable proxyId).mono ?_
      rintro t ⟨⟨ht, hunchanged⟩, hidle⟩
      exact ⟨ht, fun hid => hidle (hkeeps hstored (hid.trans hunchanged.transportProxyId))⟩
    · rintro t ⟨ht, hidle⟩
      simp only [forgetTransport]
      split_ifs with hid
      · refine ⟨ht.1, ?_⟩
        rintro (hip | htoken)
        · exact absurd rfl hip
        · exact absurd (hidle hid) htoken
      · refine ht.of_stored ?_
        intro entry hentry
        rw [getElem?_erase_of_ne hid]
        exact hentry

lemma startUp_addressCurrent (now : Time) (db : ProxyDatabase) :
    Yields (startUp now db) AddressCurrent fun _ => True := by
  refine (startUp_yields (fun _ _ _ => trivial) now db).mono ?_
  rintro _ ⟨t, ⟨proxies, maxProxyId, activeProxyId, -, rfl⟩, rfl⟩
  -- until the first query there is no address
  have hpass := initTransport_keeps (I := fun s => s.TransportIssued ∧ ¬ s.Engaged)
    (s := loaded now proxies maxProxyId activeProxyId) ⟨nofun, by simp [Engaged, loaded]⟩ (by
    rintro t id entry - - ⟨hissued, hengaged⟩
    rcases updateTransportProxyId_cases t id entry.2 with ⟨h, -⟩ | ⟨-, -, -, -, h⟩
    · rw [h]
      exact ⟨hissued, hengaged⟩
    · rw [h]
      refine ⟨hissued, ?_⟩
      rintro (hip | htoken)
      · exact hip rfl
      · exact hengaged (.inr htoken))
  exact ⟨hpass.1, fun h => absurd h hpass.2⟩

/-- **The address is that of the transport proxy** in every state of every run that keeps to the
condition: the resolver has returned it for the server and the port of the stored transport proxy, and
an answer that would be installed next is to a query about the same server and port. -/
theorem run_addressCurrent {now : Time} {db : ProxyDatabase} {s : ConnectionCreator}
    (hstart : startUp now db = .ok s) {es : List Event} (hkeeps : Meets step KeepsAddress s es)
    {t : ConnectionCreator} (hrun : run step s es = .ok t) :
    (∀ address, t.transportProxyIpAddress = some address →
      ∃ entry, t.proxies[t.transportProxyId]? = some entry ∧
        (entry.1.server, entry.1.port, address) ∈ t.resolved) ∧
    (∀ server port, .transport t.resolveTransportProxyQueryToken server port ∈ t.resolving →
      ∃ entry, t.proxies[t.transportProxyId]? = some entry ∧
        server = entry.1.server ∧ port = entry.1.port) := by
  have hs := (startUp_addressCurrent now db).result hstart
  have ht := (run_yields (fun s e hs he => AddressCurrent.step hs he) hs hkeeps).result hrun
  constructor
  · intro address haddress
    rcases ht.2 (.inl (by simp [haddress])) with ⟨entry, hentry, hserves⟩
    exact ⟨entry, hentry, hserves.1 address haddress⟩
  · intro server port hquery
    have htoken : t.resolveTransportProxyQueryToken ≠ 0 := (ht.1 _ server port hquery).1.ne'
    rcases ht.2 (.inr htoken) with ⟨entry, hentry, hserves⟩
    exact ⟨entry, hentry, hserves.2 htoken server port hquery⟩

/-- Two proxies that can be the transport proxy; the second one is at first. -/
def twoTransports : ProxyDatabase where
  maxId := some 4
  proxies := [(2, { type := .socks5, server := "10.0.0.1", port := 1080 }),
    (3, { type := .httpTcp, server := "10.0.0.2", port := 8080 })]
  comments := [(2, transportProxyComment), (3, transportProxyComment)]

/-- A network in which nothing can be found. -/
def noNet : ℕ → Net := fun _ => ⟨false, false, 2, fun _ _ _ _ _ => .error "", fun _ => none⟩

/-- The address of the second proxy is asked for and installed. -/
theorem run_addressCurrent_installed : ∃ s t, startUp 0 twoTransports = .ok s ∧
    run step s [.onNetwork true 1 [],
      .resolved (.transport 1 "10.0.0.2" 8080) (.ok ⟨"10.0.0.2", 8080, false⟩) noNet []] = .ok t ∧
    t.transportProxyIpAddress = some ⟨"10.0.0.2", 8080, false⟩ ∧
    ∃ entry, t.proxies[t.transportProxyId]? = some entry ∧
      (entry.1.server, entry.1.port, (⟨"10.0.0.2", 8080, false⟩ : IpAddress)) ∈ t.resolved := by
  refine ⟨_, _, rfl, rfl, rfl, ?_⟩
  exact (@run_addressCurrent 0 twoTransports _ rfl
    [.onNetwork true 1 [],
      .resolved (.transport 1 "10.0.0.2" 8080) (.ok ⟨"10.0.0.2", 8080, false⟩) noNet []]
    ⟨trivial, fun _ _ => ⟨trivial, fun _ _ => trivial⟩⟩ _ rfl).1 _ rfl

/-- The transport proxy is removed while a query for it is out, the other one is made the transport
proxy, and the late answer is installed as its address. -/
theorem late_answer_installed : ∃ s t address entry, startUp 0 twoTransports = .ok s ∧
    run step s [.onNetwork true 1 [], .removeProxy 3,
      .addProxy (-1) (some ⟨"10.0.0.1", 1080, some (.socks5 "" "")⟩) false transportProxyComment,
      .resolved (.transport 1 "10.0.0.2" 8080) (.ok ⟨"10.0.0.2", 8080, false⟩) noNet []] = .ok t ∧
    t.transportProxyIpAddress = some address ∧ t.proxies[t.transportProxyId]? = some entry ∧
    (entry.1.server, entry.1.port, address) ∉ t.resolved := by
  refine ⟨_, _, _, _, rfl, rfl, rfl, rfl, ?_⟩
  decide

end ConnectionCreator

end RioGram
