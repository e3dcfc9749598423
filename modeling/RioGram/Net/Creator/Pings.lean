import RioGram.Net.Creator.Steps

/-!
# Ping requests

A ping of an MTProto proxy has to wait while the transport proxy has no address:
`ping_proxy_resolved` parks it, and `on_transport_proxy_resolved` takes it up again when there is an
address.  The parked requests are forgotten by everything else.

Two invariants.  `Accounted` says that every request made so far is in exactly one place: with the
resolver, parked, with a connection, or settled.  `NotStranded` says that parked requests have something
to wait for.  The first holds in every run; the second in those that keep to `KeepsPings`, and
`run_pings` states both, with what the next answer about the transport proxy does.
-/

namespace RioGram

namespace Query

/-- The ping request a query is for. -/
def pingRequest : Query → Option ℕ
  | .ping request _ => some request
  | _ => none

/-- The token of a query about the transport proxy. -/
def transportToken : Query → Option ℕ
  | .transport token _ _ => some token
  | _ => none

end Query

namespace ConnectionCreator

open Transition

/-! ## Where requests are -/

/-- The ping requests the resolver is busy with. -/
def asked (queries : List Query) : List ℕ := queries.filterMap Query.pingRequest

/-- The tokens of the queries about the transport proxy. -/
def transportTokens (queries : List Query) : List ℕ := queries.filterMap Query.transportToken

/-- In how many places a request is. -/
def places (s : ConnectionCreator) (request : ℕ) : ℕ :=
  (asked s.resolving).count request +
  (s.pendingPingProxyRequests.map PendingPingProxyRequest.request).count request +
  s.connecting.count request + s.settled.count request

/-- Every request made so far is in one place, or among those the running handler has in hand; and a
query about the transport proxy is out exactly if its slot has a token. -/
def Accounted (hand : List ℕ) (s : ConnectionCreator) : Prop :=
  (∀ request, s.places request + hand.count request = if request < s.nextRequest then 1 else 0) ∧
  transportTokens s.resolving =
    (if s.resolveTransportProxyQueryToken = 0 then [] else [s.resolveTransportProxyQueryToken]) ∧
  s.proxies[(0 : ℤ)]? = none

/-- A query about the transport proxy is out, or the alarm is set. -/
def Watched (s : ConnectionCreator) : Prop :=
  s.resolveTransportProxyQueryToken ≠ 0 ∨ s.timeoutAt.isSome

/-- Parked requests wait for a transport proxy that is being looked after. -/
def NotStranded (s : ConnectionCreator) : Prop :=
  s.pendingPingProxyRequests ≠ [] → s.transportProxyId ≠ 0 ∧ s.Watched

lemma asked_append (queries : List Query) (query : Query) :
    asked (queries ++ [query]) = asked queries ++ query.pingRequest.toList := by
  cases h : query.pingRequest with
  | none => simp [asked, List.filterMap_append, h]
  | some request => simp [asked, List.filterMap_append, h]

lemma transportTokens_append (queries : List Query) (query : Query) :
    transportTokens (queries ++ [query]) = transportTokens queries ++ query.transportToken.toList := by
  cases h : query.transportToken with
  | none => simp [transportTokens, List.filterMap_append, h]
  | some token => simp [transportTokens, List.filterMap_append, h]

lemma accounted_housekeeping (hand : List ℕ) : Housekeeping (Accounted hand) fun _ => True where
  subscriptActive := by
    rintro s hid ⟨hplaces, htokens, hzero⟩
    have hzero' := subscript_zero hid hzero
    rw [subscript_eq] at hzero' ⊢
    exact ⟨hplaces, htokens, hzero'⟩
  subscriptTransport := by
    rintro s hid ⟨hplaces, htokens, hzero⟩
    have hzero' := subscript_zero hid hzero
    rw [subscript_eq] at hzero' ⊢
    exact ⟨hplaces, htokens, hzero'⟩
  nextToken := fun _ hs => hs
  resolveTransport := by
    rintro s - hid - htoken ⟨hplaces, htokens, hzero⟩
    rw [resolveTransport_eq]
    refine ⟨?_, ?_, subscript_zero hid hzero⟩
    · simpa [places, asked_append, Query.pingRequest] using hplaces
    · rw [if_pos htoken] at htokens
      simpa [transportTokens_append, Query.transportToken] using htokens
  resolveMain := by
    rintro s hid - - ⟨hplaces, htokens, hzero⟩
    rw [resolveMain_eq]
    refine ⟨?_, ?_, subscript_zero hid hzero⟩
    · simpa [places, asked_append, Query.pingRequest] using hplaces
    · simpa [transportTokens_append, Query.transportToken] using htokens
  setTimeout := fun _ _ hs => hs
  forgetMain := fun _ hs => hs
  setActiveProxyId := fun _ _ hs => hs
  transportQueryToken := fun _ _ _ _ => trivial
  proxyQueryToken := fun _ _ _ _ => trivial
  otherCheck := fun _ _ _ => trivial

/-- What is parked stays parked, and what is looked after stays looked after. -/
lemma watched_housekeeping (pending : List PendingPingProxyRequest) (id : ℤ) (watched : Prop) :
    Housekeeping (fun s => s.pendingPingProxyRequests = pending ∧ s.transportProxyId = id ∧
      (watched → s.Watched)) fun _ => True where
  subscriptActive := by
    intro s _ hs
    rw [subscript_eq]
    exact hs
  subscriptTransport := by
    intro s _ hs
    rw [subscript_eq]
    exact hs
  nextToken := fun _ hs => hs
  resolveTransport := by
    rintro s - - - - ⟨hpending, hid, -⟩
    rw [resolveTransport_eq]
    exact ⟨hpending, hid, fun _ => .inl (Nat.succ_ne_zero _)⟩
  resolveMain := by
    intro s _ _ _ hs
    rw [resolveMain_eq]
    exact hs
  setTimeout := by
    rintro s timeout ⟨hpending, hid, -⟩
    exact ⟨hpending, hid, fun _ => .inr rfl⟩
  forgetMain := fun _ hs => hs
  setActiveProxyId := fun _ _ hs => hs
  transportQueryToken := fun _ _ _ _ => trivial
  proxyQueryToken := fun _ _ _ _ => trivial
  otherCheck := fun _ _ _ => trivial

lemma NotStranded.of_frame {s t : ConnectionCreator} (hs : NotStranded s)
    (ht : t.pendingPingProxyRequests = s.pendingPingProxyRequests ∧
      t.transportProxyId = s.transportProxyId ∧ (s.Watched → t.Watched)) : NotStranded t := by
  rcases ht with ⟨hpending, hid, hwatched⟩
  intro hne
  rw [hpending] at hne
  rw [hid]
  exact ⟨(hs hne).1, hwatched (hs hne).2⟩

lemma notStranded_housekeeping : Housekeeping NotStranded fun _ => True :=
  have frame := fun s : ConnectionCreator =>
    watched_housekeeping s.pendingPingProxyRequests s.transportProxyId s.Watched
  { subscriptActive := fun s hid hs => hs.of_frame ((frame s).subscriptActive s hid ⟨rfl, rfl, id⟩)
    subscriptTransport := fun s hid hs =>
      hs.of_frame ((frame s).subscriptTransport s hid ⟨rfl, rfl, id⟩)
    nextToken := fun _ hs => hs
    resolveTransport := fun s hrunning hid hpast htoken hs =>
      hs.of_frame ((frame s).resolveTransport s hrunning hid hpast htoken ⟨rfl, rfl, id⟩)
    resolveMain := fun s hid hpast htoken hs =>
      hs.of_frame ((frame s).resolveMain s hid hpast htoken ⟨rfl, rfl, id⟩)
    setTimeout := fun s timeout hs => hs.of_frame ((frame s).setTimeout s timeout ⟨rfl, rfl, id⟩)
    forgetMain := fun _ hs => hs
    setActiveProxyId := fun _ _ hs => hs
    transportQueryToken := fun _ _ _ _ => trivial
    proxyQueryToken := fun _ _ _ _ => trivial
    otherCheck := fun _ _ _ => trivial }

/-- Both invariants. -/
def Tidy (hand : List ℕ) (s : ConnectionCreator) : Prop := Accounted hand s ∧ NotStranded s

lemma tidy_housekeeping (hand : List ℕ) : Housekeeping (Tidy hand) fun _ => True :=
  (accounted_housekeeping hand).and notStranded_housekeeping

/-! ## What `loop` sees to -/

lemma relax_ne_zero {timeout timestamp : Time} (h : timeout ≠ 0 ∨ timestamp ≠ 0) :
    relax timeout timestamp ≠ 0 := by
  simp only [relax]
  split_ifs with hzero hless
  · exact h.resolve_right fun h => h hzero
  · exact hzero
  · intro htimeout
    exact hless (.inl htimeout)

/-- Where there is a transport proxy, `loop` leaves a query for it or the alarm. -/
lemma loop_watched {s : ConnectionCreator} (hrunning : s.Running) (hid : s.transportProxyId ≠ 0) :
    Yields s.loop Watched fun _ => True := by
  have htransport : Yields (s.loopTransport 0) (fun result => result.1.Watched ∨ result.2 ≠ 0)
      fun _ => True := by
    simp only [loopTransport, if_neg hid]
    split_ifs with hpast htoken hnonzero
    · rw [resolveTransport_eq]
      exact .inl (.inl (Nat.succ_ne_zero _))
    · exact .inl (.inl htoken)
    · exact trivial
    · refine .inr (relax_ne_zero (.inr ?_))
      intro hzero
      exact hpast (hzero ▸ Nat.zero_le _)
  have hmain : ∀ (t : ConnectionCreator) (timeout : Time), t.Watched ∨ timeout ≠ 0 →
      Yields (t.loopMain timeout) (fun result => result.1.Watched ∨ result.2 ≠ 0) fun _ => True := by
    intro t timeout ht
    simp only [loopMain]
    split_ifs
    · exact ht
    · rw [resolveMain_eq]
      exact ht
    · exact ht
    · exact trivial
    · exact ht.imp id fun h => relax_ne_zero (.inl h)
  simp only [ConnectionCreator.loop, if_neg hrunning]
  refine htransport.bind ?_
  rintro ⟨t, timeout⟩ - ht
  refine (hmain t timeout ht).bind ?_
  rintro ⟨u, timeout⟩ - hu
  simp only [setTimeout]
  split_ifs with hzero
  · exact hu.resolve_right fun h => h hzero
  · exact .inr rfl

/-- `loop` looks after parked requests, if it runs or if they are looked after already. -/
lemma loop_notStranded {s : ConnectionCreator}
    (h : s.pendingPingProxyRequests ≠ [] → s.transportProxyId ≠ 0 ∧ (s.Running ∨ s.Watched)) :
    Yields s.loop NotStranded fun _ => True := by
  have hframe := (watched_housekeeping s.pendingPingProxyRequests s.transportProxyId s.Watched).loop
    (s := s) ⟨rfl, rfl, fun h => h⟩
  by_cases hpending : s.pendingPingProxyRequests = []
  · refine hframe.mono ?_
    rintro t ⟨ht, -⟩ hne
    exact absurd (ht.trans hpending) hne
  · rcases h hpending with ⟨hid, hrunning | hwatched⟩
    · refine (hframe.and (loop_watched hrunning hid)).mono ?_
      rintro t ⟨⟨-, ht, -⟩, hwatched⟩ _
      exact ⟨ht ▸ hid, hwatched⟩
    · refine hframe.mono ?_
      rintro t ⟨-, ht, hkeeps⟩ _
      exact ⟨ht ▸ hid, hkeeps hwatched⟩

/-- Where nothing is parked. -/
lemma loop_tidy {s : ConnectionCreator} (hs : Accounted [] s) (hnone : s.pendingPingProxyRequests = []) :
    Yields s.loop (fun t => Tidy [] t ∧ t.pendingPingProxyRequests = []) fun _ => True := by
  have hframe := (watched_housekeeping s.pendingPingProxyRequests s.transportProxyId s.Watched).loop
    (s := s) ⟨rfl, rfl, id⟩
  have hstranded := loop_notStranded fun h => absurd hnone h
  refine ((((accounted_housekeeping []).loop hs).and hstranded).and hframe).mono ?_
  rintro t ⟨ht, hpending, -⟩
  exact ⟨ht, hpending.trans hnone⟩

/-! ## A request in hand -/

lemma Accounted.settle {s : ConnectionCreator} {request : ℕ} {hand : List ℕ}
    (hs : Accounted (request :: hand) s) : Accounted hand (s.settle request) := by
  refine ⟨?_, hs.2⟩
  intro other
  have h := hs.1 other
  have hnext : (s.settle request).nextRequest = s.nextRequest := rfl
  rw [hnext]
  simp only [places, ConnectionCreator.settle, List.count_append, List.count_cons, List.count_nil] at h ⊢
  omega

lemma Accounted.connect {s : ConnectionCreator} {request : ℕ} {hand : List ℕ}
    (hs : Accounted (request :: hand) s) :
    Accounted hand { s with connecting := s.connecting ++ [request] } := by
  refine ⟨?_, hs.2⟩
  intro other
  have h := hs.1 other
  simp only [places, List.count_append, List.count_cons, List.count_nil] at h ⊢
  omega

lemma Accounted.park {s : ConnectionCreator} {r : PendingPingProxyRequest} {hand : List ℕ}
    (hs : Accounted (r.request :: hand) s) :
    Accounted hand { s with pendingPingProxyRequests := s.pendingPingProxyRequests ++ [r] } := by
  refine ⟨?_, hs.2⟩
  intro other
  have h := hs.1 other
  simp only [places, List.map_append, List.map_cons, List.map_nil, List.count_append, List.count_cons,
    List.count_nil] at h ⊢
  omega

/-- `ping_proxy_resolved` is going to park the request. -/
def Parks (s : ConnectionCreator) (net : Net) (proxy : Proxy) (address : IpAddress) : Prop :=
  s.transportProxyId ≠ 0 ∧ s.transportProxyIpAddress = none ∧
  (s.findConnection net proxy (some address) net.mainDcId false).1 = .error notResolvedYet

/-- Without an address for the transport proxy, `find_connection` does not come to look at its entry. -/
lemma findConnection_state {s : ConnectionCreator} (h : s.transportProxyIpAddress = none) (net : Net)
    (proxy : Proxy) (address : Option IpAddress) (dcId : ℤ) (allowMediaOnly : Bool) :
    (s.findConnection net proxy address dcId allowMediaOnly).2.2 = s := by
  simp only [findConnection, h, Option.isNone_none, if_true]
  split
  · rfl
  · split_ifs <;> rfl

lemma connect_error {s t : ConnectionCreator} {net : Net} {proxy : Proxy} {address : Option IpAddress}
    {dcId : ℤ} {allowMediaOnly : Bool} {error : String}
    (h : s.connect net proxy address dcId allowMediaOnly = (.error error, t)) :
    (s.findConnection net proxy address dcId allowMediaOnly).1 = .error error ∧
    (s.findConnection net proxy address dcId allowMediaOnly).2.2 = t := by
  simp only [connect] at h
  rcases hfind : s.findConnection net proxy address dcId allowMediaOnly with
    ⟨error | socket, extra, u⟩ <;> rw [hfind] at h
  · cases h
    exact ⟨rfl, rfl⟩
  · exact nomatch h

/-- A request that `ping_proxy_resolved` is given goes to a connection, is settled, or is parked with
something to wait for. -/
lemma Tidy.pingProxyResolved {s : ConnectionCreator} {request : ℕ} {hand : List ℕ}
    (hs : Tidy (request :: hand) s) (net : Net) (proxy : Proxy) (address : IpAddress)
    (hparks : s.Parks net proxy address → s.Running ∨ s.Watched) :
    Yields (s.pingProxyResolved net proxy address request) (Tidy hand) fun _ => True := by
  have ht := (tidy_housekeeping _).connect hs net proxy (some address) net.mainDcId false
  have hunchanged := (unchanged_housekeeping s).connect (.refl s) net proxy (some address)
    net.mainDcId false
  simp only [ConnectionCreator.pingProxyResolved]
  rcases hresult : s.connect net proxy (some address) net.mainDcId false with
    ⟨error | prepared, t⟩ <;> rw [hresult] at ht hunchanged <;> dsimp only at ht hunchanged ⊢
  · rcases connect_error hresult with ⟨herror, hstate⟩
    split_ifs with hpark
    · rcases hpark with ⟨hid, hip, rfl⟩
      have hnone : s.transportProxyIpAddress = none := by
        rw [← hunchanged.transportProxyIpAddress]
        exact Option.isNone_iff_eq_none.mp hip
      rw [findConnection_state hnone] at hstate
      subst hstate
      have hrunning := hparks ⟨hid, hnone, herror⟩
      have haccounted := (accounted_housekeeping hand).loop
        (Accounted.park (r := ⟨proxy, address, request⟩) ht.1)
      exact haccounted.and (loop_notStranded fun _ => ⟨hid, hrunning⟩)
    · exact ⟨ht.1.settle, ht.2⟩
  · split_ifs
    · split
      · exact ⟨ht.1.settle, ht.2⟩
      · exact ⟨ht.1.connect, ht.2⟩
    · trivial

/-! ## Taking up parked requests -/

/-- The transport proxy has an address, the same requests are parked, and those that were with a
connection or settled still are. -/
def TakesUp (s t : ConnectionCreator) : Prop :=
  t.transportProxyIpAddress = s.transportProxyIpAddress ∧
  t.pendingPingProxyRequests = s.pendingPingProxyRequests ∧
  s.connecting ⊆ t.connecting ∧ s.settled ⊆ t.settled

lemma TakesUp.refl (s : ConnectionCreator) : TakesUp s s :=
  ⟨rfl, rfl, List.Subset.refl _, List.Subset.refl _⟩

lemma TakesUp.trans {s t u : ConnectionCreator} (hst : TakesUp s t) (htu : TakesUp t u) : TakesUp s u :=
  ⟨htu.1.trans hst.1, htu.2.1.trans hst.2.1, List.Subset.trans hst.2.2.1 htu.2.2.1,
    List.Subset.trans hst.2.2.2 htu.2.2.2⟩

lemma takesUp_housekeeping (s : ConnectionCreator) : Housekeeping (TakesUp s) fun _ => True where
  subscriptActive := by
    intro t _ ht
    rw [subscript_eq]
    exact ht
  subscriptTransport := by
    intro t _ ht
    rw [subscript_eq]
    exact ht
  nextToken := fun _ ht => ht
  resolveTransport := by
    intro t _ _ _ _ ht
    rw [resolveTransport_eq]
    exact ht
  resolveMain := by
    intro t _ _ _ ht
    rw [resolveMain_eq]
    exact ht
  setTimeout := fun _ _ ht => ht
  forgetMain := fun _ ht => ht
  setActiveProxyId := fun _ _ ht => ht
  transportQueryToken := fun _ _ _ _ => trivial
  proxyQueryToken := fun _ _ _ _ => trivial
  otherCheck := fun _ _ _ => trivial

/-- A request has left the queue for good. -/
def Issued (s : ConnectionCreator) (request : ℕ) : Prop :=
  request ∈ s.connecting ∨ request ∈ s.settled

lemma Issued.of_takesUp {s t : ConnectionCreator} {request : ℕ} (h : s.Issued request)
    (ht : TakesUp s t) : t.Issued request := by
  rcases h with h | h
  · exact .inl (ht.2.2.1 h)
  · exact .inr (ht.2.2.2 h)

lemma pingProxyResolved_takesUp {s : ConnectionCreator} (hip : s.transportProxyIpAddress ≠ none)
    (net : Net) (proxy : Proxy) (address : IpAddress) (request : ℕ) :
    Yields (s.pingProxyResolved net proxy address request)
      (fun t => TakesUp s t ∧ t.Issued request) fun _ => True := by
  have ht := (takesUp_housekeeping s).connect (.refl s) net proxy (some address) net.mainDcId false
  have hsettle : ∀ t, TakesUp s t → TakesUp s (t.settle request) ∧ (t.settle request).Issued request := by
    rintro t ⟨hip, hpending, hconnecting, hsettled⟩
    refine ⟨⟨hip, hpending, hconnecting, ?_⟩, .inr ?_⟩
    · exact List.Subset.trans hsettled (List.subset_append_left _ _)
    · exact List.mem_append_right _ (List.mem_singleton.mpr rfl)
  simp only [pingProxyResolved]
  rcases hresult : s.connect net proxy (some address) net.mainDcId false with
    ⟨error | prepared, t⟩ <;> rw [hresult] at ht <;> dsimp only at ht ⊢
  · split_ifs with hpark
    · rw [ht.1, Option.isNone_iff_eq_none] at hpark
      exact absurd hpark.2.1 hip
    · exact hsettle t ht
  · split_ifs
    · split
      · exact hsettle t ht
      · rcases ht with ⟨hip, hpending, hconnecting, hsettled⟩
        refine ⟨⟨hip, hpending, ?_, hsettled⟩, .inl ?_⟩
        · exact List.Subset.trans hconnecting (List.subset_append_left _ _)
        · exact List.mem_append_right _ (List.mem_singleton.mpr rfl)
    · trivial

/-- All requests of a list are taken up where the transport proxy has an address. -/
lemma pingAll_takesUp {s : ConnectionCreator} (hip : s.transportProxyIpAddress ≠ none)
    (nets : ℕ → Net) (requests : List PendingPingProxyRequest) :
    Yields (s.pingAll nets requests)
      (fun t => TakesUp s t ∧ ∀ r ∈ requests, t.Issued r.request) fun _ => True := by
  induction requests generalizing s with
  | nil => exact ⟨.refl s, nofun⟩
  | cons r requests ih =>
      refine (pingProxyResolved_takesUp hip _ _ _ _).bind ?_
      rintro t - ⟨ht, hissued⟩
      refine (ih (by rw [ht.1]; exact hip)).mono ?_
      rintro u ⟨hu, hall⟩
      refine ⟨ht.trans hu, ?_⟩
      intro other hother
      rcases List.mem_cons.mp hother with rfl | hother
      · exact hissued.of_takesUp hu
      · exact hall other hother

/-- Requests that are taken up are accounted for. -/
lemma Tidy.pingAll {s : ConnectionCreator} {hand : List ℕ} {requests : List PendingPingProxyRequest}
    (hs : Tidy (requests.map PendingPingProxyRequest.request ++ hand) s)
    (hip : s.transportProxyIpAddress ≠ none) (nets : ℕ → Net) :
    Yields (s.pingAll nets requests) (Tidy hand) fun _ => True := by
  induction requests generalizing s with
  | nil => exact hs
  | cons r requests ih =>
      have htidy := Tidy.pingProxyResolved hs (nets r.request) r.proxy r.ipAddress
        fun hparks => absurd hparks.2.1 hip
      refine (htidy.and (pingProxyResolved_takesUp hip _ _ _ _)).bind ?_
      rintro t - ⟨ht, htakes, -⟩
      exact ih ht (by rw [htakes.1]; exact hip)

/-- `flush_pending_ping_proxy_requests`, where the transport proxy has an address. -/
lemma flushPendingPingProxyRequests_tidy {s : ConnectionCreator} (hs : Accounted [] s)
    (hip : s.transportProxyIpAddress ≠ none) (nets : ℕ → Net) :
    Yields (s.flushPendingPingProxyRequests nets) (fun t => Tidy [] t ∧
      t.pendingPingProxyRequests = [] ∧ ∀ r ∈ s.pendingPingProxyRequests, t.Issued r.request)
      fun _ => True := by
  simp only [flushPendingPingProxyRequests]
  split_ifs with hnothing
  · have hnone : s.pendingPingProxyRequests = [] := by
      refine hnothing.resolve_left fun h => hip ?_
      exact Option.isNone_iff_eq_none.mp h
    refine ⟨⟨hs, fun h => absurd hnone h⟩, hnone, ?_⟩
    rw [hnone]
    exact nofun
  · have htidy : Tidy (s.pendingPingProxyRequests.map PendingPingProxyRequest.request ++ [])
        { s with pendingPingProxyRequests := [] } := by
      refine ⟨⟨?_, hs.2⟩, fun h => absurd rfl h⟩
      intro request
      have h := hs.1 request
      simp only [places, List.append_nil, List.map_nil, List.count_nil] at h ⊢
      omega
    have htakes := pingAll_takesUp (s := { s with pendingPingProxyRequests := [] }) hip nets
      s.pendingPingProxyRequests
    refine ((htidy.pingAll hip nets).and htakes).mono ?_
    rintro t ⟨ht, htakes, hissued⟩
    exact ⟨ht, htakes.2.1, hissued⟩

/-! ## Answers -/

lemma filterMap_erase_perm {f : Query → Option ℕ} {queries : List Query} {query : Query}
    (h : query ∈ queries) :
    (queries.filterMap f).Perm ((f query).toList ++ (queries.erase query).filterMap f) := by
  refine ((List.perm_cons_erase h).filterMap f).trans ?_
  cases hf : f query with
  | none => simp [hf]
  | some token => simp [hf]

/-- An answered request is in the hand of the handler. -/
lemma Tidy.receive {s : ConnectionCreator} (hs : Tidy [] s) {query : Query} (hquery : query ∈ s.resolving)
    (htransport : query.transportToken = none) (result : Except String IpAddress) :
    Tidy query.pingRequest.toList (s.receive query result) := by
  rcases hs with ⟨⟨hplaces, htokens, hzero⟩, hstranded⟩
  have hasked : ∀ request, (asked s.resolving).count request =
      query.pingRequest.toList.count request + (asked (s.resolving.erase query)).count request := by
    intro request
    rw [asked, (filterMap_erase_perm hquery).count_eq, List.count_append]
    rfl
  have hsame : transportTokens (s.resolving.erase query) = transportTokens s.resolving := by
    have hperm := filterMap_erase_perm (f := Query.transportToken) hquery
    rw [htransport] at hperm
    change (transportTokens s.resolving).Perm (transportTokens (s.resolving.erase query)) at hperm
    rw [htokens] at hperm ⊢
    split_ifs at hperm ⊢
    · exact hperm.symm.eq_nil
    · exact List.perm_singleton.mp hperm.symm
  have haccounted : ∀ request, (asked (s.resolving.erase query)).count request +
      (s.pendingPingProxyRequests.map PendingPingProxyRequest.request).count request +
      s.connecting.count request + s.settled.count request +
      query.pingRequest.toList.count request = if request < s.nextRequest then 1 else 0 := by
    intro request
    have h := hplaces request
    simp only [places, List.count_nil] at h
    have hcount := hasked request
    omega
  cases result with
  | error e => exact ⟨⟨haccounted, hsame.trans htokens, hzero⟩, hstranded⟩
  | ok address => exact ⟨⟨haccounted, hsame.trans htokens, hzero⟩, hstranded⟩

/-- An answer about the transport proxy is the one its slot waits for, and no other is out. -/
lemma Tidy.receive_transport {s : ConnectionCreator} (hs : Tidy [] s) {token : ℕ} {server : String}
    {port : ℕ} (hquery : .transport token server port ∈ s.resolving) :
    token = s.resolveTransportProxyQueryToken ∧
    transportTokens (s.resolving.erase (.transport token server port)) = [] ∧
    ∀ request, (asked (s.resolving.erase (.transport token server port))).count request =
      (asked s.resolving).count request := by
  rcases hs with ⟨⟨-, htokens, -⟩, -⟩
  have hperm := filterMap_erase_perm (f := Query.transportToken) hquery
  change (transportTokens s.resolving).Perm
    (token :: transportTokens (s.resolving.erase (.transport token server port))) at hperm
  rw [htokens] at hperm
  split_ifs at hperm with hzero
  · exact absurd hperm.symm.eq_nil nofun
  · have hsingle := List.perm_singleton.mp hperm.symm
    injection hsingle with htoken hnone
    refine ⟨htoken, hnone, ?_⟩
    intro request
    rw [asked, asked, (filterMap_erase_perm hquery).count_eq]
    rfl

/-- What follows an address for the transport proxy. -/
lemma takeUp_tidy {s : ConnectionCreator} (hs : Accounted [] s)
    (hip : s.transportProxyIpAddress ≠ none) (nets : ℕ → Net) (attempts : List Attempt) :
    Yields ((s.flushPendingPingProxyRequests nets).bind fun s => (s.clientLoops attempts).loop)
      (fun t => Tidy [] t ∧ t.pendingPingProxyRequests = [] ∧
        ∀ r ∈ s.pendingPingProxyRequests, t.Issued r.request) fun _ => True := by
  refine (flushPendingPingProxyRequests_tidy hs hip nets).bind ?_
  rintro t - ⟨ht, hpending, hissued⟩
  have hclients := (tidy_housekeeping []).clientLoops ht attempts
  have htakes := (takesUp_housekeeping t).clientLoops (.refl t) attempts
  refine (((tidy_housekeeping []).loop hclients).and ((takesUp_housekeeping t).loop htakes)).mono ?_
  rintro u ⟨hu, hfrom⟩
  exact ⟨hu, hfrom.2.1.trans hpending, fun r hr => (hissued r hr).of_takesUp hfrom⟩

/-- What an answer about the transport proxy leads to: parked requests are taken up if it is an address;
if it is not, there must have been none. -/
lemma Tidy.transportResolved {s : ConnectionCreator} (hs : Tidy [] s) {token : ℕ} {server : String}
    {port : ℕ} (hquery : .transport token server port ∈ s.resolving)
    {result : Except String IpAddress} (nets : ℕ → Net) (attempts : List Attempt)
    (herror : ∀ e, result = .error e → s.pendingPingProxyRequests = []) :
    Yields ((s.receive (.transport token server port) result).onTransportProxyResolved token result
      nets attempts) (fun t => Tidy [] t ∧ t.pendingPingProxyRequests = [] ∧
        ∀ r ∈ s.pendingPingProxyRequests, t.Issued r.request) fun _ => True := by
  rcases hs.receive_transport hquery with ⟨rfl, htokens, hasked⟩
  rcases hs with ⟨⟨hplaces, -, hzero⟩, -⟩
  have haccounted : ∀ u : ConnectionCreator, u.resolving =
      s.resolving.erase (.transport s.resolveTransportProxyQueryToken server port) →
      u.pendingPingProxyRequests = s.pendingPingProxyRequests → u.connecting = s.connecting →
      u.settled = s.settled → u.nextRequest = s.nextRequest → u.proxies = s.proxies →
      u.resolveTransportProxyQueryToken = 0 → Accounted [] u := by
    intro u hresolving hpending hconnecting hsettled hnext hproxies htoken
    refine ⟨?_, ?_, ?_⟩
    · intro request
      rw [places, hresolving, hasked, hpending, hconnecting, hsettled, hnext]
      exact hplaces request
    · rw [hresolving, htoken, htokens]
      rfl
    · rw [hproxies]
      exact hzero
  simp only [onTransportProxyResolved]
  cases result with
  | error e =>
      have hnone := herror e rfl
      rw [if_neg (fun h => h rfl)]
      refine Yields.mono (loop_tidy (haccounted _ rfl rfl rfl rfl rfl rfl rfl) hnone) ?_
      rintro t ⟨ht, hpending⟩
      refine ⟨ht, hpending, ?_⟩
      rw [hnone]
      exact nofun
  | ok address =>
      rw [if_neg (fun h => h rfl)]
      apply takeUp_tidy
      · exact haccounted _ rfl rfl rfl rfl rfl rfl rfl
      · exact nofun

/-! ## Steps -/

/-- When the parked requests stay looked after: the transport proxy is removed, and an error is
returned for it, only while nothing is parked; a request is parked only while `loop` runs or something
is there to wait for; and the alarm does not go off while `loop` does nothing. -/
def KeepsPings (s : ConnectionCreator) : Event → Prop
  | .removeProxy proxyId => s.proxies[proxyId]?.isSome → proxyId = s.transportProxyId →
      s.pendingPingProxyRequests = []
  | .resolved (.transport token server port) (.error _) _ _ =>
      .transport token server port ∈ s.resolving → s.pendingPingProxyRequests = []
  | .resolved (.ping request proxy) (.ok address) nets _ => .ping request proxy ∈ s.resolving →
      (s.receive (.ping request proxy) (.ok address)).Parks (nets request) proxy address →
      s.Running ∨ s.Watched
  | .timeoutExpired => (∃ timeout, s.timeoutAt = some timeout ∧ timeout ≤ s.now) →
      s.pendingPingProxyRequests ≠ [] → s.resolveTransportProxyQueryToken = 0 → s.Running
  | _ => True

/-- The invariants do not look at the proxies but for their identifiers. -/
lemma Tidy.proxies {s t : ConnectionCreator} (hs : Tidy [] s) {m : ℤ}
    (hframe : t = { s with proxies := t.proxies, maxProxyId := m })
    (hzero : t.proxies[(0 : ℤ)]? = none) : Tidy [] t := by
  obtain ⟨proxies, rfl⟩ : ∃ proxies, t = { s with proxies := proxies, maxProxyId := m } := ⟨_, hframe⟩
  exact ⟨⟨hs.1.1, hs.1.2.1, hzero⟩, hs.2⟩

lemma ne_zero_of_stored {proxies : ProxyMap} (hzero : proxies[(0 : ℤ)]? = none) {id : ℤ}
    {entry : Proxy × String} (h : proxies[id]? = some entry) : id ≠ 0 := by
  rintro rfl
  rw [hzero] at h
  exact nomatch h

/-- `add_proxy` keeps the invariants: a new transport proxy is waited for like the old one. -/
lemma Tidy.storeProxy {s : ConnectionCreator} (hs : Tidy [] s) (oldProxyId : ℤ) (proxy : Proxy)
    (enable : Bool) (comment : String) :
    Yields (s.storeProxy oldProxyId proxy enable comment) (fun result => Tidy [] result.2)
      fun _ => True := by
  refine storeProxy_yields (fun _ _ _ => trivial) ?_
  intro id left t hplaced
  have hid : id ≠ 0 := by
    rcases hplaced.target with hfind | ⟨-, -, -, hpositive⟩
    · rcases findProxy_some hfind with ⟨stored, hstored⟩
      exact ne_zero_of_stored hs.1.2.2 hstored
    · exact hpositive.ne'
  have ht := hs.proxies hplaced.frame ((hplaced.other 0 hid.symm).trans hs.1.2.2)
  have hupdate : Tidy [] (t.updateTransportProxyId id left) := by
    rcases updateTransportProxyId_cases t id left with ⟨h, -⟩ | ⟨-, -, -, -, h⟩
    · rw [h]
      exact ht
    · rw [h]
      refine ⟨ht.1, ?_⟩
      intro hpending
      exact ⟨hid, (ht.2 hpending).2⟩
  refine ((tidy_housekeeping []).enableIf hupdate enable id).mono ?_
  intro u hu _ _
  exact hu

lemma Tidy.addProxy {s : ConnectionCreator} (hs : Tidy [] s) (oldProxyId : ℤ)
    (input : Option InputProxy) (enable : Bool) (comment : String) :
    Yields (s.addProxy oldProxyId input enable comment) (fun result => Tidy [] result.2)
      fun _ => True := by
  refine addProxy_yields (fun _ _ _ => trivial) (fun _ => hs) ?_ ?_
    ((tidy_housekeeping []).disableIfActive hs oldProxyId) ?_
  · intro proxy stored t _ _ hstored hframe _ hother
    have hid := ne_zero_of_stored hs.1.2.2 hstored
    have ht : Tidy [] t := by
      refine hs.proxies (m := s.maxProxyId) ?_ ((hother 0 hid.symm).trans hs.1.2.2)
      exact hframe
    refine ((tidy_housekeeping []).enableIf ht enable oldProxyId).mono ?_
    intro u hu _ _
    exact hu
  · intro proxy _ _
    exact hs.storeProxy oldProxyId proxy enable comment
  · intro proxy stored t _ _ hstored _ _ ht
    have herased : Tidy [] { t with proxies := t.proxies.erase oldProxyId } := by
      refine ⟨⟨ht.1.1, ht.1.2.1, ?_⟩, ht.2⟩
      rw [getElem?_erase_of_ne (ne_zero_of_stored hs.1.2.2 hstored)]
      exact ht.1.2.2
    exact herased.storeProxy _ _ _ _

/-- `remove_proxy` of the transport proxy must not leave requests behind. -/
lemma Tidy.removeProxy {s : ConnectionCreator} (hs : Tidy [] s) {proxyId : ℤ}
    (hkeeps : s.KeepsPings (.removeProxy proxyId)) :
    Yields (s.removeProxy proxyId) (fun result => Tidy [] result.2) fun _ => True := by
  refine removeProxy_yields (fun _ _ _ => trivial) hs (J := fun t => Tidy [] t ∧ proxyId ≠ 0 ∧
    (proxyId = t.transportProxyId → t.pendingPingProxyRequests = [])) ?_ ?_
  · intro hstored
    rcases Option.isSome_iff_exists.mp hstored with ⟨entry, hentry⟩
    have hframe := watched_housekeeping s.pendingPingProxyRequests s.transportProxyId s.Watched
    refine (((tidy_housekeeping []).disableIfActive hs proxyId).and
      (hframe.disableIfActive ⟨rfl, rfl, id⟩ proxyId)).mono ?_
    rintro t ⟨ht, hpending, hid, -⟩
    refine ⟨ht, ne_zero_of_stored hs.1.2.2 hentry, ?_⟩
    intro htransport
    exact hpending.trans (hkeeps hstored (htransport.trans hid))
  · rintro t ⟨⟨⟨hplaces, htokens, hzero⟩, hstranded⟩, hne, hnone⟩
    simp only [forgetTransport]
    split_ifs with hid
    · refine ⟨⟨hplaces, htokens, (getElem?_erase_of_ne hne).trans hzero⟩, ?_⟩
      intro hpending
      exact absurd (hnone hid) hpending
    · exact ⟨⟨hplaces, htokens, (getElem?_erase_of_ne hne).trans hzero⟩, hstranded⟩

/-- A new request is with the resolver, or settled at once. -/
lemma Tidy.pingProxy {s : ConnectionCreator} (hs : Tidy [] s) (input : InputProxy) :
    Yields (s.pingProxy input) (Tidy []) fun _ => True := by
  have hnext : ∀ request, s.places request + [s.nextRequest].count request =
      if request < s.nextRequest + 1 then 1 else 0 := by
    intro request
    have h := hs.1.1 request
    simp only [List.count_cons, List.count_nil, beq_iff_eq] at h ⊢
    split_ifs at h ⊢ <;> omega
  have hhand : Tidy [s.nextRequest] { s with nextRequest := s.nextRequest + 1 } :=
    ⟨⟨hnext, hs.1.2⟩, hs.2⟩
  simp only [ConnectionCreator.pingProxy]
  split_ifs
  · trivial
  · split
    · exact ⟨hhand.1.settle, hhand.2⟩
    next proxy _ =>
      refine ⟨⟨?_, ?_, hs.1.2.2⟩, hs.2⟩
      · intro request
        have h := hnext request
        simp only [places, asked_append, Query.pingRequest, Option.toList_some, List.count_append,
          List.count_nil] at h ⊢
        omega
      · simpa [transportTokens_append, Query.transportToken] using hs.1.2.1

lemma Tidy.pingDone {s : ConnectionCreator} (hs : Tidy [] s) (request : ℕ) :
    Tidy [] (s.pingDone request) := by
  simp only [ConnectionCreator.pingDone]
  split_ifs with hmember
  · have hhand : Accounted [request] { s with connecting := s.connecting.erase request } := by
      refine ⟨?_, hs.1.2⟩
      intro other
      have h := hs.1.1 other
      have hcount := (List.perm_cons_erase hmember).count_eq other
      simp only [places, List.count_cons, List.count_nil] at h hcount ⊢
      omega
    exact ⟨hhand.settle, hs.2⟩
  · exact hs

/-- Every answer of the resolver. -/
lemma Tidy.dispatch {s : ConnectionCreator} (hs : Tidy [] s) {query : Query}
    (hquery : query ∈ s.resolving) {result : Except String IpAddress} {nets : ℕ → Net}
    {attempts : List Attempt} (hkeeps : s.KeepsPings (.resolved query result nets attempts)) :
    Yields ((s.receive query result).dispatch query result nets attempts) (Tidy [])
      fun _ => True := by
  cases query with
  | transport token server port =>
      refine (hs.transportResolved hquery nets attempts ?_).mono fun t ht => ht.1
      rintro e rfl
      exact hkeeps hquery
  | main token server port =>
      have ht := hs.receive hquery rfl result
      simp only [ConnectionCreator.dispatch, onProxyResolved]
      split_ifs
      · exact (tidy_housekeeping []).loop ht
      · cases result with
        | error e => exact (tidy_housekeeping []).loop ⟨ht.1, ht.2⟩
        | ok address =>
            refine (tidy_housekeeping []).loop ((tidy_housekeeping []).clientLoops ?_ attempts)
            exact ⟨ht.1, ht.2⟩
  | ping request proxy =>
      have ht := hs.receive hquery rfl result
      cases result with
      | error e => exact ⟨ht.1.settle, ht.2⟩
      | ok address => exact ht.pingProxyResolved _ _ _ (hkeeps hquery)

/-- **Every step** that keeps to the condition. -/
theorem Tidy.step {s : ConnectionCreator} (hs : Tidy [] s) {e : Event} (hkeeps : s.KeepsPings e) :
    Yields (s.step e) (Tidy []) fun _ => True := by
  have h := tidy_housekeeping []
  cases e with
  | addProxy oldProxyId proxy enable comment => exact (hs.addProxy _ _ _ _).map
  | removeProxy proxyId => exact (hs.removeProxy hkeeps).map
  | enableProxy proxyId =>
      apply Yields.map
      simp only [enableProxy]
      split_ifs
      · exact hs
      · exact (h.enableProxyImpl hs proxyId).bind fun t _ ht => ht
  | disableProxy =>
      apply Yields.map
      exact (h.disableProxyImpl hs).bind fun t _ ht => ht
  | pingProxy proxy => exact hs.pingProxy proxy
  | onNetwork flag generation attempts =>
      simp only [ConnectionCreator.step, onNetwork]
      split_ifs
      · apply h.loop
        apply h.clientLoops
        exact ⟨hs.1, hs.2⟩
      · exact h.clientLoops (s := { s with
          networkFlag := flag
          networkGeneration := generation
          resolveProxyQueryToken := 0
          resolveProxyTimestamp := 0 }) ⟨hs.1, hs.2⟩ attempts
      · exact ⟨hs.1, hs.2⟩
  | clientLoops attempts => exact h.clientLoops hs attempts
  | loop => exact h.loop hs
  | tick duration => exact hs
  | timeoutExpired =>
      simp only [ConnectionCreator.step, ConnectionCreator.timeoutExpired]
      split
      · exact hs
      next timeout halarm =>
        split_ifs with hdue
        · have hsilent : Accounted [] { s with timeoutAt := none } := hs.1
          refine ((accounted_housekeeping []).loop hsilent).and (loop_notStranded ?_)
          intro hpending
          refine ⟨(hs.2 hpending).1, ?_⟩
          by_cases htoken : s.resolveTransportProxyQueryToken = 0
          · exact .inl (hkeeps ⟨timeout, halarm, hdue⟩ hpending htoken)
          · exact .inr (.inl htoken)
        · exact hs
  | resolved query result nets attempts =>
      simp only [ConnectionCreator.step]
      split_ifs with hquery
      · exact hs.dispatch hquery hkeeps
      · exact hs
  | pingDone request => exact hs.pingDone request
  | close => exact hs

lemma startUp_tidy (now : Time) (db : ProxyDatabase) :
    Yields (startUp now db) (Tidy []) fun _ => True := by
  refine (startUp_yields (fun _ _ _ => trivial) now db).mono ?_
  rintro _ ⟨t, ⟨proxies, maxProxyId, activeProxyId, hzero, rfl⟩, rfl⟩
  -- nothing has been asked for yet
  have hpass := initTransport_keeps (I := fun s => Accounted [] s ∧ s.pendingPingProxyRequests = [])
    (s := loaded now proxies maxProxyId activeProxyId)
    ⟨⟨by simp [places, asked, loaded], rfl, hzero⟩, rfl⟩ (by
    rintro t id entry - - ht
    rcases updateTransportProxyId_cases t id entry.2 with ⟨h, -⟩ | ⟨-, -, -, -, h⟩ <;>
      rw [h] <;> exact ht)
  exact ⟨hpass.1, fun h => absurd hpass.2 h⟩

/-- **No ping request is stranded** in a run that keeps to the condition.  In every state it reaches,
parked requests have a transport proxy, with a query for it out or the alarm set; every request made so
far is in exactly one place, so that its promise is set at most once and is not lost before; and an
answer about the transport proxy leaves nothing parked, what was being with a connection or settled. -/
theorem run_pings {now : Time} {db : ProxyDatabase} {s : ConnectionCreator}
    (hstart : startUp now db = .ok s) {es : List Event} (hkeeps : Meets step KeepsPings s es)
    {t : ConnectionCreator} (hrun : run step s es = .ok t) :
    (t.pendingPingProxyRequests ≠ [] → t.transportProxyId ≠ 0 ∧
      ((∃ server port, .transport t.resolveTransportProxyQueryToken server port ∈ t.resolving) ∨
        t.timeoutAt.isSome)) ∧
    (∀ request, t.places request = if request < t.nextRequest then 1 else 0) ∧
    (∀ token server port result nets attempts u, .transport token server port ∈ t.resolving →
      t.KeepsPings (.resolved (.transport token server port) result nets attempts) →
      t.step (.resolved (.transport token server port) result nets attempts) = .ok u →
      u.pendingPingProxyRequests = [] ∧ ∀ r ∈ t.pendingPingProxyRequests, u.Issued r.request) := by
  have hs := (startUp_tidy now db).result hstart
  have ht := (run_yields (fun s e hs he => Tidy.step hs he) hs hkeeps).result hrun
  refine ⟨?_, ht.1.1, ?_⟩
  · intro hpending
    rcases ht.2 hpending with ⟨hid, htoken | halarm⟩
    · have htokens := ht.1.2.1
      rw [if_neg htoken] at htokens
      have hmember : t.resolveTransportProxyQueryToken ∈ transportTokens t.resolving := by
        rw [htokens]
        exact List.mem_singleton.mpr rfl
      rcases List.mem_filterMap.mp hmember with ⟨query, hquery, htransport⟩
      cases query with
      | transport token server port =>
          cases htransport
          exact ⟨hid, .inl ⟨server, port, hquery⟩⟩
      | main token server port => exact nomatch htransport
      | ping request proxy => exact nomatch htransport
    · exact ⟨hid, .inr halarm⟩
  · intro token server port result nets attempts u hquery hkeeps hu
    simp only [ConnectionCreator.step, if_pos hquery] at hu
    refine ((ht.transportResolved hquery nets attempts ?_).result hu).2
    rintro e rfl
    exact hkeeps hquery

/-- A transport proxy. -/
def oneTransport : ProxyDatabase where
  maxId := some 3
  proxies := [(2, { type := .socks5, server := "10.0.0.1", port := 1080 })]
  comments := [(2, transportProxyComment)]

/-- A network in which every data center is found and every socket can be opened. -/
def openNet : ℕ → Net := fun _ =>
  ⟨false, false, 2, fun _ _ _ _ _ => .ok { dcId := 2, ipAddress := ⟨"149.154.167.51", 443, false⟩ },
    fun _ => none⟩

/-- A proxy to ping, as it is asked for and as it is understood. -/
def pinged : InputProxy := ⟨"10.0.0.9", 443, some (.mtproto "000102030405060708090a0b0c0d0e0f")⟩

def pingedProxy : Proxy :=
  { type := .mtproto, server := "10.0.0.9", port := 443,
    secret := ⟨[0, 1, 2, 3, 4, 5, 6, 7, 8, 9, 10, 11, 12, 13, 14, 15]⟩ }

/-- The start of both runs below: the request comes to be parked. -/
def parking : List Event :=
  [.onNetwork true 1 [], .pingProxy pinged,
    .resolved (.ping 0 pingedProxy) (.ok ⟨"10.0.0.9", 443, false⟩) openNet []]

/-- A request is parked, and taken up when the address of the transport proxy is known. -/
theorem run_pings_parked : ∃ s t u, startUp 0 oneTransport = .ok s ∧ run step s parking = .ok t ∧
    t.pendingPingProxyRequests ≠ [] ∧
    t.step (.resolved (.transport 1 "10.0.0.1" 1080) (.ok ⟨"10.0.0.1", 1080, false⟩) openNet []) =
      .ok u ∧ u.pendingPingProxyRequests = [] := by
  refine ⟨_, _, _, rfl, rfl, ?_, rfl, ?_⟩
  · exact nofun
  · refine ((@run_pings 0 oneTransport _ rfl parking ⟨trivial, ?_⟩ _ rfl).2.2
      1 "10.0.0.1" 1080 (.ok ⟨"10.0.0.1", 1080, false⟩) openNet [] _ ?_ trivial rfl).1
    · -- the request is parked while the query is out
      intro t ht
      cases ht
      refine ⟨trivial, ?_⟩
      intro u hu
      cases hu
      exact ⟨fun _ _ => .inr (.inl nofun), fun _ _ => trivial⟩
    · exact List.mem_singleton.mpr rfl

/-- A request is left behind when the transport proxy is removed, and when no address is found for
it. -/
theorem parked_request_stranded : ∃ s t u, startUp 0 oneTransport = .ok s ∧
    run step s (parking ++ [.removeProxy 2]) = .ok t ∧
    t.pendingPingProxyRequests ≠ [] ∧ t.transportProxyId = 0 ∧
    run step s (parking ++ [.resolved (.transport 1 "10.0.0.1" 1080) (.error "") openNet []]) =
      .ok u ∧ u.pendingPingProxyRequests ≠ [] := by
  refine ⟨_, _, _, rfl, rfl, ?_, rfl, rfl, ?_⟩
  · exact nofun
  · exact nofun

end ConnectionCreator

end RioGram
