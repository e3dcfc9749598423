import RioGram.Net.Creator.Housekeeping

/-!
# Rules for whole steps

`Background` extends the moves of `Housekeeping` by the small changes the handlers make themselves.
`Background.step` then reduces an invariant of every step to what `add_proxy` and `remove_proxy` do to
it; these two are taken apart in `Placed`, which says where `add_proxy` leaves a proxy, with which
comment, and what `update_transport_proxy_id` is given.
-/

namespace RioGram

namespace ConnectionCreator

open Transition

/-! ## Everything but adding and removing proxies -/

/-- The predicate `I` is preserved by all that happens while the set of proxies stays as it is. -/
structure Background (I : ConnectionCreator → Prop) (K : CheckFailure → Prop) : Prop
    extends Housekeeping I K where
  pings : ∀ s pending connecting settled, I s →
    I { s with pendingPingProxyRequests := pending, connecting := connecting, settled := settled }
  ask : ∀ s request proxy number, I s →
    I { s with nextRequest := number, resolving := s.resolving ++ [.ping request proxy] }
  number : ∀ s number, I s → I { s with nextRequest := number }
  network : ∀ s flag generation, I s →
    I { s with networkFlag := flag, networkGeneration := generation }
  main : ∀ s timestamp address, I s →
    I { s with
        resolveProxyQueryToken := 0
        resolveProxyTimestamp := timestamp
        proxyIpAddress := address }
  tick : ∀ s duration, I s → I { s with now := s.now + duration }
  alarm : ∀ s, I s → I { s with timeoutAt := none }
  close : ∀ s, I s → I { s with closeFlag := true }
  receive : ∀ s query result, I s → I (s.receive query result)
  transportError : ∀ s, I s →
    I { s with
        resolveTransportProxyQueryToken := 0
        resolveTransportProxyTimestamp := s.now + seconds 60 }
  transportAddress : ∀ s server port address,
    .transport s.resolveTransportProxyQueryToken server port ∈ s.resolving → I s →
    I { s.receive (.transport s.resolveTransportProxyQueryToken server port) (.ok address) with
        resolveTransportProxyQueryToken := 0
        transportProxyIpAddress := some address
        resolveTransportProxyTimestamp := s.now + seconds 300 }

namespace Background

variable {I : ConnectionCreator → Prop} {K : CheckFailure → Prop} (h : Background I K)
  {s : ConnectionCreator} (hs : I s)

include h hs

/-! ### Pings -/

lemma settle (request : ℕ) : I (s.settle request) := h.pings s _ _ _ hs

lemma pingProxy (input : InputProxy) : Yields (s.pingProxy input) I K := by
  unfold ConnectionCreator.pingProxy
  split_ifs
  · exact h.otherCheck _ nofun nofun
  · dsimp only
    split
    · exact h.settle (h.number s _ hs) _
    · exact h.ask s _ _ _ hs

lemma pingProxyResolved (net : Net) (proxy : Proxy) (address : IpAddress) (request : ℕ) :
    Yields (s.pingProxyResolved net proxy address request) I K := by
  have hconnect := h.connect hs net proxy (some address) net.mainDcId false
  unfold ConnectionCreator.pingProxyResolved
  rcases hresult : s.connect net proxy (some address) net.mainDcId false with
    ⟨error | prepared, t⟩ <;> rw [hresult] at hconnect <;> dsimp only
  · split_ifs
    · exact h.loop (h.pings t _ _ _ hconnect)
    · exact h.settle hconnect request
  · split_ifs
    · split
      · exact h.settle hconnect request
      · exact h.pings t _ _ _ hconnect
    · exact h.otherCheck _ nofun nofun

lemma pingAll (nets : ℕ → Net) (requests : List PendingPingProxyRequest) :
    Yields (s.pingAll nets requests) I K := by
  induction requests generalizing s with
  | nil => exact hs
  | cons r requests ih =>
      refine (h.pingProxyResolved hs _ _ _ _).bind ?_
      intro t _ ht
      exact ih ht

lemma flushPendingPingProxyRequests (nets : ℕ → Net) :
    Yields (s.flushPendingPingProxyRequests nets) I K := by
  unfold ConnectionCreator.flushPendingPingProxyRequests
  split_ifs
  · exact hs
  · exact h.pingAll (h.pings s _ _ _ hs) nets _

lemma pingDone (request : ℕ) : I (s.pingDone request) := by
  unfold ConnectionCreator.pingDone
  split_ifs
  · exact h.pings s _ _ _ hs
  · exact hs

/-! ### Messages -/

lemma onNetwork (flag : Bool) (generation : ℕ) (attempts : List Attempt) :
    Yields (s.onNetwork flag generation attempts) I K := by
  have hnetwork := h.network s flag generation hs
  unfold ConnectionCreator.onNetwork
  dsimp only
  split_ifs
  · exact h.loop (h.clientLoops (h.main _ _ _ hnetwork) attempts)
  · exact h.clientLoops (h.main _ _ _ hnetwork) attempts
  · exact hnetwork

lemma onProxyResolved (token : ℕ) (result : Except String IpAddress) (attempts : List Attempt) :
    Yields (s.onProxyResolved token result attempts) I K := by
  unfold ConnectionCreator.onProxyResolved
  split_ifs
  · exact h.loop hs
  · cases result with
    | error e => exact h.loop (h.main s _ _ hs)
    | ok address => exact h.loop (h.clientLoops (h.main s _ _ hs) attempts)

/-- The answer to a query about the transport proxy. -/
lemma transportResolved {token : ℕ} {server : String} {port : ℕ}
    (hquery : .transport token server port ∈ s.resolving) (result : Except String IpAddress)
    (nets : ℕ → Net) (attempts : List Attempt) :
    Yields ((s.receive (.transport token server port) result).onTransportProxyResolved token result
      nets attempts) I K := by
  have htoken : (s.receive (.transport token server port) result).resolveTransportProxyQueryToken =
      s.resolveTransportProxyQueryToken := by
    cases result <;> rfl
  unfold ConnectionCreator.onTransportProxyResolved
  rw [htoken]
  split_ifs with hstale
  · exact h.loop (h.receive s _ _ hs)
  · have hcurrent : token = s.resolveTransportProxyQueryToken := not_not.mp hstale
    subst hcurrent
    cases result with
    | error e => exact h.loop (h.transportError (s.receive _ _) (h.receive s _ _ hs))
    | ok address =>
        refine (h.flushPendingPingProxyRequests
          (h.transportAddress s server port address hquery hs) nets).bind ?_
        intro t _ ht
        exact h.loop (h.clientLoops ht attempts)

lemma timeoutExpired : Yields s.timeoutExpired I K := by
  unfold ConnectionCreator.timeoutExpired
  split
  · exact hs
  · split_ifs
    · exact h.loop (h.alarm s hs)
    · exact hs

/-- **The step rule**: `add_proxy` and `remove_proxy` are all that is left to look at. -/
lemma step (e : Event)
    (hadd : ∀ oldProxyId proxy enable comment, e = .addProxy oldProxyId proxy enable comment →
      Yields (s.addProxy oldProxyId proxy enable comment) (fun result => I result.2) K)
    (hremove : ∀ proxyId, e = .removeProxy proxyId →
      Yields (s.removeProxy proxyId) (fun result => I result.2) K) :
    Yields (s.step e) I K := by
  cases e with
  | addProxy oldProxyId proxy enable comment => exact (hadd _ _ _ _ rfl).map
  | removeProxy proxyId => exact (hremove _ rfl).map
  | enableProxy proxyId =>
      apply Yields.map
      unfold ConnectionCreator.enableProxy
      split_ifs
      · exact hs
      · refine (h.enableProxyImpl hs proxyId).bind ?_
        intro t _ ht
        exact ht
  | disableProxy =>
      apply Yields.map
      refine (h.disableProxyImpl hs).bind ?_
      intro t _ ht
      exact ht
  | pingProxy proxy => exact h.pingProxy hs proxy
  | onNetwork flag generation attempts => exact h.onNetwork hs flag generation attempts
  | clientLoops attempts => exact h.clientLoops hs attempts
  | loop => exact h.loop hs
  | tick duration => exact h.tick s duration hs
  | timeoutExpired => exact h.timeoutExpired hs
  | resolved query result nets attempts =>
      unfold ConnectionCreator.step
      dsimp only
      split_ifs with hquery
      · cases query with
        | transport token server port => exact h.transportResolved hs hquery result nets attempts
        | main token server port => exact h.onProxyResolved (h.receive s _ _ hs) token result attempts
        | ping request proxy =>
            cases result with
            | error e => exact h.settle (h.receive s _ _ hs) request
            | ok address => exact h.pingProxyResolved (h.receive s _ _ hs) _ _ _ _
      · exact hs
  | pingDone request => exact h.pingDone hs request
  | close => exact h.close s hs

end Background

/-! ## Adding a proxy -/

lemma findProxy_some {proxies : ProxyMap} {proxy : Proxy} {id : ℤ}
    (h : findProxy proxies proxy = some id) : ∃ comment, proxies[id]? = some (proxy, comment) := by
  simp only [findProxy, Option.map_eq_some_iff] at h
  rcases h with ⟨⟨id, stored, comment⟩, hfind, rfl⟩
  have hstored : stored = proxy := by simpa using List.find?_some hfind
  subst hstored
  exact ⟨comment, Std.TreeMap.mem_toList_iff_getElem?_eq_some.mp (List.mem_of_find?_eq_some hfind)⟩

/-- Only the entries of the proxy matter for where it is found. -/
lemma findProxy_congr {m n : ProxyMap} {proxy : Proxy}
    (h : ∀ (id : ℤ) (comment : String),
      m[id]? = some (proxy, comment) ↔ n[id]? = some (proxy, comment)) :
    findProxy m proxy = findProxy n proxy := by
  have hfind : ∀ m : ProxyMap, findProxy m proxy =
      (m.filter fun _ entry => entry.1 = proxy).toList.head?.map Prod.fst := by
    intro m
    simp [findProxy, List.head?_filter]
  have hequiv : (m.filter fun _ entry => entry.1 = proxy).Equiv
      (n.filter fun _ entry => entry.1 = proxy) := by
    apply Std.TreeMap.Equiv.of_forall_constGet?_eq
    intro id
    ext ⟨stored, comment⟩
    simp only [Std.TreeMap.getElem?_filter', Option.filter_eq_some_iff, decide_eq_true_eq]
    constructor
    · rintro ⟨hm, rfl⟩
      exact ⟨(h id comment).mp hm, rfl⟩
    · rintro ⟨hn, rfl⟩
      exact ⟨(h id comment).mpr hn, rfl⟩
  rw [hfind, hfind, hequiv.toList_eq]

/-- All that `update_transport_proxy_id` may do. -/
lemma updateTransportProxyId_cases (s : ConnectionCreator) (id : ℤ) (comment : String) :
    s.updateTransportProxyId id comment = s ∧
      (comment = transportProxyComment → ∀ entry, s.proxies[id]? = some entry →
        ¬ isTransportType entry.1) ∨
    comment = transportProxyComment ∧ ∃ entry, s.proxies[id]? = some entry ∧
      isTransportType entry.1 ∧
      s.updateTransportProxyId id comment =
        { s with
          transportProxyId := id
          transportProxyIpAddress := none
          resolveTransportProxyTimestamp := s.now } := by
  simp only [updateTransportProxyId]
  split_ifs with hcomment
  · exact .inl ⟨rfl, fun h => absurd h hcomment⟩
  · split
    next hnone =>
      refine .inl ⟨rfl, ?_⟩
      intro _ entry hentry
      rw [hnone] at hentry
      exact nomatch hentry
    next entry hentry =>
      split_ifs with htype
      · exact .inr ⟨not_not.mp hcomment, entry, hentry, htype, rfl⟩
      · refine .inl ⟨rfl, ?_⟩
        intro _ other hother
        rw [hentry] at hother
        cases hother
        exact htype

lemma updateTransportProxyId_proxies (s : ConnectionCreator) (id : ℤ) (comment : String) :
    (s.updateTransportProxyId id comment).proxies = s.proxies := by
  rcases updateTransportProxyId_cases s id comment with ⟨h, -⟩ | ⟨-, -, -, -, h⟩ <;> rw [h]

/-- What `add_proxy` has done when it comes to the transport proxy: the proxy is stored under `id`
with its comment, and `left` is what the comment variable holds by then. -/
structure Placed (s : ConnectionCreator) (oldProxyId : ℤ) (proxy : Proxy) (comment : String)
    (id : ℤ) (left : String) (t : ConnectionCreator) : Prop where
  frame : t = { s with proxies := t.proxies, maxProxyId := t.maxProxyId }
  entry : t.proxies[id]? = some (proxy, comment)
  other : ∀ j, j ≠ id → t.proxies[j]? = s.proxies[j]?
  target : findProxy s.proxies proxy = some id ∨
    findProxy s.proxies proxy = none ∧ s.proxies[id]? = none ∧
      id = (if 0 ≤ oldProxyId then oldProxyId else s.maxProxyId) ∧ 0 < id
  marker : left = transportProxyComment ↔
    comment = transportProxyComment ∧ s.proxies[id]? = some (proxy, transportProxyComment)

/-- The comment of an entry is replaced, and the variable emptied, unless they are equal. -/
lemma setProxyComment_yields {s : ConnectionCreator} {id : ℤ} {proxy : Proxy} {stored : String}
    (hstored : s.proxies[id]? = some (proxy, stored)) (comment : String) {K : CheckFailure → Prop}
    (hK : K .proxyId) :
    Yields (s.setProxyComment id comment) (fun result =>
      result.2 = { s with proxies := result.2.proxies } ∧
      result.2.proxies[id]? = some (proxy, comment) ∧
      (∀ j, j ≠ id → result.2.proxies[j]? = s.proxies[j]?) ∧
      (result.1 = transportProxyComment ↔
        comment = transportProxyComment ∧ stored = transportProxyComment)) K := by
  simp only [setProxyComment, subscript_of_some hstored]
  split_ifs with hsame hid
  · subst hsame
    exact ⟨rfl, hstored, fun _ _ => rfl, by simp⟩
  · exact hK
  · refine ⟨rfl, by simp, ?_, ?_⟩
    · intro j hj
      simp [Std.TreeMap.getElem?_insert, hj.symm]
    · simp only [transportProxyComment, String.reduceEq, false_iff, not_and]
      rintro rfl rfl
      exact hsame rfl

lemma emplaceProxy_yields (s : ConnectionCreator) (id : ℤ) (proxy : Proxy) {K : CheckFailure → Prop}
    (hid : K .proxyId) (hinserted : K .notInserted) :
    Yields (s.emplaceProxy id proxy) (fun result =>
      result.1 = id ∧ 0 < id ∧ s.proxies[id]? = none ∧
      result.2 = { s with proxies := s.proxies.insert id (proxy, "") }) K := by
  simp only [emplaceProxy]
  split_ifs with hpositive hsome
  · exact hid
  · exact hinserted
  · exact ⟨rfl, Int.not_le.mp hpositive, by simpa using hsome, rfl⟩

lemma placed_new {s : ConnectionCreator} {oldProxyId id : ℤ} {proxy : Proxy}
    (hfind : findProxy s.proxies proxy = none) (hnone : s.proxies[id]? = none)
    (hold : id = (if 0 ≤ oldProxyId then oldProxyId else s.maxProxyId)) (hpositive : 0 < id) (m : ℤ) :
    Placed s oldProxyId proxy "" id ""
      { s with maxProxyId := m, proxies := s.proxies.insert id (proxy, "") } := by
  refine ⟨rfl, by simp, ?_, .inr ⟨hfind, hnone, hold, hpositive⟩,
    by simp [transportProxyComment]⟩
  intro j hj
  simp [Std.TreeMap.getElem?_insert, hj.symm]

/-- The proxy has an entry after `placeProxy`, an old one or a new one without a comment. -/
lemma placeProxy_yields (s : ConnectionCreator) (oldProxyId : ℤ) (proxy : Proxy)
    {K : CheckFailure → Prop} (hK : ∀ k, k ≠ .transportQueryToken → k ≠ .proxyQueryToken → K k) :
    Yields (s.placeProxy oldProxyId proxy) (fun result => ∃ stored,
      Placed s oldProxyId proxy stored result.1 stored result.2 ∧
      (s.proxies[result.1]? = some (proxy, transportProxyComment) → stored = transportProxyComment))
      K := by
  simp only [placeProxy]
  split
  next id hfind =>
    rcases findProxy_some hfind with ⟨stored, hstored⟩
    have hmarker : s.proxies[id]? = some (proxy, transportProxyComment) →
        stored = transportProxyComment := by
      intro h
      simpa [hstored] using h
    refine ⟨stored, ⟨rfl, hstored, fun _ _ => rfl, .inl hfind, ?_⟩, hmarker⟩
    constructor
    · rintro rfl
      exact ⟨rfl, hstored⟩
    · exact And.left
  next hfind =>
    split_ifs with hold hmax
    · refine (emplaceProxy_yields s oldProxyId proxy (hK _ nofun nofun) (hK _ nofun nofun)).mono ?_
      rintro ⟨id, t⟩ ⟨hid, hpositive, hnone, hresult⟩
      dsimp only at hid hnone hresult
      subst hid hresult
      exact ⟨"", placed_new hfind hnone (if_pos hold).symm hpositive s.maxProxyId, by simp [hnone]⟩
    · exact hK _ nofun nofun
    · refine (emplaceProxy_yields _ s.maxProxyId proxy (hK _ nofun nofun) (hK _ nofun nofun)).mono ?_
      rintro ⟨id, t⟩ ⟨hid, hpositive, hnone, hresult⟩
      dsimp only at hid hnone hresult
      subst hid hresult
      exact ⟨"", placed_new hfind hnone (if_neg hold).symm hpositive _, by simp [hnone]⟩

/-- **The rule for `add_proxy`** from where the old proxy is gone. -/
lemma storeProxy_yields {s : ConnectionCreator} {oldProxyId : ℤ} {proxy : Proxy} {enable : Bool}
    {comment : String} {K : CheckFailure → Prop}
    {Q : Except String AddedProxy × ConnectionCreator → Prop}
    (hK : ∀ k, k ≠ .transportQueryToken → k ≠ .proxyQueryToken → K k)
    (h : ∀ id left t, Placed s oldProxyId proxy comment id left t →
      Yields ((t.updateTransportProxyId id left).enableIf enable id)
        (fun u => ∀ added : AddedProxy, added.id = id → Q (.ok added, u)) K) :
    Yields (s.storeProxy oldProxyId proxy enable comment) Q K := by
  refine (placeProxy_yields s oldProxyId proxy hK).bind ?_
  rintro ⟨id, t⟩ - ⟨stored, hplaced, hmarker⟩
  refine (setProxyComment_yields hplaced.entry comment (hK _ nofun nofun)).bind ?_
  rintro ⟨left, u⟩ - ⟨hframe, hentry, hother, hleft⟩
  dsimp only at hframe hentry hother hleft
  have hcommented : Placed s oldProxyId proxy comment id left u := by
    refine ⟨?_, hentry, fun j hj => (hother j hj).trans (hplaced.other j hj), hplaced.target, ?_⟩
    · have hmax : u.maxProxyId = t.maxProxyId := by rw [hframe]
      have ht := hplaced.frame
      dsimp only at ht hframe
      rw [ht] at hframe
      rw [hmax]
      exact hframe
    · rw [hleft, hplaced.marker]
      constructor
      · rintro ⟨hcomment, -, hentry⟩
        exact ⟨hcomment, hentry⟩
      · rintro ⟨hcomment, hentry⟩
        exact ⟨hcomment, hmarker hentry, hentry⟩
  refine (h id left u hcommented).bind ?_
  intro v _ hv
  simp only [getAddedProxyObject]
  split
  · exact hK _ nofun nofun
  · exact hv _ rfl

/-- **The rule for `add_proxy`**: it refuses, sets the comment of an equal proxy, or stores the proxy
after the old one, if there was one, has been disabled and erased. -/
lemma addProxy_yields {s : ConnectionCreator} {oldProxyId : ℤ} {input : Option InputProxy}
    {enable : Bool} {comment : String} {J : ConnectionCreator → Prop} {K : CheckFailure → Prop}
    {Q : Except String AddedProxy × ConnectionCreator → Prop}
    (hK : ∀ k, k ≠ .transportQueryToken → k ≠ .proxyQueryToken → K k)
    (hrefused : ∀ error, Q (.error error, s))
    (hsame : ∀ proxy stored (t : ConnectionCreator), Proxy.createProxy input = .ok proxy →
      0 ≤ oldProxyId → s.proxies[oldProxyId]? = some (proxy, stored) →
      t = { s with proxies := t.proxies } → t.proxies[oldProxyId]? = some (proxy, comment) →
      (∀ j, j ≠ oldProxyId → t.proxies[j]? = s.proxies[j]?) →
      Yields (t.enableIf enable oldProxyId)
        (fun u => ∀ added : AddedProxy, added.id = oldProxyId → Q (.ok added, u)) K)
    (hnew : ∀ proxy, Proxy.createProxy input = .ok proxy → oldProxyId < 0 →
      Yields (s.storeProxy oldProxyId proxy enable comment) Q K)
    (hdisable : Yields (s.disableIfActive oldProxyId) J K)
    (hedit : ∀ proxy stored t, Proxy.createProxy input = .ok proxy → 0 ≤ oldProxyId →
      s.proxies[oldProxyId]? = some stored → stored.1 ≠ proxy →
      s.disableIfActive oldProxyId = .ok t → J t →
      Yields (storeProxy { t with proxies := t.proxies.erase oldProxyId } oldProxyId proxy
        (enable || oldProxyId = s.activeProxyId) comment) Q K) :
    Yields (s.addProxy oldProxyId input enable comment) Q K := by
  simp only [addProxy]
  split
  next error _ => exact hrefused error
  next proxy hproxy =>
    simp only [addCreatedProxy]
    split_ifs with hold
    · split
      next => exact hrefused _
      next stored hstored =>
        rcases stored with ⟨storedProxy, storedComment⟩
        split_ifs with hequal
        · dsimp only at hequal
          subst hequal
          refine (setProxyComment_yields hstored comment (hK _ nofun nofun)).bind ?_
          rintro ⟨left, t⟩ - ⟨hframe, hentry, hother, -⟩
          refine (hsame _ _ t hproxy hold hstored hframe hentry hother).bind ?_
          intro u _ hu
          simp only [getAddedProxyObject]
          split
          · exact hK _ nofun nofun
          · exact hu _ rfl
        · refine hdisable.bind ?_
          intro t ht hJ
          simp only [eraseProxy]
          split_ifs
          · exact hK _ nofun nofun
          · exact hedit proxy _ t hproxy hold hstored hequal ht hJ
    · exact hnew proxy hproxy (Int.not_le.mp hold)

/-- The proxies that `add_proxy` looks through. -/
def remaining (s : ConnectionCreator) (oldProxyId : ℤ) : ProxyMap :=
  if 0 ≤ oldProxyId then s.proxies.erase oldProxyId else s.proxies

/-- `add_proxy` comes to storing the proxy: it is new, or takes the place of a different one. -/
def Stores (s : ConnectionCreator) (oldProxyId : ℤ) (proxy : Proxy) : Prop :=
  0 ≤ oldProxyId → ∃ stored, s.proxies[oldProxyId]? = some stored ∧ stored.1 ≠ proxy

lemma getElem?_erase_of_ne {proxies : ProxyMap} {oldProxyId id : ℤ} (h : oldProxyId ≠ id) :
    (proxies.erase oldProxyId)[id]? = proxies[id]? := by
  simp [Std.TreeMap.getElem?_erase, h]

/-- What is left of the stored proxies after moves and the erasure of one entry. -/
lemma Unchanged.erase {s t : ConnectionCreator} (h : Unchanged s t) (oldProxyId id : ℤ)
    {entry : Proxy × String} (hentry : entry.1.useProxy) :
    (t.proxies.erase oldProxyId)[id]? = some entry ↔ (s.proxies.erase oldProxyId)[id]? = some entry := by
  by_cases hid : oldProxyId = id
  · subst hid
    simp
  · rw [getElem?_erase_of_ne hid, getElem?_erase_of_ne hid]
    exact h.iff id hentry

/-- An edit places the proxy where it was found before the moves, or under the old identifier. -/
lemma Placed.edit_target {s t u : ConnectionCreator} {oldProxyId id : ℤ} {proxy : Proxy}
    {comment left : String}
    (h : Placed { t with proxies := t.proxies.erase oldProxyId } oldProxyId proxy comment id left u)
    (hold : 0 ≤ oldProxyId) (ht : Unchanged s t) (huse : proxy.useProxy) :
    findProxy (s.remaining oldProxyId) proxy = some id ∨
    findProxy (s.remaining oldProxyId) proxy = none ∧ id = oldProxyId := by
  have hremaining : s.remaining oldProxyId = s.proxies.erase oldProxyId := if_pos hold
  rw [hremaining, ← findProxy_congr fun other comment => ht.erase oldProxyId other huse]
  rcases h.target with hfind | ⟨hfind, -, hid, -⟩
  · exact .inl hfind
  · exact .inr ⟨hfind, hid.trans (if_pos hold)⟩

/-- **The rule for `remove_proxy`**. -/
lemma removeProxy_yields {s : ConnectionCreator} {proxyId : ℤ} {I J : ConnectionCreator → Prop}
    {K : CheckFailure → Prop} (hK : ∀ k, k ≠ .transportQueryToken → k ≠ .proxyQueryToken → K k)
    (hs : I s) (hdisable : s.proxies[proxyId]?.isSome → Yields (s.disableIfActive proxyId) J K)
    (hgone : ∀ t, J t →
      I { t.forgetTransport proxyId with proxies := (t.forgetTransport proxyId).proxies.erase proxyId }) :
    Yields (s.removeProxy proxyId) (fun result => I result.2) K := by
  simp only [removeProxy]
  split_ifs with hnone
  · exact hs
  · refine (hdisable (by simpa using hnone)).bind ?_
    intro t ht hJ
    simp only [eraseProxy]
    split_ifs
    · exact hK _ nofun nofun
    · exact hgone t hJ

/-! ## The start -/

/-- What `update_transport_proxy_id` keeps for each of the stored proxies, the pass over all of them
keeps. -/
lemma initTransport_keeps {I : ConnectionCreator → Prop} {s : ConnectionCreator} (hs : I s)
    (hupdate : ∀ t id entry, t.proxies = s.proxies → s.proxies[id]? = some entry → I t →
      I (t.updateTransportProxyId id entry.2)) : I s.initTransport := by
  have hpass : ∀ (entries : List (ℤ × Proxy × String)) (t : ConnectionCreator),
      (∀ entry ∈ entries, s.proxies[entry.1]? = some entry.2) → t.proxies = s.proxies → I t →
      I (entries.foldl (fun t entry => t.updateTransportProxyId entry.1 entry.2.2) t) := by
    intro entries
    induction entries with
    | nil => exact fun t _ _ ht => ht
    | cons entry entries ih =>
        intro t hentries hproxies ht
        exact ih _ (fun e he => hentries e (List.mem_cons_of_mem _ he))
          ((updateTransportProxyId_proxies t _ _).trans hproxies)
          (hupdate t _ _ hproxies (hentries entry List.mem_cons_self) ht)
  refine hpass _ s ?_ rfl hs
  intro entry hentry
  exact Std.TreeMap.mem_toList_iff_getElem?_eq_some.mp hentry

section Start

variable {K : CheckFailure → Prop}
  (hK : ∀ k, k ≠ .transportQueryToken → k ≠ .proxyQueryToken → K k)

/-- The state of `init_proxies` before anything but the set of proxies has been looked at. -/
def loaded (now : Time) (proxies : ProxyMap) (maxProxyId activeProxyId : ℤ) : ConnectionCreator :=
  { now, proxies, maxProxyId, activeProxyId }

/-- Some proxies have been loaded, none of them under 0, and nothing else has happened yet. -/
def IsLoaded (now : Time) (s : ConnectionCreator) : Prop :=
  ∃ proxies maxProxyId activeProxyId, proxies[(0 : ℤ)]? = none ∧
    s = loaded now proxies maxProxyId activeProxyId

lemma getElem?_insert_zero {proxies : ProxyMap} {id : ℤ} (hid : id ≠ 0) (entry : Proxy × String)
    (h : proxies[(0 : ℤ)]? = none) : (proxies.insert id entry)[(0 : ℤ)]? = none := by
  simp [Std.TreeMap.getElem?_insert, hid, h]

lemma subscript_zero {s : ConnectionCreator} {id : ℤ} (hid : id ≠ 0) (h : s.proxies[(0 : ℤ)]? = none) :
    (s.subscript id).2.proxies[(0 : ℤ)]? = none := by
  cases hstored : s.proxies[id]? with
  | none => simp only [subscript_of_none hstored, getElem?_insert_zero hid _ h]
  | some entry => rw [subscript_of_some hstored, h]

lemma IsLoaded.subscript {now : Time} {s : ConnectionCreator} (hs : IsLoaded now s) {id : ℤ}
    (hid : id ≠ 0) : IsLoaded now (s.subscript id).2 := by
  rcases hs with ⟨proxies, maxProxyId, activeProxyId, hzero, rfl⟩
  have hkeeps : ((loaded now proxies maxProxyId activeProxyId).subscript id).2.proxies[(0 : ℤ)]? = none :=
    subscript_zero hid hzero
  exact ⟨_, maxProxyId, activeProxyId, hkeeps, subscript_eq _ id⟩

/-- `loop` does nothing before the start has come to its end. -/
lemma IsLoaded.onProxyChanged {now : Time} {s : ConnectionCreator} (hs : IsLoaded now s) :
    Yields s.onProxyChanged (IsLoaded now) K := by
  have hactive : IsLoaded now
      (if s.activeProxyId ≠ 0 then (s.subscript s.activeProxyId).2 else s) := by
    split_ifs with hid
    · exact hs.subscript hid
    · exact hs
  rcases hactive with ⟨proxies, maxProxyId, activeProxyId, hzero, h⟩
  rw [ConnectionCreator.onProxyChanged, h, loop_of_idle (.inr (.inl Bool.false_ne_true))]
  exact ⟨_, _, _, hzero, rfl⟩

include hK

lemma loadProxies_yields {now : Time} {s : ConnectionCreator} (hs : IsLoaded now s)
    (entries : List (ℤ × Proxy)) : Yields (s.loadProxies entries) (IsLoaded now) K := by
  induction entries generalizing s with
  | nil => exact hs
  | cons entry entries ih =>
      rcases entry with ⟨id, proxy⟩
      rcases hs with ⟨proxies, maxProxyId, activeProxyId, hzero, rfl⟩
      simp only [loadProxies]
      split_ifs with hid
      · exact hK _ nofun nofun
      · exact hK _ nofun nofun
      · exact ih ⟨_, _, _, hzero, rfl⟩
      · exact ih ⟨_, _, _, hzero, rfl⟩
      · exact ih ⟨_, _, _, getElem?_insert_zero (Int.not_le.mp hid).ne' _ hzero, rfl⟩

lemma loadComments_yields {now : Time} {s : ConnectionCreator} (hs : IsLoaded now s)
    (comments : List (ℤ × String)) : Yields (s.loadComments comments) (IsLoaded now) K := by
  induction comments generalizing s with
  | nil => exact hs
  | cons comment comments ih =>
      rcases comment with ⟨id, comment⟩
      simp only [loadComments]
      split_ifs with hid
      · exact hK _ nofun nofun
      · split
        · exact ih hs
        · rcases hs with ⟨proxies, maxProxyId, activeProxyId, hzero, rfl⟩
          exact ih ⟨_, _, _, getElem?_insert_zero (Int.not_le.mp hid).ne' _ hzero, rfl⟩

lemma fixMaxProxyId_yields {now : Time} {s : ConnectionCreator} (hs : IsLoaded now s) :
    Yields s.fixMaxProxyId (IsLoaded now) K := by
  rcases hs with ⟨proxies, maxProxyId, activeProxyId, hzero, rfl⟩
  simp only [fixMaxProxyId]
  split_ifs
  · split
    · exact ⟨_, _, _, hzero, rfl⟩
    · split_ifs
      · exact ⟨_, _, _, hzero, rfl⟩
      · exact hK _ nofun nofun
  · exact ⟨_, _, _, hzero, rfl⟩
  · exact ⟨_, _, _, hzero, rfl⟩

/-- `init_proxies` ends with a pass over the proxies it has loaded. -/
lemma initProxies_yields (now : Time) (db : ProxyDatabase) :
    Yields (initProxies { now } db)
      (fun s => ∃ t, IsLoaded now t ∧ s = t.initTransport) K := by
  refine (loadProxies_yields hK ⟨_, _, _, rfl, rfl⟩ db.proxies).bind fun s _ hs => ?_
  refine (loadComments_yields hK hs db.comments).bind fun s _ hs => ?_
  refine (fixMaxProxyId_yields hK hs).bind fun s _ hs => ?_
  have hactive : Yields s.initActive (IsLoaded now) K := by
    simp only [initActive]
    split_ifs with hid
    · exact (hs.subscript hid).onProxyChanged
    · exact hs
  refine hactive.bind fun s _ hs => ?_
  exact ⟨s, hs, rfl⟩

/-- **What the start leaves**: the proxies that were loaded, and a pass over them for the transport
proxy. -/
lemma startUp_yields (now : Time) (db : ProxyDatabase) :
    Yields (startUp now db)
      (fun s => ∃ t, IsLoaded now t ∧ s = { t.initTransport with isInited := true }) K := by
  have hinit : Yields (if db.maxId = some 2 ∧ ∀ entry ∈ db.proxies, entry.1 ≠ 1
      then .ok { ({ now } : ConnectionCreator) with maxProxyId := 2 }
      else initProxies { now } db) (fun s => ∃ t, IsLoaded now t ∧ s = t.initTransport) K := by
    split_ifs
    · exact ⟨loaded now ∅ 2 0, ⟨_, _, _, rfl, rfl⟩, rfl⟩
    · exact initProxies_yields hK now db
  refine hinit.bind ?_
  rintro _ - ⟨t, ht, rfl⟩
  have hnetwork : ¬ t.initTransport.networkFlag := by
    refine initTransport_keeps (I := fun u => ¬ u.networkFlag) ?_ ?_
    · rcases ht with ⟨proxies, maxProxyId, activeProxyId, -, rfl⟩
      exact Bool.false_ne_true
    · intro u id entry _ _ hu
      rcases updateTransportProxyId_cases u id entry.2 with ⟨h, -⟩ | ⟨-, -, -, -, h⟩ <;> rwa [h]
  rw [loop_of_idle]
  · exact ⟨t, ht, rfl⟩
  · exact .inr (.inr hnetwork)

end Start

end ConnectionCreator

end RioGram
