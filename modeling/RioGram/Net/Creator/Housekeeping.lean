import RioGram.Net.Creator.Handlers

/-!
# What `ConnectionCreator` does by itself

Most handlers end in `loop`, restart the main proxy or look after the clients, and these call each
other.  All they do is put together from a few moves, the fields of `Housekeeping`: a predicate that
each move preserves is preserved by all of them, and a `CHECK` can fail only where a move finds it
failing.  Whatever is said below about handlers goes through these rules, so that an invariant is
checked against eight moves and not against every path through the handlers.
-/

namespace RioGram

namespace ConnectionCreator

open Transition

/-! ## `proxies_[id]` -/

lemma subscript_of_some {s : ConnectionCreator} {id : ℤ} {entry : Proxy × String}
    (h : s.proxies[id]? = some entry) : s.subscript id = (entry, s) := by
  simp only [subscript, h]

lemma subscript_of_none {s : ConnectionCreator} {id : ℤ} (h : s.proxies[id]? = none) :
    s.subscript id = (({}, ""), { s with proxies := s.proxies.insert id ({}, "") }) := by
  simp only [subscript, h]

/-- All that `proxies_[id]` may change is the map, and there only the entry of `id`. -/
lemma subscript_eq (s : ConnectionCreator) (id : ℤ) :
    (s.subscript id).2 = { s with proxies := (s.subscript id).2.proxies } := by
  cases h : s.proxies[id]? with
  | none => rw [subscript_of_none h]
  | some entry => rw [subscript_of_some h]

lemma subscript_self (s : ConnectionCreator) (id : ℤ) :
    (s.subscript id).2.proxies[id]? = some (s.subscript id).1 := by
  cases h : s.proxies[id]? with
  | none => simp [subscript_of_none h]
  | some entry => simp [subscript_of_some h, h]

lemma subscript_stored {s : ConnectionCreator} {id : ℤ} {entry : Proxy × String} (other : ℤ)
    (h : s.proxies[id]? = some entry) : (s.subscript other).2.proxies[id]? = some entry := by
  cases hother : s.proxies[other]? with
  | none =>
      have hne : other ≠ id := by
        rintro rfl
        rw [hother] at h
        exact nomatch h
      simp [subscript_of_none hother, Std.TreeMap.getElem?_insert, hne, h]
  | some e => rw [subscript_of_some hother, h]

/-- A query for the transport proxy takes the next token and asks for the proxy's server and port. -/
lemma resolveTransport_eq (s : ConnectionCreator) :
    s.resolveTransport =
      { s with
        currentToken := s.currentToken + 1
        resolveTransportProxyQueryToken := s.currentToken + 1
        proxies := (s.subscript s.transportProxyId).2.proxies
        resolving := s.resolving ++ [.transport (s.currentToken + 1)
          (s.subscript s.transportProxyId).1.1.server (s.subscript s.transportProxyId).1.1.port] } := by
  cases h : s.proxies[s.transportProxyId]? with
  | none => simp only [resolveTransport, nextToken, subscript, h]
  | some entry => simp only [resolveTransport, nextToken, subscript, h]

lemma resolveMain_eq (s : ConnectionCreator) :
    s.resolveMain =
      { s with
        currentToken := s.currentToken + 1
        resolveProxyQueryToken := s.currentToken + 1
        proxies := (s.subscript s.activeProxyId).2.proxies
        resolving := s.resolving ++ [.main (s.currentToken + 1)
          (s.subscript s.activeProxyId).1.1.server (s.subscript s.activeProxyId).1.1.port] } := by
  cases h : s.proxies[s.activeProxyId]? with
  | none => simp only [resolveMain, nextToken, subscript, h]
  | some entry => simp only [resolveMain, nextToken, subscript, h]

/-- `loop` has something to do. -/
def Running (s : ConnectionCreator) : Prop := ¬ (s.closeFlag ∨ ¬ s.isInited ∨ ¬ s.networkFlag)

lemma loop_of_idle {s : ConnectionCreator} (h : s.closeFlag ∨ ¬ s.isInited ∨ ¬ s.networkFlag) :
    s.loop = .ok s := by
  simp only [loop, if_pos h]

/-! ## The moves -/

/-- The predicate `I` is preserved by the moves, and where it holds they fail only with what `K`
allows. -/
structure Housekeeping (I : ConnectionCreator → Prop) (K : CheckFailure → Prop) : Prop where
  subscriptActive : ∀ s, s.activeProxyId ≠ 0 → I s → I (s.subscript s.activeProxyId).2
  subscriptTransport : ∀ s, s.transportProxyId ≠ 0 → I s → I (s.subscript s.transportProxyId).2
  nextToken : ∀ s, I s → I s.nextToken.2
  resolveTransport : ∀ s, s.Running → s.transportProxyId ≠ 0 →
    s.resolveTransportProxyTimestamp ≤ s.now → s.resolveTransportProxyQueryToken = 0 → I s →
    I s.resolveTransport
  resolveMain : ∀ s, s.activeProxyId ≠ 0 → s.resolveProxyTimestamp ≤ s.now →
    s.resolveProxyQueryToken = 0 → I s → I s.resolveMain
  setTimeout : ∀ s timeout, I s → I { s with timeoutAt := some timeout }
  forgetMain : ∀ s, I s →
    I { s with resolveProxyQueryToken := 0, resolveProxyTimestamp := 0, proxyIpAddress := none }
  setActiveProxyId : ∀ s id, I s → I (s.setActiveProxyId id)
  transportQueryToken : ∀ s, I s → s.resolveTransportProxyQueryToken ≠ 0 →
    s.now < s.resolveTransportProxyTimestamp → K .transportQueryToken
  proxyQueryToken : ∀ s, I s → s.resolveProxyQueryToken ≠ 0 → s.now < s.resolveProxyTimestamp →
    K .proxyQueryToken
  otherCheck : ∀ k, k ≠ .transportQueryToken → k ≠ .proxyQueryToken → K k

namespace Housekeeping

/-- Two predicates at once. -/
lemma and {I J : ConnectionCreator → Prop} {K L : CheckFailure → Prop} (h : Housekeeping I K)
    (g : Housekeeping J L) : Housekeeping (fun s => I s ∧ J s) K where
  subscriptActive := fun s hid hs => ⟨h.subscriptActive s hid hs.1, g.subscriptActive s hid hs.2⟩
  subscriptTransport := fun s hid hs =>
    ⟨h.subscriptTransport s hid hs.1, g.subscriptTransport s hid hs.2⟩
  nextToken := fun s hs => ⟨h.nextToken s hs.1, g.nextToken s hs.2⟩
  resolveTransport := fun s hrunning hid hpast htoken hs =>
    ⟨h.resolveTransport s hrunning hid hpast htoken hs.1,
      g.resolveTransport s hrunning hid hpast htoken hs.2⟩
  resolveMain := fun s hid hpast htoken hs =>
    ⟨h.resolveMain s hid hpast htoken hs.1, g.resolveMain s hid hpast htoken hs.2⟩
  setTimeout := fun s timeout hs => ⟨h.setTimeout s timeout hs.1, g.setTimeout s timeout hs.2⟩
  forgetMain := fun s hs => ⟨h.forgetMain s hs.1, g.forgetMain s hs.2⟩
  setActiveProxyId := fun s id hs => ⟨h.setActiveProxyId s id hs.1, g.setActiveProxyId s id hs.2⟩
  transportQueryToken := fun s hs => h.transportQueryToken s hs.1
  proxyQueryToken := fun s hs => h.proxyQueryToken s hs.1
  otherCheck := h.otherCheck

variable {I : ConnectionCreator → Prop} {K : CheckFailure → Prop} (h : Housekeeping I K)
  {s : ConnectionCreator} (hs : I s)

include h hs

/-! ## `loop` -/

lemma loopTransport (hrunning : s.Running) (timeout : Time) :
    Yields (s.loopTransport timeout) (fun result => I result.1) K := by
  unfold ConnectionCreator.loopTransport
  split_ifs with hid hpast htoken hnonzero
  · exact hs
  · exact h.resolveTransport s hrunning hid hpast htoken hs
  · exact hs
  · exact h.transportQueryToken s hs hnonzero (Nat.lt_of_not_le hpast)
  · exact hs

lemma loopMain (timeout : Time) : Yields (s.loopMain timeout) (fun result => I result.1) K := by
  unfold ConnectionCreator.loopMain
  split_ifs with hid hpast htoken hnonzero
  · exact hs
  · exact h.resolveMain s hid hpast htoken hs
  · exact hs
  · exact h.proxyQueryToken s hs hnonzero (Nat.lt_of_not_le hpast)
  · exact hs

lemma setTimeout_keeps (timeout : Time) : I (s.setTimeout timeout) := by
  unfold ConnectionCreator.setTimeout
  split_ifs
  · exact hs
  · exact h.setTimeout s timeout hs

lemma loop : Yields s.loop I K := by
  unfold ConnectionCreator.loop
  split_ifs with hidle
  · exact hs
  · refine (h.loopTransport hs hidle 0).bind ?_
    rintro ⟨t, timeout⟩ - ht
    refine (h.loopMain ht timeout).bind ?_
    rintro ⟨u, timeout⟩ - hu
    exact h.setTimeout_keeps hu timeout

/-! ## Changing the active proxy -/

lemma subscriptIfActive :
    I (if s.activeProxyId ≠ 0 then (s.subscript s.activeProxyId).2 else s) := by
  split_ifs with hactive
  · exact h.subscriptActive s hactive hs
  · exact hs

lemma onProxyChanged : Yields s.onProxyChanged I K :=
  h.loop (h.forgetMain _ (h.subscriptIfActive hs))

lemma enableProxyImpl (proxyId : ℤ) : Yields (s.enableProxyImpl proxyId) I K := by
  unfold ConnectionCreator.enableProxyImpl
  split_ifs with hunknown hsame hactive
  · exact h.otherCheck _ nofun nofun
  · exact hs
  · exact h.onProxyChanged (h.setActiveProxyId _ _ (h.subscriptActive s hactive hs))
  · exact h.onProxyChanged (h.setActiveProxyId _ _ hs)

lemma disableProxyImpl : Yields s.disableProxyImpl I K := by
  unfold ConnectionCreator.disableProxyImpl
  split_ifs
  · exact hs
  · exact h.otherCheck _ nofun nofun
  · exact h.onProxyChanged (h.setActiveProxyId s 0 hs)

lemma enableIf (enable : Bool) (proxyId : ℤ) : Yields (s.enableIf enable proxyId) I K := by
  unfold ConnectionCreator.enableIf
  split_ifs
  · exact h.enableProxyImpl hs proxyId
  · exact hs

lemma disableIfActive (proxyId : ℤ) : Yields (s.disableIfActive proxyId) I K := by
  unfold ConnectionCreator.disableIfActive
  split_ifs
  · exact h.disableProxyImpl hs
  · exact hs

/-! ## Connections and clients -/

lemma findConnection (net : Net) (proxy : Proxy) (proxyIpAddress : Option IpAddress) (dcId : ℤ)
    (allowMediaOnly : Bool) :
    I (s.findConnection net proxy proxyIpAddress dcId allowMediaOnly).2.2 := by
  unfold ConnectionCreator.findConnection
  dsimp only
  split
  · exact hs
  · split_ifs with hmtproto hid hip
    · exact hs
    · exact h.subscriptTransport s hid hs
    · exact hs
    · exact hs
    · exact hs

lemma connect (net : Net) (proxy : Proxy) (proxyIpAddress : Option IpAddress) (dcId : ℤ)
    (allowMediaOnly : Bool) : I (s.connect net proxy proxyIpAddress dcId allowMediaOnly).2 := by
  have hfound := h.findConnection hs net proxy proxyIpAddress dcId allowMediaOnly
  unfold ConnectionCreator.connect
  rcases hfind : s.findConnection net proxy proxyIpAddress dcId allowMediaOnly with
    ⟨error | socket, extra, t⟩ <;> rw [hfind] at hfound
  · exact hfound
  · exact h.nextToken t hfound

lemma clientAttempt (attempt : Attempt) : I (s.clientAttempt attempt) := by
  unfold ConnectionCreator.clientAttempt
  split_ifs with hidle hactive
  · exact hs
  · dsimp only
    split_ifs
    · exact hs
    · exact h.connect hs _ _ _ _ _
  · have hentry := h.subscriptActive s hactive hs
    dsimp only
    split_ifs
    · exact hentry
    · exact h.connect hentry _ _ _ _ _

lemma clientLoops (attempts : List Attempt) : I (s.clientLoops attempts) := by
  unfold ConnectionCreator.clientLoops
  induction attempts generalizing s with
  | nil => exact hs
  | cons attempt attempts ih => exact ih (h.clientAttempt hs attempt)

end Housekeeping

/-! ## What is left alone -/

/-- The transport proxy is the one of `s`, with the same address, and the same entries are stored; there
may be more, with empty proxies. -/
structure Unchanged (s t : ConnectionCreator) : Prop where
  transportProxyId : t.transportProxyId = s.transportProxyId
  transportProxyIpAddress : t.transportProxyIpAddress = s.transportProxyIpAddress
  stored : ∀ (id : ℤ) (entry : Proxy × String), s.proxies[id]? = some entry →
    t.proxies[id]? = some entry
  useProxy : ∀ (id : ℤ) (entry : Proxy × String), entry.1.useProxy →
    t.proxies[id]? = some entry → s.proxies[id]? = some entry

lemma Unchanged.refl (s : ConnectionCreator) : Unchanged s s :=
  ⟨rfl, rfl, fun _ _ h => h, fun _ _ _ h => h⟩

lemma Unchanged.iff {s t : ConnectionCreator} (h : Unchanged s t) (id : ℤ) {entry : Proxy × String}
    (hentry : entry.1.useProxy) : t.proxies[id]? = some entry ↔ s.proxies[id]? = some entry :=
  ⟨h.useProxy id entry hentry, h.stored id entry⟩

/-- An entry that `proxies_[id]` inserts has no proxy in it. -/
lemma subscript_useProxy {s : ConnectionCreator} {other id : ℤ} {entry : Proxy × String}
    (hentry : entry.1.useProxy) (h : (s.subscript other).2.proxies[id]? = some entry) :
    s.proxies[id]? = some entry := by
  cases hother : s.proxies[other]? with
  | some stored => rwa [subscript_of_some hother] at h
  | none =>
      rw [subscript_of_none hother] at h
      by_cases hid : other = id
      · subst hid
        simp only [Std.TreeMap.getElem?_insert_self, Option.some.injEq] at h
        subst h
        exact absurd hentry Bool.false_ne_true
      · simpa [Std.TreeMap.getElem?_insert, hid] using h

/-- Where only `proxies_[id]` has changed the proxies. -/
lemma Unchanged.of_subscript {s t u : ConnectionCreator} (h : Unchanged s t) (id : ℤ)
    (hid : u.transportProxyId = t.transportProxyId)
    (hip : u.transportProxyIpAddress = t.transportProxyIpAddress)
    (hproxies : u.proxies = (t.subscript id).2.proxies) : Unchanged s u where
  transportProxyId := hid.trans h.transportProxyId
  transportProxyIpAddress := hip.trans h.transportProxyIpAddress
  stored := by
    intro other entry hentry
    rw [hproxies]
    exact subscript_stored id (h.stored other entry hentry)
  useProxy := by
    intro other entry huse hentry
    rw [hproxies] at hentry
    exact h.useProxy other entry huse (subscript_useProxy huse hentry)

lemma Unchanged.subscript {s t : ConnectionCreator} (h : Unchanged s t) (id : ℤ) :
    Unchanged s (t.subscript id).2 :=
  h.of_subscript id (by rw [subscript_eq]) (by rw [subscript_eq]) rfl

lemma unchanged_housekeeping (s : ConnectionCreator) : Housekeeping (Unchanged s) fun _ => True where
  subscriptActive := fun _ _ h => h.subscript _
  subscriptTransport := fun _ _ h => h.subscript _
  nextToken := fun _ ⟨hid, hip, hstored, huse⟩ => ⟨hid, hip, hstored, huse⟩
  resolveTransport := by
    intro t _ _ _ _ h
    rw [resolveTransport_eq]
    exact h.of_subscript t.transportProxyId rfl rfl rfl
  resolveMain := by
    intro t _ _ _ h
    rw [resolveMain_eq]
    exact h.of_subscript t.activeProxyId rfl rfl rfl
  setTimeout := fun _ _ ⟨hid, hip, hstored, huse⟩ => ⟨hid, hip, hstored, huse⟩
  forgetMain := fun _ ⟨hid, hip, hstored, huse⟩ => ⟨hid, hip, hstored, huse⟩
  setActiveProxyId := fun _ _ ⟨hid, hip, hstored, huse⟩ => ⟨hid, hip, hstored, huse⟩
  transportQueryToken := fun _ _ _ _ => trivial
  proxyQueryToken := fun _ _ _ _ => trivial
  otherCheck := fun _ _ _ => trivial

end ConnectionCreator

end RioGram
