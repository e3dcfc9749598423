import RioGram.Proxies.Specifications

/-!
# Replies to registrations

A reply to an `addProxy` request is matched with what is pending under the name in its extra, or with the
one snapshot there is of the system's proxy.  The match is right as long as what is pending or unanswered
under one name is for one proxy: `Act.Clean` says so of each request when it is made, `Matched` of the
states between.

* `run_registration` — in every run of clean acts, what a reply makes the manager keep is the proxy of the
  request it is the reply to.
* `registered_failed` — the error reply to a user's proxy leaves it pending, and the next reply under its
  name is taken to be about it.
-/

namespace RioGram.Proxies

open Async Transition

namespace Request

def IsSystem : Request → Prop
  | .system _ _ => True
  | _ => False

/-- The name is one that the proxy of the system is registered under. -/
def IsReserved (r : Request) : Prop :=
  r.extra = .addProxy "System" ∨ r.extra = .addProxy "Transport"

end Request

/-- Requests under the name are for the proxy of this one. -/
def Alone (r : Request) (others : List Request) : Prop :=
  ∀ r' ∈ others, r'.extra = r.extra → r'.payload = r.payload

/-- The act does not make two proxies go by one name: no other one is unanswered under the name when a
request is queued, or pending when it is sent, and the setup does not start again before the request for
the system's proxy has had its reply. -/
def Act.Clean : Act → Prop
  | .reset unanswered => ∀ r ∈ unanswered, ¬ r.IsSystem
  | .queue r unanswered => Alone r unanswered
  | .send (.system proxy _) _ unanswered =>
      ∀ r ∈ unanswered, r.IsSystem → r.payload = systemProxyPayload proxy
  | .send r pending _ => ¬ r.IsReserved ∧ Alone r pending

/-- What is pending under the name of an unanswered request is for its proxy. -/
structure Matched (m : Manager) : Prop where
  named : ∀ r ∈ m.unanswered, ¬ r.IsSystem → ¬ r.IsReserved ∧ Alone r m.pending
  system : ∀ r ∈ m.unanswered, r.IsSystem → m.pendingSystemProxy.map systemProxyPayload = some r.payload

/-- The states between clean acts are matched. -/
def MatchedIfClean (m : Manager) : Prop :=
  (∀ a ∈ m.acts, a.Clean) → Matched m

section

variable {m m' : Manager} {update : Update} {origin : Manager.Origin}

/-- Less is pending, and less is unanswered. -/
lemma MatchedIfClean.mono (h : MatchedIfClean m) (hacts : m'.acts = m.acts)
    (hunanswered : ∀ r ∈ m'.unanswered, r ∈ m.unanswered) (hpending : ∀ r ∈ m'.pending, r ∈ m.pending)
    (hsystem : m'.pendingSystemProxy = m.pendingSystemProxy) : MatchedIfClean m' := by
  intro hclean
  rw [hacts] at hclean
  refine ⟨fun r hr hkind => ?_, fun r hr hkind => ?_⟩
  · rcases (h hclean).named r (hunanswered r hr) hkind with ⟨hreserved, halone⟩
    exact ⟨hreserved, fun r' hr' => halone r' (hpending r' hr')⟩
  · rw [hsystem]
    exact (h hclean).system r (hunanswered r hr) hkind

lemma MatchedIfClean.of_eq (h : MatchedIfClean m) (hacts : m'.acts = m.acts)
    (hunanswered : m'.unanswered = m.unanswered) (hpending : m'.pending = m.pending)
    (hsystem : m'.pendingSystemProxy = m.pendingSystemProxy) : MatchedIfClean m' :=
  h.mono hacts (by simp [hunanswered]) (by simp [hpending]) hsystem

lemma MatchedIfClean.reset (h : MatchedIfClean m) (enabled : Bool) :
    MatchedIfClean (m.reset enabled) := by
  intro hclean
  rcases List.forall_mem_cons.mp hclean with ⟨hreset, hclean⟩
  refine ⟨fun r hr hkind => ?_, fun r hr hkind => absurd hkind (hreset r hr)⟩
  rcases (h hclean).named r hr hkind with ⟨hreserved, halone⟩
  refine ⟨hreserved, fun r' hr' => halone r' ?_⟩
  simp only [Manager.pending, Manager.reset, List.map_nil, List.append_nil] at hr'
  exact List.mem_append_left _ hr'

/-- More is pending, and it goes with what is unanswered. -/
lemma MatchedIfClean.queue (h : MatchedIfClean m) (requests : List Request)
    (hacts : m'.acts = requests.map (fun r => .queue r m.unanswered) ++ m.acts)
    (hunanswered : m'.unanswered = m.unanswered)
    (hpending : ∀ r ∈ m'.pending, r ∈ m.pending ∨ r ∈ requests)
    (hsystem : m'.pendingSystemProxy = m.pendingSystemProxy) : MatchedIfClean m' := by
  intro hclean
  rw [hacts] at hclean
  have hmatched := h fun a ha => hclean a (List.mem_append_right _ ha)
  have hqueued : ∀ r ∈ requests, Alone r m.unanswered := by
    intro r hr
    exact hclean (.queue r m.unanswered) (List.mem_append_left _ (List.mem_map.mpr ⟨r, hr, rfl⟩))
  rw [← hunanswered] at hqueued
  refine ⟨fun r hr hkind => ?_, fun r hr hkind => ?_⟩
  · rcases hmatched.named r (hunanswered ▸ hr) hkind with ⟨hreserved, halone⟩
    refine ⟨hreserved, fun r' hr' hextra => ?_⟩
    rcases hpending r' hr' with hold | hnew
    · exact halone r' hold hextra
    · exact (hqueued r' hnew r hr hextra.symm).symm
  · rw [hsystem]
    exact hmatched.system r (hunanswered ▸ hr) hkind

lemma MatchedIfClean.send (h : MatchedIfClean m) {r : Request} (hr : ¬ r.IsSystem) :
    MatchedIfClean (m.send r) := by
  intro hclean
  rcases List.forall_mem_cons.mp hclean with ⟨hsend, hclean⟩
  have hsend : ¬ r.IsReserved ∧ Alone r m.pending := by
    cases r with
    | system proxy transport => exact absurd trivial hr
    | config proxy => exact hsend
    | user proxy => exact hsend
  refine ⟨fun r' hr' hkind => ?_, fun r' hr' hkind => ?_⟩
  · rcases List.mem_append.mp hr' with hr' | hr'
    · exact (h hclean).named r' hr' hkind
    · rcases List.mem_singleton.mp hr' with rfl
      exact hsend
  · rcases List.mem_append.mp hr' with hr' | hr'
    · exact (h hclean).system r' hr' hkind
    · rcases List.mem_singleton.mp hr' with rfl
      exact absurd hkind hr

lemma MatchedIfClean.sendSystem (h : MatchedIfClean m) (proxy : SystemProxyConfig) (transport : Bool) :
    MatchedIfClean (m.sendSystem proxy transport) := by
  intro hclean
  rcases List.forall_mem_cons.mp hclean with ⟨hsend, hclean⟩
  refine ⟨fun r hr hkind => ?_, fun r hr hkind => ?_⟩
  · rcases List.mem_append.mp hr with hr | hr
    · exact (h hclean).named r hr hkind
    · rcases List.mem_singleton.mp hr with rfl
      exact absurd trivial hkind
  · rcases List.mem_append.mp hr with hr | hr
    · exact congrArg some (hsend r hr hkind).symm
    · rcases List.mem_singleton.mp hr with rfl
      rfl

/-- What is left pending was pending. -/
lemma pending_of_takeOrigin {extra : Option Extra} (h : m.takeOrigin extra = some (origin, m'))
    {r : Request} (hr : r ∈ m'.pending) : r ∈ m.pending := by
  have hsub : ∀ (users : List UserProxyConfig) (configs : List ProxyConfig),
      users ⊆ m.pendingUserConfigs → configs ⊆ m.pendingConfigs →
      r ∈ users.map .user ++ configs.map .config → r ∈ m.pending := by
    intro users configs husers hconfigs hr
    rcases List.mem_append.mp hr with hr | hr
    · exact List.mem_append_left _ (List.map_subset _ husers hr)
    · exact List.mem_append_right _ (List.map_subset _ hconfigs hr)
  simp only [Manager.takeOrigin] at h
  split at h
  · split at h
    · cases h
      exact hr
    · split at h
      · cases h
        exact hr
      · split at h
        · cases h
          exact hsub _ _ List.eraseP_subset (List.Subset.refl _) hr
        · split at h
          · cases h
            exact hsub _ _ (List.Subset.refl _) List.eraseP_subset hr
          · cases h
  · split at h
    · next heq =>
        cases h
        exact hsub _ _ (List.Subset.refl _) (by simp [heq]) hr
    · cases h

lemma MatchedIfClean.settle (h : MatchedIfClean m) (update : Update) :
    MatchedIfClean (m.settle update) := by
  refine h.mono rfl (fun r hr => ?_) (fun r hr => hr) rfl
  cases hrequest : update.request with
  | none => simpa [Manager.settle, hrequest] using hr
  | some request =>
      simp only [Manager.settle, hrequest] at hr
      exact List.mem_of_mem_erase hr

lemma MatchedIfClean.registerAddedProxy (h : MatchedIfClean m) (update : Update) :
    MatchedIfClean (m.registerAddedProxy update) := by
  rcases m.registerAddedProxy_cases update with heq | ⟨id, origin, m', -, horigin, heq⟩
  · rw [heq]
    exact h
  · have hframe := Manager.takeOrigin_frame horigin
    rw [heq]
    refine h.mono ?_ ?_ (fun r hr => pending_of_takeOrigin horigin hr) ?_
    · rw [hframe]
      rfl
    · rw [hframe]
      exact fun r hr => hr
    · rw [hframe]
      rfl

lemma MatchedIfClean.handleProxyError (h : MatchedIfClean m) (update : Update) :
    MatchedIfClean (m.handleProxyError update) := by
  simp only [Manager.handleProxyError]
  split
  · refine h.mono rfl (fun r hr => hr) (fun r hr => ?_) rfl
    rcases List.mem_append.mp hr with hr | hr
    · exact List.mem_append_left _ hr
    · exact List.mem_append_right _ (List.map_subset _ (List.filter_subset_self _) hr)
  · exact h

/-- Every change keeps what is pending matched with what is unanswered, while the acts are clean. -/
lemma matched_admitted :
    AdmitsAll (Protocol.invariant MatchedIfClean : Protocol Manager Wait Answer Empty) where
  setProxyHealth id health := Protocol.sees_invariant fun m h => h.of_eq rfl rfl rfl rfl
  setStatus status := Protocol.sees_invariant fun m h => h.of_eq rfl rfl rfl rfl
  setLastError error := Protocol.sees_invariant fun m h => h.of_eq rfl rfl rfl rfl
  setAutoFailoverEnabled enabled := Protocol.sees_invariant fun m h => h.of_eq rfl rfl rfl rfl
  setSavedUserProxies proxies := Protocol.sees_invariant fun m h => h.of_eq rfl rfl rfl rfl
  clock microseconds := Protocol.sees_invariant fun m h => h.of_eq rfl rfl rfl rfl
  queueUser proxy := Protocol.sees_invariant fun m h => by
    refine h.queue [.user proxy] rfl rfl (fun r hr => ?_) rfl
    simp only [Manager.pending, Manager.queueUser, List.map_append, List.mem_append] at hr ⊢
    tauto
  sendUser proxy := Protocol.sees_invariant fun m h => h.send (r := .user proxy) nofun
  reset enabled := Protocol.sees_invariant fun m h => h.reset enabled
  setSystemProxy detected := Protocol.sees_invariant fun m h => h.of_eq rfl rfl rfl rfl
  sendSystem proxy transport := Protocol.sees_invariant fun m h => h.sendSystem proxy transport
  queueConfigs configs := Protocol.sees_invariant fun m h => by
    refine h.queue (configs.map .config) ?_ rfl (fun r hr => ?_) rfl
    · simp [Manager.queueConfigs]
    · simp only [Manager.pending, Manager.queueConfigs, List.map_append, List.mem_append] at hr ⊢
      tauto
  sendConfig proxy := Protocol.sees_invariant fun m h => h.send (r := .config proxy) nofun
  startHealthChecks := Protocol.sees_invariant fun m h => h.of_eq rfl rfl rfl rfl
  setActiveProxy id := Protocol.sees_invariant fun m h => h.of_eq rfl rfl rfl rfl
  beginFailover := Protocol.sees_invariant fun m h => h.of_eq rfl rfl rfl rfl
  endFailover _ _ _ _ := Protocol.sees_invariant fun m h => h.of_eq rfl rfl rfl rfl

end

/-! ## What a reply makes the manager keep -/

/-- The update is TDLib's `addedProxy` reply to the request. -/
structure IsReplyTo (m : Manager) (update : Update) (r : Request) : Prop where
  unanswered : r ∈ m.unanswered
  request : update.request = some r
  type : update.type = .addedProxy
  extra : update.extra = some r.extra

/-- The reply has the address of a user's proxy where the manager looks for it, which takes that of any
other proxy from what it knows of it. -/
def ShowsAddress (update : Update) (r : Request) : Prop :=
  ∀ proxy, r = .user proxy → update.server = some proxy.host ∧ update.port = some proxy.port

/-- Either nothing has been kept, or a name and a payload that are those of the request's proxy. -/
def KeepsPayloadOf (m m' : Manager) (update : Update) (r : Request) : Prop :=
  (m'.proxies = m.proxies ∧ m'.proxyPayloadsById = m.proxyPayloadsById) ∨
  ∃ entry, m'.proxies = m.proxies ++ [entry] ∧ update.id = some entry.id ∧
    entry.name = r.displayName ∧ m'.proxyPayloadsById entry.id = some r.payload

/-- Either nothing has been kept, or an entry and a payload that are those of the request's proxy. -/
def KeepsProxyOf (m m' : Manager) (update : Update) (r : Request) : Prop :=
  (m'.proxies = m.proxies ∧ m'.proxyPayloadsById = m.proxyPayloadsById) ∨
  ∃ entry, m'.proxies = m.proxies ++ [entry] ∧ update.id = some entry.id ∧
    entry.name = r.displayName ∧ entry.host = r.payload.server ∧ entry.port = r.payload.port ∧
    m'.proxyPayloadsById entry.id = some r.payload

section

variable {m m' : Manager} {update : Update} {origin : Manager.Origin} {r : Request}

lemma userProxyPayload_ne (user : UserProxyConfig) (proxy : ProxyConfig) :
    userProxyPayload user ≠ proxyPayload proxy := by
  intro h
  have htype := congrArg Payload.type h
  simp only [userProxyPayload, proxyPayload] at htype
  split at htype <;> cases htype

/-- The pending proxy that a name stands for. -/
lemma takeOrigin_named {name : String} (hsystem : name ≠ "System") (htransport : name ≠ "Transport")
    (h : m.takeOrigin (some (.addProxy name)) = some (origin, m')) :
    (∃ proxy, .user proxy ∈ m.pending ∧ proxy.name = name ∧
      origin = { displayName := proxy.name, payload := some (userProxyPayload proxy) }) ∨
    ∃ proxy, .config proxy ∈ m.pending ∧ proxy.name = name ∧
      origin = { displayName := proxy.name, config := some proxy, payload := some (proxyPayload proxy) } := by
  simp only [Manager.takeOrigin, if_neg hsystem, if_neg htransport] at h
  split at h
  · next proxy hfind =>
      cases h
      exact .inl ⟨proxy, List.mem_append_left _ (List.mem_map_of_mem (List.mem_of_find?_eq_some hfind)),
        by simpa using List.find?_some hfind, rfl⟩
  · split at h
    · next proxy hfind =>
        cases h
        exact .inr ⟨proxy, List.mem_append_right _ (List.mem_map_of_mem (List.mem_of_find?_eq_some hfind)),
          by simpa using List.find?_some hfind, rfl⟩
    · cases h

/-- What the reply is taken to be about, as the entry is made of it. -/
structure Manager.Origin.IsOf (origin : Manager.Origin) (update : Update) (r : Request) : Prop where
  displayName : origin.displayName = r.displayName
  payload : origin.payload = some r.payload
  host : ShowsAddress update r →
    (origin.config.map (·.host) <|> origin.systemConfig.map (·.host) <|> update.server) =
      some r.payload.server
  port : ShowsAddress update r →
    (origin.config.map (·.port) <|> origin.systemConfig.map (·.port) <|> update.port) =
      some r.payload.port

/-- The reply to the request for the system's proxy finds its snapshot. -/
lemma isOf_system (hmatched : Matched m) {proxy : SystemProxyConfig} {transport : Bool}
    (hreply : IsReplyTo m update (.system proxy transport))
    (h : m.takeOrigin update.extra = some (origin, m')) : origin.IsOf update (.system proxy transport) := by
  rcases Option.map_eq_some_iff.mp (hmatched.system _ hreply.unanswered trivial) with
    ⟨pending, hpending, hpayload⟩
  have hserver : pending.host = proxy.host := congrArg Payload.server hpayload
  have hport : pending.port = proxy.port := congrArg Payload.port hpayload
  rw [hreply.extra] at h
  cases transport with
  | false =>
      simp only [Manager.takeOrigin, Request.extra, hpending] at h
      cases h
      exact ⟨rfl, congrArg some hpayload, fun _ => congrArg some hserver, fun _ => congrArg some hport⟩
  | true =>
      simp only [Manager.takeOrigin, Request.extra, hpending] at h
      cases h
      exact ⟨rfl, congrArg some hpayload, fun _ => congrArg some hserver, fun _ => congrArg some hport⟩

/-- The reply to any other request finds a pending one under its name, which is for its proxy. -/
lemma isOf_named (hmatched : Matched m) (hkind : ¬ r.IsSystem) (hreply : IsReplyTo m update r)
    (h : m.takeOrigin update.extra = some (origin, m')) : origin.IsOf update r := by
  rcases hmatched.named r hreply.unanswered hkind with ⟨hreserved, halone⟩
  rw [hreply.extra] at h
  cases r with
  | system proxy transport => exact absurd trivial hkind
  | config proxy =>
      have hsystem : proxy.name ≠ "System" := fun hname => hreserved (.inl (congrArg _ hname))
      have htransport : proxy.name ≠ "Transport" := fun hname => hreserved (.inr (congrArg _ hname))
      rcases takeOrigin_named hsystem htransport h with ⟨user, hmem, hname, -⟩ | ⟨found, hmem, hname, rfl⟩
      · exact absurd (halone _ hmem (congrArg Extra.addProxy hname)) (userProxyPayload_ne user proxy)
      · have hpayload : proxyPayload found = proxyPayload proxy := halone _ hmem (congrArg Extra.addProxy hname)
        have hserver : found.host = proxy.host := congrArg Payload.server hpayload
        have hport : found.port = proxy.port := congrArg Payload.port hpayload
        exact ⟨hname, congrArg some hpayload, fun _ => congrArg some hserver,
          fun _ => congrArg some hport⟩
  | user proxy =>
      have hsystem : proxy.name ≠ "System" := fun hname => hreserved (.inl (congrArg _ hname))
      have htransport : proxy.name ≠ "Transport" := fun hname => hreserved (.inr (congrArg _ hname))
      rcases takeOrigin_named hsystem htransport h with ⟨found, hmem, hname, rfl⟩ | ⟨config, hmem, hname, -⟩
      · exact ⟨hname, congrArg some (halone _ hmem (congrArg Extra.addProxy hname)),
          fun hshows => (hshows proxy rfl).1, fun hshows => (hshows proxy rfl).2⟩
      · exact absurd (halone _ hmem (congrArg Extra.addProxy hname)).symm (userProxyPayload_ne proxy config)

lemma isOf_of_matched (hmatched : Matched m) (hreply : IsReplyTo m update r)
    (h : m.takeOrigin update.extra = some (origin, m')) : origin.IsOf update r := by
  cases r with
  | system proxy transport => exact isOf_system hmatched hreply h
  | config proxy => exact isOf_named hmatched nofun hreply h
  | user proxy => exact isOf_named hmatched nofun hreply h

/-- The manager keeps the request's proxy, or nothing if the proxy is not pending any more. -/
lemma keeps_of_matched (hmatched : Matched m) (hreply : IsReplyTo m update r) :
    KeepsPayloadOf m (m.registerAddedProxy update) update r ∧
    (ShowsAddress update r → KeepsProxyOf m (m.registerAddedProxy update) update r) := by
  rcases m.registerAddedProxy_cases update with heq | ⟨id, origin, m', hid, horigin, heq⟩
  · rw [heq]
    exact ⟨.inl ⟨rfl, rfl⟩, fun _ => .inl ⟨rfl, rfl⟩⟩
  · have hof := isOf_of_matched hmatched hreply horigin
    have hproxies : m'.proxies = m.proxies := by rw [Manager.takeOrigin_frame horigin]
    have hpayload : (m'.addEntry id origin update).proxyPayloadsById id = some r.payload := by
      simp [Manager.addEntry, hof.payload]
    rw [heq]
    refine ⟨.inr ⟨_, congrArg (· ++ _) hproxies, hid, hof.displayName, hpayload⟩, fun hshows => .inr
      ⟨_, congrArg (· ++ _) hproxies, hid, hof.displayName, ?_, ?_, hpayload⟩⟩
    · simp only [hof.host hshows, Option.getD_some]
    · simp only [hof.port hshows, Option.getD_some]

/-- An `addedProxy` reply is registered in the step that brings it. -/
lemma step_addedProxy {l l' : Loop Manager Wait Answer} (htype : update.type = .addedProxy)
    (hstep : step program l (.update update none) = .ok l') :
    l'.shared = (l.shared.registerAddedProxy update).settle update := by
  rcases update with ⟨type, extra, id, server, port, proxyType, message, state, proxies, request⟩
  cases htype
  exact (congrArg Loop.shared (Except.ok.inj hstep)).symm

end

/-- **Replies are matched with their requests** in every run in which no two proxies go by one name at a
time: what a reply makes the manager keep is the proxy of the request that it is the reply to, with its
address if that is known or shown. -/
theorem run_registration {config : AppConfig} {es : List (Event Answer Update Command)}
    {l l' : Loop Manager Wait Answer} (hrun : run (step program) { shared := { config } } es = .ok l)
    (hclean : ∀ a ∈ l.shared.acts, a.Clean) {update : Update} {r : Request}
    (hreply : IsReplyTo l.shared update r) (hstep : step program l (.update update none) = .ok l') :
    KeepsPayloadOf l.shared l'.shared update r ∧
    (ShowsAddress update r → KeepsProxyOf l.shared l'.shared update r) := by
  have hstart : MatchedIfClean { config } := fun _ => ⟨by simp, by simp⟩
  have hmatched : MatchedIfClean l.shared := by
    refine run_invariant matched_admitted ?_ ?_ hstart hrun (meets_true _ es)
    · exact fun l update call _ h _ => (h.registerAddedProxy update).settle update
    · exact fun m update h => (h.handleProxyError update).settle update
  rw [step_addedProxy hreply.type hstep]
  exact keeps_of_matched (hmatched hclean) hreply

/-! ## A registration that fails -/

/-- TDLib's reply, which shows the proxy as the manager looks for it. -/
def workShown : Update where
  type := .addedProxy
  extra := some (.addProxy "Work")
  id := some 2
  server := some "10.0.0.1"
  port := some 1080
  request := some (.user work)

/-- The manager keeps the proxy that the user has added. -/
theorem run_registration_added : ∃ l l', run (step program) { shared := { config := noConfig } }
    (userAdds work 0) = .ok l ∧ step program l (.update workShown none) = .ok l' ∧
    l.shared.unanswered = [.user work] ∧ KeepsProxyOf l.shared l'.shared workShown (.user work) := by
  have hread : (run (step program) { shared := { config := noConfig } }
      (userAdds work 0)).toOption.map (fun l => (l.shared.unanswered, l.shared.acts)) =
      some ([.user work], [.send (.user work) [.user work] [], .queue (.user work) []]) := by
    decide +kernel
  rcases exists_of_read hread with ⟨l, hrun, hl⟩
  simp only [Prod.mk.injEq] at hl
  rcases hl with ⟨hunanswered, hacts⟩
  have hclean : ∀ a ∈ l.shared.acts, a.Clean := by
    simp [hacts, Act.Clean, Alone, Request.IsReserved, Request.extra, work]
  have hreply : IsReplyTo l.shared workShown (.user work) := ⟨by simp [hunanswered], rfl, rfl, rfl⟩
  have hshows : ShowsAddress workShown (.user work) := by
    rintro proxy ⟨⟩
    exact ⟨rfl, rfl⟩
  have hstep : step program l (.update workShown none) = .ok _ := rfl
  exact ⟨l, _, hrun, hstep, hunanswered, (run_registration hrun hclean hreply hstep).2 hshows⟩

/-- The same proxy, with a port that TDLib refuses. -/
def mistyped : UserProxyConfig :=
  { work with id := "10.0.0.1:70000:socks5", port := 70000 }

def mistypedRefused : Update where
  type := .error
  extra := some (.addProxy "Work")
  message := some "Wrong port number"
  request := some (.user mistyped)

/-- TDLib's reply, which has the address one level deeper. -/
def workAdded : Update where
  type := .addedProxy
  extra := some (.addProxy "Work")
  id := some 2
  request := some (.user work)

/-- The proxy that has failed is still pending, and its payload is kept for the next one. -/
theorem registered_failed : ∃ l l', run (step program) { shared := { config := noConfig } }
    (userAdds mistyped 0 ++ [.update mistypedRefused none] ++ userAdds work 2) = .ok l ∧
    step program l (.update workAdded none) = .ok l' ∧ l.shared.unanswered = [.user work] ∧
    l'.shared.proxyPayloadsById 2 = some (userProxyPayload mistyped) ∧
    ¬ KeepsPayloadOf l.shared l'.shared workAdded (.user work) := by
  have hread : (run (step program) { shared := { config := noConfig } }
      (userAdds mistyped 0 ++ [.update mistypedRefused none] ++ userAdds work 2)).toOption.map
        (fun l => (l.shared.unanswered, l.shared.proxies,
          (l.shared.registerAddedProxy workAdded).proxies.map (·.id),
          (l.shared.registerAddedProxy workAdded).proxyPayloadsById 2)) =
      some ([.user work], [], [2], some (userProxyPayload mistyped)) := by
    decide +kernel
  rcases exists_of_read hread with ⟨l, hrun, hl⟩
  simp only [Prod.mk.injEq] at hl
  rcases hl with ⟨hunanswered, hproxies, hids, hpayload⟩
  have hstep : step program l (.update workAdded none) = .ok _ := rfl
  refine ⟨l, _, hrun, hstep, hunanswered, ?_, ?_⟩
  · rw [step_addedProxy rfl hstep]
    exact hpayload
  · rw [step_addedProxy rfl hstep]
    rintro (⟨hsame, -⟩ | ⟨entry, -, hid, -, hown⟩)
    · have hnone : (l.shared.registerAddedProxy workAdded).proxies = l.shared.proxies := hsame
      rw [hnone, hproxies] at hids
      cases hids
    · have hid : (2 : ℤ) = entry.id := Option.some.inj hid
      rw [← hid] at hown
      have hother : userProxyPayload mistyped = userProxyPayload work :=
        Option.some.inj (hpayload.symm.trans hown)
      cases hother

end RioGram.Proxies
