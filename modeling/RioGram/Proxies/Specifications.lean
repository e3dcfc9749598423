import RioGram.Proxies.Procedures

/-!
# The procedures keep what their changes keep

Every procedure is made of a few changes of the manager, and of waits.  A protocol that admits the
changes is kept by the procedures made of them: `Admits` has those of the pings and of the requests,
`AdmitsAll` also those of the setup, of the activation and of the failover.  The properties of the
registered entries and of the registration are protocols of the second kind, that of the failover is one of
the first.
-/

namespace RioGram.Proxies

open Async Transition

variable {δ : Type} {P : Protocol Manager Wait Answer δ}

/-- What holds in a view of the protocol survives the change. -/
def Preserves (P : Protocol Manager Wait Answer δ) (g : Manager → Manager) : Prop :=
  ∀ v m, P.Sees v m → P.Sees v (g m)

/-- The protocol admits what pings, tests and the user's requests change. -/
structure Admits (P : Protocol Manager Wait Answer δ) : Prop where
  setProxyHealth : ∀ id health, Preserves P (·.setProxyHealth id health)
  setStatus : ∀ status, Preserves P (·.setStatus status)
  setLastError : ∀ error, Preserves P (·.setLastError error)
  setAutoFailoverEnabled : ∀ enabled, Preserves P fun m => { m with autoFailoverEnabled := enabled }
  setSavedUserProxies : ∀ proxies, Preserves P fun m => { m with savedUserProxies := proxies }
  clock : ∀ microseconds, Preserves P fun m => { m with now := m.now + microseconds }
  queueUser : ∀ proxy, Preserves P (·.queueUser proxy)
  sendUser : ∀ proxy, Preserves P (·.send (.user proxy))

/-- The protocol admits all changes but those of replies to `addProxy` requests. -/
structure AdmitsAll (P : Protocol Manager Wait Answer δ) : Prop extends Admits P where
  reset : ∀ enabled, Preserves P (·.reset enabled)
  setSystemProxy : ∀ detected, Preserves P fun m => { m with systemProxy := detected }
  sendSystem : ∀ proxy transport, Preserves P (·.sendSystem proxy transport)
  queueConfigs : ∀ configs, Preserves P (·.queueConfigs configs)
  sendConfig : ∀ proxy, Preserves P (·.send (.config proxy))
  startHealthChecks : Preserves P fun m => { m with readyForFailover := true, healthTimer := true }
  setActiveProxy : ∀ id, Preserves P (·.setActiveProxy id)
  beginFailover : Preserves P (·.beginFailover)
  endFailover : ∀ candidates active pings enabled,
    Preserves P (·.endFailover candidates active pings enabled)

/-! ## Pings and requests -/

lemma waitFor_quiet (call : Call) : (waitFor call).Quiet P :=
  (Comp.quiet_wait _).bind fun _ => Comp.quiet_pure _

lemma loadUserProxies_quiet : loadUserProxies.Quiet P := by
  refine (Comp.quiet_wait _).bind fun answer => ?_
  cases answer <;> exact Comp.quiet_pure _

section Admits

variable (hP : Admits P)
include hP

lemma pingOnce_quiet (proxyId : ℤ) {again : Option (Procedure Ping)}
    (hagain : ∀ c, again = some c → c.Quiet P) : (pingOnce proxyId again).Quiet P := by
  refine Comp.quiet_get.bind fun m => ?_
  split
  · exact Comp.quiet_pure _
  · refine (waitFor_quiet _).bind fun response => ?_
    have hhealth : ∀ health, (Comp.modify (·.setProxyHealth proxyId health) :
        Procedure Unit).Quiet P := fun health => Comp.quiet_modify (hP.setProxyHealth proxyId health)
    split
    · exact (hhealth _).bind fun _ => Comp.quiet_pure _
    · refine Comp.Quiet.ite ?_ ((hhealth _).bind fun _ => Comp.quiet_pure _)
      dsimp only
      split
      · exact (Comp.quiet_wait _).bind fun _ => hagain _ rfl
      · exact (hhealth _).bind fun _ => Comp.quiet_pure _

lemma pingProxy_quiet (proxyId : ℤ) (retries : ℕ) : (pingProxy proxyId retries).Quiet P := by
  induction retries with
  | zero => exact pingOnce_quiet hP proxyId nofun
  | succ retries ih =>
      refine pingOnce_quiet hP proxyId ?_
      rintro c ⟨⟩
      exact ih

lemma keepActive_preserved : Preserves P (·.keepActive) := by
  intro v m hm
  rcases m.keepActive_eq with ⟨status, error, heq⟩
  simp only [heq]
  exact hP.setLastError error v _ (hP.setStatus status v m hm)

lemma testProxy_quiet (proxyId : ℤ) : (testProxy proxyId).Quiet P := by
  refine (Comp.quiet_modify (hP.setProxyHealth _ _)).bind fun _ => ?_
  refine (pingProxy_quiet hP proxyId 2).bind fun ping => ?_
  refine (Comp.quiet_modify (hP.setProxyHealth _ _)).bind fun _ => ?_
  exact Comp.Quiet.ite (Comp.quiet_pure _) (Comp.quiet_modify (hP.setLastError _))

lemma addUserProxy_quiet (config : UserProxyConfig) : (addUserProxy config).Quiet P := by
  refine (Comp.quiet_modify (hP.queueUser config)).bind fun _ => ?_
  refine (Comp.quiet_wait _).bind fun _ => ?_
  refine loadUserProxies_quiet.bind fun proxies => ?_
  refine (Comp.quiet_modify (hP.setSavedUserProxies proxies)).bind fun _ => ?_
  exact Comp.quiet_modify (hP.sendUser config)

lemma setAutoFailoverEnabled_quiet (enabled : Bool) : (setAutoFailoverEnabled enabled).Quiet P := by
  refine (Comp.quiet_modify (hP.setAutoFailoverEnabled enabled)).bind fun _ => ?_
  exact (Comp.quiet_wait _).bind fun _ => Comp.quiet_pure _

lemma healthCheck_releases (hswitch : switchToNextProxy.Releases P) : healthCheck.Releases P := by
  refine Comp.quiet_get.releases.bind fun m => ?_
  refine Comp.Releases.ite (Comp.quiet_pure _).releases ?_
  split
  · exact (Comp.quiet_pure _).releases
  · refine (pingProxy_quiet hP _ 2).releases.bind fun ping => ?_
    exact Comp.Releases.ite (Comp.quiet_pure _).releases hswitch

end Admits

/-! ## What may start a failover -/

lemma handleConnectionIssue_releases (hswitch : switchToNextProxy.Releases P) :
    handleConnectionIssue.Releases P := by
  refine Comp.quiet_get.releases.bind fun m => ?_
  exact Comp.Releases.ite (Comp.quiet_pure _).releases hswitch

lemma handleConnectionState_releases (hswitch : switchToNextProxy.Releases P)
    (state : Option ConnectionState) : (handleConnectionState state).Releases P := by
  refine Comp.quiet_get.releases.bind fun m => ?_
  cases state with
  | none => exact (Comp.quiet_pure _).releases
  | some type =>
      refine Comp.Releases.ite (Comp.quiet_pure _).releases ?_
      exact Comp.Releases.ite hswitch (Comp.quiet_pure _).releases

/-! ## Everything else -/

section AdmitsAll

variable (hP : AdmitsAll P)
include hP

lemma enableReplied_quiet (proxyId : ℤ) (response : Option Update) :
    (enableReplied proxyId response).Quiet P := by
  have hfailed : ∀ error, (do
      Comp.modify (·.setStatus .error)
      Comp.modify (·.setLastError (some error))
      pure false : Procedure Bool).Quiet P := by
    intro error
    refine (Comp.quiet_modify (hP.setStatus _)).bind fun _ => ?_
    exact (Comp.quiet_modify (hP.setLastError _)).bind fun _ => Comp.quiet_pure _
  cases response with
  | none => exact hfailed _
  | some response =>
      refine Comp.Quiet.ite (hfailed _) ?_
      refine (Comp.quiet_modify (hP.setActiveProxy _)).bind fun _ => ?_
      refine (Comp.quiet_modify (hP.setProxyHealth _ _)).bind fun _ => ?_
      refine (Comp.quiet_modify (hP.setStatus _)).bind fun _ => ?_
      exact (Comp.quiet_modify (hP.setLastError _)).bind fun _ => Comp.quiet_pure _

lemma enableProxy_quiet (proxyId : ℤ) : (enableProxy proxyId).Quiet P :=
  (waitFor_quiet _).bind fun response => enableReplied_quiet hP proxyId response

lemma activateProxy_quiet (proxyId : ℤ) : (activateProxy proxyId).Quiet P := by
  refine Comp.quiet_get.bind fun m => Comp.Quiet.ite ?_ (Comp.quiet_pure _)
  refine (Comp.quiet_modify (hP.setProxyHealth _ _)).bind fun _ => ?_
  refine (Comp.quiet_modify (hP.setStatus _)).bind fun _ => ?_
  refine (pingProxy_quiet hP.toAdmits proxyId 2).bind fun ping => ?_
  exact (enableProxy_quiet hP proxyId).bind fun _ => Comp.quiet_pure _

lemma tryCandidates_quiet (candidates : List ProxyEntry) (start : ℕ) (offsets : List ℕ)
    (pings : List (ℤ × Bool)) : (tryCandidates candidates start offsets pings).Quiet P := by
  induction offsets generalizing pings with
  | nil => exact (Comp.quiet_modify (keepActive_preserved hP.toAdmits)).bind fun _ => Comp.quiet_pure _
  | cons offset offsets ih =>
      simp only [tryCandidates]
      split
      · exact ih pings
      · refine Comp.Quiet.ite (ih pings) ?_
        refine (pingProxy_quiet hP.toAdmits _ 2).bind fun ping => Comp.Quiet.ite ?_ ?_
        · exact (enableProxy_quiet hP _).bind fun _ => Comp.quiet_pure _
        · exact (Comp.quiet_modify (hP.setProxyHealth _ _)).bind fun _ => ih _

lemma switchToNextProxy_quiet : switchToNextProxy.Quiet P := by
  refine Comp.quiet_get.bind fun m => Comp.Quiet.ite (Comp.quiet_pure _) ?_
  refine (Comp.quiet_modify hP.beginFailover).bind fun _ => ?_
  refine (tryCandidates_quiet hP _ _ _ _).bind fun result => ?_
  exact Comp.quiet_modify (hP.endFailover _ _ _ _)

/-! ## Setup -/

omit hP in
lemma sendProxyOk_quiet (request : ℕ → Call) : (sendProxyOk request).Quiet P := by
  refine Comp.quiet_get.bind fun m => (waitFor_quiet _).bind fun response => ?_
  cases response <;> exact Comp.quiet_pure _

omit hP in
lemma removeProxies_quiet (items : List (Option ℤ)) : (removeProxies items).Quiet P := by
  induction items with
  | nil => exact Comp.quiet_pure _
  | cons item rest ih =>
      cases item with
      | none => exact ih
      | some id => exact Comp.Quiet.ite ih ((sendProxyOk_quiet _).bind fun _ => ih)

omit hP in
lemma purgeStoredProxies_quiet : purgeStoredProxies.Quiet P := by
  refine (sendProxyOk_quiet _).bind fun _ => (waitFor_quiet _).bind fun listed => ?_
  cases listed with
  | none => exact Comp.quiet_pure _
  | some listed => exact Comp.Quiet.ite (Comp.quiet_pure _) (removeProxies_quiet _)

omit hP in
lemma waitForRegistrations_quiet (expectedCount : ℕ) :
    (waitForRegistrations expectedCount).Quiet P := by
  refine Comp.quiet_get.bind fun m => ?_
  generalize m.now + 8000000 = deadline
  generalize 80 = delays
  induction delays with
  | zero => exact Comp.quiet_pure _
  | succ delays ih =>
      refine Comp.quiet_get.bind fun m => Comp.Quiet.ite ?_ (Comp.quiet_pure _)
      exact (Comp.quiet_wait _).bind fun _ => ih

lemma setLastErrorIfNone_quiet (error : String) : (setLastErrorIfNone error).Quiet P :=
  Comp.quiet_modify fun v m hm => hP.setLastError _ v m hm

lemma enableSystemProxyOnly_quiet : enableSystemProxyOnly.Quiet P := by
  refine Comp.quiet_get.bind fun m => ?_
  split
  · exact (Comp.quiet_modify (hP.setStatus _)).bind fun _ => setLastErrorIfNone_quiet hP _
  · exact (enableProxy_quiet hP _).bind fun _ => Comp.quiet_pure _

lemma enableFirstReachable_quiet (entries : List ProxyEntry) (lastPingError : Option String) :
    (enableFirstReachable entries lastPingError).Quiet P := by
  induction entries generalizing lastPingError with
  | nil => exact Comp.quiet_pure _
  | cons proxy rest ih =>
      refine (pingProxy_quiet hP.toAdmits _ 2).bind fun ping => Comp.Quiet.ite ?_ (ih _)
      exact (enableProxy_quiet hP _).bind fun _ => Comp.quiet_pure _

lemma enableUnconfirmed_quiet (first : ProxyEntry) (lastPingError : Option String) :
    (enableUnconfirmed first lastPingError).Quiet P :=
  (enableProxy_quiet hP _).bind fun _ => Comp.quiet_modify (hP.setLastError _)

lemma enableFirstAvailable_quiet : enableFirstAvailable.Quiet P := by
  refine Comp.quiet_get.bind fun m => Comp.Quiet.ite ?_ ?_
  · exact (Comp.quiet_modify (hP.setStatus _)).bind fun _ => setLastErrorIfNone_quiet hP _
  · split
    · exact enableSystemProxyOnly_quiet hP
    · refine (enableFirstReachable_quiet hP _ _).bind fun result => ?_
      split
      · exact Comp.quiet_pure _
      · refine Comp.quiet_get.bind fun m => ?_
        split
        · exact enableUnconfirmed_quiet hP _ _
        · refine (pingProxy_quiet hP.toAdmits _ 2).bind fun ping => Comp.Quiet.ite ?_ ?_
          · exact (enableProxy_quiet hP _).bind fun _ => Comp.quiet_pure _
          · exact enableUnconfirmed_quiet hP _ _

lemma startHealthChecksIfActive_quiet : startHealthChecksIfActive.Quiet P :=
  Comp.quiet_get.bind fun _ =>
    Comp.Quiet.ite (Comp.quiet_modify hP.startHealthChecks) (Comp.quiet_pure _)

lemma sendUserProxies_quiet (proxies : List UserProxyConfig) : (sendUserProxies proxies).Quiet P := by
  induction proxies with
  | nil => exact Comp.quiet_pure _
  | cons proxy rest ih =>
      refine (Comp.quiet_modify (hP.queueUser proxy)).bind fun _ => ?_
      exact (Comp.quiet_modify (hP.sendUser proxy)).bind fun _ => ih

lemma registerSavedUserProxies_quiet : registerSavedUserProxies.Quiet P := by
  refine loadUserProxies_quiet.bind fun proxies => ?_
  refine (Comp.quiet_modify (hP.setSavedUserProxies proxies)).bind fun _ => ?_
  exact sendUserProxies_quiet hP proxies

lemma sendConfigs_quiet (configs : List ProxyConfig) : (sendConfigs configs).Quiet P := by
  induction configs with
  | nil => exact Comp.quiet_pure _
  | cons proxy rest ih => exact (Comp.quiet_modify (hP.sendConfig proxy)).bind fun _ => ih

lemma setStatus_quiet (status : ProxyStatus) :
    (Comp.modify (·.setStatus status) : Procedure Unit).Quiet P :=
  Comp.quiet_modify (hP.setStatus status)

lemma registerNextToSystem_quiet (validConfigs : List ProxyConfig) :
    (registerNextToSystem validConfigs).Quiet P := by
  refine Comp.Quiet.ite ?_ ?_
  · exact (waitForRegistrations_quiet 1).bind fun _ => enableSystemProxyOnly_quiet hP
  · refine (Comp.quiet_modify (hP.queueConfigs _)).bind fun _ => ?_
    refine (sendConfigs_quiet hP _).bind fun _ => (waitForRegistrations_quiet _).bind fun _ => ?_
    exact (Comp.quiet_wait _).bind fun _ => enableFirstAvailable_quiet hP

lemma registerWithSystem_quiet (systemProxy : SystemProxyConfig) (validConfigs : List ProxyConfig) :
    (registerWithSystem systemProxy validConfigs).Quiet P := by
  refine (Comp.quiet_modify (hP.sendSystem _ _)).bind fun _ => (setStatus_quiet hP _).bind fun _ => ?_
  refine (registerNextToSystem_quiet hP validConfigs).bind fun _ => ?_
  exact (startHealthChecksIfActive_quiet hP).bind fun _ => registerSavedUserProxies_quiet hP

lemma registerConfigs_quiet (validConfigs : List ProxyConfig) :
    (registerConfigs validConfigs).Quiet P := by
  refine Comp.Quiet.ite ?_ ?_
  · exact (setStatus_quiet hP _).bind fun _ => setLastErrorIfNone_quiet hP _
  · refine (setStatus_quiet hP _).bind fun _ => ?_
    refine (Comp.quiet_modify (hP.queueConfigs _)).bind fun _ => ?_
    refine (sendConfigs_quiet hP _).bind fun _ => (waitForRegistrations_quiet _).bind fun _ => ?_
    refine (enableFirstAvailable_quiet hP).bind fun _ => ?_
    exact (startHealthChecksIfActive_quiet hP).bind fun _ => registerSavedUserProxies_quiet hP

lemma registerProxies_quiet (detected : Option SystemProxyConfig) :
    (registerProxies detected).Quiet P := by
  refine (Comp.quiet_modify (hP.setSystemProxy detected)).bind fun _ => Comp.quiet_get.bind fun m => ?_
  refine Comp.Quiet.bind ?_ fun _ => ?_
  · exact Comp.Quiet.ite (Comp.quiet_pure _) (Comp.quiet_modify (hP.setLastError _))
  · split
    · exact registerWithSystem_quiet hP _ _
    · exact registerConfigs_quiet hP _

lemma setupProxies_quiet : setupProxies.Quiet P := by
  refine (Comp.quiet_wait _).bind fun answer => ?_
  split
  · refine (Comp.quiet_modify (hP.reset _)).bind fun _ => purgeStoredProxies_quiet.bind fun _ => ?_
    refine (Comp.quiet_wait _).bind fun answer => ?_
    split
    · exact registerProxies_quiet hP _
    · exact Comp.quiet_pure _
  · exact Comp.quiet_pure _

/-- **Whatever is started keeps a protocol that admits all changes.** -/
theorem procedure_releases (c : Command) : c.procedure.Releases P := by
  have hswitch : switchToNextProxy.Releases P := (switchToNextProxy_quiet hP).releases
  cases c with
  | setupProxies => exact (setupProxies_quiet hP).releases
  | addUserProxy config => exact (addUserProxy_quiet hP.toAdmits config).releases
  | setAutoFailoverEnabled enabled =>
      exact (setAutoFailoverEnabled_quiet hP.toAdmits enabled).releases
  | activateProxy proxyId => exact (activateProxy_quiet hP proxyId).releases
  | testProxy proxyId => exact (testProxy_quiet hP.toAdmits proxyId).releases
  | switchToNextProxy => exact hswitch
  | handleConnectionIssue => exact handleConnectionIssue_releases hswitch
  | healthCheck => exact healthCheck_releases hP.toAdmits hswitch
  | clock microseconds => exact (Comp.quiet_modify (hP.clock microseconds)).releases

end AdmitsAll

/-- An update keeps the protocol, if the reply to an `addProxy` request does. -/
lemma handleUpdate_keepsAt (hswitch : switchToNextProxy.Releases P) {update : Update} {v : View δ}
    (hv : v.Released) {m : Manager} (hm : P.Sees v m)
    (hadded : update.type = .addedProxy → P.Sees v ((m.registerAddedProxy update).settle update))
    (herror : update.type = .error → P.Sees v ((m.handleProxyError update).settle update)) :
    (handleUpdate update).KeepsAt P (fun _ => View.Released) v m := by
  simp only [handleUpdate]
  split
  · next htype => exact Comp.keepsAt_modify (View.Moves.refl v) (hadded htype) hv
  · next htype => exact Comp.keepsAt_modify (View.Moves.refl v) (herror htype) hv
  · exact handleConnectionState_releases hswitch update.state v hv m hm
  · exact Comp.keepsAt_pure hm hv

/-- **Invariants over runs**: what all changes preserve, and every reply, holds in every state that a
run of the program reaches. -/
theorem run_invariant {I : Manager → Prop}
    (hI : AdmitsAll (.invariant I : Protocol Manager Wait Answer Empty))
    {ok : Loop Manager Wait Answer → Event Answer Update Command → Prop}
    (hadded : ∀ l update call, ok l (.update update call) → I l.shared →
      update.type = .addedProxy → I ((l.shared.registerAddedProxy update).settle update))
    (herror : ∀ m update, I m → I ((m.handleProxyError update).settle update))
    {m : Manager} (hm : I m) {es : List (Event Answer Update Command)} {l : Loop Manager Wait Answer}
    (hrun : run (step program) { shared := m } es = .ok l)
    (hok : Meets (step program) ok { shared := m } es) : I l.shared := by
  have hkeeps : program.Keeps (.invariant I : Protocol Manager Wait Answer Empty) ok := by
    refine ⟨?_, ?_, fun _ _ _ _ _ _ _ => trivial⟩
    · intro l c _ v hv hsees
      exact procedure_releases hI c v hv _ hsees
    · intro l update call hcall v hv hsees
      cases v with
      | free =>
          exact handleUpdate_keepsAt (switchToNextProxy_quiet hI).releases hv hsees
            (hadded l update call hcall hsees) fun _ => herror l.shared update hsees
      | other d => exact d.elim
      | mine d => exact d.elim
  rcases (run_keeps hkeeps (Loop.keeps_idle hm) hok).result hrun with ⟨v, -, hseen⟩
  cases v with
  | free => exact hseen.sees
  | other d => exact d.elim
  | mine d => exact d.elim

/-! ## Runs of one user -/

/-- No proxies in the configuration. -/
def noConfig : AppConfig where
  phantomProxy := none
  stealthProxy := none

/-- A proxy of the user. -/
def work : UserProxyConfig where
  id := "10.0.0.1:1080:socks5"
  name := "Work"
  host := "10.0.0.1"
  port := 1080
  type := .socks5

/-- The user adds a proxy, which takes two waits, the first of them with the id. -/
def userAdds (proxy : UserProxyConfig) (first : ℕ) : List (Event Answer Update Command) :=
  [.start (.addUserProxy proxy), .answer first .done, .resume first,
    .answer (first + 1) (.userProxies [proxy]), .resume (first + 1)]

end RioGram.Proxies
