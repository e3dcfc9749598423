import Mathlib.Data.List.Rotate
import RioGram.Proxies.Specifications

/-!
# Runs of the failover

The failover holds its flag from its start to its end, while it waits for pings and for an activation; the
timer, the state of the connection and the user may start another one in between.  `failoverProtocol` is
that discipline: while the flag is set, nobody else changes which entry is active.

`Failover.Sound` is what one run has to do, and `run_failover` that all of them do it, in whatever order
replies, ticks and updates come, as long as an `enableProxy` request that fails does not find an entry
active: when it does, the run ends with the status `error` although the old proxy is still in use
(`enable_failed`).
-/

namespace RioGram.Proxies

open Async Transition

/-! ## What one run has to do -/

namespace Failover

/-- The candidates that are not active, from the one after the active one on. -/
def order (candidates : List ProxyEntry) : List ℤ :=
  ((candidates.rotate (startIndex candidates)).filter (!·.isActive)).map (·.id)

/-- Candidates are pinged in their order, each once, until one answers; it is enabled, and becomes active
if that is confirmed; else the active entry is left alone, and the status says whether there is one. -/
structure Sound (r : Failover) : Prop where
  candidates : ∀ id, id ∈ r.activeBefore ↔ ∃ proxy ∈ r.candidates, proxy.isActive ∧ proxy.id = id
  pinged : r.pings.map (·.1) <+: order r.candidates
  failed : ∀ ping ∈ r.pings.dropLast, ping.2 = false
  enabled : ∀ id confirmed, r.enabled = some (id, confirmed) → r.pings.getLast? = some (id, true)
  active : r.activeAfter = r.activeBefore ∨
    ∃ id, r.enabled = some (id, true) ∧ r.activeAfter ≠ [] ∧ ∀ i ∈ r.activeAfter, i = id
  ended : r.status ≠ .switching
  status : r.activeAfter ≠ [] → r.status = .active

end Failover

/-- The failovers are sound, and nothing else has changed which entries are active. -/
inductive Chronicle (start : List ℤ) : List Failover → List ℤ → Prop where
  | start : Chronicle start [] start
  | failover {rs : List Failover} {r : Failover} (h : Chronicle start rs r.activeBefore)
      (hr : r.Sound) : Chronicle start (rs ++ [r]) r.activeAfter

/-- One failover at most runs, and those that have ended are sound. -/
structure FailoversOk (start : List ℤ) (m : Manager) : Prop where
  one : m.failoversRunning ≤ 1
  chronicle : Chronicle start m.failovers m.activeIds

lemma Chronicle.sound {start active : List ℤ} {rs : List Failover} (h : Chronicle start rs active) :
    ∀ r ∈ rs, r.Sound := by
  induction h with
  | start => simp
  | failover h hr ih =>
      intro r hmem
      rcases List.mem_append.mp hmem with hmem | hmem
      · exact ih r hmem
      · rw [List.mem_singleton.mp hmem]
        exact hr

/-! ## The protocol -/

/-- What a failover that runs knows: which entries are active, and that its candidates are registered. -/
structure Underway where
  active : List ℤ
  candidates : List ℤ

/-- The reply confirms that the proxy has been enabled. -/
def Answer.confirms (a : Answer) : Bool :=
  a.response.any (·.type ≠ .error)

/-- The flag is the lock.  While it is set, the active entries are those that its holder knows. -/
def failoverProtocol (start : List ℤ) : Protocol Manager Wait Answer Underway where
  free m := m.failoverRunning = false ∧ m.failoversRunning = 0 ∧
    Chronicle start m.failovers m.activeIds
  held d m := m.failoverRunning = true ∧ m.failoversRunning = 1 ∧
    Chronicle start m.failovers m.activeIds ∧ m.activeIds = d.active ∧ d.candidates ⊆ m.ids
  answers w a m := ∀ id, w = .call (.enableProxy id) → a.confirms ∨ m.activeIds = []

section

variable {start : List ℤ} {m m' : Manager} {v : View Underway}

/-- What the protocol says of the manager depends on these of its fields only. -/
lemma sees_mono (h : (failoverProtocol start).Sees v m)
    (hrunning : m'.failoverRunning = m.failoverRunning)
    (hcount : m'.failoversRunning = m.failoversRunning) (hfailovers : m'.failovers = m.failovers)
    (hactive : m'.activeIds = m.activeIds) (hids : m.ids ⊆ m'.ids) :
    (failoverProtocol start).Sees v m' := by
  cases v with
  | free => simpa only [Protocol.Sees, failoverProtocol, hrunning, hcount, hfailovers, hactive] using h
  | other d =>
      rcases h with ⟨h₁, h₂, h₃, h₄, hcandidates⟩
      exact ⟨hrunning.trans h₁, hcount.trans h₂, by rw [hfailovers, hactive]; exact h₃,
        hactive.trans h₄, List.Subset.trans hcandidates hids⟩
  | mine d =>
      rcases h with ⟨h₁, h₂, h₃, h₄, hcandidates⟩
      exact ⟨hrunning.trans h₁, hcount.trans h₂, by rw [hfailovers, hactive]; exact h₃,
        hactive.trans h₄, List.Subset.trans hcandidates hids⟩

lemma failover_admitted : Admits (failoverProtocol start) where
  setProxyHealth id health v m h := sees_mono h rfl rfl rfl (by simp) (by simp)
  setStatus status v m h := sees_mono h rfl rfl rfl rfl (List.Subset.refl _)
  setLastError error v m h := sees_mono h rfl rfl rfl rfl (List.Subset.refl _)
  setAutoFailoverEnabled enabled v m h := sees_mono h rfl rfl rfl rfl (List.Subset.refl _)
  setSavedUserProxies proxies v m h := sees_mono h rfl rfl rfl rfl (List.Subset.refl _)
  clock microseconds v m h := sees_mono h rfl rfl rfl rfl (List.Subset.refl _)
  queueUser proxy v m h := sees_mono h rfl rfl rfl rfl (List.Subset.refl _)
  sendUser proxy v m h := sees_mono h rfl rfl rfl rfl (List.Subset.refl _)

/-- A new entry is not active. -/
lemma sees_registerAddedProxy (h : (failoverProtocol start).Sees v m) (update : Update) :
    (failoverProtocol start).Sees v ((m.registerAddedProxy update).settle update) := by
  rcases m.registerAddedProxy_cases update with heq | ⟨id, origin, m', -, horigin, heq⟩
  · rw [heq]
    exact sees_mono h rfl rfl rfl rfl (List.Subset.refl _)
  · have hframe := Manager.takeOrigin_frame horigin
    have hproxies : m'.proxies = m.proxies := by rw [hframe]
    rw [heq]
    refine sees_mono h ?_ ?_ ?_ ?_ ?_
    · rw [hframe]
      rfl
    · rw [hframe]
      rfl
    · rw [hframe]
      rfl
    · simp [Manager.activeIds, Manager.settle, Manager.addEntry, hproxies]
    · simp [Manager.ids, Manager.settle, Manager.addEntry, hproxies]

lemma sees_handleProxyError (h : (failoverProtocol start).Sees v m) (update : Update) :
    (failoverProtocol start).Sees v ((m.handleProxyError update).settle update) := by
  rw [Manager.handleProxyError_frame]
  exact sees_mono h rfl rfl rfl rfl (List.Subset.refl _)

end

/-! ## The candidates in their order -/

/-- The candidates at the offsets. -/
def visited (candidates : List ProxyEntry) (start : ℕ) (offsets : List ℕ) : List ProxyEntry :=
  offsets.filterMap fun offset => candidates[(start + offset) % candidates.length]?

/-- All offsets are one turn around. -/
lemma visited_range (candidates : List ProxyEntry) (start : ℕ) :
    visited candidates start (List.range candidates.length) = candidates.rotate start := by
  have hmap : (List.range candidates.length).map
      (fun offset => candidates[(start + offset) % candidates.length]?) =
      (candidates.rotate start).map some := by
    refine List.ext_getElem (by simp) fun k hk hk' => ?_
    have hlt : k < candidates.length := by simpa using hk
    rw [List.getElem_map, List.getElem_range, List.getElem_map, ← List.getElem?_eq_getElem,
      List.getElem?_rotate hlt, Nat.add_comm]
  calc visited candidates start (List.range candidates.length)
      = ((List.range candidates.length).map
          (fun offset => candidates[(start + offset) % candidates.length]?)).filterMap id := by
        rw [List.filterMap_map]
        rfl
    _ = candidates.rotate start := by
        rw [hmap, List.filterMap_map]
        exact List.filterMap_some

/-- The ids that are still to be pinged at the offsets. -/
def remaining (candidates : List ProxyEntry) (start : ℕ) (offsets : List ℕ) : List ℤ :=
  ((visited candidates start offsets).filter (!·.isActive)).map (·.id)

lemma remaining_range (candidates : List ProxyEntry) :
    remaining candidates (startIndex candidates) (List.range candidates.length) =
      Failover.order candidates := by
  rw [remaining, visited_range]
  rfl

/-! ## The run -/

section

variable {start : List ℤ} {m m' : Manager} {d : Underway} {candidates : List ProxyEntry}
  {pings : List (ℤ × Bool)}

lemma activeProxy_eq_none : m.activeProxy = none ↔ m.activeIds = [] := by
  simp [Manager.activeProxy, Manager.activeIds, List.find?_eq_none, List.filterMap_eq_nil_iff]

lemma mem_failoverCandidates {proxy : ProxyEntry} :
    proxy ∈ m.failoverCandidates ↔ proxy ∈ m.proxies := by
  cases hsystem : proxy.isSystemLike <;> simp [Manager.failoverCandidates, hsystem]

lemma mem_activeIds (id : ℤ) :
    id ∈ m.activeIds ↔ ∃ proxy ∈ m.failoverCandidates, proxy.isActive ∧ proxy.id = id := by
  simp [Manager.activeIds, mem_failoverCandidates]

/-- The flag is given back with a sound record. -/
lemma free_endFailover (h : (failoverProtocol start).held d m) (m' : Manager)
    (hcount : m'.failoversRunning = m.failoversRunning) (hfailovers : m'.failovers = m.failovers)
    {enabled : Option (ℤ × Bool)}
    (hsound : Failover.Sound ⟨candidates, pings, enabled, d.active, m'.activeIds, m'.status⟩) :
    (failoverProtocol start).free (m'.endFailover candidates d.active pings enabled) := by
  rcases h with ⟨-, hone, hchronicle, hactive, -⟩
  refine ⟨rfl, by simp [Manager.endFailover, hcount, hone], ?_⟩
  rw [hactive, ← hfailovers] at hchronicle
  exact Chronicle.failover (r := ⟨candidates, pings, enabled, d.active, m'.activeIds, m'.status⟩)
    hchronicle hsound

/-- Nothing has answered. -/
lemma free_keepActive (h : (failoverProtocol start).held d m)
    (hcandidates : ∀ id, id ∈ d.active ↔ ∃ proxy ∈ candidates, proxy.isActive ∧ proxy.id = id)
    (hpings : pings.map (·.1) = Failover.order candidates) (hfailed : ∀ ping ∈ pings, ping.2 = false) :
    (failoverProtocol start).free (m.keepActive.endFailover candidates d.active pings none) := by
  have hactive : m.keepActive.activeIds = m.activeIds := by
    rcases m.keepActive_eq with ⟨status, error, heq⟩
    rw [heq]
    rfl
  have hstatus : m.keepActive.status = if m.activeIds = [] then .error else .active := by
    cases hproxy : m.activeProxy with
    | none => simp [Manager.keepActive, hproxy, activeProxy_eq_none.mp hproxy]
    | some proxy =>
        have hne : m.activeIds ≠ [] := fun hnil => by simp [activeProxy_eq_none.mpr hnil] at hproxy
        simp [Manager.keepActive, hproxy, hne]
  refine free_endFailover h _ ?_ ?_ ⟨hcandidates, ?_, ?_, (by simp), ?_, ?_, ?_⟩
  · rcases m.keepActive_eq with ⟨status, error, heq⟩
    rw [heq]
    rfl
  · rcases m.keepActive_eq with ⟨status, error, heq⟩
    rw [heq]
    rfl
  · exact hpings ▸ List.prefix_rfl
  · exact fun ping hping => hfailed ping (List.mem_of_mem_dropLast hping)
  · exact .inl (hactive.trans h.2.2.2.1)
  · rw [hstatus]
    split <;> simp
  · intro hne
    rw [hactive] at hne
    rw [hstatus, if_neg hne]

/-- A candidate has answered, and has been enabled. -/
lemma free_enabled (h : (failoverProtocol start).held d m) {id : ℤ} {rest : List ℤ}
    (hcandidates : ∀ id, id ∈ d.active ↔ ∃ proxy ∈ candidates, proxy.isActive ∧ proxy.id = id)
    (hregistered : id ∈ d.candidates) (hpings : pings.map (·.1) ++ id :: rest = Failover.order candidates)
    (hfailed : ∀ ping ∈ pings, ping.2 = false) :
    (failoverProtocol start).free
      (((((m.setActiveProxy id).setProxyHealth id .ok).setStatus .active).setLastError none).endFailover
        candidates d.active (pings ++ [(id, true)]) (some (id, true))) := by
  generalize hm' : (((m.setActiveProxy id).setProxyHealth id .ok).setStatus .active).setLastError
    none = m'
  have hactive : m'.activeIds = m.ids.filter (· == id) := by
    rw [← hm']
    exact (Manager.activeIds_setProxyHealth _ _ _).trans (Manager.activeIds_setActiveProxy _ _)
  have hstatus : m'.status = .active := by rw [← hm']; rfl
  refine free_endFailover h m' (by rw [← hm']; rfl) (by rw [← hm']; rfl)
    ⟨hcandidates, ?_, ?_, ?_, .inr ⟨id, rfl, ?_, ?_⟩, by simp [hstatus], fun _ => hstatus⟩
  · exact ⟨rest, by simpa using hpings⟩
  · simpa using hfailed
  · rintro i confirmed ⟨⟩
    simp
  · have hmem : id ∈ m.ids := h.2.2.2.2 hregistered
    rw [hactive]
    exact List.ne_nil_of_mem (List.mem_filter.mpr ⟨hmem, by simp⟩)
  · rw [hactive]
    intro i hi
    simpa using (List.mem_filter.mp hi).2

/-- A candidate has answered and has not been enabled, and none was active. -/
lemma free_notEnabled (h : (failoverProtocol start).held d m) {id : ℤ} {rest : List ℤ}
    (hcandidates : ∀ id, id ∈ d.active ↔ ∃ proxy ∈ candidates, proxy.isActive ∧ proxy.id = id)
    (hnone : m.activeIds = []) (hpings : pings.map (·.1) ++ id :: rest = Failover.order candidates)
    (hfailed : ∀ ping ∈ pings, ping.2 = false) (error : Option String) :
    (failoverProtocol start).free (((m.setStatus .error).setLastError error).endFailover
      candidates d.active (pings ++ [(id, true)]) (some (id, false))) := by
  refine free_endFailover h ((m.setStatus .error).setLastError error) rfl rfl
    ⟨hcandidates, ?_, ?_, ?_, .inl h.2.2.2.1, by simp [Manager.setStatus, Manager.setLastError],
      fun hne => absurd hnone hne⟩
  · exact ⟨rest, by simpa using hpings⟩
  · simpa using hfailed
  · rintro i confirmed ⟨⟩
    simp

/-- What is done about the reply. -/
lemma enableReplied_cases (id : ℤ) (a : Answer) (m : Manager) :
    (a.confirms ∧ enableReplied id a.response m =
      ((((m.setActiveProxy id).setProxyHealth id .ok).setStatus .active).setLastError none, .done true)) ∨
    (¬ a.confirms ∧ ∃ error, enableReplied id a.response m =
      ((m.setStatus .error).setLastError error, .done false)) := by
  cases hresponse : a.response with
  | none => exact .inr ⟨by simp [Answer.confirms, hresponse], _, rfl⟩
  | some response =>
      by_cases htype : response.type = .error
      · refine .inr ⟨by simp [Answer.confirms, hresponse, htype], ?_⟩
        simp only [enableReplied, if_pos htype]
        exact ⟨_, rfl⟩
      · refine .inl ⟨by simp [Answer.confirms, hresponse, htype], ?_⟩
        simp only [enableReplied, if_neg htype]
        rfl

/-- A candidate that has answered is enabled, and the failover ends. -/
lemma enableProxy_end_keeps {id : ℤ} {rest : List ℤ}
    (hcandidates : ∀ id, id ∈ d.active ↔ ∃ proxy ∈ candidates, proxy.isActive ∧ proxy.id = id)
    (hregistered : id ∈ d.candidates) (hpings : pings.map (·.1) ++ id :: rest = Failover.order candidates)
    (hfailed : ∀ ping ∈ pings, ping.2 = false) :
    (enableProxy id >>= fun confirmed => Comp.modify (·.endFailover candidates d.active
      (pings ++ [(id, true)]) (some (id, confirmed)))).Keeps (failoverProtocol start)
      (fun _ => View.Released) (.mine d) := by
  have hends : (View.mine d).Moves .free := trivial
  simp only [enableProxy, waitFor, bind_assoc, pure_bind]
  refine Comp.keeps_wait_bind fun v₁ hwait a m hanswer hsees => ?_
  cases v₁ with
  | free => exact hwait.elim
  | other d' => exact hwait.elim
  | mine d' =>
      cases hwait
      rcases enableReplied_cases id a m with ⟨-, heq⟩ | ⟨hnot, error, heq⟩
      · refine Comp.keepsAt_done_bind heq (Comp.keepsAt_modify hends ?_ trivial)
        exact free_enabled hsees hcandidates hregistered hpings hfailed
      · have hnone : m.activeIds = [] := (hanswer id rfl).resolve_left hnot
        refine Comp.keepsAt_done_bind heq (Comp.keepsAt_modify hends ?_ trivial)
        exact free_notEnabled hsees hcandidates hnone hpings hfailed error

/-- The candidates at the offsets are tried, and the failover ends. -/
lemma tryCandidates_end_keeps {offsets : List ℕ} (first : ℕ)
    (hcandidates : ∀ id, id ∈ d.active ↔ ∃ proxy ∈ candidates, proxy.isActive ∧ proxy.id = id)
    (hregistered : ∀ proxy ∈ candidates, proxy.id ∈ d.candidates)
    (hpings : pings.map (·.1) ++ remaining candidates first offsets = Failover.order candidates)
    (hfailed : ∀ ping ∈ pings, ping.2 = false) :
    (tryCandidates candidates first offsets pings >>= fun result => Comp.modify
      (·.endFailover candidates d.active result.1 result.2)).Keeps (failoverProtocol start)
      (fun _ => View.Released) (.mine d) := by
  induction offsets generalizing pings with
  | nil =>
      intro m hheld
      have hdone : (View.mine d).Moves .free := trivial
      have hall : pings.map (·.1) = Failover.order candidates := by
        simpa [remaining, visited] using hpings
      have hrun : tryCandidates candidates first [] pings m = (m.keepActive, .done (pings, none)) := rfl
      refine Comp.keepsAt_done_bind hrun (Comp.keepsAt_modify hdone ?_ trivial)
      exact free_keepActive hheld hcandidates hall hfailed
  | cons offset offsets ih =>
      simp only [tryCandidates]
      split
      · next hnone => exact ih (by simpa [remaining, visited, hnone] using hpings) hfailed
      · next proxy hproxy =>
          have hmem : proxy ∈ candidates := List.mem_of_getElem? hproxy
          by_cases hactive : proxy.isActive
          · rw [if_pos hactive]
            exact ih (by simpa [remaining, visited, hproxy, hactive] using hpings) hfailed
          · have hnext : pings.map (·.1) ++ proxy.id :: remaining candidates first offsets =
                Failover.order candidates := by
              simpa [remaining, visited, hproxy, hactive] using hpings
            rw [if_neg hactive, bind_assoc]
            refine (pingProxy_quiet failover_admitted proxy.id 2 (.mine d)).bind fun ping v hwait => ?_
            cases v with
            | free => exact hwait.elim
            | other d' => exact hwait.elim
            | mine d' =>
                cases hwait
                by_cases hok : ping.ok
                · simp only [if_pos hok, bind_assoc, pure_bind]
                  exact enableProxy_end_keeps hcandidates (hregistered proxy hmem) hnext hfailed
                · simp only [if_neg hok, bind_assoc]
                  intro m hheld
                  refine Comp.keepsAt_modify_bind (View.Moves.refl _) (ih ?_ ?_ _ ?_)
                  · simpa using hnext
                  · simpa [or_imp, forall_and] using hfailed
                  · exact failover_admitted.setProxyHealth proxy.id .failed (.mine d) m hheld

/-- **A failover that is started takes the flag if it is free, and gives it back with a sound record.** -/
theorem switchToNextProxy_releases : switchToNextProxy.Releases (failoverProtocol start) := by
  intro v hv m hsees
  refine Comp.keepsAt_get_bind ?_
  dsimp only
  split
  · exact Comp.keepsAt_pure hsees hv
  · next hcondition =>
      cases v with
      | mine d => exact hv.elim
      | other d =>
          have hrunning : m.failoverRunning = true := hsees.1
          simp [hrunning] at hcondition
      | free =>
          have htakes : View.free.Moves (.mine ⟨m.activeIds, m.ids⟩ : View Underway) := trivial
          refine Comp.keepsAt_modify_bind htakes ?_
          refine tryCandidates_end_keeps (d := ⟨m.activeIds, m.ids⟩) _ ?_ ?_ ?_ (by simp) _ ?_
          · exact mem_activeIds
          · intro proxy hproxy
            exact List.mem_map_of_mem (mem_failoverCandidates.mp hproxy)
          · simpa using remaining_range m.failoverCandidates
          · exact ⟨rfl, congrArg (· + 1) hsees.2.1, hsees.2.2, rfl, List.Subset.refl _⟩

end

/-- No setup and no activation by hand is started, and a request to enable a proxy fails only when no entry
is active. -/
def FailsWithoutActive (l : Loop Manager Wait Answer) (e : Event Answer Update Command) : Prop :=
  (∀ c, e = .start c → c ≠ .setupProxies ∧ ∀ id, c ≠ .activateProxy id) ∧
  ∀ n, e = .resume n → ∀ q ∈ l.waiters, q.id = n → ∀ id, q.wait = .call (.enableProxy id) →
    ∀ a call, q.answer = some (a, call) → a.confirms ∨ l.shared.activeIds = []

/-- Whatever else is started leaves the failover alone, or starts one. -/
lemma procedure_keeps_failover {start : List ℤ} {c : Command} (hsetup : c ≠ .setupProxies)
    (hactivate : ∀ id, c ≠ .activateProxy id) : c.procedure.Releases (failoverProtocol start) := by
  cases c with
  | setupProxies => exact absurd rfl hsetup
  | activateProxy proxyId => exact absurd rfl (hactivate proxyId)
  | addUserProxy config => exact (addUserProxy_quiet failover_admitted config).releases
  | setAutoFailoverEnabled enabled =>
      exact (setAutoFailoverEnabled_quiet failover_admitted enabled).releases
  | testProxy proxyId => exact (testProxy_quiet failover_admitted proxyId).releases
  | switchToNextProxy => exact switchToNextProxy_releases
  | handleConnectionIssue => exact handleConnectionIssue_releases switchToNextProxy_releases
  | healthCheck => exact healthCheck_releases failover_admitted switchToNextProxy_releases
  | clock microseconds => exact (Comp.quiet_modify (failover_admitted.clock microseconds)).releases

lemma program_keeps_failover (start : List ℤ) :
    program.Keeps (failoverProtocol start) FailsWithoutActive where
  start _ c hc v hv hsees :=
    procedure_keeps_failover (hc.1 c rfl).1 (hc.1 c rfl).2 v hv _ hsees
  update _ update _ _ _ hv hsees :=
    handleUpdate_keepsAt switchToNextProxy_releases hv hsees
      (fun _ => sees_registerAddedProxy hsees update) fun _ => sees_handleProxyError hsees update
  answers _ q hq hresume a call hanswer id hwait := hresume.2 q.id rfl q hq rfl id hwait a call hanswer

/-- **Failovers are sound** in every run in which an `enableProxy` request fails only while no entry is
active: one runs at a time, and each does what it has to, whatever comes in between. -/
theorem run_failover {m : Manager} (hidle : m.failoverRunning = false)
    (hnone : m.failoversRunning = 0 ∧ m.failovers = []) {es : List (Event Answer Update Command)}
    {l : Loop Manager Wait Answer} (hrun : run (step program) { shared := m } es = .ok l)
    (hok : Meets (step program) FailsWithoutActive { shared := m } es) :
    FailoversOk m.activeIds l.shared := by
  have hfree : (failoverProtocol m.activeIds).free m :=
    ⟨hidle, hnone.1, by rw [hnone.2]; exact .start⟩
  rcases (run_keeps (program_keeps_failover m.activeIds) (Loop.keeps_idle hfree) hok).result hrun with
    ⟨v, hv, hseen⟩
  cases v with
  | free => exact ⟨by simp [hseen.sees.2.1], hseen.sees.2.2⟩
  | other d => exact ⟨hseen.sees.2.1.le, hseen.sees.2.2.1⟩
  | mine d => exact hv.elim

/-! ## A failover that fails at the end -/

/-- A manager with two proxies, of which the first is active. -/
def twoProxies : Manager where
  config := noConfig
  proxies := [{ id := 1, name := "PhantomProxy", host := "10.0.0.1", port := 443, isActive := true },
    { id := 2, name := "StealthGate", host := "10.0.0.2", port := 443 }]
  proxyPayloadsById := fun _ => some { server := "10.0.0.2", port := 443, type := .mtproto "" }
  status := .active

/-- The second proxy answers, and the request to enable it has a reply of the type. -/
def switched (type : UpdateType) : List (Event Answer Update Command) :=
  [.start .switchToNextProxy, .update { type := .seconds, extra := some (.ping 2) } (some 0), .resume 0,
    .update { type, extra := some (.enableProxy 2) } (some 1), .resume 1]

/-- All answers to activations confirm them. -/
def allConfirmed (l : Loop Manager Wait Answer) (e : Event Answer Update Command) : Bool :=
  match e with
  | .start c => match c with
    | .switchToNextProxy => true
    | _ => false
  | _ => l.waiters.all fun q => match q.wait, q.answer with
    | .call (.enableProxy _), some (a, _) => a.confirms
    | _, _ => true

lemma failsWithoutActive_of_allConfirmed (l : Loop Manager Wait Answer)
    (e : Event Answer Update Command) (h : allConfirmed l e) : FailsWithoutActive l e := by
  refine ⟨?_, ?_⟩
  · rintro c rfl
    cases c with
    | switchToNextProxy => exact ⟨nofun, nofun⟩
    | _ => simp [allConfirmed] at h
  · rintro n rfl q hq - id hwait a call hanswer
    have hq := List.all_eq_true.mp h q hq
    rw [hwait, hanswer] at hq
    exact .inl hq

/-- The second proxy becomes active. -/
theorem run_failover_switched : ∃ l, run (step program) { shared := twoProxies } (switched .ok) = .ok l ∧
    l.shared.activeIds = [2] ∧ FailoversOk [1] l.shared := by
  have hread : (run (step program) { shared := twoProxies } (switched .ok)).toOption.map
      (·.shared.activeIds) = some [2] := by
    decide +kernel
  have hok : Meets (step program) FailsWithoutActive { shared := twoProxies } (switched .ok) :=
    meets_of_checks failsWithoutActive_of_allConfirmed (by decide +kernel)
  rcases exists_of_read hread with ⟨l, hrun, hactive⟩
  exact ⟨l, hrun, hactive, run_failover rfl ⟨rfl, rfl⟩ hrun hok⟩

/-- The second proxy answers its ping and cannot be enabled: the first one is still active, and the
failover ends with the status `error`. -/
theorem enable_failed : ∃ l, run (step program) { shared := twoProxies } (switched .error) = .ok l ∧
    l.shared.activeIds = [1] ∧ l.shared.status = .error ∧ ¬ FailoversOk [1] l.shared := by
  have hread : (run (step program) { shared := twoProxies } (switched .error)).toOption.map
      (fun l => (l.shared.activeIds, l.shared.status,
        l.shared.failovers.map fun r => (r.activeAfter, r.status))) =
      some ([1], .error, [([1], .error)]) := by
    decide +kernel
  rcases exists_of_read hread with ⟨l, hrun, hl⟩
  simp only [Prod.mk.injEq] at hl
  rcases hl with ⟨hactive, hstatus, hrecords⟩
  refine ⟨l, hrun, hactive, hstatus, fun h => ?_⟩
  have hmem : ([1], ProxyStatus.error) ∈ l.shared.failovers.map fun r => (r.activeAfter, r.status) := by
    simp [hrecords]
  rcases List.mem_map.mp hmem with ⟨r, hr, heq⟩
  simp only [Prod.mk.injEq] at heq
  have hended := (h.chronicle.sound r hr).status (by simp [heq.1])
  rw [heq.2] at hended
  cases hended

end RioGram.Proxies
