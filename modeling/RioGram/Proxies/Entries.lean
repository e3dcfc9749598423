import Mathlib.Data.List.Nodup
import RioGram.Proxies.Specifications

/-!
# The registered entries

The ids of the entries are distinct, one entry at most is active, and there is a payload for the pings of
each (`EntriesOk`): all changes keep that but those of a reply to an `addProxy` request, which makes an
entry without a look at those there are.  So it holds in every run in which such replies bring new ids
(`run_entries`), and not when TDLib returns the id of a proxy that it has already (`registered_twice`).
-/

namespace RioGram.Proxies

open Async Transition

/-- What the functions that look entries up by their ids rely on. -/
structure EntriesOk (m : Manager) : Prop where
  ids : m.ids.Nodup
  active : m.activeIds.length ≤ 1
  payloads : ∀ id ∈ m.ids, (m.proxyPayloadsById id).isSome

/-- The reply is about a proxy of the system, or one that is pending under the name it bears. -/
def Manager.Expects (m : Manager) : Option Extra → Prop
  | some (.addProxy name) =>
      name = "System" ∨ name = "Transport" ∨ name ∈ m.pendingUserConfigs.map (·.name) ∨
        name ∈ m.pendingConfigs.map (·.name)
  | _ => m.pendingConfigs ≠ []

/-- What the proxy of the system is can be told: by what is known of it, or by the reply. -/
def Manager.KnowsSystem (m : Manager) (update : Update) : Prop :=
  update.extra = some (.addProxy "System") ∨ update.extra = some (.addProxy "Transport") →
    m.pendingSystemProxy.isSome ∨ m.systemProxy.isSome ∨
      (Manager.payloadFromRegisteredProxy update).isSome

/-- The replies that make entries bring ids that no entry has, and their proxies are known. -/
def RegistersNew (l : Loop Manager Wait Answer) (e : Event Answer Update Command) : Prop :=
  ∀ update call, e = .update update call → update.type = .addedProxy →
    l.shared.Expects update.extra → ∀ id, update.id = some id →
    id ∉ l.shared.ids ∧ l.shared.KnowsSystem update

section

variable {m m' : Manager} {update : Update} {origin : Manager.Origin}

lemma expects_of_takeOrigin {extra : Option Extra} (h : m.takeOrigin extra = some (origin, m')) :
    m.Expects extra := by
  simp only [Manager.takeOrigin] at h
  split at h
  · next name =>
      split at h
      · next hname => exact .inl hname
      · split at h
        · next hname => exact .inr (.inl hname)
        · split at h
          · next userConfig hfind =>
              refine .inr (.inr (.inl (List.mem_map.mpr
                ⟨userConfig, List.mem_of_find?_eq_some hfind, ?_⟩)))
              simpa using List.find?_some hfind
          · split at h
            · next config hfind =>
                refine .inr (.inr (.inr (List.mem_map.mpr
                  ⟨config, List.mem_of_find?_eq_some hfind, ?_⟩)))
                simpa using List.find?_some hfind
            · cases h
  · next hextra =>
      split at h
      · next heq =>
          simp only [Manager.Expects]
          simp [heq]
      · cases h

/-- A payload is kept for every entry that is made. -/
lemma payload_of_takeOrigin (h : m.takeOrigin update.extra = some (origin, m'))
    (hknows : m.KnowsSystem update) :
    (origin.payload <|> Manager.payloadFromRegisteredProxy update).isSome := by
  have hsystem : update.extra = some (.addProxy "System") ∨ update.extra = some (.addProxy "Transport") →
      (((m.pendingSystemProxy <|> m.systemProxy).map systemProxyPayload) <|>
        Manager.payloadFromRegisteredProxy update).isSome := by
    intro hextra
    rcases hknows hextra with hpending | hcurrent | hreply
    · cases hp : m.pendingSystemProxy <;> simp_all
    · cases hp : m.pendingSystemProxy <;> cases hs : m.systemProxy <;> simp_all
    · cases hp : m.pendingSystemProxy <;> cases hs : m.systemProxy <;> simp_all
  simp only [Manager.takeOrigin] at h
  split at h
  · next hextra =>
      split at h
      · next hname =>
          cases h
          exact hsystem (.inl (by rw [hextra, hname]))
      · split at h
        · next hname =>
            cases h
            exact hsystem (.inr (by rw [hextra, hname]))
        · split at h
          · cases h
            rfl
          · split at h
            · cases h
              rfl
            · cases h
  · split at h
    · cases h
      rfl
    · cases h

/-- An entry with a new id, and a payload for it. -/
lemma EntriesOk.addEntry (h : EntriesOk m) {id : ℤ} (hnew : id ∉ m.ids)
    (hpayload : (origin.payload <|> Manager.payloadFromRegisteredProxy update).isSome) :
    EntriesOk (m.addEntry id origin update) := by
  rcases Option.isSome_iff_exists.mp hpayload with ⟨payload, hpayload⟩
  refine ⟨?_, ?_, ?_⟩
  · simpa [Manager.ids, Manager.addEntry, List.nodup_append] using
      ⟨h.ids, fun proxy hproxy heq => hnew (List.mem_map.mpr ⟨proxy, hproxy, heq⟩)⟩
  · simpa [Manager.activeIds, Manager.addEntry] using h.active
  · intro i hi
    simp only [Manager.addEntry, hpayload]
    split
    · rfl
    · next hne =>
        refine h.payloads i ?_
        simpa [Manager.ids, Manager.addEntry, hne] using hi

lemma EntriesOk.registerAddedProxy (h : EntriesOk m)
    (hnew : m.Expects update.extra → ∀ id, update.id = some id → id ∉ m.ids ∧ m.KnowsSystem update) :
    EntriesOk (m.registerAddedProxy update) := by
  rcases m.registerAddedProxy_cases update with heq | ⟨id, origin, m', hid, horigin, heq⟩
  · rw [heq]
    exact h
  · rcases hnew (expects_of_takeOrigin horigin) id hid with ⟨hnew, hknows⟩
    rw [heq]
    refine EntriesOk.addEntry ?_ ?_ (payload_of_takeOrigin horigin hknows)
    · rw [Manager.takeOrigin_frame horigin]
      exact ⟨h.ids, h.active, h.payloads⟩
    · rw [Manager.takeOrigin_frame horigin]
      exact hnew

lemma EntriesOk.setActiveProxy (h : EntriesOk m) (proxyId : ℤ) : EntriesOk (m.setActiveProxy proxyId) := by
  refine ⟨by simpa using h.ids, ?_, by simpa using h.payloads⟩
  rw [Manager.activeIds_setActiveProxy, ← List.count_eq_length_filter]
  exact List.nodup_iff_count_le_one.mp h.ids proxyId

/-- All changes but those of replies keep the entries as they should be. -/
lemma entriesOk_admitted : AdmitsAll (Protocol.invariant EntriesOk : Protocol Manager Wait Answer Empty) where
  setProxyHealth id health := Protocol.sees_invariant fun m h =>
    ⟨by simpa using h.ids, by simpa using h.active, by simpa using h.payloads⟩
  setStatus status := Protocol.sees_invariant fun m h => ⟨h.ids, h.active, h.payloads⟩
  setLastError error := Protocol.sees_invariant fun m h => ⟨h.ids, h.active, h.payloads⟩
  setAutoFailoverEnabled enabled := Protocol.sees_invariant fun m h => ⟨h.ids, h.active, h.payloads⟩
  setSavedUserProxies proxies := Protocol.sees_invariant fun m h => ⟨h.ids, h.active, h.payloads⟩
  clock microseconds := Protocol.sees_invariant fun m h => ⟨h.ids, h.active, h.payloads⟩
  queueUser proxy := Protocol.sees_invariant fun m h => ⟨h.ids, h.active, h.payloads⟩
  sendUser proxy := Protocol.sees_invariant fun m h => ⟨h.ids, h.active, h.payloads⟩
  reset enabled := Protocol.sees_invariant fun m h => ⟨by simp [Manager.reset, Manager.ids],
    by simp [Manager.reset, Manager.activeIds], by simp [Manager.reset, Manager.ids]⟩
  setSystemProxy detected := Protocol.sees_invariant fun m h => ⟨h.ids, h.active, h.payloads⟩
  sendSystem proxy transport := Protocol.sees_invariant fun m h => ⟨h.ids, h.active, h.payloads⟩
  queueConfigs configs := Protocol.sees_invariant fun m h => ⟨h.ids, h.active, h.payloads⟩
  sendConfig proxy := Protocol.sees_invariant fun m h => ⟨h.ids, h.active, h.payloads⟩
  startHealthChecks := Protocol.sees_invariant fun m h => ⟨h.ids, h.active, h.payloads⟩
  setActiveProxy id := Protocol.sees_invariant fun m h => h.setActiveProxy id
  beginFailover := Protocol.sees_invariant fun m h => ⟨h.ids, h.active, h.payloads⟩
  endFailover _ _ _ _ := Protocol.sees_invariant fun m h => ⟨h.ids, h.active, h.payloads⟩

/-- **The entries are as the manager relies on them** in every state that a run reaches, if the replies
that make entries bring new ids and are about known proxies. -/
theorem run_entries {config : AppConfig} {es : List (Event Answer Update Command)}
    {l : Loop Manager Wait Answer} (hrun : run (step program) { shared := { config } } es = .ok l)
    (hok : Meets (step program) RegistersNew { shared := { config } } es) : EntriesOk l.shared := by
  have hstart : EntriesOk { config } := ⟨List.nodup_nil, Nat.zero_le 1, by simp [Manager.ids]⟩
  refine run_invariant entriesOk_admitted ?_ (fun m update h => ?_) hstart hrun hok
  · intro l update call hnew h htype
    have hadded := h.registerAddedProxy (hnew update call rfl htype)
    exact ⟨hadded.ids, hadded.active, hadded.payloads⟩
  · rw [Manager.handleProxyError_frame]
    exact ⟨h.ids, h.active, h.payloads⟩

end

/-! ## A proxy that is added twice -/

/-- The reply: the proxy has the id 2. -/
def workRegistered : Event Answer Update Command :=
  .update { type := .addedProxy, extra := some (.addProxy "Work"), id := some 2,
            request := some (.user work) } none

/-- The ids of the entries after the events. -/
def idsAfter (es : List (Event Answer Update Command)) : Option (List ℤ) :=
  (run (step program) { shared := { config := noConfig } } es).toOption.map (·.shared.ids)

lemma idsAfter_userAdds : idsAfter (userAdds work 0) = some [] := by
  decide

/-- The proxy is added once. -/
theorem run_entries_added : ∃ l, run (step program) { shared := { config := noConfig } }
    (userAdds work 0 ++ [workRegistered]) = .ok l ∧ l.shared.ids = [2] ∧ EntriesOk l.shared := by
  have hok : Meets (step program) RegistersNew { shared := { config := noConfig } }
      (userAdds work 0 ++ [workRegistered]) := by
    refine meets_append (meets_of_forall ?_ _) fun t ht => ⟨?_, fun _ _ => trivial⟩
    · intro e he l update call heq
      subst heq
      simp [userAdds] at he
    · rcases exists_of_read idsAfter_userAdds with ⟨t', ht', hids⟩
      rw [ht] at ht'
      rcases Except.ok.inj ht' with rfl
      rintro update call ⟨⟩ - - id -
      exact ⟨by simp [hids], by simp [Manager.KnowsSystem]⟩
  have hids : idsAfter (userAdds work 0 ++ [workRegistered]) = some [2] := by decide +kernel
  rcases exists_of_read hids with ⟨l, hrun, hids⟩
  exact ⟨l, hrun, hids, run_entries hrun hok⟩

/-- The proxy is added twice, and TDLib returns the id that it has for it. -/
theorem registered_twice : ∃ l, run (step program) { shared := { config := noConfig } }
    (userAdds work 0 ++ [workRegistered] ++ userAdds work 2 ++ [workRegistered]) = .ok l ∧ ¬ EntriesOk l.shared := by
  have hids : idsAfter (userAdds work 0 ++ [workRegistered] ++ userAdds work 2 ++ [workRegistered]) = some [2, 2] := by
    decide +kernel
  rcases exists_of_read hids with ⟨l, hrun, hids⟩
  refine ⟨l, hrun, fun h => ?_⟩
  have hnodup := h.ids
  rw [hids] at hnodup
  simp at hnodup

end RioGram.Proxies
