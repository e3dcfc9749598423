import RioGram.Core.Processes
import RioGram.Core.Reachable
import RioGram.Proxies.AddedProxy

/-!
# Proxies that the user adds

`ProxyPreferences` keeps the proxies of the user as one list.  `addUserProxy` loads the list, puts a proxy at its end
and stores it, and waits in between; what else `ProxyManager.addUserProxy` does is a procedure of the manager.  Calls
that overlap take turns in any order.

What is encoded is taken to be what is decoded.

* `loadUserProxies_saveUserProxies` — what is stored is loaded as it was.
* `survives_of_meets` — the runs after which all proxies are in the list.
-/

namespace RioGram.Proxies

open Interleaving Reaching

/-! ## The list -/

def UserProxyType.name : UserProxyType → String
  | socks5 => "socks5"
  | http => "http"

def UserProxyType.ofName : String → Option UserProxyType
  | "socks5" => some socks5
  | "http" => some http
  | _ => none

def UserProxyConfig.toJson (proxy : UserProxyConfig) : JsonObject :=
  [("id", .string proxy.id), ("name", .string proxy.name), ("host", .string proxy.host),
    ("port", .number proxy.port), ("type", .string proxy.type.name), ("username", .string proxy.username),
    ("password", .string proxy.password), ("httpOnly", .bool proxy.httpOnly)]

/-! A cast `as String?` and the like; there is no value where it fails. -/

def castString : Option Json → Option (Option String)
  | none => some none
  | some .null => some none
  | some (.string value) => some (some value)
  | _ => none

def castInt : Option Json → Option (Option ℤ)
  | none => some none
  | some .null => some none
  | some (.number value) => some (some value)
  | _ => none

def castBool : Option Json → Option (Option Bool)
  | none => some none
  | some .null => some none
  | some (.bool value) => some (some value)
  | _ => none

/-- A proxy without a type or a host is none; there is no value where a cast fails. -/
def UserProxyConfig.fromJson (json : JsonObject) : Option (Option UserProxyConfig) := do
  let typeName ← castString (json.lookup "type")
  match typeName.bind UserProxyType.ofName with
  | none => pure none
  | some type =>
      let host := (← castString (json.lookup "host")).getD ""
      if host = "" then pure none
      else
        let id := (← castString (json.lookup "id")).getD host
        let name := (← castString (json.lookup "name")).getD host
        let port := (← castInt (json.lookup "port")).getD 1080
        let username := (← castString (json.lookup "username")).getD ""
        let password := (← castString (json.lookup "password")).getD ""
        let httpOnly := (← castBool (json.lookup "httpOnly")).getD false
        pure (some { id, name, host, port, type, username, password, httpOnly })

/-- The proxies of a list; what is no object is left out. -/
def proxiesOf : List Json → Option (List UserProxyConfig)
  | [] => some []
  | .object fields :: rest => do
      let proxy ← UserProxyConfig.fromJson fields
      let proxies ← proxiesOf rest
      pure (proxy.toList ++ proxies)
  | _ :: rest => proxiesOf rest

/-- The stored list, if there is one. -/
abbrev StoredProxies := Option (List Json)

namespace ProxyPreferences

/-- A list of which a cast fails is as good as an empty one. -/
def loadUserProxies (stored : StoredProxies) : List UserProxyConfig := (stored.bind proxiesOf).getD []

def saveUserProxies (proxies : List UserProxyConfig) : StoredProxies :=
  some (proxies.map fun proxy => .object proxy.toJson)

/-- The list with the proxy at its end. -/
def updated (current : List UserProxyConfig) (proxy : UserProxyConfig) : List UserProxyConfig :=
  current.filter (·.id ≠ proxy.id) ++ [proxy]

lemma fromJson_toJson {proxy : UserProxyConfig} (h : proxy.host ≠ "") :
    UserProxyConfig.fromJson proxy.toJson = some (some proxy) := by
  have htype : UserProxyType.ofName proxy.type.name = some proxy.type := by
    cases proxy.type <;> rfl
  simp [UserProxyConfig.fromJson, UserProxyConfig.toJson, castString, castInt, castBool, htype, h, List.lookup_cons]

lemma fromJson_host {fields : JsonObject} {proxy : UserProxyConfig}
    (h : UserProxyConfig.fromJson fields = some (some proxy)) : proxy.host ≠ "" := by
  rcases Option.bind_eq_some_iff.mp h with ⟨typeName, -, h⟩
  split at h
  · exact nomatch Option.some_inj.mp h
  · rcases Option.bind_eq_some_iff.mp h with ⟨host, -, h⟩
    by_cases hhost : host.getD "" = ""
    · rw [if_pos hhost] at h
      exact nomatch Option.some_inj.mp h
    · rw [if_neg hhost] at h
      rcases Option.bind_eq_some_iff.mp h with ⟨id, -, h⟩
      rcases Option.bind_eq_some_iff.mp h with ⟨name, -, h⟩
      rcases Option.bind_eq_some_iff.mp h with ⟨port, -, h⟩
      rcases Option.bind_eq_some_iff.mp h with ⟨username, -, h⟩
      rcases Option.bind_eq_some_iff.mp h with ⟨password, -, h⟩
      rcases Option.bind_eq_some_iff.mp h with ⟨httpOnly, -, h⟩
      rw [← Option.some_inj.mp (Option.some_inj.mp h)]
      exact hhost

lemma proxiesOf_host {list : List Json} {proxies : List UserProxyConfig} (h : proxiesOf list = some proxies) :
    ∀ proxy ∈ proxies, proxy.host ≠ "" := by
  induction list generalizing proxies with
  | nil =>
      rw [← Option.some_inj.mp h]
      exact List.forall_mem_nil _
  | cons json rest ih =>
      cases json with
      | object fields =>
          rcases Option.bind_eq_some_iff.mp h with ⟨proxy, hproxy, h⟩
          rcases Option.bind_eq_some_iff.mp h with ⟨others, hothers, h⟩
          rw [← Option.some_inj.mp h, List.forall_mem_append]
          refine ⟨fun p hp => ?_, ih hothers⟩
          rw [Option.mem_toList.mp hp] at hproxy
          exact fromJson_host hproxy
      | _ => exact ih h

/-- A proxy that is loaded has a host. -/
lemma loadUserProxies_host {stored : StoredProxies} : ∀ proxy ∈ loadUserProxies stored, proxy.host ≠ "" := by
  rw [loadUserProxies]
  cases h : stored.bind proxiesOf with
  | none => exact List.forall_mem_nil _
  | some proxies =>
      rcases Option.bind_eq_some_iff.mp h with ⟨list, -, hlist⟩
      exact proxiesOf_host hlist

/-- **What is stored is loaded as it was**, field by field. -/
theorem loadUserProxies_saveUserProxies {proxies : List UserProxyConfig} (h : ∀ proxy ∈ proxies, proxy.host ≠ "") :
    loadUserProxies (saveUserProxies proxies) = proxies := by
  have hlist : proxiesOf (proxies.map fun proxy => .object proxy.toJson) = some proxies := by
    induction proxies with
    | nil => rfl
    | cons proxy rest ih =>
        rcases List.forall_mem_cons.mp h with ⟨hproxy, hrest⟩
        rw [List.map_cons, proxiesOf, fromJson_toJson hproxy, ih hrest]
        rfl
  rw [loadUserProxies, saveUserProxies, Option.bind_some, hlist, Option.getD_some]

/-! ### A proxy put into the list -/

lemma updated_host {current : List UserProxyConfig} {proxy : UserProxyConfig} (h : ∀ p ∈ current, p.host ≠ "")
    (hproxy : proxy.host ≠ "") : ∀ p ∈ updated current proxy, p.host ≠ "" := by
  rw [updated, List.forall_mem_append, List.forall_mem_singleton]
  exact ⟨fun p hp => h p (List.mem_filter.mp hp).1, hproxy⟩

/-- The proxies with an id, after one is put into the list. -/
lemma filter_updated (current : List UserProxyConfig) (proxy : UserProxyConfig) (id : String) :
    (updated current proxy).filter (·.id = id) =
      if proxy.id = id then [proxy] else current.filter (·.id = id) := by
  rw [updated, List.filter_append, List.filter_filter]
  split_ifs with hid
  · subst hid
    simp
  · have hsame : current.filter (fun p => decide (p.id = id) && decide (p.id ≠ proxy.id)) =
        current.filter (·.id = id) := by
      refine List.filter_congr fun p _ => ?_
      by_cases hp : p.id = id
      · simp [hp, Ne.symm hid]
      · simp [hp]
    rw [hsame, List.filter_cons_of_neg (by simpa using hid), List.filter_nil, List.append_nil]

end ProxyPreferences

/-! ## Calls that overlap -/

/-- Where a call waits: for the preferences, to load the list; for what it has loaded; for the preferences, to store
the list; for that to be written; and then to load the list again. -/
inductive AddStage where
  | opening
  | loaded (current : List UserProxyConfig)
  | saving (current : List UserProxyConfig)
  | writing
  | reopening
  | reloaded (proxies : List UserProxyConfig)
  | done
deriving DecidableEq

/-- Whether the call has stored the list. -/
def AddStage.hasStored : AddStage → Bool
  | .opening | .loaded _ | .saving _ => false
  | _ => true

/-- What a call has loaded that is about to store the list. -/
def AddStage.toStore : AddStage → Option (List UserProxyConfig)
  | .saving current => some current
  | _ => none

/-- A call of `addUserProxy`. -/
structure AddCall where
  proxy : UserProxyConfig
  stage : AddStage := .opening
deriving DecidableEq

structure UserProxyStore where
  stored : StoredProxies
  savedUserProxies : List UserProxyConfig := []

open ProxyPreferences

/-- A call goes on to where it waits next. -/
def AddCall.resume (s : UserProxyStore) (call : AddCall) (_ : Unit) : UserProxyStore × AddCall :=
  match call.stage with
  | .opening => (s, { call with stage := .loaded (ProxyPreferences.loadUserProxies s.stored) })
  | .loaded current => (s, { call with stage := .saving current })
  | .saving current =>
      ({ s with stored := ProxyPreferences.saveUserProxies (updated current call.proxy) },
        { call with stage := .writing })
  | .writing => (s, { call with stage := .reopening })
  | .reopening => (s, { call with stage := .reloaded (ProxyPreferences.loadUserProxies s.stored) })
  | .reloaded proxies => ({ s with savedUserProxies := proxies }, { call with stage := .done })
  | .done => (s, call)

abbrev AddRun := Pool UserProxyStore AddCall

abbrev AddMove := Move UserProxyConfig Unit

namespace AddRun

variable (r : AddRun)

def start (stored : StoredProxies) : AddRun := { shared := { stored } }

def step (r : AddRun) (move : AddMove) : AddRun := Pool.step (fun _ proxy => ⟨proxy, .opening⟩) AddCall.resume r move

def list : List UserProxyConfig := ProxyPreferences.loadUserProxies r.shared.stored

/-- The list has each proxy that was added exactly once, and the others that it has had. -/
structure Survives (before : List UserProxyConfig) : Prop where
  added : ∀ call ∈ r.processes, r.list.filter (·.id = call.proxy.id) = [call.proxy]
  kept : ∀ proxy ∈ before, (∀ call ∈ r.processes, call.proxy.id ≠ proxy.id) → proxy ∈ r.list

def Complete : Prop := ∀ call ∈ r.processes, call.stage = .done

/-- The proxies that are added have a host, and ids of their own. -/
def AddsApart : AddMove → Prop
  | .start proxy => proxy.host ≠ "" ∧ ∀ call ∈ r.processes, call.proxy.id ≠ proxy.id
  | .advance _ _ => True

/-- A call stores the list as it has loaded it, with its proxy: no other one has changed it since. -/
def SavesCurrent : AddMove → Prop
  | .start _ => True
  | .advance i _ => (r.processes[i]?.bind (·.stage.toStore)).all (· = r.list)

def Orderly (move : AddMove) : Prop := r.AddsApart move ∧ r.SavesCurrent move

instance (move : AddMove) : Decidable (r.AddsApart move) :=
  match move with
  | .start _ => inferInstanceAs (Decidable (_ ∧ _))
  | .advance _ _ => inferInstanceAs (Decidable True)

instance (move : AddMove) : Decidable (r.SavesCurrent move) :=
  match move with
  | .start _ => inferInstanceAs (Decidable True)
  | .advance _ _ => inferInstanceAs (Decidable (_ = true))

instance (move : AddMove) : Decidable (r.Orderly move) := inferInstanceAs (Decidable (_ ∧ _))

instance : Decidable r.Complete := inferInstanceAs (Decidable (∀ call ∈ r.processes, call.stage = .done))

/-! ### What a run keeps -/

structure Inv (r : AddRun) (before : List UserProxyConfig) : Prop where
  apart : (r.processes.map (·.proxy.id)).Nodup
  hosts : ∀ call ∈ r.processes, call.proxy.host ≠ ""
  added : ∀ call ∈ r.processes, call.stage.hasStored → r.list.filter (·.id = call.proxy.id) = [call.proxy]
  kept : ∀ proxy ∈ before, (∀ call ∈ r.processes, call.proxy.id ≠ proxy.id) → proxy ∈ r.list

variable {r} {before : List UserProxyConfig}

lemma Inv.start (h : r.Inv before) {proxy : UserProxyConfig} (hproxy : r.AddsApart (.start proxy)) :
    (r.step (.start proxy)).Inv before where
  apart := by
    change ((r.processes ++ [(⟨proxy, .opening⟩ : AddCall)]).map (·.proxy.id)).Nodup
    rw [List.map_append, List.map_singleton, List.nodup_append]
    refine ⟨h.apart, List.nodup_singleton _, fun id hid id' hid' => ?_⟩
    rcases List.mem_map.mp hid with ⟨call, hcall, rfl⟩
    rw [List.mem_singleton.mp hid']
    exact hproxy.2 call hcall
  hosts := List.forall_mem_append.mpr ⟨h.hosts, List.forall_mem_singleton.mpr hproxy.1⟩
  added := List.forall_mem_append.mpr ⟨h.added, List.forall_mem_singleton.mpr fun hstored => nomatch hstored⟩
  kept p hp hothers := h.kept p hp fun call hcall => hothers call (List.mem_append_left _ hcall)

lemma resume_proxy (s : UserProxyStore) (call : AddCall) : (call.resume s ()).2.proxy = call.proxy := by
  rcases call with ⟨proxy, stage⟩
  cases stage <;> rfl

/-- A turn in which nothing is stored changes neither the list nor who has stored. -/
lemma resume_of_not_saving (s : UserProxyStore) (call : AddCall) (h : ∀ current, call.stage ≠ .saving current) :
    (call.resume s ()).1.stored = s.stored ∧ (call.resume s ()).2.stage.hasStored = call.stage.hasStored := by
  rcases call with ⟨proxy, stage⟩
  cases stage with
  | saving current => exact absurd rfl (h current)
  | _ => exact ⟨rfl, rfl⟩

/-- The list after a call has stored what it has loaded, with its proxy. -/
lemma list_saved (h : r.Inv before) {call : AddCall} (hcall : call ∈ r.processes) (calls : List AddCall) :
    AddRun.list ⟨{ r.shared with stored := ProxyPreferences.saveUserProxies (updated r.list call.proxy) }, calls⟩ =
      updated r.list call.proxy :=
  loadUserProxies_saveUserProxies (updated_host loadUserProxies_host (h.hosts call hcall))

/-- A turn changes the proxy of no call. -/
lemma map_set_resume {calls : List AddCall} {i : ℕ} {call : AddCall} (hi : calls[i]? = some call)
    (s : UserProxyStore) : (calls.set i (call.resume s ()).2).map (·.proxy.id) = calls.map (·.proxy.id) := by
  rcases List.getElem?_eq_some_iff.mp hi with ⟨hlt, rfl⟩
  have hlt' : i < (calls.map (·.proxy.id)).length := by rwa [List.length_map]
  have hself : calls[i].proxy.id = (calls.map (·.proxy.id))[i] := by rw [List.getElem_map]
  rw [List.map_set, resume_proxy, hself, List.set_getElem_self]

/-- Where no call was for a proxy, none is after a turn. -/
lemma others_of_set {calls : List AddCall} {i : ℕ} {call : AddCall} (hi : calls[i]? = some call)
    {s : UserProxyStore} {id : String} (h : ∀ c ∈ calls.set i (call.resume s ()).2, c.proxy.id ≠ id) :
    ∀ c ∈ calls, c.proxy.id ≠ id := by
  intro c hc heq
  have hmem : id ∈ calls.map (·.proxy.id) := List.mem_map.mpr ⟨c, hc, heq⟩
  rw [← map_set_resume hi s] at hmem
  rcases List.mem_map.mp hmem with ⟨c', hc', heq'⟩
  exact h c' hc' heq'

lemma hosts_set (h : r.Inv before) (i : ℕ) {call : AddCall} (hmem : call ∈ r.processes) :
    ∀ c ∈ r.processes.set i (call.resume r.shared ()).2, c.proxy.host ≠ "" :=
  forall_mem_set h.hosts i (by rw [resume_proxy]; exact h.hosts call hmem)

/-- The turn in which a call stores the list. -/
lemma Inv.save (h : r.Inv before) {i : ℕ} {call : AddCall} (hi : r.processes[i]? = some call)
    (hsaving : call.stage = .saving r.list) :
    Inv ⟨(call.resume r.shared ()).1, r.processes.set i (call.resume r.shared ()).2⟩ before := by
  have hmem := List.mem_of_getElem? hi
  have hlist : AddRun.list ⟨(call.resume r.shared ()).1, r.processes.set i (call.resume r.shared ()).2⟩ =
      updated r.list call.proxy := by
    rw [← list_saved h hmem, AddCall.resume, hsaving]
  refine ⟨by rw [map_set_resume hi]; exact h.apart, hosts_set h i hmem, fun c hc hstored => ?_, fun p hp hothers => ?_⟩
  · rw [hlist, filter_updated]
    split_ifs with hid
    · rcases List.mem_or_eq_of_mem_set hc with hold | rfl
      · have hsame : c = call := List.inj_on_of_nodup_map h.apart hold hmem hid.symm
        rw [hsame, hsaving] at hstored
        exact nomatch hstored
      · rw [resume_proxy]
    · rcases List.mem_or_eq_of_mem_set hc with hold | rfl
      · exact h.added c hold hstored
      · rw [resume_proxy] at hid
        exact absurd rfl hid
  · have hold := others_of_set hi hothers
    rw [hlist, updated]
    exact List.mem_append_left _ (List.mem_filter.mpr ⟨h.kept p hp hold, decide_eq_true (hold call hmem).symm⟩)

/-- A turn in which nothing is stored. -/
lemma Inv.wait (h : r.Inv before) {i : ℕ} {call : AddCall} (hi : r.processes[i]? = some call)
    (hsaving : ∀ current, call.stage ≠ .saving current) :
    Inv ⟨(call.resume r.shared ()).1, r.processes.set i (call.resume r.shared ()).2⟩ before := by
  have hmem := List.mem_of_getElem? hi
  have hsame := resume_of_not_saving r.shared call hsaving
  have hlist : AddRun.list ⟨(call.resume r.shared ()).1, r.processes.set i (call.resume r.shared ()).2⟩ = r.list := by
    rw [list, list, hsame.1]
  refine ⟨by rw [map_set_resume hi]; exact h.apart, hosts_set h i hmem, ?_, fun p hp hothers => ?_⟩
  · rw [hlist]
    refine forall_mem_set h.added i fun hstored => ?_
    rw [resume_proxy]
    exact h.added call hmem (hsame.2 ▸ hstored)
  · rw [hlist]
    exact h.kept p hp (others_of_set hi hothers)

lemma Inv.advance (h : r.Inv before) {i : ℕ} (hcurrent : r.SavesCurrent (.advance i ())) :
    (r.step (.advance i ())).Inv before := by
  rw [step]
  cases hi : r.processes[i]? with
  | none =>
      rw [Pool.step_advance_of_none hi]
      exact h
  | some call =>
      rw [Pool.step_advance_of_some hi]
      by_cases hsaving : ∃ current, call.stage = .saving current
      · rcases hsaving with ⟨current, hstage⟩
        rw [SavesCurrent, hi, Option.bind_some, hstage] at hcurrent
        exact h.save hi (hstage.trans (congrArg AddStage.saving (of_decide_eq_true hcurrent)))
      · exact h.wait hi fun current hstage => hsaving ⟨current, hstage⟩

lemma inv_step (h : r.Inv before) (move : AddMove) (hmove : r.Orderly move) : (r.step move).Inv before := by
  cases move with
  | start proxy => exact h.start hmove.1
  | advance i _ => exact h.advance hmove.2

/-- **Proxies that are added survive**: when all calls are done, the list has what it has had and what was added, if
each call has stored the list where no other one had changed it since it was loaded. -/
theorem survives_of_meets (stored : StoredProxies) (moves : List AddMove)
    (hmoves : Meets step Orderly (start stored) moves) (hcomplete : Complete (moves.foldl step (start stored))) :
    Survives (moves.foldl step (start stored)) (ProxyPreferences.loadUserProxies stored) := by
  have hinv : Inv (moves.foldl step (start stored)) (ProxyPreferences.loadUserProxies stored) :=
    (hmoves.invariant (I := (Inv · (ProxyPreferences.loadUserProxies stored)))
      ⟨List.nodup_nil, List.forall_mem_nil _, List.forall_mem_nil _, fun _ hp _ => hp⟩
      (fun r move h hmove => inv_step h move hmove) (fun _ _ _ hmove => hmove)).2
  refine ⟨fun call hcall => hinv.added call hcall ?_, hinv.kept⟩
  rw [hcomplete call hcall]
  rfl

def firstProxy : UserProxyConfig := { id := "a", name := "First", host := "a.example", port := 1080, type := .socks5 }

def secondProxy : UserProxyConfig := { id := "b", name := "Second", host := "b.example", port := 3128, type := .http }

/-- A proxy is added while another one is still being written. -/
theorem survives_while_writing :
    let moves : List AddMove := [.start firstProxy, .advance 0 (), .advance 0 (), .advance 0 (), .start secondProxy,
      .advance 1 (), .advance 0 (), .advance 1 (), .advance 1 (), .advance 0 (), .advance 0 (), .advance 1 (),
      .advance 1 (), .advance 1 ()]
    (moves.foldl step (start none)).list = [firstProxy, secondProxy] ∧
      Survives (moves.foldl step (start none)) (ProxyPreferences.loadUserProxies none) := by
  exact ⟨by decide +kernel, survives_of_meets none _ (by decide +kernel) (by decide +kernel)⟩

/-- Two proxies are added at the same time, and one of them is lost. -/
theorem added_proxy_lost :
    let moves : List AddMove := [.start firstProxy, .start secondProxy, .advance 0 (), .advance 1 (), .advance 0 (),
      .advance 1 (), .advance 0 (), .advance 1 (), .advance 0 (), .advance 0 (), .advance 0 (), .advance 1 (),
      .advance 1 (), .advance 1 ()]
    Complete (moves.foldl step (start none)) ∧ (moves.foldl step (start none)).list = [secondProxy] ∧
      ¬Survives (moves.foldl step (start none)) (ProxyPreferences.loadUserProxies none) := by
  refine ⟨by decide +kernel, by decide +kernel, fun h => ?_⟩
  have hfirst := h.added ⟨firstProxy, .done⟩ (by decide +kernel)
  exact absurd hfirst (by decide +kernel)

end AddRun

end RioGram.Proxies
