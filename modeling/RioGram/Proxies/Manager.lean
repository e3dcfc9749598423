import RioGram.Proxies.Models

/-!
# The state of the proxy manager

`Manager` has the fields of `ProxyManager` that its functions read, and the functions here are those
that run without a wait in between.  Listeners are told of every change; nothing of the manager depends
on that, so it is left out, as are the lines written to the log.

The last four fields are not of the source: what TDLib has not replied to, and records of what the
manager has done, which no function reads.
-/

namespace RioGram.Proxies

inductive ProxyStatus where
  | unknown
  | active
  | switching
  | error
  | disabled
deriving DecidableEq

/-! ## Updates -/

/-- The `@type` of an update. -/
inductive UpdateType where
  | addedProxy
  | error
  | updateConnectionState
  | ok
  | seconds
  | proxies
  | addedProxies
  | other (text : String)
deriving DecidableEq

inductive ConnectionState where
  | waitingForNetwork
  | other (text : String)
deriving DecidableEq

/-- An update of TDLib, with the fields at its top level that the manager reads.  `request` is the
`addProxy` request that it is the reply to, which the manager cannot see. -/
structure Update where
  type : UpdateType
  extra : Option Extra := none
  id : Option ℤ := none
  server : Option String := none
  port : Option ℤ := none
  proxyType : Option PayloadType := none
  message : Option String := none
  state : Option ConnectionState := none
  proxies : Option (List (Option ℤ)) := none
  request : Option Request := none

/-! ## The manager -/

/-- What the manager has done about registrations, with what was pending and unanswered before. -/
inductive Act where
  | reset (unanswered : List Request)
  | queue (request : Request) (unanswered : List Request)
  | send (request : Request) (pending unanswered : List Request)
deriving DecidableEq

/-- A run of the failover: its candidates, the pings in their order with what they have given, the
request that TDLib has or has not confirmed, which entries were active before and after, and the status
that it has left. -/
structure Failover where
  candidates : List ProxyEntry
  pings : List (ℤ × Bool)
  enabled : Option (ℤ × Bool)
  activeBefore : List ℤ
  activeAfter : List ℤ
  status : ProxyStatus

structure Manager where
  config : AppConfig
  proxies : List ProxyEntry := []
  pendingConfigs : List ProxyConfig := []
  pendingUserConfigs : List UserProxyConfig := []
  savedUserProxies : List UserProxyConfig := []
  proxyPayloadsById : ℤ → Option Payload := fun _ => none
  healthTimer : Bool := false
  status : ProxyStatus := .unknown
  autoFailoverEnabled : Bool := true
  readyForFailover : Bool := false
  failoverRunning : Bool := false
  lastError : Option String := none
  systemProxy : Option SystemProxyConfig := none
  pendingSystemProxy : Option SystemProxyConfig := none
  /-- The clock, in microseconds. -/
  now : ℕ := 0
  unanswered : List Request := []
  acts : List Act := []
  failovers : List Failover := []
  failoversRunning : ℕ := 0

/-- Changes the first element that satisfies the condition. -/
def updateFirst {α : Type} (p : α → Bool) (f : α → α) : List α → List α
  | [] => []
  | a :: rest => if p a then f a :: rest else a :: updateFirst p f rest

/-- What the change leaves alone stays the same. -/
lemma filterMap_updateFirst {α β : Type} (p : α → Bool) {f : α → α} {g : α → Option β}
    (hf : ∀ a, g (f a) = g a) (l : List α) : (updateFirst p f l).filterMap g = l.filterMap g := by
  induction l with
  | nil => simp [updateFirst]
  | cons a rest ih =>
      by_cases h : p a
      · simp [updateFirst, h, List.filterMap_cons, hf]
      · simp [updateFirst, h, List.filterMap_cons, ih]

namespace Manager

def activeProxy (m : Manager) : Option ProxyEntry :=
  m.proxies.find? (·.isActive)

def hasActiveProxy (m : Manager) : Bool :=
  m.activeProxy.isSome && m.status == .active

/-- The ids of the entries that are active. -/
def activeIds (m : Manager) : List ℤ :=
  m.proxies.filterMap fun proxy => if proxy.isActive then some proxy.id else none

/-- The ids of all entries. -/
def ids (m : Manager) : List ℤ :=
  m.proxies.map (·.id)

/-- The name that messages give a proxy. -/
def nameOf (m : Manager) (proxyId : ℤ) : String :=
  match m.proxies.find? (·.id == proxyId) with
  | some entry => entry.name
  | none => s!"прокси {proxyId}"

/-- MTProto proxies and those of the user first, then those of the system. -/
def failoverCandidates (m : Manager) : List ProxyEntry :=
  m.proxies.filter (!·.isSystemLike) ++ m.proxies.filter (·.isSystemLike)

def setActiveProxy (m : Manager) (proxyId : ℤ) : Manager :=
  { m with proxies := m.proxies.map fun proxy => { proxy with isActive := proxy.id == proxyId } }

def setProxyHealth (m : Manager) (proxyId : ℤ) (health : ProxyHealth) : Manager :=
  { m with proxies := updateFirst (·.id == proxyId) ({ · with health }) m.proxies }

@[simp] lemma ids_setActiveProxy (m : Manager) (proxyId : ℤ) :
    (m.setActiveProxy proxyId).ids = m.ids := by
  simp [ids, setActiveProxy]

@[simp] lemma ids_setProxyHealth (m : Manager) (proxyId : ℤ) (health : ProxyHealth) :
    (m.setProxyHealth proxyId health).ids = m.ids := by
  simp only [ids, setProxyHealth, ← List.filterMap_eq_map]
  apply filterMap_updateFirst
  exact fun proxy => rfl

@[simp] lemma activeIds_setProxyHealth (m : Manager) (proxyId : ℤ) (health : ProxyHealth) :
    (m.setProxyHealth proxyId health).activeIds = m.activeIds := by
  apply filterMap_updateFirst
  exact fun proxy => rfl

@[simp] lemma payloads_setActiveProxy (m : Manager) (proxyId : ℤ) :
    (m.setActiveProxy proxyId).proxyPayloadsById = m.proxyPayloadsById := rfl

@[simp] lemma payloads_setProxyHealth (m : Manager) (proxyId : ℤ) (health : ProxyHealth) :
    (m.setProxyHealth proxyId health).proxyPayloadsById = m.proxyPayloadsById := rfl

/-- The active entries are then those with the id. -/
lemma activeIds_setActiveProxy (m : Manager) (proxyId : ℤ) :
    (m.setActiveProxy proxyId).activeIds = m.ids.filter (· == proxyId) := by
  simp only [activeIds, setActiveProxy, ids]
  induction m.proxies with
  | nil => rfl
  | cons proxy rest ih =>
      by_cases h : proxy.id == proxyId
      · simp [h, ih]
      · simp [h, ih]

def setStatus (m : Manager) (status : ProxyStatus) : Manager :=
  { m with status }

def setLastError (m : Manager) (lastError : Option String) : Manager :=
  { m with lastError }

/-- The pending proxies, as the requests made for them. -/
def pending (m : Manager) : List Request :=
  m.pendingUserConfigs.map .user ++ m.pendingConfigs.map .config

/-! ## Registration -/

/-- How `setupProxies` starts. -/
def reset (m : Manager) (autoFailoverEnabled : Bool) : Manager :=
  { m with
    autoFailoverEnabled
    readyForFailover := false
    failoverRunning := false
    proxies := []
    pendingConfigs := []
    proxyPayloadsById := fun _ => none
    systemProxy := none
    pendingSystemProxy := none
    lastError := none
    acts := .reset m.unanswered :: m.acts }

/-- Sends an `addProxy` request. -/
def send (m : Manager) (request : Request) : Manager :=
  { m with
    unanswered := m.unanswered ++ [request]
    acts := .send request m.pending m.unanswered :: m.acts }

def sendSystem (m : Manager) (proxy : SystemProxyConfig) (isTransportOnly : Bool) : Manager :=
  ({ m with pendingSystemProxy := some proxy } : Manager).send (.system proxy isTransportOnly)

def queueConfigs (m : Manager) (configs : List ProxyConfig) : Manager :=
  { m with
    pendingConfigs := m.pendingConfigs ++ configs
    acts := configs.map (fun proxy => .queue (.config proxy) m.unanswered) ++ m.acts }

def queueUser (m : Manager) (proxy : UserProxyConfig) : Manager :=
  { m with
    pendingUserConfigs := m.pendingUserConfigs ++ [proxy]
    acts := .queue (.user proxy) m.unanswered :: m.acts }

/-- The request is not unanswered any more. -/
def settle (m : Manager) (update : Update) : Manager :=
  { m with
    unanswered := match update.request with
      | some request => m.unanswered.erase request
      | none => m.unanswered }

/-- What a registered proxy is taken for. -/
structure Origin where
  displayName : String
  config : Option ProxyConfig := none
  systemConfig : Option SystemProxyConfig := none
  payload : Option Payload

/-- What the reply is taken to be about, by its extra, and the manager without what was pending
for it. -/
def takeOrigin (m : Manager) : Option Extra → Option (Origin × Manager)
  | some (.addProxy name) =>
      if name = "System" then
        let systemConfig := m.pendingSystemProxy <|> m.systemProxy
        some ({ displayName := systemProxyName, systemConfig,
                payload := systemConfig.map systemProxyPayload }, m)
      else if name = "Transport" then
        let systemConfig := m.pendingSystemProxy <|> m.systemProxy
        some ({ displayName := transportProxyName, systemConfig,
                payload := systemConfig.map systemProxyPayload }, m)
      else
        match m.pendingUserConfigs.find? (·.name == name) with
        | some userConfig =>
            some ({ displayName := userConfig.name, payload := some (userProxyPayload userConfig) },
              { m with pendingUserConfigs := m.pendingUserConfigs.eraseP (·.name == name) })
        | none =>
            match m.pendingConfigs.find? (·.name == name) with
            | some config =>
                some ({ displayName := config.name, config := some config,
                        payload := some (proxyPayload config) },
                  { m with pendingConfigs := m.pendingConfigs.eraseP (·.name == name) })
            | none => none
  | _ =>
      -- a reply that is to no request by name is taken to be the next one
      match m.pendingConfigs with
      | config :: rest =>
          some ({ displayName := config.name, config := some config,
                  payload := some (proxyPayload config) }, { m with pendingConfigs := rest })
      | [] => none

/-- The payload that the reply itself shows. -/
def payloadFromRegisteredProxy (addedProxy : Update) : Option Payload :=
  match addedProxy.server, addedProxy.port, addedProxy.proxyType with
  | some server, some port, some type =>
      if server = "" ∨ port ≤ 0 then none else some { server, port, type }
  | _, _, _ => none

/-- Makes the entry, and keeps the payload for its pings. -/
def addEntry (m : Manager) (id : ℤ) (origin : Origin) (addedProxy : Update) : Manager :=
  let payload := origin.payload <|> payloadFromRegisteredProxy addedProxy
  let host := origin.config.map (·.host) <|> origin.systemConfig.map (·.host) <|> addedProxy.server
  let port := origin.config.map (·.port) <|> origin.systemConfig.map (·.port) <|> addedProxy.port
  { m with
    proxyPayloadsById := match payload with
      | some payload => fun i => if i = id then some payload else m.proxyPayloadsById i
      | none => m.proxyPayloadsById
    proxies := m.proxies ++
      [{ id, name := origin.displayName, host := host.getD "", port := port.getD 0 }] }

def registerAddedProxy (m : Manager) (addedProxy : Update) : Manager :=
  match addedProxy.id with
  | none => m
  | some id =>
      match m.takeOrigin addedProxy.extra with
      | none => m
      | some (origin, m) => m.addEntry id origin addedProxy

/-- A reply about nothing that is pending changes nothing; any other one makes an entry. -/
lemma registerAddedProxy_cases (m : Manager) (addedProxy : Update) :
    m.registerAddedProxy addedProxy = m ∨
    ∃ id origin m', addedProxy.id = some id ∧ m.takeOrigin addedProxy.extra = some (origin, m') ∧
      m.registerAddedProxy addedProxy = m'.addEntry id origin addedProxy := by
  cases hid : addedProxy.id with
  | none => exact .inl (by simp [registerAddedProxy, hid])
  | some id =>
      cases horigin : m.takeOrigin addedProxy.extra with
      | none => exact .inl (by simp [registerAddedProxy, hid, horigin])
      | some result =>
          exact .inr ⟨id, result.1, result.2, rfl, rfl, by simp [registerAddedProxy, hid, horigin]⟩

/-- Only what was pending for it is taken away. -/
lemma takeOrigin_frame {m m' : Manager} {extra : Option Extra} {origin : Origin}
    (h : m.takeOrigin extra = some (origin, m')) :
    m' = { m with
      pendingConfigs := m'.pendingConfigs, pendingUserConfigs := m'.pendingUserConfigs } := by
  simp only [takeOrigin] at h
  split at h
  · split at h
    · cases h; rfl
    · split at h
      · cases h; rfl
      · split at h
        · cases h; rfl
        · split at h
          · cases h; rfl
          · cases h
  · split at h
    · cases h; rfl
    · cases h

def handleProxyError (m : Manager) (update : Update) : Manager :=
  match update.extra with
  | some (.addProxy name) =>
      let message := update.message.getD "ошибка регистрации"
      { m with
        pendingConfigs := m.pendingConfigs.filter (·.name ≠ name)
        lastError := some s!"{name}: {message}" }
  | _ => m

/-- Only what is pending and the message change. -/
lemma handleProxyError_frame (m : Manager) (update : Update) :
    m.handleProxyError update = { m with
      pendingConfigs := (m.handleProxyError update).pendingConfigs
      lastError := (m.handleProxyError update).lastError } := by
  simp only [handleProxyError]
  split <;> rfl

/-! ## Failover -/

/-- The failover has begun. -/
def beginFailover (m : Manager) : Manager :=
  { m with
    failoverRunning := true
    status := .switching
    failoversRunning := m.failoversRunning + 1 }

/-- No candidate answers: the active entry stays. -/
def keepActive (m : Manager) : Manager :=
  match m.activeProxy with
  | some active =>
      let name := active.name
      { m with
        status := .active
        lastError := some s!"Нет доступного прокси для переключения — оставлен {name}" }
  | none =>
      { m with
        status := .error
        lastError := some "Нет доступного прокси для переключения" }

/-- Only the status and the message change. -/
lemma keepActive_eq (m : Manager) :
    ∃ status error, m.keepActive = (m.setStatus status).setLastError error := by
  refine ⟨m.keepActive.status, m.keepActive.lastError, ?_⟩
  cases hactive : m.activeProxy <;> simp [keepActive, hactive, setStatus, setLastError]

/-- The failover has ended. -/
def endFailover (m : Manager) (candidates : List ProxyEntry) (activeBefore : List ℤ)
    (pings : List (ℤ × Bool)) (enabled : Option (ℤ × Bool)) : Manager :=
  { m with
    failoverRunning := false
    failovers := m.failovers ++
      [{ candidates, pings, enabled, activeBefore, activeAfter := m.activeIds, status := m.status }]
    failoversRunning := m.failoversRunning - 1 }

end Manager

end RioGram.Proxies
