import Mathlib.Data.List.Infix
import RioGram.Async.Loop
import RioGram.Proxies.Manager

/-!
# The procedures of the proxy manager

The functions of `ProxyManager` that wait for something, and the program that they make up with what can
start them: the app, a tick of the timer, an update of TDLib.

A call is a request with the `waitFor` that goes with it.  What it waits for is told by the extra and the
type of an update alone (`Call.extra`, `Call.answeredBy`); how long it waits is left open, so that the
answer that there is none can come at any time.
-/

namespace RioGram.Proxies

open Async

/-! ## Waits -/

/-- A request that is waited for. -/
inductive Call where
  | pingProxy (proxyId : ℤ) (proxy : Payload)
  | enableProxy (proxyId : ℤ)
  | getProxies
  | disableProxy (now : ℕ)
  | removeProxy (proxyId : ℤ) (now : ℕ)

def Call.extra : Call → Extra
  | .pingProxy proxyId _ => .ping proxyId
  | .enableProxy proxyId => .enableProxy proxyId
  | .getProxies => .getProxiesPurge
  | .disableProxy now => .stamped "disableProxy" now
  | .removeProxy _ now => .stamped "removeProxy" now

def Call.answeredBy : Call → UpdateType → Bool
  | .pingProxy _ _, type => type = .seconds || type = .error
  | .getProxies, type => type = .proxies || type = .addedProxies || type = .error
  | _, type => type = .ok || type = .error

/-- What a procedure waits for. -/
inductive Wait where
  | call (call : Call)
  | delay (milliseconds : ℕ)
  | isAutoFailoverEnabled
  | setAutoFailoverEnabled (enabled : Bool)
  | addUserProxy (proxy : UserProxyConfig)
  | loadUserProxies
  | detect

inductive Answer where
  | reply (response : Option Update)
  | done
  | flag (value : Bool)
  | userProxies (proxies : List UserProxyConfig)
  | system (proxy : Option SystemProxyConfig)

/-- A procedure of the manager. -/
abbrev Procedure : Type → Type := Comp Manager Wait Answer

/-- The reply, if there is one. -/
def Answer.response : Answer → Option Update
  | .reply response => response
  | _ => none

/-- Sends the request and waits for its reply, or until there is no more time for it. -/
def waitFor (call : Call) : Procedure (Option Update) := do
  let answer ← Comp.wait (.call call)
  pure answer.response

def loadUserProxies : Procedure (List UserProxyConfig) := do
  match ← Comp.wait .loadUserProxies with
  | .userProxies proxies => pure proxies
  | _ => pure []

/-! ## Pings and activation -/

structure Ping where
  ok : Bool
  error : Option String

/-- The body of `pingProxy`; `again` is what is left to do if the ping has been canceled and may be
tried once more. -/
def pingOnce (proxyId : ℤ) (again : Option (Procedure Ping)) : Procedure Ping := do
  let m ← Comp.get
  let name := m.nameOf proxyId
  match m.proxyPayloadsById proxyId with
  | none =>
      pure { ok := false, error := some s!"Прокси {proxyId} ({name}) не найден в локальном кэше" }
  | some payload =>
      match ← waitFor (.pingProxy proxyId payload) with
      | none =>
          Comp.modify (·.setProxyHealth proxyId .failed)
          pure { ok := false, error := some s!"Таймаут ping {name} (20с)" }
      | some response =>
          if response.type = .error then
            let message := response.message.getD "неизвестная ошибка"
            match again, decide (message = "Canceled") with
            | some again, true =>
                let _ ← Comp.wait (.delay 1000)
                again
            | _, _ =>
                Comp.modify (·.setProxyHealth proxyId .failed)
                pure { ok := false, error := some s!"{name}: {message}" }
          else
            Comp.modify (·.setProxyHealth proxyId .ok)
            pure { ok := true, error := none }

def pingProxy (proxyId : ℤ) : (retriesOnCanceled : ℕ) → Procedure Ping
  | 0 => pingOnce proxyId none
  | retries + 1 => pingOnce proxyId (some (pingProxy proxyId retries))

/-- What `enableProxy` does about its reply.  The result says whether TDLib has confirmed the request. -/
def enableReplied (proxyId : ℤ) : Option Update → Procedure Bool
  | none => do
      Comp.modify (·.setStatus .error)
      Comp.modify (·.setLastError (some "Не удалось включить прокси: таймаут enableProxy"))
      pure false
  | some response =>
      if response.type = .error then do
        let message := response.message.getD "таймаут enableProxy"
        Comp.modify (·.setStatus .error)
        Comp.modify (·.setLastError (some s!"Не удалось включить прокси: {message}"))
        pure false
      else do
        Comp.modify (·.setActiveProxy proxyId)
        Comp.modify (·.setProxyHealth proxyId .ok)
        Comp.modify (·.setStatus .active)
        Comp.modify (·.setLastError none)
        pure true

def enableProxy (proxyId : ℤ) : Procedure Bool := do
  enableReplied proxyId (← waitFor (.enableProxy proxyId))

def activateProxy (proxyId : ℤ) : Procedure Unit := do
  let m ← Comp.get
  if m.proxies.any (·.id == proxyId) then
    Comp.modify (·.setProxyHealth proxyId .checking)
    Comp.modify (·.setStatus .switching)
    -- the proxy is enabled also if it does not answer
    let _ ← pingProxy proxyId 2
    let _ ← enableProxy proxyId
    pure ()
  else pure ()

def testProxy (proxyId : ℤ) : Procedure Unit := do
  Comp.modify (·.setProxyHealth proxyId .checking)
  let ping ← pingProxy proxyId 2
  Comp.modify (·.setProxyHealth proxyId (if ping.ok then .ok else .failed))
  if ping.ok then pure () else Comp.modify (·.setLastError ping.error)

/-! ## Failover -/

/-- Pings the candidates in turn, from the one after the active one on, and enables the first that
answers.  The result is what the record of the failover says. -/
def tryCandidates (candidates : List ProxyEntry) (startIndex : ℕ) :
    List ℕ → List (ℤ × Bool) → Procedure (List (ℤ × Bool) × Option (ℤ × Bool))
  | [], pings => do
      Comp.modify (·.keepActive)
      pure (pings, none)
  | offset :: offsets, pings =>
      match candidates[(startIndex + offset) % candidates.length]? with
      | none => tryCandidates candidates startIndex offsets pings
      | some proxy =>
          if proxy.isActive then tryCandidates candidates startIndex offsets pings
          else do
            let ping ← pingProxy proxy.id 2
            if ping.ok then
              let confirmed ← enableProxy proxy.id
              pure (pings ++ [(proxy.id, true)], some (proxy.id, confirmed))
            else
              Comp.modify (·.setProxyHealth proxy.id .failed)
              tryCandidates candidates startIndex offsets (pings ++ [(proxy.id, false)])

/-- Where the failover starts: after the active candidate, if there is one. -/
def startIndex (candidates : List ProxyEntry) : ℕ :=
  match candidates.findIdx? (·.isActive) with
  | none => 0
  | some currentIndex => currentIndex + 1

def switchToNextProxy : Procedure Unit := do
  let m ← Comp.get
  let candidates := m.failoverCandidates
  if candidates.isEmpty || m.failoverRunning then pure ()
  else
    Comp.modify (·.beginFailover)
    let (pings, enabled) ←
      tryCandidates candidates (startIndex candidates) (List.range candidates.length) []
    Comp.modify (·.endFailover candidates m.activeIds pings enabled)

def handleConnectionIssue : Procedure Unit := do
  let m ← Comp.get
  if !m.autoFailoverEnabled || m.failoverCandidates.isEmpty then pure ()
  else switchToNextProxy

/-- A tick of the timer.  Pings that are canceled say nothing about the proxy. -/
def healthCheck : Procedure Unit := do
  let m ← Comp.get
  if !m.healthTimer || !m.autoFailoverEnabled || m.failoverRunning then pure ()
  else
    match m.activeProxy with
    | none => pure ()
    | some active =>
        let ping ← pingProxy active.id 2
        if ping.ok || ping.error.any (fun error => "Canceled".toList <:+: error.toList) then pure ()
        else switchToNextProxy

def handleConnectionState (state : Option ConnectionState) : Procedure Unit := do
  let m ← Comp.get
  match state with
  | none => pure ()
  | some type =>
      if !m.autoFailoverEnabled || !m.readyForFailover || m.failoverRunning ||
          m.status == .switching then pure ()
      else if type = .waitingForNetwork then switchToNextProxy
      else pure ()

/-! ## Setup -/

/-- `_sendProxyOk`, whose extra has the time of the call in it. -/
def sendProxyOk (request : ℕ → Call) : Procedure Bool := do
  let m ← Comp.get
  match ← waitFor (request m.now) with
  | none => pure false
  | some response => pure (response.type ≠ .error)

def removeProxies : List (Option ℤ) → Procedure Unit
  | [] => pure ()
  | item :: rest => do
      match item with
      | none => removeProxies rest
      | some id =>
          if id ≤ 0 then removeProxies rest
          else
            let _ ← sendProxyOk (.removeProxy id)
            removeProxies rest

def purgeStoredProxies : Procedure Unit := do
  let _ ← sendProxyOk .disableProxy
  match ← waitFor .getProxies with
  | none => pure ()
  | some listed =>
      if listed.type = .error then pure () else removeProxies (listed.proxies.getD [])

/-- Waits until there are so many entries, for eight seconds at most: as a delay takes 100 ms or more,
these are over after 80 of them. -/
def waitForProxyRegistration (expectedCount deadline : ℕ) : ℕ → Procedure Unit
  | 0 => pure ()
  | delays + 1 => do
      let m ← Comp.get
      if m.proxies.length < expectedCount ∧ m.now < deadline then
        let _ ← Comp.wait (.delay 100)
        waitForProxyRegistration expectedCount deadline delays
      else pure ()

/-- The deadline is eight seconds from now. -/
def waitForRegistrations (expectedCount : ℕ) : Procedure Unit := do
  let m ← Comp.get
  waitForProxyRegistration expectedCount (m.now + 8000000) 80

/-- `_lastError ??= error`. -/
def setLastErrorIfNone (error : String) : Procedure Unit :=
  Comp.modify fun m => m.setLastError (m.lastError <|> some error)

def enableSystemProxyOnly : Procedure Unit := do
  let m ← Comp.get
  match m.proxies.find? (·.isSystemLike) with
  | none =>
      Comp.modify (·.setStatus .error)
      setLastErrorIfNone "Системный прокси не зарегистрирован в TDLib"
  | some systemEntry =>
      let _ ← enableProxy systemEntry.id
      pure ()

/-- Enables the first of the proxies that answers.  If there is none, the result is the error of the last
ping. -/
def enableFirstReachable : List ProxyEntry → Option String → Procedure (Option (Option String))
  | [], lastPingError => pure (some lastPingError)
  | proxy :: rest, _ => do
      let ping ← pingProxy proxy.id 2
      if ping.ok then
        let _ ← enableProxy proxy.id
        pure none
      else enableFirstReachable rest ping.error

/-- Nothing answers, and the first proxy is enabled all the same. -/
def enableUnconfirmed (first : ProxyEntry) (lastPingError : Option String) : Procedure Unit := do
  let _ ← enableProxy first.id
  let reason := lastPingError.getD "Ping не подтвердил доступность"
  let name := first.name
  Comp.modify (·.setLastError (some s!"{reason}. Включён {name} — проверь secret/SNI на VPS."))

def enableFirstAvailable : Procedure Unit := do
  let m ← Comp.get
  if m.proxies.isEmpty then
    Comp.modify (·.setStatus .error)
    setLastErrorIfNone "Прокси не зарегистрированы в TDLib"
  else
    match m.proxies.filter (!·.isSystemLike) with
    | [] => enableSystemProxyOnly
    | first :: rest =>
        match ← enableFirstReachable (first :: rest) none with
        | none => pure ()
        | some lastPingError =>
            let m ← Comp.get
            match m.proxies.find? (·.isSystemLike) with
            | none => enableUnconfirmed first lastPingError
            | some systemEntry =>
                let systemPing ← pingProxy systemEntry.id 2
                if systemPing.ok then
                  let _ ← enableProxy systemEntry.id
                  pure ()
                else enableUnconfirmed first systemPing.error

def startHealthChecks : Procedure Unit :=
  Comp.modify fun m => { m with readyForFailover := true, healthTimer := true }

def startHealthChecksIfActive : Procedure Unit := do
  let m ← Comp.get
  if m.hasActiveProxy then startHealthChecks else pure ()

def sendUserProxies : List UserProxyConfig → Procedure Unit
  | [] => pure ()
  | proxy :: rest => do
      Comp.modify (·.queueUser proxy)
      Comp.modify (·.send (.user proxy))
      sendUserProxies rest

def setSavedUserProxies (proxies : List UserProxyConfig) : Procedure Unit :=
  Comp.modify fun m => { m with savedUserProxies := proxies }

def registerSavedUserProxies : Procedure Unit := do
  let proxies ← loadUserProxies
  setSavedUserProxies proxies
  sendUserProxies proxies

def sendConfigs : List ProxyConfig → Procedure Unit
  | [] => pure ()
  | proxy :: rest => do
      Comp.modify (·.send (.config proxy))
      sendConfigs rest

/-- The proxies of the configuration. -/
def AppConfig.configs (config : AppConfig) : List ProxyConfig :=
  (config.phantomProxy.toList ++ config.stealthProxy.toList).filter (·.host ≠ "")

def reportInvalidSecrets (invalidNames : List String) : Procedure Unit :=
  let names := ", ".intercalate invalidNames
  if invalidNames.isEmpty then pure ()
  else Comp.modify (·.setLastError (some
    (s!"Неверный secret у: {names}. Для Fake TLS (ee...) после 32 hex-символов нужен домен, " ++
      "например google.com в hex: 676f6f676c652e636f6d")))

/-- Registers the proxies of the configuration next to that of the system. -/
def registerNextToSystem (validConfigs : List ProxyConfig) : Procedure Unit := do
  if validConfigs.isEmpty then
    waitForRegistrations 1
    enableSystemProxyOnly
  else
    Comp.modify (·.queueConfigs validConfigs)
    sendConfigs validConfigs
    waitForRegistrations (validConfigs.length + 1)
    -- DNS takes a while
    let _ ← Comp.wait (.delay 3000)
    enableFirstAvailable

/-- The rest of the setup, with a proxy of the system. -/
def registerWithSystem (systemProxy : SystemProxyConfig) (validConfigs : List ProxyConfig) :
    Procedure Unit := do
  Comp.modify (·.sendSystem systemProxy (!validConfigs.isEmpty))
  Comp.modify (·.setStatus .unknown)
  registerNextToSystem validConfigs
  startHealthChecksIfActive
  registerSavedUserProxies

/-- The rest of the setup, without a proxy of the system. -/
def registerConfigs (validConfigs : List ProxyConfig) : Procedure Unit := do
  if validConfigs.isEmpty then
    Comp.modify (·.setStatus .error)
    setLastErrorIfNone "Нет прокси с корректным secret в .env и системный прокси не найден"
  else
    Comp.modify (·.setStatus .unknown)
    Comp.modify (·.queueConfigs validConfigs)
    sendConfigs validConfigs
    waitForRegistrations validConfigs.length
    enableFirstAvailable
    startHealthChecksIfActive
    registerSavedUserProxies

/-- Registers the proxies of the system and of the configuration, once the system's one is known. -/
def registerProxies (detected : Option SystemProxyConfig) : Procedure Unit := do
  Comp.modify fun m => { m with systemProxy := detected }
  let m ← Comp.get
  let validConfigs := m.config.configs.filter (·.hasValidSecret)
  let invalidNames := (m.config.configs.filter (!·.hasValidSecret)).map (·.name)
  reportInvalidSecrets invalidNames
  match detected.filter (·.isConfigured) with
  | some systemProxy => registerWithSystem systemProxy validConfigs
  | none => registerConfigs validConfigs

def setupProxies : Procedure Unit := do
  match ← Comp.wait .isAutoFailoverEnabled with
  | .flag enabled =>
      Comp.modify (·.reset enabled)
      purgeStoredProxies
      match ← Comp.wait .detect with
      | .system detected => registerProxies detected
      | _ => pure ()
  | _ => pure ()

def addUserProxy (config : UserProxyConfig) : Procedure Unit := do
  Comp.modify (·.queueUser config)
  let _ ← Comp.wait (.addUserProxy config)
  let proxies ← loadUserProxies
  setSavedUserProxies proxies
  Comp.modify (·.send (.user config))

def setAutoFailoverEnabled (enabled : Bool) : Procedure Unit := do
  Comp.modify fun m => { m with autoFailoverEnabled := enabled }
  let _ ← Comp.wait (.setAutoFailoverEnabled enabled)
  pure ()

/-! ## The program -/

def handleUpdate (update : Update) : Procedure Unit :=
  match update.type with
  | .addedProxy => Comp.modify fun m => (m.registerAddedProxy update).settle update
  | .error => Comp.modify fun m => (m.handleProxyError update).settle update
  | .updateConnectionState => handleConnectionState update.state
  | _ => pure ()

/-- What can be started: the functions the app calls, a tick of the timer, and the time going on. -/
inductive Command where
  | setupProxies
  | addUserProxy (config : UserProxyConfig)
  | setAutoFailoverEnabled (enabled : Bool)
  | activateProxy (proxyId : ℤ)
  | testProxy (proxyId : ℤ)
  | switchToNextProxy
  | handleConnectionIssue
  | healthCheck
  | clock (microseconds : ℕ)

def Command.procedure : Command → Procedure Unit
  | .setupProxies => Proxies.setupProxies
  | .addUserProxy config => Proxies.addUserProxy config
  | .setAutoFailoverEnabled enabled => Proxies.setAutoFailoverEnabled enabled
  | .activateProxy proxyId => Proxies.activateProxy proxyId
  | .testProxy proxyId => Proxies.testProxy proxyId
  | .switchToNextProxy => Proxies.switchToNextProxy
  | .handleConnectionIssue => Proxies.handleConnectionIssue
  | .healthCheck => Proxies.healthCheck
  | .clock microseconds => Comp.modify fun m => { m with now := m.now + microseconds }

/-- Is this an answer that can be given without an update? -/
def Wait.allows : Wait → Answer → Bool
  | .call _, .reply none => true
  | .delay _, .done => true
  | .isAutoFailoverEnabled, .flag _ => true
  | .setAutoFailoverEnabled _, .done => true
  | .addUserProxy _, .done => true
  | .loadUserProxies, .userProxies _ => true
  | .detect, .system _ => true
  | _, _ => false

/-- The predicate of `waitFor`. -/
def Wait.accepts : Wait → Update → Bool
  | .call c, update => update.extra = some c.extra && c.answeredBy update.type
  | _, _ => false

def Wait.isCall : Wait → Bool
  | .call _ => true
  | _ => false

def program : Program Manager Wait Answer Update Command where
  start := Command.procedure
  update := handleUpdate
  isCall := Wait.isCall
  accepts := Wait.accepts
  reply update := .reply (some update)
  allows := Wait.allows

end RioGram.Proxies
