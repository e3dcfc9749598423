import RioGram.Js.Strings

/-!
# The proxy of the web client

`WebProxyManager` keeps the configuration of the WSS proxy and hands it to the hook in the page.  When the transport
has failed it starts the network of TDLib anew: after a while it switches it off, and after 300 ms on again.

Each function is cut where it waits.  Timers have the time at which they expire, and expire in that order; the list of
those that switch the network on is `networkOn`, and `network` is what TDLib was told.
-/

namespace RioGram.WebProxy

open Js

structure WssProxyConfig where
  enabled : Bool := false
  url : Str := []
  autoReconnect : Bool := true
  maxReconnectAttempts : ℤ := 5
  reconnectDelayMs : ℤ := 2000
deriving DecidableEq

def WssProxyConfig.isConfigured (config : WssProxyConfig) : Bool := !(trimDart config.url).isEmpty

inductive WssTransportState where
  | idle | connecting | connected | reconnecting | failed
deriving DecidableEq

structure WssTransportStatus where
  state : WssTransportState
  activeUrl : Option Str := none
  lastError : Option Str := none
  reconnectAttempt : ℤ := 0
deriving DecidableEq

inductive WebProxyStatus where
  | unknown | active | reconnecting | error | disabled
deriving DecidableEq

/-- Milliseconds. -/
def reconnectCooldown : ℕ := 2000

structure WebProxyManager where
  config : WssProxyConfig := {}
  status : WebProxyStatus := .unknown
  transportStatus : WssTransportStatus := { state := .idle }
  lastError : Option Str := none
  healthTimer : Bool := false
  reconnectTimer : Option ℕ := none
  reconnectAttempt : ℕ := 0
  isApplying : Bool := false
  now : ℕ := 0
  networkOn : List ℕ := []
  network : List Bool := []
deriving DecidableEq

namespace WebProxyManager

variable (m : WebProxyManager)

def isProxyEnabled : Bool := m.config.enabled && m.config.isConfigured

/-! ## The status -/

def syncStatusFromTransport : WebProxyManager :=
  if !m.isProxyEnabled then { m with status := .disabled, lastError := none }
  else
    { m with
      status := match m.transportStatus.state with
        | .connected => .active
        | .connecting => .reconnecting
        | .reconnecting => .reconnecting
        | .failed => .error
        | .idle => .active }

@[simp] lemma syncStatusFromTransport_config : m.syncStatusFromTransport.config = m.config := by
  rw [syncStatusFromTransport]
  split <;> rfl

def scheduleReconnect : WebProxyManager :=
  if !m.config.autoReconnect || !m.isProxyEnabled then m
  else if m.reconnectTimer.isSome then m
  else if m.config.maxReconnectAttempts ≤ m.reconnectAttempt then
    { m with status := .error, lastError := some (units "Исчерпаны попытки переподключения WSS") }
  else
    { m with
      reconnectAttempt := m.reconnectAttempt + 1
      status := .reconnecting
      reconnectTimer := some (m.now + reconnectCooldown * (m.reconnectAttempt + 1)) }

def onTransportState (status : WssTransportStatus) : WebProxyManager :=
  let m := { m with transportStatus := status }
  let m :=
    if status.state = .connected then { m with reconnectAttempt := 0, lastError := none }
    else if status.state = .failed ∧ m.isProxyEnabled then
      { m with lastError := status.lastError }.scheduleReconnect
    else m
  m.syncStatusFromTransport

def startHealthMonitor : WebProxyManager := { m with healthTimer := true }

/-- A tick of the health timer, with the status that is read. -/
def healthTick (status : WssTransportStatus) : WebProxyManager :=
  let m := { m with transportStatus := status }.syncStatusFromTransport
  if status.state = .failed ∧ m.config.autoReconnect ∧ m.isProxyEnabled then m.scheduleReconnect else m

/-! ## The configuration -/

/-- `applyConfig` where it is not let in by a call that is applying, up to where it waits. -/
def applyBegins (config : WssProxyConfig) : WebProxyManager := { m with isApplying := true, config := config }

/-- The end of `applyConfig`, with the status that is read. -/
def applyEnds (status : WssTransportStatus) : WebProxyManager :=
  { { m with transportStatus := status }.syncStatusFromTransport with isApplying := false }

@[simp] lemma applyEnds_config (status : WssTransportStatus) : (m.applyEnds status).config = m.config :=
  syncStatusFromTransport_config _

/-- What `setup` does with the configuration that it has loaded, where no call is applying. -/
def setupApplies (config : WssProxyConfig) (status : WssTransportStatus) : WebProxyManager :=
  (m.applyBegins config).applyEnds status

/-! ## Timers -/

/-- The timer of a reconnection expires. -/
def reconnectExpires (time : ℕ) : WebProxyManager :=
  let m := { m with reconnectTimer := none, now := max m.now time }
  if !m.isProxyEnabled then m
  else { m with network := m.network ++ [false], networkOn := m.networkOn ++ [m.now + 300] }

/-- The network is switched on. -/
def networkOnExpires (time : ℕ) (rest : List ℕ) : WebProxyManager :=
  { m with network := m.network ++ [true], networkOn := rest, now := max m.now time }

/-- The timer that is next expires. -/
def timerExpires : WebProxyManager :=
  match m.networkOn, m.reconnectTimer with
  | [], none => m
  | [], some time => m.reconnectExpires time
  | on :: rest, none => m.networkOnExpires on rest
  | on :: rest, some time => if on ≤ time then m.networkOnExpires on rest else m.reconnectExpires time

end WebProxyManager

end RioGram.WebProxy
