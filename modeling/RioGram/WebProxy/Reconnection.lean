import RioGram.Core.Reachable
import RioGram.WebProxy.Manager

/-!
# Reconnections of the WSS proxy

A run is what the hook in the page reports, the ticks of the health timer, the timers that expire, and the calls that
change the configuration, in any order.  Beside the manager it keeps how often the network was switched off since the
hook last reported that it is connected, and the address that was applied last.

* `WebProxyManager.timed_step` — the network is switched off and on in turn, whatever happens.
* `keeps_of_meets` — the runs that keep to the attempts and show that a reconnection is pending.
-/

namespace RioGram.WebProxy

open Js Reaching

def WssTransportState.isConnecting : WssTransportState → Bool
  | .connecting | .reconnecting => true
  | _ => false

/-- `applyConfig` begins and, where it has stored the configuration, ends; `setup` goes on with what it has loaded.
The statuses are what is reported, or what is read. -/
inductive ReconnectionEvent where
  | transportState (status : WssTransportStatus)
  | healthTick (status : WssTransportStatus)
  | timer
  | wait (duration : ℕ)
  | applyConfig (config : WssProxyConfig)
  | applyEnds (status : WssTransportStatus)
  | setup (config : WssProxyConfig) (status : WssTransportStatus)
deriving DecidableEq

namespace WebProxyManager

variable (m : WebProxyManager)

def step : ReconnectionEvent → WebProxyManager
  | .transportState status => m.onTransportState status
  | .healthTick status => if m.healthTimer then m.healthTick status else m
  | .timer => m.timerExpires
  | .wait duration => { m with now := m.now + duration }
  | .applyConfig config => if m.isApplying then m else m.applyBegins config
  | .applyEnds status => if m.isApplying then m.applyEnds status else m
  | .setup config status =>
      (if m.isApplying then { m with config := config } else m.setupApplies config status).startHealthMonitor

/-! ## The network -/

/-- Off and on, so many times. -/
def pairs (n : ℕ) : List Bool := (List.replicate n [false, true]).flatten

/-- The network was switched off and on in turn, and where it is off it will be switched on. -/
def Paired : Prop :=
  ∃ n, (m.network = pairs n ∧ m.networkOn = []) ∨ (m.network = pairs n ++ [false] ∧ ∃ on, m.networkOn = [on])

/-- The network is switched on before it is switched off again. -/
structure Timed : Prop where
  paired : m.Paired
  soon : ∀ on ∈ m.networkOn, on ≤ m.now + 300
  first : ∀ time, m.reconnectTimer = some time → ∀ on ∈ m.networkOn, on < time

variable {m}

lemma pairs_succ (n : ℕ) : pairs n ++ [false] ++ [true] = pairs (n + 1) := by
  rw [pairs, pairs, List.replicate_succ', List.flatten_append, List.append_assoc]
  rfl

/-- What the status is changes nothing else. -/
lemma exists_syncStatusFromTransport (m : WebProxyManager) :
    ∃ status lastError, m.syncStatusFromTransport = { m with status := status, lastError := lastError } := by
  rw [syncStatusFromTransport]
  split
  · exact ⟨_, _, rfl⟩
  · exact ⟨_, m.lastError, rfl⟩

lemma Timed.sync (h : m.Timed) : m.syncStatusFromTransport.Timed := by
  rcases exists_syncStatusFromTransport m with ⟨status, lastError, heq⟩
  rw [heq]
  exact ⟨h.paired, h.soon, h.first⟩

/-- What comes of a reconnection: none is wanted, or one is pending, or the attempts are exhausted, or one is now
pending. -/
lemma scheduleReconnect_cases (m : WebProxyManager) :
    (m.scheduleReconnect = m ∧ (m.config.autoReconnect = false ∨ m.isProxyEnabled = false)) ∨
      (m.scheduleReconnect = m ∧ m.reconnectTimer.isSome) ∨
      (m.scheduleReconnect = { m with
          status := .error
          lastError := some (units "Исчерпаны попытки переподключения WSS") } ∧
        m.reconnectTimer = none ∧ m.config.maxReconnectAttempts ≤ m.reconnectAttempt) ∨
      (m.scheduleReconnect = { m with
          reconnectAttempt := m.reconnectAttempt + 1
          status := .reconnecting
          reconnectTimer := some (m.now + reconnectCooldown * (m.reconnectAttempt + 1)) } ∧
        m.config.autoReconnect = true ∧ m.reconnectAttempt < m.config.maxReconnectAttempts) := by
  rw [scheduleReconnect]
  split_ifs with hunwanted hpending hexhausted
  · refine .inl ⟨rfl, ?_⟩
    rwa [Bool.or_eq_true, Bool.not_eq_true', Bool.not_eq_true'] at hunwanted
  · exact .inr (.inl ⟨rfl, hpending⟩)
  · exact .inr (.inr (.inl ⟨rfl, Option.not_isSome_iff_eq_none.mp hpending, hexhausted⟩))
  · rw [Bool.or_eq_true, not_or, Bool.not_eq_true', Bool.not_eq_false] at hunwanted
    exact .inr (.inr (.inr ⟨rfl, hunwanted.1, not_le.mp hexhausted⟩))

lemma Timed.schedule (h : m.Timed) : m.scheduleReconnect.Timed := by
  rcases scheduleReconnect_cases m with ⟨heq, -⟩ | ⟨heq, -⟩ | ⟨heq, -⟩ | ⟨heq, -⟩
  · rwa [heq]
  · rwa [heq]
  · rw [heq]
    exact ⟨h.paired, h.soon, h.first⟩
  · rw [heq]
    refine ⟨h.paired, h.soon, fun time htime on hon => ?_⟩
    rw [← Option.some_inj.mp htime]
    have hsoon := h.soon on hon
    have hcooldown : reconnectCooldown ≤ reconnectCooldown * (m.reconnectAttempt + 1) :=
      Nat.le_mul_of_pos_right _ (Nat.succ_pos _)
    have hlong : 300 < reconnectCooldown := by decide
    omega

lemma Timed.onTransportState (h : m.Timed) (status : WssTransportStatus) : (m.onTransportState status).Timed := by
  simp only [WebProxyManager.onTransportState]
  refine Timed.sync ?_
  split_ifs
  · exact ⟨h.paired, h.soon, h.first⟩
  · exact Timed.schedule ⟨h.paired, h.soon, h.first⟩
  · exact ⟨h.paired, h.soon, h.first⟩

lemma Timed.healthTick (h : m.Timed) (status : WssTransportStatus) : (m.healthTick status).Timed := by
  have hsync : ({ m with transportStatus := status } : WebProxyManager).syncStatusFromTransport.Timed :=
    Timed.sync ⟨h.paired, h.soon, h.first⟩
  simp only [WebProxyManager.healthTick]
  split_ifs
  · exact hsync.schedule
  · exact hsync

lemma Timed.applyEnds (h : m.Timed) (status : WssTransportStatus) : (m.applyEnds status).Timed := by
  have hsync : ({ m with transportStatus := status } : WebProxyManager).syncStatusFromTransport.Timed :=
    Timed.sync ⟨h.paired, h.soon, h.first⟩
  exact ⟨hsync.paired, hsync.soon, hsync.first⟩

/-- Where the network is on, it may be switched off. -/
lemma Timed.reconnectExpires (h : m.Timed) (hon : m.networkOn = []) (time : ℕ) : (m.reconnectExpires time).Timed := by
  rcases h.paired with ⟨n, ⟨hnetwork, -⟩ | ⟨-, on, hsome⟩⟩
  · simp only [WebProxyManager.reconnectExpires]
    split_ifs
    · refine ⟨⟨n, .inl ⟨hnetwork, hon⟩⟩, ?_, nofun⟩
      rw [hon]
      exact List.forall_mem_nil _
    · refine ⟨⟨n, .inr ⟨by rw [hnetwork], max m.now time + 300, by rw [hon, List.nil_append]⟩⟩, ?_, nofun⟩
      rw [hon]
      exact List.forall_mem_singleton.mpr le_rfl
  · exact absurd (hon.symm.trans hsome) (List.cons_ne_nil _ _).symm

/-- Where the network is off, it is switched on. -/
lemma Timed.networkOnExpires (h : m.Timed) {on : ℕ} {rest : List ℕ} (hon : m.networkOn = on :: rest) :
    (m.networkOnExpires on rest).Timed := by
  rcases h.paired with ⟨n, ⟨-, hnone⟩ | ⟨hnetwork, on', hsome⟩⟩
  · exact absurd (hnone.symm.trans hon) (List.cons_ne_nil _ _).symm
  · cases hon.symm.trans hsome
    refine ⟨⟨n + 1, .inl ⟨?_, rfl⟩⟩, List.forall_mem_nil _, fun _ _ => List.forall_mem_nil _⟩
    rw [← pairs_succ, ← hnetwork]
    rfl

/-- The timer that is next: there is none, or it switches the network on, or it is that of a reconnection. -/
lemma Timed.timerExpires_cases (h : m.Timed) :
    m.timerExpires = m ∨
      (∃ on rest, m.networkOn = on :: rest ∧ m.timerExpires = m.networkOnExpires on rest) ∨
      (∃ time, m.networkOn = [] ∧ m.reconnectTimer = some time ∧ m.timerExpires = m.reconnectExpires time) := by
  rw [WebProxyManager.timerExpires]
  split
  case h_1 hon htimer => exact .inl rfl
  case h_2 time hon htimer => exact .inr (.inr ⟨time, hon, htimer, rfl⟩)
  case h_3 on rest hon htimer => exact .inr (.inl ⟨on, rest, hon, rfl⟩)
  case h_4 on rest time hon htimer =>
    have hlt : on < time := h.first time htimer on (hon ▸ List.mem_cons_self)
    exact .inr (.inl ⟨on, rest, hon, if_pos hlt.le⟩)

lemma Timed.timerExpires (h : m.Timed) : m.timerExpires.Timed := by
  rcases h.timerExpires_cases with heq | ⟨on, rest, hon, heq⟩ | ⟨time, hon, -, heq⟩
  · rwa [heq]
  · rw [heq]
    exact h.networkOnExpires hon
  · rw [heq]
    exact h.reconnectExpires hon time

/-- **The network is switched off and on in turn**: after each time that it is switched off it is switched on exactly
once, before it is switched off again. -/
theorem timed_step (h : m.Timed) (e : ReconnectionEvent) : (m.step e).Timed := by
  cases e with
  | transportState status => exact h.onTransportState status
  | healthTick status =>
      rw [step]
      split_ifs
      · exact h.healthTick status
      · exact h
  | timer => exact h.timerExpires
  | wait duration => exact ⟨h.paired, fun on hon => (h.soon on hon).trans (by
      change m.now + 300 ≤ m.now + duration + 300
      omega), h.first⟩
  | applyConfig config =>
      rw [step]
      split_ifs
      · exact h
      · exact ⟨h.paired, h.soon, h.first⟩
  | applyEnds status =>
      rw [step]
      split_ifs
      · exact h.applyEnds status
      · exact h
  | setup config status =>
      rw [step]
      split_ifs
      · exact ⟨h.paired, h.soon, h.first⟩
      · have hbegins : (m.applyBegins config).Timed := ⟨h.paired, h.soon, h.first⟩
        have hends : (m.setupApplies config status).Timed := hbegins.applyEnds status
        exact ⟨hends.paired, hends.soon, hends.first⟩

/-- Only where a timer expires is the network told anything. -/
lemma network_step {e : ReconnectionEvent} (he : e ≠ .timer) : (m.step e).network = m.network := by
  have hsync : ∀ m' : WebProxyManager, m'.syncStatusFromTransport.network = m'.network := fun m' => by
    rcases exists_syncStatusFromTransport m' with ⟨status, lastError, heq⟩
    rw [heq]
  have hschedule : ∀ m' : WebProxyManager, m'.scheduleReconnect.network = m'.network := fun m' => by
    rcases scheduleReconnect_cases m' with ⟨heq, -⟩ | ⟨heq, -⟩ | ⟨heq, -⟩ | ⟨heq, -⟩ <;> rw [heq]
  cases e with
  | transportState status =>
      simp only [step, WebProxyManager.onTransportState]
      rw [hsync]
      split_ifs
      · rfl
      · exact hschedule _
      · rfl
  | healthTick status =>
      simp only [step, WebProxyManager.healthTick]
      split_ifs
      · exact (hschedule _).trans (hsync _)
      · exact hsync _
      · rfl
  | timer => exact absurd rfl he
  | wait duration => rfl
  | applyConfig config =>
      rw [step]
      split_ifs <;> rfl
  | applyEnds status =>
      rw [step]
      split_ifs
      · exact hsync _
      · rfl
  | setup config status =>
      rw [step]
      split_ifs
      · rfl
      · exact hsync _

/-! ## The attempts -/

variable (m) in
/-- No more attempts were made than are counted, and where one is pending it is counted and shown. -/
structure Shows (restarts : ℕ) : Prop where
  counted : restarts ≤ m.reconnectAttempt
  pending : m.isProxyEnabled = true → m.reconnectTimer ≠ none →
    m.status = .reconnecting ∧ restarts < m.reconnectAttempt

variable {restarts : ℕ}

lemma sync_status (henabled : m.isProxyEnabled = true) (hstate : m.transportStatus.state.isConnecting = true) :
    m.syncStatusFromTransport.status = .reconnecting := by
  rw [syncStatusFromTransport, if_neg (by rw [henabled]; exact Bool.false_ne_true)]
  cases hcase : m.transportStatus.state with
  | connecting => rfl
  | reconnecting => rfl
  | _ =>
      rw [hcase] at hstate
      cases hstate

/-- The status is taken from a transport that connects, if a reconnection is pending. -/
lemma shows_sync (hcounted : restarts ≤ m.reconnectAttempt)
    (hpending : m.isProxyEnabled = true → m.reconnectTimer ≠ none →
      m.transportStatus.state.isConnecting = true ∧ restarts < m.reconnectAttempt) :
    m.syncStatusFromTransport.Shows restarts := by
  have hstatus := sync_status (m := m)
  rcases exists_syncStatusFromTransport m with ⟨status, lastError, heq⟩
  rw [heq] at hstatus ⊢
  refine ⟨hcounted, fun henabled htimer => ?_⟩
  rcases hpending henabled htimer with ⟨hstate, hlt⟩
  exact ⟨hstatus henabled hstate, hlt⟩

lemma Shows.schedule (h : m.Shows restarts) : m.scheduleReconnect.Shows restarts := by
  rcases scheduleReconnect_cases m with ⟨heq, -⟩ | ⟨heq, -⟩ | ⟨heq, hnone, -⟩ | ⟨heq, -⟩
  · rwa [heq]
  · rwa [heq]
  · rw [heq]
    exact ⟨h.counted, fun _ htimer => absurd hnone htimer⟩
  · rw [heq]
    exact ⟨h.counted.trans (Nat.le_succ _), fun _ _ => ⟨rfl, Nat.lt_succ_of_le h.counted⟩⟩

/-- A failure after which no reconnection is wanted, or none is left. -/
lemma scheduleReconnect_timer (hnone : m.reconnectTimer = none)
    (hexhausted : m.config.autoReconnect = false ∨ m.config.maxReconnectAttempts ≤ m.reconnectAttempt) :
    m.scheduleReconnect.reconnectTimer = none ∧ m.scheduleReconnect.reconnectAttempt = m.reconnectAttempt := by
  rcases scheduleReconnect_cases m with ⟨heq, -⟩ | ⟨heq, -⟩ | ⟨heq, -⟩ | ⟨-, hauto, hlt⟩
  · exact ⟨by rw [heq, hnone], by rw [heq]⟩
  · exact ⟨by rw [heq, hnone], by rw [heq]⟩
  · exact ⟨by rw [heq, hnone], by rw [heq]⟩
  · rcases hexhausted with hoff | hle
    · exact absurd (hoff.symm.trans hauto) Bool.false_ne_true
    · exact absurd hlt (not_lt.mpr hle)

end WebProxyManager

/-! ## The runs -/

def ReconnectionEvent.isConnected : ReconnectionEvent → Bool
  | .transportState status => status.state = .connected
  | _ => false

/-- The manager; how often the network was switched off since the hook last reported that it is connected; the address
that is being applied, and the one that was applied last. -/
structure ReconnectionRun where
  manager : WebProxyManager := {}
  restarts : ℕ := 0
  applying : Option Str := none
  applied : Option Str := none
deriving DecidableEq

namespace ReconnectionRun

open WebProxyManager

variable (r : ReconnectionRun) (e : ReconnectionEvent)

/-- The network is switched off. -/
def Restarts : Prop := (r.manager.step e).network = r.manager.network ++ [false]

instance : Decidable (r.Restarts e) := inferInstanceAs (Decidable (_ = _))

def step : ReconnectionRun where
  manager := r.manager.step e
  restarts := if r.Restarts e then r.restarts + 1 else if e.isConnected then 0 else r.restarts
  applying :=
    match e with
    | .applyConfig config => if r.manager.isApplying then r.applying else some config.url
    | _ => r.applying
  applied :=
    match e with
    | .applyEnds _ => if r.manager.isApplying then r.applying else r.applied
    | .setup config _ => if r.manager.isApplying then r.applied else some config.url
    | _ => r.applied

/-- The user has applied an address that is not the one before. -/
def AppliesOther : ReconnectionEvent → Prop
  | .applyEnds _ => r.manager.isApplying = true ∧ r.applying ≠ r.applied
  | _ => False

/-- What a step is to keep to. -/
structure Keeps : Prop where
  restarts : r.Restarts e → ((r.step e).restarts : ℤ) ≤ r.manager.config.maxReconnectAttempts
  allowed : r.Restarts e → r.manager.isProxyEnabled = true ∧ r.manager.config.autoReconnect = true
  paired : (r.step e).manager.Paired
  status : (r.step e).manager.isProxyEnabled = true → (r.step e).manager.reconnectTimer ≠ none →
    (r.step e).manager.status = .reconnecting
  budget : r.AppliesOther e → (r.step e).manager.reconnectAttempt = 0

/-- While a reconnection is pending the hook only reports that it connects, the proxy is not switched on, and the
attempts are not made fewer nor reconnections switched off; a failure is reported only where no attempt is left or
none is wanted; and another address is applied only where none was made. -/
def Orderly : ReconnectionEvent → Prop
  | .transportState status => r.manager.isProxyEnabled = true → status.state.isConnecting = true ∨
      (r.manager.reconnectTimer = none ∧ (status.state = .failed → r.manager.config.autoReconnect = false ∨
        r.manager.config.maxReconnectAttempts ≤ r.manager.reconnectAttempt))
  | .healthTick status => r.manager.healthTimer = true → r.manager.isProxyEnabled = true →
      r.manager.reconnectTimer ≠ none → status.state.isConnecting = true
  | .timer => r.manager.networkOn = [] → r.manager.reconnectTimer ≠ none → r.manager.isProxyEnabled = true →
      r.manager.config.autoReconnect = true ∧
        (r.manager.reconnectAttempt : ℤ) ≤ r.manager.config.maxReconnectAttempts
  | .wait _ => True
  | .applyConfig config => r.manager.isApplying = false → r.manager.reconnectTimer ≠ none →
      (config.enabled && config.isConfigured) = true → r.manager.isProxyEnabled = true
  | .applyEnds status => r.manager.isApplying = true →
      (r.manager.isProxyEnabled = true → r.manager.reconnectTimer ≠ none → status.state.isConnecting = true) ∧
        (r.applying ≠ r.applied → r.manager.reconnectAttempt = 0)
  | .setup config status => r.manager.reconnectTimer ≠ none → (config.enabled && config.isConfigured) = true →
      r.manager.isProxyEnabled = true ∧ (r.manager.isApplying = true ∨ status.state.isConnecting = true)

instance : Decidable (r.Orderly e) :=
  match e with
  | .transportState _ => inferInstanceAs (Decidable (_ → _ ∨ _))
  | .healthTick _ => inferInstanceAs (Decidable (_ → _ → _ → _))
  | .timer => inferInstanceAs (Decidable (_ → _ → _ → _ ∧ _))
  | .wait _ => inferInstanceAs (Decidable True)
  | .applyConfig _ => inferInstanceAs (Decidable (_ → _ → _ → _))
  | .applyEnds _ => inferInstanceAs (Decidable (_ → _ ∧ _))
  | .setup _ _ => inferInstanceAs (Decidable (_ → _ → _ ∧ _))

/-! ### What a run keeps -/

structure Inv (r : ReconnectionRun) : Prop where
  timed : r.manager.Timed
  shows : r.manager.Shows r.restarts

variable {r} {e}

lemma not_restarts (he : e ≠ .timer) : ¬r.Restarts e := by
  rw [Restarts, network_step he]
  intro hnetwork
  have hlength := congrArg List.length hnetwork
  rw [List.length_append, List.length_singleton] at hlength
  omega

lemma restarts_step (he : e ≠ .timer) : (r.step e).restarts = if e.isConnected then 0 else r.restarts :=
  if_neg (not_restarts he)

lemma restarts_same (he : e ≠ .timer) (hconnected : e.isConnected = false) : (r.step e).restarts = r.restarts := by
  rw [restarts_step he, hconnected]
  exact if_neg Bool.false_ne_true

lemma Inv.transportState (h : r.Inv) {status : WssTransportStatus} (hmove : r.Orderly (.transportState status)) :
    (r.manager.onTransportState status).Shows (if status.state = .connected then 0 else r.restarts) := by
  simp only [WebProxyManager.onTransportState]
  split_ifs with hconnected hfailed
  · refine shows_sync le_rfl fun henabled htimer => ?_
    rcases hmove henabled with hstate | ⟨hnone, -⟩
    · rw [hconnected] at hstate
      exact nomatch hstate
    · exact absurd hnone htimer
  · rcases hmove hfailed.2 with hstate | ⟨hnone, hexhausted⟩
    · rw [hfailed.1] at hstate
      exact nomatch hstate
    · have hsame := scheduleReconnect_timer
        (m := { r.manager with transportStatus := status, lastError := status.lastError }) hnone (hexhausted hfailed.1)
      exact shows_sync (h.shows.counted.trans hsame.2.ge) fun _ htimer => absurd hsame.1 htimer
  · refine shows_sync h.shows.counted fun henabled htimer => ⟨?_, (h.shows.pending henabled htimer).2⟩
    exact (hmove henabled).resolve_right fun hnone => htimer hnone.1

lemma Inv.healthTick (h : r.Inv) {status : WssTransportStatus} (hmove : r.Orderly (.healthTick status)) :
    (r.manager.step (.healthTick status)).Shows r.restarts := by
  rw [WebProxyManager.step]
  split_ifs with hhealth
  · have hsync : ({ r.manager with transportStatus := status } : WebProxyManager).syncStatusFromTransport.Shows
        r.restarts :=
      shows_sync h.shows.counted fun henabled htimer =>
        ⟨hmove hhealth henabled htimer, (h.shows.pending henabled htimer).2⟩
    simp only [WebProxyManager.healthTick]
    split_ifs
    · exact hsync.schedule
    · exact hsync
  · exact h.shows

lemma Inv.applyEnds (h : r.Inv) {status : WssTransportStatus}
    (hmove : r.manager.isProxyEnabled = true → r.manager.reconnectTimer ≠ none → status.state.isConnecting = true) :
    (r.manager.applyEnds status).Shows r.restarts := by
  have hsync : ({ r.manager with transportStatus := status } : WebProxyManager).syncStatusFromTransport.Shows
      r.restarts :=
    shows_sync h.shows.counted fun henabled htimer => ⟨hmove henabled htimer, (h.shows.pending henabled htimer).2⟩
  exact ⟨hsync.counted, hsync.pending⟩

/-- A configuration that has come while a reconnection is pending does not switch the proxy on. -/
lemma Inv.config (h : r.Inv) {m : WebProxyManager} (hstatus : m.status = r.manager.status)
    (hattempt : m.reconnectAttempt = r.manager.reconnectAttempt)
    (hmove : m.reconnectTimer ≠ none → m.isProxyEnabled = true →
      r.manager.reconnectTimer ≠ none ∧ r.manager.isProxyEnabled = true) : m.Shows r.restarts := by
  refine ⟨hattempt ▸ h.shows.counted, fun henabled htimer => ?_⟩
  rcases hmove htimer henabled with ⟨htimer', henabled'⟩
  rw [hstatus, hattempt]
  exact h.shows.pending henabled' htimer'

lemma Inv.setup (h : r.Inv) {config : WssProxyConfig} {status : WssTransportStatus}
    (hmove : r.Orderly (.setup config status)) :
    (r.manager.step (.setup config status)).Shows r.restarts := by
  rw [WebProxyManager.step]
  split_ifs with happlying
  · exact h.config rfl rfl fun htimer henabled => ⟨htimer, (hmove htimer henabled).1⟩
  · have hsync : ({ r.manager.applyBegins config with transportStatus := status } :
        WebProxyManager).syncStatusFromTransport.Shows r.restarts := by
      refine shows_sync h.shows.counted fun henabled htimer => ?_
      rcases hmove htimer henabled with ⟨hbefore, hstate⟩
      exact ⟨hstate.resolve_left happlying, (h.shows.pending hbefore htimer).2⟩
    exact ⟨hsync.counted, hsync.pending⟩

/-- What the timer that is next does: it leaves the network as it is, or switches it on, or it is that of a
reconnection and switches it off. -/
lemma Inv.timer (h : r.Inv) :
    (¬r.Restarts .timer ∧ (r.manager.step .timer).Shows r.restarts) ∨
      (r.Restarts .timer ∧ r.manager.networkOn = [] ∧ r.manager.reconnectTimer ≠ none ∧
        r.manager.isProxyEnabled = true ∧ r.restarts < r.manager.reconnectAttempt ∧
        (r.manager.step .timer).Shows (r.restarts + 1)) := by
  have hlength : ∀ {l : List Bool}, l = r.manager.network ++ [false] → l.length = r.manager.network.length + 1 := by
    rintro l rfl
    rw [List.length_append, List.length_singleton]
  rw [Restarts]
  change (¬r.manager.timerExpires.network = _ ∧ r.manager.timerExpires.Shows _) ∨
    (r.manager.timerExpires.network = _ ∧ _ ∧ _ ∧ _ ∧ _ ∧ r.manager.timerExpires.Shows _)
  rcases h.timed.timerExpires_cases with heq | ⟨on, rest, hon, heq⟩ | ⟨time, hon, htimer, heq⟩
  · rw [heq]
    exact .inl ⟨fun hnetwork => absurd (hlength hnetwork) (Nat.lt_succ_self _).ne, h.shows⟩
  · rw [heq]
    refine .inl ⟨fun hnetwork => ?_, h.shows.counted, h.shows.pending⟩
    exact nomatch List.append_cancel_left hnetwork
  · rw [heq]
    simp only [reconnectExpires]
    split_ifs with hdisabled
    · refine .inl ⟨fun hnetwork => absurd (hlength hnetwork) (Nat.lt_succ_self _).ne, h.shows.counted, ?_⟩
      exact fun _ hsome => absurd rfl hsome
    · have henabled : r.manager.isProxyEnabled = true := by
        rwa [Bool.not_eq_true', Bool.not_eq_false] at hdisabled
      have htimer' : r.manager.reconnectTimer ≠ none := fun hnone => nomatch htimer.symm.trans hnone
      have hlt := (h.shows.pending henabled htimer').2
      exact .inr ⟨rfl, hon, htimer', henabled, hlt, hlt, fun _ hsome => absurd rfl hsome⟩

lemma inv_step (h : r.Inv) (hmove : r.Orderly e) : (r.step e).Inv := by
  refine ⟨timed_step h.timed e, ?_⟩
  change (r.manager.step e).Shows (r.step e).restarts
  cases e with
  | transportState status =>
      have hrestarts : (r.step (.transportState status)).restarts =
          if status.state = .connected then 0 else r.restarts := by
        rw [restarts_step (e := .transportState status) nofun]
        exact if_congr decide_eq_true_iff rfl rfl
      rw [hrestarts]
      exact h.transportState hmove
  | healthTick status =>
      rw [restarts_same (e := .healthTick status) nofun rfl]
      exact h.healthTick hmove
  | timer =>
      rcases h.timer with ⟨hnot, hshows⟩ | ⟨hrestarts, -, -, -, -, hshows⟩
      · have hsame : (r.step .timer).restarts = r.restarts := if_neg hnot
        rwa [hsame]
      · have hmore : (r.step .timer).restarts = r.restarts + 1 := if_pos hrestarts
        rwa [hmore]
  | wait duration =>
      rw [restarts_same (e := .wait duration) nofun rfl]
      exact ⟨h.shows.counted, h.shows.pending⟩
  | applyConfig config =>
      rw [restarts_same (e := .applyConfig config) nofun rfl, WebProxyManager.step]
      split_ifs with happlying
      · exact h.shows
      · exact h.config rfl rfl fun htimer henabled =>
          ⟨htimer, hmove (Bool.not_eq_true _ |>.mp happlying) htimer henabled⟩
  | applyEnds status =>
      rw [restarts_same (e := .applyEnds status) nofun rfl, WebProxyManager.step]
      split_ifs with happlying
      · exact h.applyEnds (hmove happlying).1
      · exact h.shows
  | setup config status =>
      rw [restarts_same (e := .setup config status) nofun rfl]
      exact h.setup hmove

lemma keeps_of_orderly (h : r.Inv) (hmove : r.Orderly e) : r.Keeps e := by
  have hnext := inv_step h hmove
  have htimer : r.Restarts e → r.manager.networkOn = [] ∧ r.manager.reconnectTimer ≠ none ∧
      r.manager.isProxyEnabled = true ∧ r.restarts < r.manager.reconnectAttempt ∧ e = .timer := by
    intro hrestarts
    by_cases he : e = .timer
    · subst he
      rcases h.timer with ⟨hnot, -⟩ | ⟨-, hon, hsome, henabled, hlt, -⟩
      · exact absurd hrestarts hnot
      · exact ⟨hon, hsome, henabled, hlt, rfl⟩
    · exact absurd hrestarts (not_restarts he)
  refine ⟨fun hrestarts => ?_, fun hrestarts => ?_, hnext.timed.paired, fun henabled hsome => ?_, fun hother => ?_⟩
  · rcases htimer hrestarts with ⟨hon, hsome, henabled, hlt, rfl⟩
    have hmore : (r.step .timer).restarts = r.restarts + 1 := if_pos hrestarts
    have hmax := (hmove hon hsome henabled).2
    omega
  · rcases htimer hrestarts with ⟨hon, hsome, henabled, -, rfl⟩
    exact ⟨henabled, (hmove hon hsome henabled).1⟩
  · exact (hnext.shows.pending henabled hsome).1
  · cases e with
    | applyEnds status =>
        have hzero := (hmove hother.1).2 hother.2
        rcases exists_syncStatusFromTransport { r.manager with transportStatus := status } with ⟨_, _, heq⟩
        change (if r.manager.isApplying then r.manager.applyEnds status else r.manager).reconnectAttempt = 0
        rw [if_pos hother.1, applyEnds, heq]
        exact hzero
    | _ => exact hother.elim

/-- **The reconnections keep to the attempts**: in each run whose steps are orderly, the network is switched off at most
as often as attempts are allowed between two reports that the hook is connected, only while the proxy is enabled and is
to reconnect, and switched on each time; a reconnection that is pending is shown; and another address has all attempts
again. -/
theorem keeps_of_meets (events : List ReconnectionEvent) (h : Meets step Orderly {} events) :
    Meets step Keeps {} events := by
  have hstart : Inv {} :=
    ⟨⟨⟨0, .inl ⟨rfl, rfl⟩⟩, List.forall_mem_nil _, nofun⟩, le_rfl, fun _ hsome => absurd rfl hsome⟩
  exact (h.invariant hstart (fun _ _ hinv hmove => inv_step hinv hmove)
    fun _ _ hinv hmove => keeps_of_orderly hinv hmove).1

def proxied : WssProxyConfig := { enabled := true, url := units "wss://proxy.example" }

def moved : WssProxyConfig := { proxied with url := units "wss://other.example" }

/-- The health timer finds that the transport has failed, and the network is switched off and on; when the hook is
connected the user moves to another address. -/
theorem keeps_after_health_tick :
    let events : List ReconnectionEvent := [.setup proxied { state := .connecting }, .wait 10000,
      .healthTick { state := .failed }, .wait 2000, .timer, .timer, .transportState { state := .connected },
      .applyConfig moved, .applyEnds { state := .connecting }]
    (events.foldl step {}).manager.network = [false, true] ∧ Meets step Keeps {} events := by
  exact ⟨by decide +kernel, keeps_of_meets _ (by decide +kernel)⟩

/-- The hook reports a failure: a reconnection is pending, and the status is that of an error.  The user switches the
reconnections off and moves to another address: the network is switched off all the same, and an attempt is gone. -/
theorem failure_not_shown :
    let events : List ReconnectionEvent := [.setup proxied { state := .connecting },
      .transportState { state := .failed }]
    let after := events ++ [.applyConfig { moved with autoReconnect := false }, .applyEnds { state := .connecting },
      .timer]
    (events.foldl step {}).manager.reconnectTimer = some 2000 ∧ (events.foldl step {}).manager.status = .error ∧
      (after.foldl step {}).manager.network = [false] ∧ (after.foldl step {}).manager.reconnectAttempt = 1 ∧
      ¬Meets step Keeps {} events := by
  refine ⟨by decide +kernel, by decide +kernel, by decide +kernel, by decide +kernel, ?_⟩
  rintro ⟨-, hfailed, -⟩
  have hstatus := hfailed.status (by decide +kernel) (by decide +kernel)
  exact absurd hstatus (by decide +kernel)

end ReconnectionRun

end RioGram.WebProxy
