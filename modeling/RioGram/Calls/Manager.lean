import RioGram.Calls.Models
import RioGram.Core.Reachable
import RioGram.Utils.Base64

/-!
# The manager of calls

The state of `CallManager`, what it does with updates of TDLib, with what the user does and with what the media engine
emits, and what is left of `_onCallReady` and `_onCallEnded` when they wait.  What a step does outside of the manager is
recorded in `effects`, which a step starts with none of.

* `oneCall_iff` — the steps that leave an active call to itself.
* `forall_oneCall_iff` — the runs of which all steps do.
* `bytes_iff` — the data that gets across.
-/

namespace RioGram.Calls

open Js Wire Reaching

structure UserCallCapabilities where
  canBeCalled : Bool := false
  supportsVideoCalls : Bool := false
deriving DecidableEq

/-- A field of JSON whose value can be anything: of a list, what is no integer is not looked at. -/
inductive DataField where
  | list (items : List (Option ℤ))
  | string (text : Str)
  | other
deriving DecidableEq

inductive CallRequest where
  | createCall (userId : ℤ) (isVideo : Bool)
  | acceptCall (callId : ℤ)
  | discardCall (callId : ℤ) (isDisconnected : Bool) (duration : ℤ) (isVideo : Bool)
  | sendCallSignalingData (callId : ℤ) (data : DataField)
  | getUserFullInfo (userId : ℤ)
  | getUser (userId : ℤ)
deriving DecidableEq

/-- What is done outside of the manager: a request, a call of the platform service, or one of the bridge to the media
engine. -/
inductive CallEffect where
  | send (request : CallRequest)
  | reportIncomingCall (callUuid handle title : Str) (isVideo : Bool)
  | startActiveCall (callUuid handle title : Str) (isVideo isIncoming : Bool)
  | setCallConnected (callUuid : Str)
  | endActiveCall (callUuid : Str)
  | onCallReady (callId : ℤ) (payload : CallReadyPayload) (isVideo : Bool)
  | onSignalingData (data : List ℤ)
  | onCallEnded
  | setMuted (isMuted : Bool)
  | setVideoEnabled (isEnabled : Bool)
deriving DecidableEq

/-- Media are started anew, stopped or changed, or a call of the platform is ended. -/
def CallEffect.intervenes : CallEffect → Bool
  | onCallReady .. => true
  | onCallEnded => true
  | setMuted _ => true
  | setVideoEnabled _ => true
  | endActiveCall _ => true
  | _ => false

def CallEffect.isSignaling : CallEffect → Bool
  | send (.sendCallSignalingData ..) => true
  | onSignalingData _ => true
  | _ => false

/-- What is left of `_onCallReady` or `_onCallEnded`, by what it waits for. -/
inductive CallTask where
  | startActiveCall (call : CallSummary) (payload : CallReadyPayload)
  | setCallConnected (call : CallSummary) (payload : CallReadyPayload)
  | onCallReady (call : CallSummary)
  | onCallEnded (call : CallSummary)
  | endActiveCall (call : CallSummary)
  | delayed (call : CallSummary)

/-- The call whose update started the task. -/
def CallTask.call : CallTask → CallSummary
  | startActiveCall call _ => call
  | setCallConnected call _ => call
  | onCallReady call => call
  | onCallEnded call => call
  | endActiveCall call => call
  | delayed call => call

/-- Moments are milliseconds, and the duration is shown in them. -/
structure CallManager where
  userCapabilities : ℤ → Option UserCallCapabilities := fun _ => none
  userDisplayNames : ℤ → Option Str := fun _ => none
  activeCall : Option CallSummary := none
  connectedAt : Option ℤ := none
  durationTimer : Bool := false
  callDuration : ℤ := 0
  isMuted : Bool := false
  isVideoEnabled : Bool := false
  lastError : Option Str := none
  platformCallUuid : Option Str := none
  mediaState : CallMediaState := {}
  tasks : List CallTask := []
  effects : List CallEffect := []

inductive CallEvent where
  | loadUserCallCapabilities (userId : ℤ)
  | startOutgoingCall (userId : ℤ) (isVideo : Bool) (displayName : Option Str)
  | acceptCall
  /-- `declineCall` or `hangUp`. -/
  | discardActiveCall (now : ℤ)
  | toggleMute
  | toggleVideo
  | updateCall (call : CallJson) (now : ℤ)
  | updateNewCallSignalingData (callId : Option ℤ) (data : DataField)
  | userFullInfo (extra : Option Str) (capabilities : UserCallCapabilities)
  | user (id : Option ℤ) (firstName lastName : Str)
  | error (extra : Option Str) (message : Option Str)
  | mediaState (state : CallMediaState)
  /-- The handler that the bridge has for what the engine emits. -/
  | sendSignalingData (data : List ℤ)
  | durationTick (now : ℤ)
  /-- What a task waits for is there, or has failed. -/
  | resume (task : ℕ) (isDone : Bool)

namespace CallManager

variable (m : CallManager)

def emit (effect : CallEffect) : CallManager := { m with effects := m.effects ++ [effect] }

def wait (task : CallTask) : CallManager := { m with tasks := m.tasks ++ [task] }

def displayNameFor (userId : ℤ) : Str := (m.userDisplayNames userId).getD (units "Пользователь")

def callTitle (isVideo : Bool) : Str := if isVideo then units "Видеозвонок" else units "Звонок"

/-- `'call-${…}'`. -/
def callUuid (callId : ℤ) : Str := ascii "call-" ++ intToString callId

/-! ## The user -/

def requestUserName (userId : ℤ) : CallManager :=
  if (m.userDisplayNames userId).isSome then m else m.emit (.send (.getUser userId))

def loadUserCallCapabilities (userId : ℤ) : CallManager :=
  if (m.userCapabilities userId).isSome then m
  else (m.emit (.send (.getUserFullInfo userId))).requestUserName userId

def setDisplayName (userId : ℤ) (name : Str) : CallManager :=
  { m with userDisplayNames := fun i => if i = userId then some name else m.userDisplayNames i }

def startOutgoingCall (userId : ℤ) (isVideo : Bool) (displayName : Option Str) : CallManager :=
  if m.activeCall.any (!·.isEnded) then { m with lastError := some (units "Уже есть активный звонок") }
  else
    let m := { m with lastError := none }
    let m := match displayName with
      | some name => if name = [] then m else m.setDisplayName userId name
      | none => m
    (m.loadUserCallCapabilities userId).emit (.send (.createCall userId isVideo))

def acceptCall : CallManager :=
  match m.activeCall with
  | some call => if call.isIncomingRinging then m.emit (.send (.acceptCall call.id)) else m
  | none => m

def discardActiveCall (isDisconnected : Bool) (now : ℤ) : CallManager :=
  match m.activeCall with
  | some call =>
      let duration := match m.connectedAt with
        | none => 0
        | some connectedAt => (now - connectedAt).tdiv 1000
      m.emit (.send (.discardCall call.id isDisconnected duration call.isVideo))
  | none => m

def toggleMute : CallManager := { m with isMuted := !m.isMuted }.emit (.setMuted !m.isMuted)

def toggleVideo : CallManager :=
  match m.activeCall with
  | some call =>
      if call.isVideo then { m with isVideoEnabled := !m.isVideoEnabled }.emit (.setVideoEnabled !m.isVideoEnabled)
      else m
  | none => m

/-! ## Updates of calls -/

def startDurationTimer : CallManager := { m with durationTimer := true }

def stopDurationTimer : CallManager := { m with durationTimer := false, callDuration := 0 }

/-- `_onCallReady` up to where it waits for the platform service. -/
def onCallReady (state : CallStateJson) (call : CallSummary) (now : ℤ) : CallManager :=
  match TdlibCallParser.parseCallReadyPayload state with
  | none => m
  | some payload =>
      let m := { m with connectedAt := m.connectedAt <|> some now }.startDurationTimer
      let uuid := m.platformCallUuid.getD (callUuid call.id)
      let name := call.userDisplayName.getD (m.displayNameFor call.userId)
      ({ m with platformCallUuid := some uuid }.emit
        (.startActiveCall uuid name (callTitle call.isVideo) call.isVideo !call.isOutgoing)).wait
          (.startActiveCall call payload)

/-- `_onCallEnded` up to where it waits for the media engine. -/
def onCallEnded (call : CallSummary) : CallManager := (m.emit .onCallEnded).wait (.onCallEnded call)

def reportIncoming (parsed : CallSummary) : CallManager :=
  if parsed.isIncomingRinging ∧ m.platformCallUuid = none then
    { m with platformCallUuid := some (callUuid parsed.id) }.emit
      (.reportIncomingCall (callUuid parsed.id)
        ((m.userDisplayNames parsed.userId).getD (m.displayNameFor parsed.userId))
        (callTitle parsed.isVideo) parsed.isVideo)
  else m

/-- Whatever call it is, it becomes the active one. -/
def adopt (parsed : CallSummary) : CallManager :=
  { m with
    activeCall := some (parsed.copyWith (m.userDisplayNames parsed.userId))
    isVideoEnabled := parsed.isVideo }

/-- The cases of `_handleCallUpdate`. -/
def actOn (state : CallStateJson) (parsed : CallSummary) (now : ℤ) : CallManager :=
  match parsed.stateKind with
  | .ready => m.onCallReady state parsed now
  | .discarded => m.onCallEnded parsed
  | .error => m.onCallEnded parsed
  | .exchangingKeys => m.stopDurationTimer
  | _ => m

def handleCallUpdate (raw : CallJson) (now : ℤ) : CallManager :=
  match TdlibCallParser.parseCall raw with
  | none => m
  | some parsed =>
      if parsed.id = 0 then m else ((m.adopt parsed).reportIncoming parsed).actOn raw.state parsed now

/-! ## What waits -/

/-- The end of `_onCallEnded`. -/
def reset : CallManager :=
  { m.stopDurationTimer with
    connectedAt := none
    isMuted := false
    isVideoEnabled := false
    mediaState := {} }

/-- What a task does when it goes on; if what it has waited for has failed, it fails. -/
def goOn (task : CallTask) (isDone : Bool) : CallManager :=
  match task with
  | .startActiveCall call payload =>
      if isDone then
        match m.platformCallUuid with
        -- the check that it is not null fails
        | none => m
        | some uuid => (m.emit (.setCallConnected uuid)).wait (.setCallConnected call payload)
      else m
  | .setCallConnected call payload =>
      if isDone then (m.emit (.onCallReady call.id payload call.isVideo)).wait (.onCallReady call) else m
  | .onCallReady _ => m
  | .onCallEnded call =>
      if isDone then
        match m.platformCallUuid with
        | none => m.reset.wait (.delayed call)
        | some uuid => (m.emit (.endActiveCall uuid)).wait (.endActiveCall call)
      else m
  | .endActiveCall call =>
      if isDone then { m with platformCallUuid := none }.reset.wait (.delayed call) else m
  | .delayed call =>
      if m.activeCall.any fun active => active.id = call.id && active.isEnded then { m with activeCall := none } else m

def resume (task : ℕ) (isDone : Bool) : CallManager :=
  match m.tasks[task]? with
  | none => m
  | some current => { m with tasks := m.tasks.eraseIdx task }.goOn current isDone

/-! ## Signaling -/

def bytesFromDynamic : DataField → List ℤ
  | .list items => items.filterMap id
  | .string text => text.map fun c => (c.toNat : ℤ)
  | .other => []

def handleNewSignalingData (callId : Option ℤ) (data : DataField) : CallManager :=
  if callId = none ∨ m.activeCall.map (·.id) ≠ callId then m
  else if bytesFromDynamic data = [] then m
  else m.emit (.onSignalingData (bytesFromDynamic data))

def sendSignalingData (data : List ℤ) : CallManager :=
  match m.activeCall with
  | none => m
  | some call => if data = [] then m else m.emit (.send (.sendCallSignalingData call.id (.list (data.map some))))

/-! ## Other updates -/

def handleUserFullInfo (extra : Option Str) (capabilities : UserCallCapabilities) : CallManager :=
  match extra with
  | none => m
  | some extra =>
      if !(ascii "callUserFullInfo_").isPrefixOf extra then m
      else
        match tryParseInt (extra.drop 17) with
        | none => m
        | some userId =>
            { m with userCapabilities := fun i => if i = userId then some capabilities else m.userCapabilities i }

def handleUser (id : Option ℤ) (firstName lastName : Str) : CallManager :=
  match id with
  | none => m
  | some userId =>
      let displayName := trimDart (firstName ++ (32 :: lastName))
      if displayName = [] then m
      else
        { m.setDisplayName userId displayName with
          activeCall := m.activeCall.map fun call =>
            if call.userId = userId then call.copyWith (some displayName) else call }

def handleError (extra message : Option Str) : CallManager :=
  if extra.any fun e => (ascii "createCall_").isPrefixOf e || (ascii "acceptCall_").isPrefixOf e then
    { m with lastError := some (message.getD (units "Ошибка звонка")) }
  else m

/-! ## Steps -/

def handle : CallEvent → CallManager
  | .loadUserCallCapabilities userId => m.loadUserCallCapabilities userId
  | .startOutgoingCall userId isVideo displayName => m.startOutgoingCall userId isVideo displayName
  | .acceptCall => m.acceptCall
  | .discardActiveCall now => m.discardActiveCall false now
  | .toggleMute => m.toggleMute
  | .toggleVideo => m.toggleVideo
  | .updateCall call now => m.handleCallUpdate call now
  | .updateNewCallSignalingData callId data => m.handleNewSignalingData callId data
  | .userFullInfo extra capabilities => m.handleUserFullInfo extra capabilities
  | .user id firstName lastName => m.handleUser id firstName lastName
  | .error extra message => m.handleError extra message
  | .mediaState state => { m with mediaState := state, isMuted := state.isMuted }
  | .sendSignalingData data => m.sendSignalingData data
  | .durationTick now =>
      if m.durationTimer then
        match m.connectedAt with
        | none => m
        | some connectedAt => { m with callDuration := now - connectedAt }
      else m
  | .resume task isDone => m.resume task isDone

/-- A step, whose effects are what it does outside. -/
def step (event : CallEvent) : CallManager := { m with effects := [] }.handle event

/-! ## One call at a time -/

/-- The call that an event is about: that of an update, or of the update that started a task. -/
def callOf : CallEvent → Option ℤ
  | .updateCall call _ => (TdlibCallParser.parseCall call).map (·.id)
  | .resume task _ => m.tasks[task]?.map (·.call.id)
  | _ => none

/-- The active call, its timer, its platform call and its media stay as they are. -/
structure LeavesCall (m n : CallManager) : Prop where
  activeCall : n.activeCall = m.activeCall
  connectedAt : n.connectedAt = m.connectedAt
  durationTimer : n.durationTimer = m.durationTimer
  callDuration : n.callDuration = m.callDuration
  platformCallUuid : n.platformCallUuid = m.platformCallUuid
  isMuted : n.isMuted = m.isMuted
  isVideoEnabled : n.isVideoEnabled = m.isVideoEnabled
  mediaState : n.mediaState = m.mediaState
  effects : ∀ effect ∈ n.effects, effect.intervenes = false

/-- Signaling data is sent and delivered for the active call. -/
def SignalsActive (event : CallEvent) (n : CallManager) : Prop :=
  (∀ callId data, .send (.sendCallSignalingData callId data) ∈ n.effects → m.activeCall.map (·.id) = some callId) ∧
    ∀ data, .onSignalingData data ∈ n.effects →
      ∃ callId field, event = .updateNewCallSignalingData (some callId) field ∧ m.activeCall.map (·.id) = some callId

/-- An event of a call leaves another one alone that is active and has not ended. -/
def OneCall (event : CallEvent) : Prop :=
  (∀ active, m.activeCall = some active → active.isEnded = false →
    ∀ callId, m.callOf event = some callId → callId ≠ active.id → LeavesCall m (m.step event)) ∧
  m.SignalsActive event (m.step event)

/-- Nothing is left that the end of a call resets. -/
def AtRest : Prop :=
  m.connectedAt = none ∧ m.durationTimer = false ∧ m.callDuration = 0 ∧ m.platformCallUuid = none ∧
    m.isMuted = false ∧ m.isVideoEnabled = false ∧ m.mediaState = {}

/-- What a task goes on with is not to start media, and finds nothing to reset. -/
def IsSpent (task : CallTask) (isDone : Bool) : Prop :=
  match task with
  | .setCallConnected _ _ => isDone = false
  | .onCallEnded _ => isDone = false ∨ m.AtRest
  | .endActiveCall _ => isDone = false ∨ m.AtRest
  | _ => True

/-- While a call is active and has not ended, no update of another one comes, and of what is left of others nothing
goes on that is not spent. -/
def Undisturbed (event : CallEvent) : Prop :=
  ∀ active, m.activeCall = some active → active.isEnded = false →
    match event with
    | .updateCall call _ =>
        ∀ parsed, TdlibCallParser.parseCall call = some parsed → parsed.id = 0 ∨ parsed.id = active.id
    | .resume task isDone =>
        ∀ current, m.tasks[task]? = some current → current.call.id = active.id ∨ m.IsSpent current isDone
    | _ => True

variable {m}

/-- Nothing of what has been done is signaling. -/
def Silent (m : CallManager) : Prop := ∀ effect ∈ m.effects, effect.isSignaling = false

lemma Silent.emit (h : m.Silent) {effect : CallEffect} (heffect : effect.isSignaling = false) :
    (m.emit effect).Silent := by
  intro e he
  rcases List.mem_append.mp he with hold | hnew
  · exact h e hold
  · rw [List.mem_singleton.mp hnew]
    exact heffect

lemma Silent.loadUserCallCapabilities (h : m.Silent) (userId : ℤ) : (m.loadUserCallCapabilities userId).Silent := by
  rw [CallManager.loadUserCallCapabilities, requestUserName]
  split_ifs
  · exact h
  · exact h.emit rfl
  · exact (h.emit rfl).emit rfl

lemma Silent.startOutgoingCall (h : m.Silent) (userId : ℤ) (isVideo : Bool) (displayName : Option Str) :
    (m.startOutgoingCall userId isVideo displayName).Silent := by
  simp only [CallManager.startOutgoingCall]
  split_ifs
  · exact h
  · refine Silent.emit (Silent.loadUserCallCapabilities ?_ userId) rfl
    split
    · split_ifs <;> exact h
    · exact h

lemma Silent.onCallReady (h : m.Silent) (state : CallStateJson) (call : CallSummary) (now : ℤ) :
    (m.onCallReady state call now).Silent := by
  rw [CallManager.onCallReady]
  split
  · exact h
  · exact Silent.emit h rfl

lemma Silent.reportIncoming (h : m.Silent) (parsed : CallSummary) : (m.reportIncoming parsed).Silent := by
  rw [CallManager.reportIncoming]
  split_ifs
  · exact Silent.emit h rfl
  · exact h

lemma Silent.actOn (h : m.Silent) (state : CallStateJson) (parsed : CallSummary) (now : ℤ) :
    (m.actOn state parsed now).Silent := by
  rw [CallManager.actOn]
  split
  · exact h.onCallReady state parsed now
  · exact Silent.emit h rfl
  · exact Silent.emit h rfl
  · exact h
  · exact h

lemma Silent.handleCallUpdate (h : m.Silent) (raw : CallJson) (now : ℤ) : (m.handleCallUpdate raw now).Silent := by
  rw [CallManager.handleCallUpdate]
  split
  · exact h
  · split_ifs
    · exact h
    · exact (Silent.reportIncoming (m := m.adopt _) h _).actOn raw.state _ now

lemma Silent.goOn (h : m.Silent) (task : CallTask) (isDone : Bool) : (m.goOn task isDone).Silent := by
  cases task with
  | startActiveCall call payload =>
      simp only [CallManager.goOn]
      split_ifs
      · split
        · exact h
        · exact h.emit rfl
      · exact h
  | setCallConnected call payload =>
      simp only [CallManager.goOn]
      split_ifs
      · exact h.emit rfl
      · exact h
  | onCallReady call => exact h
  | onCallEnded call =>
      simp only [CallManager.goOn]
      split_ifs
      · split
        · exact h
        · exact h.emit rfl
      · exact h
  | endActiveCall call =>
      simp only [CallManager.goOn]
      split_ifs <;> exact h
  | delayed call =>
      simp only [CallManager.goOn]
      split_ifs <;> exact h

lemma Silent.resume (h : m.Silent) (task : ℕ) (isDone : Bool) : (m.resume task isDone).Silent := by
  rw [CallManager.resume]
  split
  · exact h
  · exact Silent.goOn (m := { m with tasks := m.tasks.eraseIdx task }) h _ isDone

/-- Only two events signal. -/
lemma Silent.handle (h : m.Silent) {event : CallEvent}
    (hreceive : ∀ callId data, event ≠ .updateNewCallSignalingData callId data)
    (hsend : ∀ data, event ≠ .sendSignalingData data) : (m.handle event).Silent := by
  cases event with
  | loadUserCallCapabilities userId => exact h.loadUserCallCapabilities userId
  | startOutgoingCall userId isVideo displayName => exact h.startOutgoingCall userId isVideo displayName
  | acceptCall =>
      simp only [CallManager.handle, CallManager.acceptCall]
      split
      · split_ifs
        · exact h.emit rfl
        · exact h
      · exact h
  | discardActiveCall now =>
      simp only [CallManager.handle, CallManager.discardActiveCall]
      split
      · exact h.emit rfl
      · exact h
  | toggleMute => exact Silent.emit h rfl
  | toggleVideo =>
      simp only [CallManager.handle, CallManager.toggleVideo]
      split
      · split_ifs
        · exact Silent.emit h rfl
        · exact h
      · exact h
  | updateCall call now => exact h.handleCallUpdate call now
  | updateNewCallSignalingData callId data => exact absurd rfl (hreceive callId data)
  | userFullInfo extra capabilities =>
      simp only [CallManager.handle, handleUserFullInfo]
      repeat' split
      all_goals exact h
  | user id firstName lastName =>
      simp only [CallManager.handle, handleUser]
      repeat' split
      all_goals exact h
  | error extra message =>
      simp only [CallManager.handle, handleError]
      split_ifs <;> exact h
  | mediaState state => exact h
  | sendSignalingData data => exact absurd rfl (hsend data)
  | durationTick now =>
      simp only [CallManager.handle]
      repeat' split
      all_goals exact h
  | resume task isDone => exact h.resume task isDone

lemma Silent.signalsActive {n : CallManager} (h : n.Silent) (event : CallEvent) : m.SignalsActive event n :=
  ⟨fun _ _ hmem => (nomatch h _ hmem), fun _ hmem => (nomatch h _ hmem)⟩

/-- **Signaling is for the active call** in every step. -/
lemma signalsActive_step (event : CallEvent) : m.SignalsActive event (m.step event) := by
  have hsilent : ({ m with effects := [] } : CallManager).Silent := fun effect hmem => nomatch hmem
  by_cases hreceive : ∃ callId data, event = .updateNewCallSignalingData callId data
  · rcases hreceive with ⟨callId, data, rfl⟩
    simp only [step, handle, handleNewSignalingData]
    split_ifs with hcall hempty
    · exact hsilent.signalsActive _
    · exact hsilent.signalsActive _
    · rw [not_or, not_not] at hcall
      rcases Option.ne_none_iff_exists'.mp hcall.1 with ⟨i, rfl⟩
      simp [SignalsActive, emit, hcall.2]
  · by_cases hsend : ∃ data, event = .sendSignalingData data
    · rcases hsend with ⟨data, rfl⟩
      simp only [step, handle, sendSignalingData]
      split
      · exact hsilent.signalsActive _
      · next call hcall =>
          split_ifs with hempty
          · exact hsilent.signalsActive _
          · simp [SignalsActive, emit, hcall]
    · exact (hsilent.handle (fun callId data h => hreceive ⟨callId, data, h⟩) fun data h =>
        hsend ⟨data, h⟩).signalsActive event


@[simp] lemma activeCall_reportIncoming (parsed : CallSummary) :
    (m.reportIncoming parsed).activeCall = m.activeCall := by
  rw [reportIncoming]
  split_ifs <;> rfl

@[simp] lemma activeCall_actOn (state : CallStateJson) (parsed : CallSummary) (now : ℤ) :
    (m.actOn state parsed now).activeCall = m.activeCall := by
  rw [actOn]
  split
  · rw [onCallReady]
    split <;> rfl
  all_goals rfl

/-- The call of an update is the active one. -/
lemma activeCall_handleCallUpdate {raw : CallJson} {parsed : CallSummary}
    (hparsed : TdlibCallParser.parseCall raw = some parsed) (hid : parsed.id ≠ 0) (now : ℤ) :
    (m.handleCallUpdate raw now).activeCall = some (parsed.copyWith (m.userDisplayNames parsed.userId)) := by
  rw [handleCallUpdate, hparsed]
  simp only [if_neg hid, activeCall_actOn, activeCall_reportIncoming, adopt]

lemma leavesCall_of_eq {n : CallManager} (h : n = { m with tasks := n.tasks, effects := [] }) : LeavesCall m n := by
  rw [h]
  exact ⟨rfl, rfl, rfl, rfl, rfl, rfl, rfl, rfl, fun effect hmem => nomatch hmem⟩

/-- What an update of another call leaves alone. -/
lemma leavesCall_updateCall_iff {active : CallSummary} (hactive : m.activeCall = some active) {raw : CallJson}
    {parsed : CallSummary} (hparsed : TdlibCallParser.parseCall raw = some parsed) (hid : parsed.id ≠ active.id)
    (now : ℤ) : LeavesCall m (m.step (.updateCall raw now)) ↔ parsed.id = 0 := by
  constructor
  · intro hleaves
    by_contra hzero
    have hcall := hleaves.activeCall
    rw [step, handle, activeCall_handleCallUpdate hparsed hzero, hactive, Option.some_inj] at hcall
    rw [← hcall] at hid
    exact hid rfl
  · intro hzero
    refine leavesCall_of_eq ?_
    simp only [step, handle, handleCallUpdate, hparsed, if_pos hzero]

lemma resume_of_some {task : ℕ} {current : CallTask} (h : m.tasks[task]? = some current) (isDone : Bool) :
    m.resume task isDone = { m with tasks := m.tasks.eraseIdx task }.goOn current isDone := by
  rw [resume, h]

/-- The end of a call leaves another one alone if there is nothing to reset. -/
lemma leavesCall_reset_iff (tasks : List CallTask) (task : CallTask) :
    LeavesCall m ({ m with tasks := tasks, effects := [], platformCallUuid := none }.reset.wait task) ↔ m.AtRest := by
  constructor
  · intro h
    exact ⟨h.connectedAt.symm, h.durationTimer.symm, h.callDuration.symm, h.platformCallUuid.symm, h.isMuted.symm,
      h.isVideoEnabled.symm, h.mediaState.symm⟩
  · rintro ⟨hconnected, htimer, hduration, huuid, hmuted, hvideo, hmedia⟩
    exact ⟨rfl, hconnected.symm, htimer.symm, hduration.symm, huuid.symm, hmuted.symm, hvideo.symm, hmedia.symm,
      fun effect hmem => nomatch hmem⟩

lemma not_leavesCall {n : CallManager} {effect : CallEffect} (hmem : effect ∈ n.effects)
    (hintervenes : effect.intervenes = true) : ¬LeavesCall m n := by
  intro h
  rw [h.effects effect hmem] at hintervenes
  exact Bool.false_ne_true hintervenes

lemma leavesCall_resume_iff {active : CallSummary} {task : ℕ} {current : CallTask}
    (h : m.tasks[task]? = some current) (hactive : m.activeCall = some active) (hid : current.call.id ≠ active.id)
    (isDone : Bool) : LeavesCall m (m.step (.resume task isDone)) ↔ m.IsSpent current isDone := by
  have hstep : m.step (.resume task isDone) =
      ({ m with tasks := m.tasks.eraseIdx task, effects := [] } : CallManager).goOn current isDone := by
    rw [step, handle, resume_of_some (m := { m with effects := [] }) h]
  have hsame : LeavesCall m { m with tasks := m.tasks.eraseIdx task, effects := [] } := leavesCall_of_eq rfl
  rw [hstep]
  cases current with
  | startActiveCall call payload =>
      refine iff_of_true ?_ trivial
      simp only [goOn]
      split_ifs
      · split
        · exact hsame
        · -- to connect a call of the platform neither starts nor ends anything
          refine ⟨rfl, rfl, rfl, rfl, rfl, rfl, rfl, rfl, fun effect hmem => ?_⟩
          rw [List.mem_singleton.mp hmem]
          rfl
      · exact hsame
  | setCallConnected call payload =>
      cases isDone with
      | false => exact iff_of_true hsame rfl
      | true => exact iff_of_false (not_leavesCall List.mem_cons_self rfl) (fun h => nomatch h)
  | onCallReady call => exact iff_of_true hsame trivial
  | onCallEnded call =>
      cases isDone with
      | false => exact iff_of_true hsame (.inl rfl)
      | true =>
          rw [IsSpent, or_iff_right (fun h => nomatch h)]
          cases huuid : m.platformCallUuid with
          | none =>
              simp only [goOn, if_true]
              rw [← leavesCall_reset_iff (m.tasks.eraseIdx task) (.delayed call)]
          | some uuid =>
              simp only [goOn, if_true]
              refine iff_of_false (not_leavesCall List.mem_cons_self rfl) fun hrest => ?_
              rw [hrest.2.2.2.1] at huuid
              exact nomatch huuid
  | endActiveCall call =>
      cases isDone with
      | false => exact iff_of_true hsame (.inl rfl)
      | true =>
          rw [IsSpent, or_iff_right (fun h => nomatch h)]
          exact leavesCall_reset_iff _ _
  | delayed call =>
      refine iff_of_true ?_ trivial
      rw [goOn, if_neg]
      · exact hsame
      · rw [hactive, Option.any_some, Bool.and_eq_true, decide_eq_true_iff]
        exact fun hcall => hid hcall.1.symm

/-- **One call at a time**: a step leaves a call that is active and has not ended alone if nothing of another one
disturbs it. -/
theorem oneCall_iff (event : CallEvent) : m.OneCall event ↔ m.Undisturbed event := by
  rw [OneCall, and_iff_left (signalsActive_step event)]
  refine forall_congr' fun active => forall_congr' fun hactive => forall_congr' fun hended => ?_
  cases event with
  | updateCall raw now =>
      simp only [callOf]
      cases hparsed : TdlibCallParser.parseCall raw with
      | none => exact iff_of_true (fun _ h => nomatch h) fun _ h => nomatch h
      | some parsed =>
          simp only [Option.map_some, Option.some_inj, forall_eq']
          rw [or_iff_not_imp_right]
          exact forall_congr' fun hid => leavesCall_updateCall_iff hactive hparsed hid now
  | resume task isDone =>
      simp only [callOf]
      cases htask : m.tasks[task]? with
      | none => exact iff_of_true (fun _ h => nomatch h) fun _ h => nomatch h
      | some current =>
          simp only [Option.map_some, Option.some_inj, forall_eq']
          rw [or_iff_not_imp_left]
          exact forall_congr' fun hid => leavesCall_resume_iff htask hactive hid isDone
  | _ => exact iff_of_true (fun _ h => nomatch h) trivial

/-- **Calls over runs.** -/
theorem forall_oneCall_iff (m : CallManager) (events : List CallEvent) :
    Meets step OneCall m events ↔ Meets step Undisturbed m events :=
  meets_iff_meets (I := fun _ => True) (fun n event _ => oneCall_iff (m := n) event) (fun _ _ _ _ => trivial) trivial
    events

/-- The JSON of a call in a state. -/
def callJson (id : ℤ) (state : String) : CallJson where
  type := some (ascii "call")
  id := id
  userId := id
  state := { type := some (ascii state) }

/-- A second call comes in while one is on, and becomes the active one. -/
theorem replaced_by_incoming :
    (({} : CallManager).step (.updateCall (callJson 1 "callStateReady") 0)).activeCall.map (·.id) = some 1 ∧
      ((({} : CallManager).step (.updateCall (callJson 1 "callStateReady") 0)).step
        (.updateCall (callJson 2 "callStatePending") 1)).activeCall.map (·.id) = some 2 ∧
      ¬Meets step OneCall {}
        [.updateCall (callJson 1 "callStateReady") 0, .updateCall (callJson 2 "callStatePending") 1] := by
  refine ⟨by decide, by decide, ?_⟩
  rw [forall_oneCall_iff]
  rintro ⟨-, hsecond, -⟩
  have hsame := hsecond _ rfl rfl _ rfl
  exact absurd hsame (by decide)


/-! ## The bytes of signaling data -/

/-- A `bytes` field in the JSON of TDLib. -/
def bytesField (data : Bytes) : DataField := .string ((base64Encode data).map UInt8.toUInt16)

/-- The bytes as the manager has them. -/
def bytesList (data : Bytes) : List ℤ := data.map fun b => (b.toNat : ℤ)

lemma length_base64Encode (data : Bytes) : (base64Encode data).length = (data.length + 2) / 3 * 4 := by
  induction data using base64Encode.induct with
  | case1 a b c s ih =>
      simp only [base64Encode, List.length_cons, ih]
      omega
  | case2 a b => simp [base64Encode]
  | case3 a => simp [base64Encode]
  | case4 => rfl

/-- The text of the bytes is longer than they are. -/
lemma bytesFromDynamic_bytesField_iff (data : Bytes) :
    bytesFromDynamic (bytesField data) = bytesList data ↔ data = [] := by
  refine ⟨fun h => ?_, fun h => by rw [h]; rfl⟩
  have hlength := congrArg List.length h
  simp only [bytesFromDynamic, bytesField, bytesList, List.length_map, length_base64Encode] at hlength
  rw [← List.length_eq_zero_iff]
  omega

/-- Data goes out as a list of integers. -/
lemma effects_sendSignalingData {active : CallSummary} (hactive : m.activeCall = some active) {data : List ℤ}
    (hdata : data ≠ []) : (m.step (.sendSignalingData data)).effects =
      [.send (.sendCallSignalingData active.id (.list (data.map some)))] := by
  simp only [step, handle, sendSignalingData, hactive, if_neg hdata]
  rfl

/-- **Signaling data gets across** if there is none: what comes in as the base64 text that TDLib has for bytes is not
decoded, and what goes out is a list and no such text. -/
theorem bytes_iff (data : Bytes) :
    (bytesFromDynamic (bytesField data) = bytesList data ↔ data = []) ∧
      ((∀ (m : CallManager) callId field,
          .send (.sendCallSignalingData callId field) ∈ (m.step (.sendSignalingData (bytesList data))).effects →
          field = bytesField data) ↔ data = []) := by
  refine ⟨bytesFromDynamic_bytesField_iff data, fun h => ?_, fun h m callId field hmem => ?_⟩
  · by_contra hdata
    have hlist : bytesList data ≠ [] := mt List.map_eq_nil_iff.mp hdata
    let active : CallSummary := { id := 1, userId := 2, isOutgoing := true, isVideo := false, stateKind := .ready }
    have hsent := effects_sendSignalingData (m := { activeCall := some active }) rfl hlist
    have hfield : DataField.list ((bytesList data).map some) = bytesField data := by
      refine h { activeCall := some active } active.id _ ?_
      rw [hsent]
      exact List.mem_cons_self
    exact nomatch hfield
  · subst h
    have hnone : (m.step (.sendSignalingData [])).effects = [] := by
      simp only [step, handle, sendSignalingData]
      split <;> rfl
    rw [show bytesList [] = [] from rfl, hnone] at hmem
    exact nomatch hmem

/-- One byte of signaling data comes in as the four characters of its text, and goes out as a number. -/
theorem byte_lost :
    let active : CallSummary := { id := 1, userId := 2, isOutgoing := true, isVideo := false, stateKind := .ready }
    let m : CallManager := { activeCall := some active }
    (m.step (.updateNewCallSignalingData (some 1) (bytesField [7]))).effects = [.onSignalingData [66, 119, 61, 61]] ∧
      bytesFromDynamic (bytesField [7]) ≠ bytesList [7] ∧
      (m.step (.sendSignalingData (bytesList [7]))).effects =
        [.send (.sendCallSignalingData 1 (.list [some 7]))] ∧
      DataField.list [some 7] ≠ bytesField [7] := by
  decide

end CallManager

end RioGram.Calls
