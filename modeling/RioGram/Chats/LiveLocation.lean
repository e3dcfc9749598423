import RioGram.Chats.Updates
import RioGram.Core.Reachable
import Mathlib.Data.Rat.Defs
import Mathlib.Logic.Function.Basic

/-!
# Sharing a live location

A message with a live location is kept up to date: the manager starts a tracker, whose callback edits the
message in the chat that is open at that time.  Starting waits for the permission and for a first position.
`LiveRun` is the manager with the broadcasts that have been started, each with its message.

* `edits_of_broadcast` says when every edit is of the message of its broadcast, and when a broadcast that has
  ended has been told of once.
* `edits_of_other_messages` has runs in which they are not.
-/

namespace RioGram.Chats

open Reaching

/-! ## The manager -/

/-- The coordinates are rational numbers here. -/
structure LocationPoint where
  latitude : ℚ
  longitude : ℚ
  horizontalAccuracy : ℚ := 0
deriving DecidableEq

structure LiveLocationMeta where
  livePeriod : ℤ
  heading : ℤ := 0
  proximityAlertRadius : ℤ := 0
deriving DecidableEq

structure LocationMessageInfo where
  point : LocationPoint
  liveMeta : Option LiveLocationMeta := none
  expiresIn : Option ℤ := none

namespace LocationMessageInfo

variable (info : LocationMessageInfo)

def isLive : Bool := info.liveMeta.isSome || info.expiresIn.any (0 < ·)

def isExpired : Bool := info.isLive && info.expiresIn.all (· ≤ 0)

end LocationMessageInfo

/-- An `editMessageLiveLocation` request; without a location it ends the sharing. -/
structure EditLiveLocation where
  chatId : ℤ
  messageId : ℤ
  location : Option (LiveLocationMeta × LocationPoint)
deriving DecidableEq

/-- What a call of `startLiveLocationBroadcast` waits for. -/
inductive StartAwait where
  | permission | position
deriving DecidableEq

/-- A call of `startLiveLocationBroadcast` that has got to the tracker. -/
structure StartCall where
  messageId : ℤ := 0
  awaits : Option StartAwait := none

/-- The fields that sharing has to do with, beside those of `Manager`. -/
structure LiveLocation where
  pendingLiveLocationBroadcast : Bool := false
  pendingLiveLocationMeta : Option LiveLocationMeta := none
  activeLiveLocationMessageId : Option ℤ := none
  activeLiveLocationMeta : Option LiveLocationMeta := none
  /-- Whether the tracker has a subscription and a timer. -/
  isTracking : Bool := false
  /-- The call whose callback the tracker has. -/
  onUpdate : Option ℕ := none
  callCount : ℕ := 0
  calls : ℕ → StartCall := fun _ => {}
  /-- The locations of the messages that are shown. -/
  locations : ℤ → Option LocationMessageInfo := fun _ => none
  sent : List EditLiveLocation := []

namespace LiveLocation

variable (s : LiveLocation) (m : Manager)

def send (request : EditLiveLocation) : LiveLocation := { s with sent := s.sent ++ [request] }

/-- `LiveLocationTracker.stop`. -/
def stopTracker : LiveLocation := { s with isTracking := false, onUpdate := none }

def endBroadcast : LiveLocation :=
  { s.stopTracker with activeLiveLocationMessageId := none, activeLiveLocationMeta := none }

def editMessageLiveLocation (messageId : ℤ) (point : LocationPoint) (locationMeta : Option LiveLocationMeta) :
    LiveLocation :=
  match m.activeChatId with
  | none => s
  | some chatId => s.send ⟨chatId, messageId, locationMeta.map (·, point)⟩

def stopLiveLocation (messageId : ℤ) : LiveLocation :=
  match m.activeChatId with
  | none => s
  | some chatId =>
      let s := s.send ⟨chatId, messageId, none⟩
      if s.activeLiveLocationMessageId = some messageId then s.endBroadcast else s

def stopLiveLocationBroadcast : LiveLocation :=
  match s.activeLiveLocationMessageId, m.activeChatId with
  | some messageId, some chatId => s.endBroadcast.send ⟨chatId, messageId, none⟩
  | _, _ => s.endBroadcast

/-- How the location of a message is shared, if it may be. -/
def broadcastMeta (messageId : ℤ) : Option LiveLocationMeta :=
  match m.activeChatId, m.messages.find? (·.id == messageId), s.locations messageId with
  | some _, some message, some info =>
      if message.content.kind ≠ .liveLocation ∨ info.isExpired then none
      else some (info.liveMeta.getD { livePeriod := info.expiresIn.getD 3600 })
  | _, _, _ => none

/-- Until it has to wait; the tracker has been stopped, so it goes on. -/
def startLiveLocationBroadcast (messageId : ℤ) : LiveLocation :=
  match s.broadcastMeta m messageId with
  | none => s
  | some locationMeta =>
      let s := s.stopLiveLocationBroadcast m
      { s with
        activeLiveLocationMessageId := some messageId
        activeLiveLocationMeta := some locationMeta
        callCount := s.callCount + 1
        calls := Function.update s.calls s.callCount ⟨messageId, some .permission⟩ }

/-- The callback of a call. -/
def callback (call : ℕ) (point : LocationPoint) : LiveLocation :=
  s.editMessageLiveLocation m (s.calls call).messageId point s.activeLiveLocationMeta

def setAwait (call : ℕ) (awaits : Option StartAwait) : LiveLocation :=
  { s with calls := Function.update s.calls call { s.calls call with awaits } }

/-- The call goes on when the permission is there or denied. -/
def permission (call : ℕ) (granted : Bool) : LiveLocation :=
  if granted then { s.setAwait call (some .position) with onUpdate := some call }
  else
    { s.setAwait call none with
      activeLiveLocationMessageId := none
      activeLiveLocationMeta := none }

/-- The call goes on when the first position is there; the callback is run whoever has stopped the tracker. -/
def firstPosition (call : ℕ) (point : Option LocationPoint) : LiveLocation :=
  let s := match point with
    | none => s
    | some point => s.callback m call point
  { s.setAwait call none with isTracking := true }

/-- The tracker has a new position. -/
def update (point : LocationPoint) : LiveLocation :=
  match s.onUpdate with
  | none => s
  | some call => s.callback m call point

/-- `sendLiveLocation`, when it sends. -/
def sendLiveLocation (locationMeta : LiveLocationMeta) (startBroadcast : Bool) : LiveLocation :=
  if startBroadcast then
    { s with pendingLiveLocationBroadcast := true, pendingLiveLocationMeta := some locationMeta }
  else s

/-- Whether `_maybeStartPendingLiveBroadcast` starts with the message. -/
def isPendingFor (message : ChatMessage) : Bool :=
  s.pendingLiveLocationBroadcast && message.isOutgoing && message.content.kind == .liveLocation

/-- What `_maybeStartPendingLiveBroadcast` does before it starts. -/
def takePending : LiveLocation :=
  { s with
    pendingLiveLocationBroadcast := false
    pendingLiveLocationMeta := none
    activeLiveLocationMeta := s.pendingLiveLocationMeta <|> s.activeLiveLocationMeta }

end LiveLocation

/-! ## Runs -/

inductive LiveEvent where
  | sendLiveLocation (locationMeta : LiveLocationMeta) (startBroadcast : Bool)
  | startLiveLocationBroadcast (messageId : ℤ)
  | stopLiveLocationBroadcast
  | stopLiveLocation (messageId : ℤ)
  | permission (call : ℕ) (granted : Bool)
  | firstPosition (call : ℕ) (point : Option LocationPoint)
  | update (point : LocationPoint)
  /-- Other locations are shown. -/
  | learn (locations : ℤ → Option LocationMessageInfo)
  | manager (e : Event)

/-- What a broadcast was started for, and what has been sent to end it. -/
structure Broadcast where
  chatId : ℤ := 0
  /-- The id that the message has by now. -/
  messageId : ℤ := 0
  ended : Bool := false
  terminations : ℕ := 0

def Broadcast.message (b : Broadcast) : ℤ × ℤ := (b.chatId, b.messageId)

structure LiveRun where
  manager : Manager := {}
  live : LiveLocation := {}
  /-- The broadcasts, under the numbers of their calls. -/
  broadcasts : ℕ → Broadcast := fun _ => {}
  /-- The one that runs. -/
  current : Option ℕ := none
  /-- The edits, each with the message of the broadcast that it was for. -/
  edits : List (EditLiveLocation × Option (ℤ × ℤ)) := []

namespace LiveRun

variable (P : Platform) (r : LiveRun)

/-- What is sent on the way to a new state is for a broadcast. -/
def sends (source : Option ℕ) (live : LiveLocation) : LiveRun :=
  let requests := live.sent.drop r.live.sent.length
  { r with
    live
    edits := r.edits ++ requests.map (·, source.map fun k => (r.broadcasts k).message)
    broadcasts := match source with
      | none => r.broadcasts
      | some k =>
          Function.update r.broadcasts k { r.broadcasts k with
            terminations := (r.broadcasts k).terminations + requests.countP (·.location == none) } }

/-- The broadcast that runs is over. -/
def finish : LiveRun :=
  { r with
    current := none
    broadcasts := match r.current with
      | none => r.broadcasts
      | some k => Function.update r.broadcasts k { r.broadcasts k with ended := true } }

/-- A broadcast is started, and the one that runs is replaced. -/
def start (messageId : ℤ) : LiveRun :=
  let stopped := (r.sends r.current (r.live.startLiveLocationBroadcast r.manager messageId)).finish
  if (r.live.broadcastMeta r.manager messageId).isSome then
    let chatId := ((r.manager.messages.find? (·.id == messageId)).map (·.chatId)).getD 0
    { stopped with
      current := some r.live.callCount
      broadcasts := Function.update stopped.broadcasts r.live.callCount { chatId, messageId } }
  else r

/-- The last broadcast of a message. -/
def lastOf (message : ℤ × ℤ) : Option ℕ :=
  (List.range r.live.callCount).reverse.find? fun k => (r.broadcasts k).message == message

end LiveRun

/-- A message that is sent gets its id: the chat, the id before and the new one. -/
def Event.renames : Event → Option (ℤ × ℤ × ℤ)
  | .update (.messageSendSucceeded (some oldMessageId) raw) => some (raw.chatId, oldMessageId, raw.id)
  | _ => none

/-- The id that the message of a broadcast has after an event. -/
def Broadcast.rename (e : Event) (b : Broadcast) : Broadcast :=
  match e.renames with
  | none => b
  | some (chatId, oldMessageId, messageId) =>
      if b.message = (chatId, oldMessageId) then { b with messageId } else b

namespace LiveRun

variable (P : Platform) (r : LiveRun)

/-- The message that a pending broadcast may be started for. -/
def startsFor : Event → Option ChatMessage
  | .update (.newMessage raw) =>
      if r.manager.messageMatchesActiveForumTopic raw ∧ r.manager.activeChatId = some raw.chatId then
        some (r.manager.parseMessage P raw)
      else none
  | .update (.messageSendSucceeded _ raw) => some (r.manager.parseMessage P raw)
  | _ => none

/-- What else an event of the manager does. -/
def received (e : Event) : LiveRun :=
  { r with
    manager := r.manager.step P e
    broadcasts := fun k => (r.broadcasts k).rename e }

def step : LiveEvent → LiveRun
  | .sendLiveLocation locationMeta startBroadcast =>
      if r.manager.activeChatId = none then r
      else { r with live := r.live.sendLiveLocation locationMeta startBroadcast }
  | .startLiveLocationBroadcast messageId => r.start messageId
  | .stopLiveLocationBroadcast => (r.sends r.current (r.live.stopLiveLocationBroadcast r.manager)).finish
  | .stopLiveLocation messageId =>
      let live := r.live.stopLiveLocation r.manager messageId
      match r.manager.activeChatId with
      | none => r
      | some chatId =>
          if r.live.activeLiveLocationMessageId = some messageId then (r.sends r.current live).finish
          else r.sends (r.lastOf (chatId, messageId)) live
  | .permission call granted =>
      { r with
        live := r.live.permission call granted
        -- without the permission there is no broadcast
        current := if !granted && r.current == some call then none else r.current }
  | .firstPosition call point => r.sends (some call) (r.live.firstPosition r.manager call point)
  | .update point => r.sends r.live.onUpdate (r.live.update r.manager point)
  | .learn locations => { r with live := { r.live with locations } }
  | .manager e =>
      match r.startsFor P e with
      | none => r.received P e
      | some message =>
          if r.live.isPendingFor message then
            ({ r.received P e with live := r.live.takePending } : LiveRun).start message.id
          else r.received P e

/-- A call goes on with what it waits for. -/
def Served : LiveEvent → Prop
  | .permission call _ => (r.live.calls call).awaits = some .permission
  | .firstPosition call _ => (r.live.calls call).awaits = some .position
  | _ => True

instance : DecidablePred r.Served
  | .permission _ _ | .firstPosition _ _ => inferInstanceAs (Decidable (_ = _))
  | .sendLiveLocation _ _ | .startLiveLocationBroadcast _ | .stopLiveLocationBroadcast | .stopLiveLocation _
  | .update _ | .learn _ | .manager _ => inferInstanceAs (Decidable True)

/-- Every edit is of the message of its broadcast, under the id that the message had, and a broadcast that
has ended has been told of once. -/
structure Faithful (r : LiveRun) : Prop where
  directed : ∀ edit ∈ r.edits, ∀ message, edit.2 = some message →
    (edit.1.chatId, edit.1.messageId) = message
  terminated : ∀ k, (r.broadcasts k).ended → (r.broadcasts k).terminations = 1

/-- The chat of the broadcast that runs is the open one. -/
def IsOpenThere (r : LiveRun) : Prop :=
  ∀ k, r.current = some k → r.manager.activeChatId = some (r.broadcasts k).chatId

/-- The chat of a broadcast is open when it is stopped or replaced, and whenever it has a position, unless no
chat is open then.  A call goes on with the permission, and with a position, only if its broadcast has not
been stopped, and without the permission only if no other runs.  The message of the broadcast that runs keeps
its id, and a message whose broadcast has ended is not stopped again. -/
def InTime : LiveEvent → Prop
  | .startLiveLocationBroadcast messageId =>
      (r.live.broadcastMeta r.manager messageId).isSome → r.IsOpenThere
  | .stopLiveLocationBroadcast => r.IsOpenThere
  | .stopLiveLocation messageId => ∀ chatId, r.manager.activeChatId = some chatId →
      if r.live.activeLiveLocationMessageId = some messageId then r.IsOpenThere
      else ∀ k, (r.broadcasts k).message = (chatId, messageId) → ¬(r.broadcasts k).ended
  | .permission call granted =>
      if granted then r.current = some call else r.current = none ∨ r.current = some call
  | .firstPosition call (some _) =>
      r.manager.activeChatId = none ∨ r.current = some call ∧ r.IsOpenThere
  | .update _ => r.live.onUpdate.isSome → r.manager.activeChatId = none ∨ r.IsOpenThere
  | .manager e =>
      (∀ k, r.current = some k → (r.broadcasts k).rename e = r.broadcasts k) ∧
      ∀ message, r.startsFor P e = some message → r.live.isPendingFor message →
        (r.live.takePending.broadcastMeta (r.manager.step P e) message.id).isSome →
          (r.received P e).IsOpenThere
  | _ => True

/-! ## What holds in every run -/

/-- The broadcast that runs is the one that the manager has active, and it has not been told of; only its
callback is with the tracker. -/
structure Consistent (r : LiveRun) : Prop extends r.Faithful where
  active : r.live.activeLiveLocationMessageId = r.current.map fun k => (r.broadcasts k).messageId
  calls : ∀ k, r.current = some k → (r.live.calls k).messageId = (r.broadcasts k).messageId
  shared : r.current.isSome → r.live.activeLiveLocationMeta.isSome
  onUpdate : ∀ k, r.live.onUpdate = some k → r.current = some k
  granted : ∀ k, r.live.onUpdate = some k → (r.live.calls k).awaits ≠ some .permission
  running : ∀ k, r.current = some k → ¬(r.broadcasts k).ended ∧ (r.broadcasts k).terminations = 0

variable {P r} {live : LiveLocation} {source : Option ℕ} {request : EditLiveLocation}

lemma sends_nothing (h : live.sent = r.live.sent) : r.sends source live = { r with live } := by
  simp only [sends, h, List.drop_length, List.map_nil, List.append_nil, List.countP_nil, Nat.add_zero]
  cases source with
  | none => rfl
  | some k => simp

lemma sends_one (h : live.sent = r.live.sent ++ [request]) : r.sends source live =
    { r with
      live
      edits := r.edits ++ [(request, source.map fun k => (r.broadcasts k).message)]
      broadcasts := match source with
        | none => r.broadcasts
        | some k =>
            Function.update r.broadcasts k { r.broadcasts k with
              terminations := (r.broadcasts k).terminations + if request.location = none then 1 else 0 } } := by
  simp [sends, h, List.countP_singleton]

/-- What ends the broadcast that runs. -/
def closing (r : LiveRun) : List EditLiveLocation :=
  match r.current with
  | none => []
  | some k => [⟨(r.broadcasts k).chatId, (r.broadcasts k).messageId, none⟩]

lemma directed_append (h : r.Faithful) {message : Option (ℤ × ℤ)}
    (hmessage : ∀ m, message = some m → (request.chatId, request.messageId) = m) :
    ∀ edit ∈ r.edits ++ [(request, message)], ∀ m, edit.2 = some m →
      (edit.1.chatId, edit.1.messageId) = m := by
  intro edit hmem m hm
  rcases List.mem_append.mp hmem with hold | hnew
  · exact h.directed edit hold m hm
  · rw [List.mem_singleton] at hnew
    subst hnew
    exact hmessage m hm

/-- The broadcast that runs ends, and is told of once. -/
lemma finish_faithful (h : r.Consistent) (hsent : live.sent = r.live.sent ++ r.closing) :
    ((r.sends r.current live).finish).Faithful := by
  rw [closing] at hsent
  cases hcurrent : r.current with
  | none =>
      simp only [hcurrent, List.append_nil] at hsent
      rw [sends_nothing hsent]
      simp only [finish, hcurrent]
      exact ⟨h.directed, h.terminated⟩
  | some k =>
      simp only [hcurrent] at hsent
      rw [sends_one hsent]
      refine ⟨directed_append h.toFaithful ?_, fun j => ?_⟩
      · intro m hm
        exact Option.some.inj hm
      · simp only [finish, hcurrent]
        by_cases hj : j = k
        · subst hj
          simp [(h.running j hcurrent).2]
        · simpa [Function.update_of_ne hj] using h.terminated j

/-- Nothing that has to do with the broadcast that runs is changed. -/
structure SameLink (s live : LiveLocation) : Prop where
  active : live.activeLiveLocationMessageId = s.activeLiveLocationMessageId
  shared : s.activeLiveLocationMeta.isSome → live.activeLiveLocationMeta.isSome
  onUpdate : live.onUpdate = s.onUpdate
  calls : ∀ k, (live.calls k).messageId = (s.calls k).messageId
  granted : ∀ k, (live.calls k).awaits = some .permission → (s.calls k).awaits = some .permission

lemma SameLink.refl (s : LiveLocation) : SameLink s s :=
  ⟨rfl, id, rfl, fun _ => rfl, fun _ => id⟩

lemma SameLink.trans {s live live' : LiveLocation} (h : SameLink s live) (h' : SameLink live live') :
    SameLink s live' :=
  ⟨h'.active.trans h.active, h'.shared ∘ h.shared, h'.onUpdate.trans h.onUpdate,
    fun k => (h'.calls k).trans (h.calls k), fun k => h.granted k ∘ h'.granted k⟩

lemma Consistent.of_sameLink (h : r.Consistent) (hlive : SameLink r.live live) :
    ({ r with live } : LiveRun).Consistent where
  directed := h.directed
  terminated := h.terminated
  active := hlive.active.trans h.active
  calls k hk := (hlive.calls k).trans (h.calls k hk)
  shared hk := hlive.shared (h.shared hk)
  onUpdate k hk := h.onUpdate k (hlive.onUpdate ▸ hk)
  granted k hk hawaits := h.granted k (hlive.onUpdate ▸ hk) (hlive.granted k hawaits)
  running := h.running

lemma setAwait_sameLink (s : LiveLocation) (call : ℕ) {awaits : Option StartAwait}
    (hawaits : awaits ≠ some .permission) : SameLink s (s.setAwait call awaits) := by
  refine ⟨rfl, id, rfl, fun k => ?_, fun k hk => ?_⟩
  · by_cases h : k = call
    · subst h
      simp [LiveLocation.setAwait]
    · simp [LiveLocation.setAwait, Function.update_of_ne h]
  · by_cases h : k = call
    · subst h
      exact absurd (by simpa [LiveLocation.setAwait] using hk) hawaits
    · simpa [LiveLocation.setAwait, Function.update_of_ne h] using hk

/-- Nothing runs any more. -/
lemma Consistent.idle (h : r.Faithful) (hcurrent : r.current = none)
    (hactive : r.live.activeLiveLocationMessageId = none) (honUpdate : r.live.onUpdate = none) :
    r.Consistent where
  toFaithful := h
  active := by rw [hactive, hcurrent]; rfl
  calls _ hk := nomatch hk.symm.trans hcurrent
  shared hk := by rw [hcurrent] at hk; exact nomatch hk
  onUpdate _ hk := nomatch hk.symm.trans honUpdate
  granted _ hk := nomatch hk.symm.trans honUpdate
  running _ hk := nomatch hk.symm.trans hcurrent

/-! ### Stopping and starting -/

/-- Stopping sends what ends the broadcast that runs, and nothing else. -/
lemma stopLiveLocationBroadcast_sent (h : r.Consistent) (ho : r.IsOpenThere) :
    (r.live.stopLiveLocationBroadcast r.manager).sent = r.live.sent ++ r.closing := by
  rw [LiveLocation.stopLiveLocationBroadcast, closing, h.active]
  cases hcurrent : r.current with
  | none => exact (List.append_nil _).symm
  | some k => rw [ho k hcurrent]; rfl

lemma stopLiveLocationBroadcast_active (s : LiveLocation) (m : Manager) :
    (s.stopLiveLocationBroadcast m).activeLiveLocationMessageId = none := by
  rw [LiveLocation.stopLiveLocationBroadcast]
  split <;> rfl

lemma stopLiveLocationBroadcast_onUpdate (s : LiveLocation) (m : Manager) :
    (s.stopLiveLocationBroadcast m).onUpdate = none := by
  rw [LiveLocation.stopLiveLocationBroadcast]
  split <;> rfl

lemma stop_consistent (h : r.Consistent) (ho : r.IsOpenThere) :
    ((r.sends r.current (r.live.stopLiveLocationBroadcast r.manager)).finish).Consistent :=
  .idle (finish_faithful h (stopLiveLocationBroadcast_sent h ho)) rfl
    (stopLiveLocationBroadcast_active _ _) (stopLiveLocationBroadcast_onUpdate _ _)

lemma startLiveLocationBroadcast_of_meta {s : LiveLocation} {m : Manager} {messageId : ℤ}
    {locationMeta : LiveLocationMeta} (h : s.broadcastMeta m messageId = some locationMeta) :
    s.startLiveLocationBroadcast m messageId =
      { s.stopLiveLocationBroadcast m with
        activeLiveLocationMessageId := some messageId
        activeLiveLocationMeta := some locationMeta
        callCount := s.callCount + 1
        calls := Function.update s.calls s.callCount ⟨messageId, some .permission⟩ } := by
  have hcount : (s.stopLiveLocationBroadcast m).callCount = s.callCount := by
    rw [LiveLocation.stopLiveLocationBroadcast]
    split <;> rfl
  have hcalls : (s.stopLiveLocationBroadcast m).calls = s.calls := by
    rw [LiveLocation.stopLiveLocationBroadcast]
    split <;> rfl
  simp only [LiveLocation.startLiveLocationBroadcast, h, hcount, hcalls]

/-- A broadcast that is started takes the place of the one that runs, which ends. -/
lemma start_consistent (h : r.Consistent) {messageId : ℤ}
    (ho : (r.live.broadcastMeta r.manager messageId).isSome → r.IsOpenThere) :
    (r.start messageId).Consistent := by
  cases hmeta : r.live.broadcastMeta r.manager messageId with
  | none => simpa [start, hmeta] using h
  | some locationMeta =>
      have hstart := startLiveLocationBroadcast_of_meta hmeta
      have hsent : (r.live.startLiveLocationBroadcast r.manager messageId).sent =
          r.live.sent ++ r.closing := by
        rw [hstart]
        exact stopLiveLocationBroadcast_sent h (ho (by rw [hmeta]; rfl))
      have honUpdate : (r.live.startLiveLocationBroadcast r.manager messageId).onUpdate = none := by
        rw [hstart]
        exact stopLiveLocationBroadcast_onUpdate _ _
      have hended := finish_faithful h hsent
      simp only [start, hmeta, Option.isSome_some, if_true]
      refine ⟨⟨hended.directed, fun k => ?_⟩, ?_, ?_, fun _ => ?_, ?_, ?_, ?_⟩
      · by_cases hk : k = r.live.callCount
        · simp [hk]
        · simpa [Function.update_of_ne hk] using hended.terminated k
      · simp [sends, finish, hstart]
      · rintro k ⟨⟩
        simp [sends, finish, hstart]
      · simp [sends, finish, hstart]
      · intro k hk
        exact nomatch hk.symm.trans honUpdate
      · intro k hk
        exact nomatch hk.symm.trans honUpdate
      · rintro k ⟨⟩
        simp

/-- A request for another broadcast, which is not over. -/
lemma stop_other_consistent (h : r.Consistent) {k : ℕ}
    (hsent : live.sent = r.live.sent ++ [request]) (hlive : SameLink r.live live)
    (hmessage : (r.broadcasts k).message = (request.chatId, request.messageId))
    (hended : ¬(r.broadcasts k).ended) (hother : ∀ j, r.current = some j → j ≠ k) :
    (r.sends (some k) live).Consistent := by
  have hkept := h.of_sameLink hlive
  rw [sends_one hsent]
  refine ⟨⟨directed_append h.toFaithful ?_, fun j => ?_⟩, ?_, ?_, hkept.shared, hkept.onUpdate,
    hkept.granted, ?_⟩
  · rintro _ ⟨⟩
    exact hmessage.symm
  · by_cases hj : j = k
    · subst hj
      simp [hended]
    · simpa [Function.update_of_ne hj] using h.terminated j
  · refine hkept.active.trans (Option.map_congr fun j hj => ?_)
    simp [Function.update_of_ne (hother j hj)]
  · intro j hj
    simpa [Function.update_of_ne (hother j hj)] using hkept.calls j hj
  · intro j hj
    simpa [Function.update_of_ne (hother j hj)] using h.running j hj

lemma stopLiveLocation_consistent (h : r.Consistent) {messageId : ℤ}
    (ho : r.InTime P (.stopLiveLocation messageId)) :
    (r.step P (.stopLiveLocation messageId)).Consistent := by
  simp only [step, InTime, LiveLocation.stopLiveLocation] at ho ⊢
  cases hchat : r.manager.activeChatId with
  | none => exact h
  | some chatId =>
      have hwhen := ho chatId hchat
      by_cases hactive : r.live.activeLiveLocationMessageId = some messageId
      · simp only [if_pos hactive] at hwhen ⊢
        have hsend : (r.live.send ⟨chatId, messageId, none⟩).activeLiveLocationMessageId =
          some messageId := hactive
        rw [if_pos hsend]
        refine .idle (finish_faithful h ?_) rfl rfl rfl
        rcases Option.map_eq_some_iff.mp (h.active.symm.trans hactive) with ⟨k, hcurrent, hid⟩
        have hopen : chatId = (r.broadcasts k).chatId :=
          Option.some.inj (hchat.symm.trans (hwhen k hcurrent))
        rw [closing, hcurrent, ← hid, hopen]
        rfl
      · simp only [if_neg hactive] at hwhen ⊢
        have hsend : (r.live.send ⟨chatId, messageId, none⟩).activeLiveLocationMessageId ≠
          some messageId := hactive
        have hlink : SameLink r.live (r.live.send ⟨chatId, messageId, none⟩) :=
          ⟨rfl, id, rfl, fun _ => rfl, fun _ => id⟩
        rw [if_neg hsend]
        cases hlast : r.lastOf (chatId, messageId) with
        | none =>
            rw [sends_one rfl]
            exact { h.of_sameLink hlink with
              directed := directed_append h.toFaithful fun _ hm => nomatch hm }
        | some k =>
            have hmessage : (r.broadcasts k).message = (chatId, messageId) := by
              simpa using List.find?_some hlast
            refine stop_other_consistent h rfl hlink hmessage (hwhen k hmessage) ?_
            -- the message of the one that runs is the active one
            rintro j hj rfl
            refine hactive ?_
            rw [h.active, hj]
            exact congrArg some (Prod.mk.inj hmessage).2

/-! ### The callback of the tracker -/

lemma callback_sameLink (s : LiveLocation) (m : Manager) (call : ℕ) (point : LocationPoint) :
    SameLink s (s.callback m call point) := by
  rw [LiveLocation.callback, LiveLocation.editMessageLiveLocation]
  split
  · exact .refl s
  · exact ⟨rfl, id, rfl, fun _ => rfl, fun _ => id⟩

lemma firstPosition_sameLink (s : LiveLocation) (m : Manager) (call : ℕ) (point : Option LocationPoint) :
    SameLink s (s.firstPosition m call point) := by
  have hawait (live : LiveLocation) :
      SameLink live { live.setAwait call none with isTracking := true } :=
    have h := @setAwait_sameLink live call none (by decide)
    ⟨h.active, h.shared, h.onUpdate, h.calls, h.granted⟩
  cases point with
  | none => exact hawait s
  | some point => exact (callback_sameLink s m call point).trans (hawait _)

lemma callback_consistent (h : r.Consistent) {k : ℕ} {point : LocationPoint}
    (hlive : SameLink r.live live) (hsent : live.sent = (r.live.callback r.manager k point).sent)
    (ho : r.manager.activeChatId = none ∨ r.current = some k ∧ r.IsOpenThere) :
    (r.sends (some k) live).Consistent := by
  rw [LiveLocation.callback, LiveLocation.editMessageLiveLocation] at hsent
  rcases ho with hclosed | ⟨hcurrent, hopen⟩
  · rw [sends_nothing (by rw [hsent, hclosed])]
    exact h.of_sameLink hlive
  · have hmeta : r.live.activeLiveLocationMeta.isSome := h.shared (by rw [hcurrent]; rfl)
    rcases Option.isSome_iff_exists.mp hmeta with ⟨locationMeta, hmeta⟩
    rw [hopen k hcurrent, hmeta] at hsent
    rw [sends_one hsent]
    have hkept := h.of_sameLink hlive
    refine ⟨⟨directed_append h.toFaithful ?_, ?_⟩, ?_, ?_, hkept.shared, hkept.onUpdate, hkept.granted, ?_⟩
    · rintro _ ⟨⟩
      exact congrArg _ (h.calls k hcurrent)
    · simpa using h.terminated
    · simpa using hkept.active
    · simpa using hkept.calls
    · simpa using hkept.running

lemma permission_consistent (h : r.Consistent) {call : ℕ} {granted : Bool}
    (hserved : r.Served (.permission call granted)) (ho : r.InTime P (.permission call granted)) :
    (r.step P (.permission call granted)).Consistent := by
  cases granted with
  | true =>
      have hcurrent : r.current = some call := ho
      have hawait := h.of_sameLink (@setAwait_sameLink r.live call (some .position) (by decide))
      refine ⟨⟨h.directed, h.terminated⟩, hawait.active, hawait.calls, hawait.shared, ?_, ?_, hawait.running⟩
      · rintro k ⟨⟩
        exact hcurrent
      · rintro k ⟨⟩
        simp [step, LiveLocation.permission, LiveLocation.setAwait]
  | false =>
      have hcurrent : r.current = none ∨ r.current = some call := ho
      refine .idle ⟨h.directed, h.terminated⟩ ?_ rfl ?_
      · rcases hcurrent with hnone | hcall
        · simp [step, hnone]
        · simp [step, hcall]
      · -- a call that has the tracker is no longer waiting for the permission
        change r.live.onUpdate = none
        refine Option.eq_none_iff_forall_not_mem.mpr fun k hk => ?_
        rcases hcurrent with hnone | hcall
        · exact nomatch (h.onUpdate k hk).symm.trans hnone
        · obtain rfl : k = call := Option.some.inj ((h.onUpdate k hk).symm.trans hcall)
          exact h.granted k hk hserved

/-! ### Runs -/

@[simp] lemma rename_ended (e : Event) (b : Broadcast) : (b.rename e).ended = b.ended := by
  rw [Broadcast.rename]
  split
  · rfl
  · split_ifs <;> rfl

@[simp] lemma rename_terminations (e : Event) (b : Broadcast) :
    (b.rename e).terminations = b.terminations := by
  rw [Broadcast.rename]
  split
  · rfl
  · split_ifs <;> rfl

lemma received_consistent (h : r.Consistent) {e : Event}
    (hkept : ∀ k, r.current = some k → (r.broadcasts k).rename e = r.broadcasts k) :
    (r.received P e).Consistent where
  directed := h.directed
  terminated k := by simpa [received] using h.terminated k
  active := h.active.trans (Option.map_congr fun k hk => by simp only [received, hkept k hk])
  calls k hk := by simpa only [received, hkept k hk] using h.calls k hk
  shared := h.shared
  onUpdate := h.onUpdate
  granted := h.granted
  running k hk := by simpa only [received, hkept k hk] using h.running k hk

lemma takePending_sameLink (s : LiveLocation) : SameLink s s.takePending := by
  refine ⟨rfl, fun hmeta => ?_, rfl, fun _ => rfl, fun _ => id⟩
  cases hpending : s.pendingLiveLocationMeta with
  | none => simpa [LiveLocation.takePending, hpending] using hmeta
  | some locationMeta => simp [LiveLocation.takePending, hpending]

lemma sendLiveLocation_sameLink (s : LiveLocation) (locationMeta : LiveLocationMeta) (startBroadcast : Bool) :
    SameLink s (s.sendLiveLocation locationMeta startBroadcast) := by
  rw [LiveLocation.sendLiveLocation]
  split_ifs
  · exact ⟨rfl, id, rfl, fun _ => rfl, fun _ => id⟩
  · exact .refl s

lemma step_consistent {e : LiveEvent} (h : r.Consistent) (hserved : r.Served e) (ho : r.InTime P e) :
    (r.step P e).Consistent := by
  cases e with
  | sendLiveLocation locationMeta startBroadcast =>
      simp only [step]
      split_ifs
      · exact h
      · exact h.of_sameLink (sendLiveLocation_sameLink _ _ _)
  | startLiveLocationBroadcast messageId => exact start_consistent h ho
  | stopLiveLocationBroadcast => exact stop_consistent h ho
  | stopLiveLocation messageId => exact stopLiveLocation_consistent h ho
  | permission call granted => exact permission_consistent h hserved ho
  | firstPosition call point =>
      have hlink := firstPosition_sameLink r.live r.manager call point
      cases point with
      | none =>
          have hsent : (r.live.firstPosition r.manager call none).sent = r.live.sent := rfl
          simp only [step]
          rw [sends_nothing hsent]
          exact h.of_sameLink hlink
      | some point => exact callback_consistent h hlink rfl ho
  | update point =>
      simp only [step, LiveLocation.update]
      cases honUpdate : r.live.onUpdate with
      | none => rw [sends_nothing rfl]; exact h
      | some k =>
          refine callback_consistent h (callback_sameLink _ _ k point) rfl ?_
          exact (ho (by rw [honUpdate]; rfl)).imp id fun hopen => ⟨h.onUpdate k honUpdate, hopen⟩
  | learn locations => exact h.of_sameLink ⟨rfl, id, rfl, fun _ => rfl, fun _ => id⟩
  | manager e =>
      have hreceived : (r.received P e).Consistent := received_consistent h ho.1
      simp only [step]
      cases hstarts : r.startsFor P e with
      | none => exact hreceived
      | some message =>
          simp only
          split_ifs with hpending
          · have htaken := hreceived.of_sameLink (takePending_sameLink r.live)
            exact start_consistent htaken (ho.2 message hstarts hpending)
          · exact hreceived

lemma consistent_start : ({} : LiveRun).Consistent :=
  .idle ⟨fun _ hmem => (List.not_mem_nil hmem).elim, fun _ hended => nomatch hended⟩ rfl rfl rfl

/-- **Every edit is of the message of its broadcast**, in every run in which the chat of the broadcast is
open when it has something to send and its message keeps its id; and a broadcast that has ended has been told
of once. -/
theorem edits_of_broadcast (P : Platform) {r : LiveRun}
    (h : Reachable (step P) (fun r e => r.Served e ∧ r.InTime P e) {} r) : r.Faithful :=
  (h.invariant consistent_start fun _ _ hr he => step_consistent hr he.1 he.2).toFaithful

/-- An own message with a live location. -/
def sharing (id : ℤ) : RawMessage :=
  { RawMessage.text id 1 "" with
    isOutgoing := true
    content := { asIncoming := { kind := .liveLocation, preview := "" }
                 asOutgoing := { kind := .liveLocation, preview := "" } } }

def somewhere : LocationPoint := { latitude := 1, longitude := 2 }

def somewhereForAnHour : LocationMessageInfo :=
  { point := somewhere, liveMeta := some { livePeriod := 3600 }, expiresIn := some 3600 }

/-- The location of a message of chat 1 is shared, and the position is there. -/
def share : List LiveEvent :=
  [.manager (.openChat 1),
    .manager (.update (.newMessage (sharing 5))),
    .learn fun _ => some somewhereForAnHour,
    .startLiveLocationBroadcast 5, .permission 0 true, .firstPosition 0 (some somewhere)]

theorem edits_of_broadcast_share :
    ((share ++ [LiveEvent.update somewhere, .stopLiveLocationBroadcast]).foldl (step .plain) {}).Faithful := by
  refine edits_of_broadcast .plain (Reachable.start.run ?_)
  refine ⟨⟨trivial, fun _ hk => (nomatch hk), fun _ hm => (nomatch hm)⟩,
    ⟨trivial, fun _ hk => (nomatch hk), fun _ _ hp => (nomatch hp)⟩, ⟨trivial, trivial⟩,
    ⟨trivial, fun _ _ hk => (nomatch hk)⟩, ⟨rfl, rfl⟩, ⟨rfl, Or.inr ⟨rfl, ?_⟩⟩,
    ⟨trivial, fun _ => Or.inr ?_⟩, ⟨trivial, ?_⟩, trivial⟩
  all_goals rintro _ ⟨⟩; rfl

/-- Another chat is opened, and the next position goes there. -/
def shareElsewhere : List LiveEvent := share ++ [.manager (.openChat 2), .update somewhere]

/-- The message is shared before it has been sent, and keeps the id that it had. -/
def shareUnsent : List LiveEvent :=
  [.manager (.openChat 1), .sendLiveLocation { livePeriod := 3600 } true,
    .learn fun _ => some somewhereForAnHour,
    .manager (.update (.newMessage (sharing 5))), .permission 0 true, .firstPosition 0 none,
    .manager (.update (.messageSendSucceeded (some 5) (sharing 7))), .update somewhere]

/-- The chat is closed, and then the sharing is stopped. -/
def shareAndLeave : List LiveEvent := share ++ [.manager .closeChat, .stopLiveLocationBroadcast]

/-- **Positions are sent to other messages, and a broadcast is not told of when it ends.** -/
theorem edits_of_other_messages :
    (Reachable (step .plain) Served {} (shareElsewhere.foldl (step .plain) {}) ∧
      ¬(shareElsewhere.foldl (step .plain) {}).Faithful) ∧
    (Reachable (step .plain) Served {} (shareUnsent.foldl (step .plain) {}) ∧
      ¬(shareUnsent.foldl (step .plain) {}).Faithful) ∧
    (Reachable (step .plain) Served {} (shareAndLeave.foldl (step .plain) {}) ∧
      ¬(shareAndLeave.foldl (step .plain) {}).Faithful) := by
  refine ⟨⟨Reachable.start.run ?_, fun h => ?_⟩, ⟨Reachable.start.run ?_, fun h => ?_⟩,
    ⟨Reachable.start.run ?_, fun h => ?_⟩⟩
  · exact ⟨trivial, trivial, trivial, trivial, rfl, rfl, trivial, trivial, trivial⟩
  · have hedit := h.directed
      (⟨2, 5, some ({ livePeriod := 3600 }, somewhere)⟩, some (1, 5)) (by decide +kernel) _ rfl
    exact absurd hedit (by decide)
  · exact ⟨trivial, trivial, trivial, trivial, rfl, rfl, trivial, trivial, trivial⟩
  · have hedit := h.directed
      (⟨1, 5, some ({ livePeriod := 3600 }, somewhere)⟩, some (1, 7)) (by decide +kernel) _ rfl
    exact absurd hedit (by decide)
  · exact ⟨trivial, trivial, trivial, trivial, rfl, rfl, trivial, trivial, trivial⟩
  · exact absurd (h.terminated 0 (by decide +kernel)) (by decide +kernel)

end LiveRun

end RioGram.Chats
