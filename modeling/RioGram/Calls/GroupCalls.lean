import RioGram.Core.Reachable
import RioGram.Js.Strings

/-!
# Group calls

The state of `GroupCallManager`, with what it uses of the media engine, and what is left of its functions when they
wait.  What a step does outside is recorded in `effects`, which a step starts with none of.  When `onCallEnded` of the
bridge is over, the engine has let its stream go.

Not of the source are the numbers of calls: `calls` counts those that the user has begun, `left` is how many there were
when the user has left last, and a join, a reply and an error have the number of the call that they belong to.

* `keepsApart_iff` — the steps that do not mix calls up.
* `forall_keepsApart_iff` — the runs of which all steps are so.
-/

namespace RioGram.Calls

open Js Reaching

inductive GroupCallUiPhase where
  | idle
  | joining
  | active
  | leaving
  | ended
deriving DecidableEq

structure GroupCallSummary where
  id : ℤ
  title : Str
  chatId : Option ℤ := none
  isVideoChat : Bool := true
  isJoined : Bool := false
  isActive : Bool := false
  participantCount : ℤ := 0
  isMyVideoEnabled : Bool := false
  canEnableVideo : Bool := false
  inviteLink : Str := []
  phase : GroupCallUiPhase := .idle
deriving DecidableEq

def GroupCallSummary.hasActiveCall (call : GroupCallSummary) : Bool := call.phase = .joining || call.phase = .active

structure GroupCallParticipantSummary where
  userId : ℤ
  isCurrentUser : Bool := false
  isSpeaking : Bool := false
  isMutedForAll : Bool := false
  isMutedForCurrentUser : Bool := false
  isHandRaised : Bool := false
  volumeLevel : ℤ := 0
  audioSourceId : ℤ := 0
deriving DecidableEq

/-- The JSON of a group call. -/
structure GroupCallJson where
  type : Option Str
  id : ℤ
  title : Option Str := none
  isVideoChat : Option Bool := none
  isJoined : Option Bool := none
  isActive : Option Bool := none
  participantCount : ℤ := 0
  isMyVideoEnabled : Option Bool := none
  canEnableVideo : Option Bool := none
  inviteLink : Option Str := none

namespace TdlibGroupCallParser

def parseGroupCall (json : GroupCallJson) (chatId : Option ℤ) (phase : Option GroupCallUiPhase) :
    Option GroupCallSummary :=
  if json.type ≠ some (ascii "groupCall") then none
  else
    some {
      id := json.id
      title := json.title.getD (units "Групповой звонок")
      chatId := chatId
      isVideoChat := json.isVideoChat.getD true
      isJoined := json.isJoined.getD false
      isActive := json.isActive.getD false
      participantCount := json.participantCount
      isMyVideoEnabled := json.isMyVideoEnabled.getD false
      canEnableVideo := json.canEnableVideo.getD false
      inviteLink := json.inviteLink.getD []
      phase := phase.getD .idle }

end TdlibGroupCallParser

structure GroupCallJoinParams where
  audioSourceId : ℕ
  payload : Str
  isMuted : Bool
  isMyVideoEnabled : Bool
deriving DecidableEq

inductive GroupCallRequest where
  | createVideoChat (chatId : ℤ) (title : Str)
  | joinVideoChat (groupCallId : ℤ) (params : GroupCallJoinParams)
  | createGroupCall (params : GroupCallJoinParams)
  | leaveGroupCall (groupCallId : ℤ)
  | endGroupCall (groupCallId : ℤ)
  | toggleGroupCallIsMyVideoEnabled (groupCallId : ℤ) (isEnabled : Bool)
  | getGroupCallParticipants (chatId : ℤ) (limit : ℤ)
  | getGroupCall (groupCallId : ℤ)
deriving DecidableEq

/-- The tag of a request. -/
def GroupCallRequest.extra : GroupCallRequest → Option Str
  | createVideoChat chatId _ => some (ascii "createVideoChat_" ++ intToString chatId)
  | joinVideoChat groupCallId _ => some (ascii "joinVideoChat_" ++ intToString groupCallId)
  | createGroupCall _ => some (ascii "createGroupCall")
  | _ => none

/-- What is done outside: requests, calls of the platform service and of the engine; `getUserMedia` asks for a stream,
and `keepStream` is what the engine does with it. -/
inductive GroupCallEffect where
  | send (request : GroupCallRequest)
  | startActiveCall (callUuid title : Str) (isVideo : Bool)
  | endActiveCall (callUuid : Str)
  | getUserMedia (isVideo : Bool)
  | keepStream
  | onCallEnded
  | setMuted (isMuted : Bool)
  | setVideoEnabled (isEnabled : Bool)
  | applyGroupJoinResponse (payload : Str)
deriving DecidableEq

/-- A request to join, or a stream. -/
def GroupCallEffect.isJoin : GroupCallEffect → Bool
  | send (.joinVideoChat ..) => true
  | getUserMedia _ => true
  | keepStream => true
  | _ => false

/-- What a join is for: a call, or a new one that is not in a chat. -/
inductive JoinTarget where
  | join (groupCallId : ℤ)
  | create
deriving DecidableEq

/-- What a join waits for: the renderers and the stream in `buildGroupCallJoinParams`, and its result. -/
inductive JoinStage where
  | renderers
  | stream
  | params (params : GroupCallJoinParams)
deriving DecidableEq

structure Joining where
  call : ℕ
  target : JoinTarget
  isMuted : Bool
  isVideo : Bool
  stage : JoinStage := .renderers
deriving DecidableEq

inductive GroupCallTask where
  | joining (joining : Joining)
  /-- `leaveGroupCall` waits for the engine, or for the platform service. -/
  | leavingMedia
  | leavingPlatform
  | toggleVideo (groupCallId : ℤ)

structure GroupCallManager where
  activeCall : Option GroupCallSummary := none
  participants : List GroupCallParticipantSummary := []
  lastError : Option Str := none
  isMuted : Bool := false
  isVideoEnabled : Bool := false
  platformCallUuid : Option Str := none
  hasLocalStream : Bool := false
  audioSourceId : ℕ := 0
  groupJoinPayload : Str := []
  tasks : List GroupCallTask := []
  effects : List GroupCallEffect := []
  calls : ℕ := 0
  left : ℕ := 0

inductive GroupCallEvent where
  | startVideoChat (chatId : ℤ) (title : Str) (isVideo : Bool)
  | joinActiveGroupCall (groupCallId : ℤ) (isVideo : Bool)
  | createAndJoinStandaloneGroupCall (isVideo : Bool)
  | leaveGroupCall
  | endGroupCall
  | toggleMute
  | toggleVideo
  | loadParticipants (limit : ℤ)
  | groupCallId (call : ℕ) (extra : Option Str) (id : Option ℤ)
  | groupCallInfo (call : ℕ) (groupCallId : Option ℤ)
  /-- A group call, in an update or as a reply.  Whether it is the one that is being created, and whose number the
  manager does not have yet, is not of the source. -/
  | groupCall (json : GroupCallJson) (isCreated : Bool)
  | groupCallParticipants (userIds : List ℤ)
  | updateGroupCallParticipant (groupCallId : Option ℤ) (participant : Option GroupCallParticipantSummary)
  | text (extra : Option Str) (text : Option Str)
  | error (call : ℕ) (extra message : Option Str)
  /-- What a task waits for is there, or has failed.  The number is the source of a new stream. -/
  | resume (task : ℕ) (isDone : Bool) (audioSourceId : ℕ)

namespace GroupCallManager

variable (m : GroupCallManager)

def emit (effect : GroupCallEffect) : GroupCallManager := { m with effects := m.effects ++ [effect] }

/-- `_activeCall?.id`. -/
def activeId : Option ℤ := m.activeCall.map (·.id)

def wait (task : GroupCallTask) : GroupCallManager := { m with tasks := m.tasks ++ [task] }

/-! ## The user -/

/-- The next call of the user. -/
def beginCall : GroupCallManager := { m with calls := m.calls + 1 }

def startVideoChat (chatId : ℤ) (title : Str) (isVideo : Bool) : GroupCallManager :=
  if m.activeCall.any (·.hasActiveCall) then { m with lastError := some (units "Уже есть активный групповой звонок") }
  else
    { ({ m.beginCall with lastError := none }.emit (.send (.createVideoChat chatId title))) with
      activeCall := some {
        id := 0
        title := if title = [] then ascii "Video chat" else title
        chatId := some chatId
        phase := .joining }
      isVideoEnabled := isVideo }

/-- `joinActiveGroupCall` up to where it waits, for the call with a number. -/
def joinCall (call : ℕ) (groupCallId : ℤ) (isVideo : Bool) : GroupCallManager :=
  { m with
    lastError := none
    isVideoEnabled := isVideo
    activeCall := some {
      m.activeCall.getD { id := groupCallId, title := units "Групповой звонок", phase := .joining } with
      id := groupCallId
      phase := .joining } }.wait
    (.joining { call := call, target := .join groupCallId, isMuted := m.isMuted, isVideo := isVideo })

def joinActiveGroupCall (groupCallId : ℤ) (isVideo : Bool) : GroupCallManager :=
  m.beginCall.joinCall (m.calls + 1) groupCallId isVideo

def createAndJoinStandaloneGroupCall (isVideo : Bool) : GroupCallManager :=
  { m.beginCall with
    lastError := none
    isVideoEnabled := isVideo
    activeCall := some { id := 0, title := units "Конференция", isVideoChat := false, phase := .joining } }.wait
    (.joining { call := m.calls + 1, target := .create, isMuted := m.isMuted, isVideo := isVideo })

def resetState : GroupCallManager :=
  { m with activeCall := none, participants := [], isMuted := false, isVideoEnabled := false }

/-- `leaveGroupCall` up to where it waits. -/
def leaveGroupCall : GroupCallManager :=
  let m := { m with left := m.calls }
  match m.activeCall with
  | none => m.resetState
  | some call =>
      if call.id = 0 then m.resetState
      else
        (({ m with activeCall := some { call with phase := .leaving } }.emit (.send (.leaveGroupCall call.id))).emit
          .onCallEnded).wait .leavingMedia

def endGroupCall : GroupCallManager :=
  match m.activeCall with
  | none => m
  | some call => if call.id = 0 then m else (m.emit (.send (.endGroupCall call.id))).leaveGroupCall

def toggleMute : GroupCallManager := { m with isMuted := !m.isMuted }.emit (.setMuted !m.isMuted)

def toggleVideo : GroupCallManager :=
  match m.activeCall with
  | none => m
  | some call =>
      if !call.canEnableVideo then m
      else
        ({ m with isVideoEnabled := !m.isVideoEnabled }.emit (.setVideoEnabled !m.isVideoEnabled)).wait
          (.toggleVideo call.id)

def loadParticipants (limit : ℤ) : GroupCallManager :=
  match m.activeCall with
  | none => m
  | some call =>
      if call.id = 0 then m else m.emit (.send (.getGroupCallParticipants (call.chatId.getD 0) limit))

/-! ## What waits -/

/-- `_buildGroupPayloadPlaceholder`. -/
def buildGroupPayloadPlaceholder : Str :=
  ascii "\x7b\"version\":1,\"audio_source_id\":" ++ (intToString m.audioSourceId ++ ascii "\x7d")

/-- The end of `buildGroupCallJoinParams`. -/
def buildParams (joining : Joining) : GroupCallManager :=
  let m := if m.groupJoinPayload = [] then { m with groupJoinPayload := m.buildGroupPayloadPlaceholder } else m
  m.wait (.joining { joining with
    stage := .params {
      audioSourceId := m.audioSourceId
      payload := m.groupJoinPayload
      isMuted := joining.isMuted
      isMyVideoEnabled := joining.isVideo } })

/-- What a join does when what it waits for is there. -/
def join (joining : Joining) (audioSourceId : ℕ) : GroupCallManager :=
  match joining.stage with
  | .renderers =>
      if m.hasLocalStream then m.buildParams joining
      else (m.emit (.getUserMedia joining.isVideo)).wait (.joining { joining with stage := .stream })
  | .stream =>
      ({ m with hasLocalStream := true, audioSourceId := audioSourceId }.emit .keepStream).buildParams joining
  | .params params =>
      match joining.target with
      | .join groupCallId => m.emit (.send (.joinVideoChat groupCallId params))
      | .create => m.emit (.send (.createGroupCall params))

/-- What a task does when it goes on; if what it has waited for has failed, it fails. -/
def goOn (task : GroupCallTask) (isDone : Bool) (audioSourceId : ℕ) : GroupCallManager :=
  if !isDone then m
  else
    match task with
    | .joining joining => m.join joining audioSourceId
    | .leavingMedia =>
        let m := { m with hasLocalStream := false, groupJoinPayload := [] }
        let m := match m.platformCallUuid with
          | none => m
          | some uuid => { m with platformCallUuid := none }.emit (.endActiveCall uuid)
        m.wait .leavingPlatform
    | .leavingPlatform => m.resetState
    | .toggleVideo groupCallId => m.emit (.send (.toggleGroupCallIsMyVideoEnabled groupCallId m.isVideoEnabled))

def resume (task : ℕ) (isDone : Bool) (audioSourceId : ℕ) : GroupCallManager :=
  match m.tasks[task]? with
  | none => m
  | some current => { m with tasks := m.tasks.eraseIdx task }.goOn current isDone audioSourceId

/-! ## Updates -/

def handleGroupCallId (call : ℕ) (extra : Option Str) (id : Option ℤ) : GroupCallManager :=
  if !extra.any (ascii "createVideoChat_").isPrefixOf then m
  else
    match id with
    | none => m
    | some groupCallId =>
        { m with
          activeCall := some {
            m.activeCall.getD { id := groupCallId, title := ascii "Video chat" } with
            id := groupCallId } }.joinCall call groupCallId m.isVideoEnabled

def handleGroupCallInfo (call : ℕ) (id : Option ℤ) : GroupCallManager :=
  match id with
  | none => m
  | some groupCallId =>
      { m with
        activeCall := some {
          m.activeCall.getD { id := groupCallId, title := units "Групповой звонок" } with
          id := groupCallId
          phase := .joining } }.joinCall call groupCallId m.isVideoEnabled

/-- The phase that a group call gets from that of the active one. -/
def nextPhase : Option GroupCallUiPhase :=
  m.activeCall.map fun call => if call.phase = .joining then .active else call.phase

def parseGroupCall (json : GroupCallJson) : Option GroupCallSummary :=
  TdlibGroupCallParser.parseGroupCall json (m.activeCall.bind (·.chatId)) m.nextPhase

def handleGroupCall (json : GroupCallJson) : GroupCallManager :=
  match m.parseGroupCall json with
  | none => m
  | some parsed =>
      let m := { m with
        activeCall := some { parsed with phase := if parsed.isJoined then .active else parsed.phase } }
      if parsed.isJoined ∧ m.platformCallUuid = none then
        let uuid := ascii "group-" ++ intToString parsed.id
        { m with platformCallUuid := some uuid }.emit (.startActiveCall uuid parsed.title m.isVideoEnabled)
      else m

def handleParticipants (userIds : List ℤ) : GroupCallManager :=
  { m with participants := userIds.map fun userId => { userId := userId } }

def handleParticipantUpdate (groupCallId : Option ℤ) (participant : Option GroupCallParticipantSummary) :
    GroupCallManager :=
  if m.activeId ≠ groupCallId then m
  else
    match participant with
    | none => m
    | some participant =>
        match m.participants.findIdx? (·.userId = participant.userId) with
        | some index => { m with participants := m.participants.set index participant }
        | none => { m with participants := m.participants ++ [participant] }

def handleJoinResponse (extra text : Option Str) : GroupCallManager :=
  if !extra.any fun e => (ascii "joinVideoChat_").isPrefixOf e || e = ascii "createGroupCall" then m
  else
    match text with
    | none => m
    | some payload =>
        ({ m with groupJoinPayload := payload }.emit (.applyGroupJoinResponse payload)).emit
          (.send (.getGroupCall (m.activeId.getD 0)))

/-- The tags of the requests whose errors end a call. -/
def endsCall (extra : Option Str) : Bool :=
  extra.any fun e => (ascii "createVideoChat_").isPrefixOf e || (ascii "joinVideoChat_").isPrefixOf e ||
    e = ascii "createGroupCall"

def handleError (extra message : Option Str) : GroupCallManager :=
  if !endsCall extra then m
  else
    { m with
      lastError := some (message.getD (units "Ошибка группового звонка"))
      activeCall := m.activeCall.map fun call => { call with phase := .ended } }

/-! ## Steps -/

def handle : GroupCallEvent → GroupCallManager
  | .startVideoChat chatId title isVideo => m.startVideoChat chatId title isVideo
  | .joinActiveGroupCall groupCallId isVideo => m.joinActiveGroupCall groupCallId isVideo
  | .createAndJoinStandaloneGroupCall isVideo => m.createAndJoinStandaloneGroupCall isVideo
  | .leaveGroupCall => m.leaveGroupCall
  | .endGroupCall => m.endGroupCall
  | .toggleMute => m.toggleMute
  | .toggleVideo => m.toggleVideo
  | .loadParticipants limit => m.loadParticipants limit
  | .groupCallId call extra id => m.handleGroupCallId call extra id
  | .groupCallInfo call groupCallId => m.handleGroupCallInfo call groupCallId
  | .groupCall json _ => m.handleGroupCall json
  | .groupCallParticipants userIds => m.handleParticipants userIds
  | .updateGroupCallParticipant groupCallId participant => m.handleParticipantUpdate groupCallId participant
  | .text extra text => m.handleJoinResponse extra text
  | .error _ extra message => m.handleError extra message
  | .resume task isDone audioSourceId => m.resume task isDone audioSourceId

def step (event : GroupCallEvent) : GroupCallManager := { m with effects := [] }.handle event


/-! ## Calls apart -/

/-- A group call is not the active one.  While that has no number, it may be the one that is being created. -/
def IsOther (active : GroupCallSummary) (json : GroupCallJson) (isCreated : Bool) : Prop :=
  json.id ≠ active.id ∧ (active.id = 0 → isCreated = false)

/-- A join that was begun before the user has left asks for nothing more, another group call does not take the place of
the active one, and an error of an earlier call does not end it. -/
def KeepsApart (event : GroupCallEvent) : Prop :=
  match event with
  | .resume task _ _ => ∀ joining, m.tasks[task]? = some (.joining joining) → joining.call ≤ m.left →
      ∀ effect ∈ (m.step event).effects, effect.isJoin = false
  | .groupCall json isCreated => ∀ active, m.activeCall = some active → IsOther active json isCreated →
      (m.step event).activeCall = some active ∧ (m.step event).participants = m.participants
  | .error call _ _ => call < m.calls → (m.step event).activeCall = m.activeCall
  | _ => True

/-- A join has nothing more to ask for, or what it waits for has failed. -/
def IsSpent (joining : Joining) (isDone : Bool) : Prop :=
  isDone = false ∨ joining.stage = .renderers ∧ m.hasLocalStream = true ∨
    ∃ params, joining.stage = .params params ∧ joining.target = .create

/-- No join that was begun before the user has left goes on unless it is spent, no group call comes but the active one,
and no error of an earlier call that would end one while one has not ended. -/
def Apart (event : GroupCallEvent) : Prop :=
  match event with
  | .resume task isDone _ => ∀ joining, m.tasks[task]? = some (.joining joining) → joining.call ≤ m.left →
      m.IsSpent joining isDone
  | .groupCall json isCreated => ∀ active, m.activeCall = some active → IsOther active json isCreated →
      json.type ≠ some (ascii "groupCall")
  | .error call extra _ => call < m.calls → endsCall extra = false ∨ m.activeCall.all (·.phase = .ended)
  | _ => True

variable {m}

lemma effects_buildParams (joining : Joining) : (m.buildParams joining).effects = m.effects := by
  rw [buildParams]
  split_ifs <;> rfl

/-- What is left of a join asks for a stream, keeps it or asks to join unless it is spent. -/
lemma isJoin_resume_iff {task : ℕ} {joining : Joining} (h : m.tasks[task]? = some (.joining joining)) (isDone : Bool)
    (audioSourceId : ℕ) : (∀ effect ∈ (m.step (.resume task isDone audioSourceId)).effects, effect.isJoin = false) ↔
      m.IsSpent joining isDone := by
  have hstep : m.step (.resume task isDone audioSourceId) =
      ({ m with tasks := m.tasks.eraseIdx task, effects := [] } : GroupCallManager).goOn (.joining joining) isDone
        audioSourceId := by
    simp only [step, handle, resume, h]
  rw [hstep, IsSpent]
  cases isDone with
  | false => exact iff_of_true (fun effect hmem => nomatch hmem) (.inl rfl)
  | true =>
      rw [or_iff_right fun hfalse => nomatch hfalse]
      simp only [goOn, Bool.not_true, Bool.false_eq_true, if_false, join]
      rcases joining with ⟨call, target, isMuted, isVideo, stage⟩
      cases stage with
      | renderers =>
          split_ifs with hstream
          · rw [effects_buildParams]
            exact iff_of_true (fun effect hmem => nomatch hmem) (.inl ⟨rfl, hstream⟩)
          · refine iff_of_false (fun hnone => nomatch hnone (.getUserMedia isVideo) List.mem_cons_self) ?_
            rintro (⟨-, hkept⟩ | ⟨params, hparams, -⟩)
            · exact hstream hkept
            · exact nomatch hparams
      | stream =>
          rw [effects_buildParams]
          refine iff_of_false (fun hnone => nomatch hnone .keepStream List.mem_cons_self) ?_
          rintro (⟨hstage, -⟩ | ⟨params, hparams, -⟩)
          · exact nomatch hstage
          · exact nomatch hparams
      | params params =>
          cases target with
          | join groupCallId =>
              refine iff_of_false (fun hnone => nomatch hnone _ List.mem_cons_self) ?_
              rintro (⟨hstage, -⟩ | ⟨params, -, htarget⟩)
              · exact nomatch hstage
              · exact nomatch htarget
          | create =>
              refine iff_of_true (fun effect hmem => ?_) (.inr ⟨params, rfl, rfl⟩)
              rw [List.mem_singleton.mp hmem]
              rfl

lemma parseGroupCall_eq_none {json : GroupCallJson} (h : json.type ≠ some (ascii "groupCall")) :
    m.parseGroupCall json = none := by
  rw [parseGroupCall, TdlibGroupCallParser.parseGroupCall, if_pos h]

/-- A group call becomes the active one. -/
lemma activeId_handleGroupCall {json : GroupCallJson} (h : json.type = some (ascii "groupCall")) :
    (m.handleGroupCall json).activeId = some json.id := by
  have hparsed : ∃ parsed, m.parseGroupCall json = some parsed ∧ parsed.id = json.id := by
    rw [parseGroupCall, TdlibGroupCallParser.parseGroupCall, if_neg (not_not_intro h)]
    exact ⟨_, rfl, rfl⟩
  rcases hparsed with ⟨parsed, hparsed, hid⟩
  simp only [handleGroupCall, hparsed]
  split_ifs <;> exact congrArg some hid

/-- A group call that is not the active one leaves that alone if it is none. -/
lemma keepsActive_groupCall_iff {active : GroupCallSummary} (hactive : m.activeCall = some active)
    {json : GroupCallJson} (hid : json.id ≠ active.id) (isCreated : Bool) :
    ((m.step (.groupCall json isCreated)).activeCall = some active ∧
      (m.step (.groupCall json isCreated)).participants = m.participants) ↔
      json.type ≠ some (ascii "groupCall") := by
  constructor
  · rintro ⟨hkept, -⟩ htype
    have hnext : (m.step (.groupCall json isCreated)).activeId = some json.id := activeId_handleGroupCall htype
    rw [activeId, hkept, Option.map_some, Option.some_inj] at hnext
    exact hid hnext.symm
  · intro htype
    simp only [step, handle, handleGroupCall, parseGroupCall_eq_none htype]
    exact ⟨hactive, trivial⟩

lemma activeCall_handleError_iff {extra message : Option Str} :
    (m.handleError extra message).activeCall = m.activeCall ↔
      endsCall extra = false ∨ m.activeCall.all (·.phase = .ended) := by
  rw [handleError, ← Bool.not_eq_true']
  split_ifs with hother
  · exact iff_of_true rfl (.inl hother)
  · rw [or_iff_right hother]
    rcases hactive : m.activeCall with _ | active
    · exact iff_of_true rfl rfl
    · simp only [Option.map_some, Option.all_some, Option.some_inj, decide_eq_true_eq]
      exact ⟨fun hended => (congrArg GroupCallSummary.phase hended).symm, fun hended => by rw [← hended]⟩

/-- **Calls are kept apart** in the steps in which nothing of another one comes. -/
theorem keepsApart_iff (event : GroupCallEvent) : m.KeepsApart event ↔ m.Apart event := by
  cases event with
  | resume task isDone audioSourceId =>
      exact forall_congr' fun joining => forall_congr' fun htask => forall_congr' fun _ =>
        isJoin_resume_iff htask isDone audioSourceId
  | groupCall json isCreated =>
      exact forall_congr' fun active => forall_congr' fun hactive => forall_congr' fun hother =>
        keepsActive_groupCall_iff hactive hother.1 isCreated
  | error call extra message => exact forall_congr' fun _ => activeCall_handleError_iff
  | _ => exact Iff.rfl

/-- **Group calls over runs.** -/
theorem forall_keepsApart_iff (m : GroupCallManager) (events : List GroupCallEvent) :
    Meets step KeepsApart m events ↔ Meets step Apart m events :=
  meets_iff_meets (I := fun _ => True) (fun n event _ => keepsApart_iff (m := n) event) (fun _ _ _ _ => trivial)
    trivial events


/-- The user leaves while a join waits for its stream, which is kept then; another group call takes the place of the
active one; the error of an earlier call ends the one after it. -/
theorem calls_mixed_up :
    let left := [.joinActiveGroupCall 7 false, .resume 0 true 0, .leaveGroupCall, .resume 0 true 5]
    let other := [.joinActiveGroupCall 7 false, .groupCall { type := some (ascii "groupCall"), id := 9 } false]
    let earlier := [.joinActiveGroupCall 7 false, .joinActiveGroupCall 8 false,
      .error 1 (some (ascii "joinVideoChat_7")) (some (ascii "GROUPCALL_INVALID"))]
    ((left.foldl step {}).effects = [.keepStream] ∧ ¬Meets step KeepsApart {} left) ∧
      ((other.foldl step {}).activeId = some 9 ∧ ¬Meets step KeepsApart {} other) ∧
      (earlier.foldl step {}).activeCall.map (·.phase) = some .ended ∧ ¬Meets step KeepsApart {} earlier := by
  refine ⟨⟨by decide, ?_⟩, ⟨by decide, ?_⟩, by decide, ?_⟩
  · rintro ⟨-, -, -, hjoin, -⟩
    exact nomatch hjoin _ rfl (by decide) .keepStream (by decide)
  · rintro ⟨-, hother, -⟩
    have hkept := congrArg (Option.map GroupCallSummary.id) (hother _ rfl ⟨by decide, fun _ => rfl⟩).1
    exact absurd hkept (by decide)
  · rintro ⟨-, -, hearlier, -⟩
    have hkept := congrArg (Option.map GroupCallSummary.phase) (hearlier (by decide))
    exact absurd hkept (by decide)

end GroupCallManager

end RioGram.Calls
