import RioGram.Calls.Manager
import RioGram.Calls.MediaEngine

/-!
# The end of a call

The manager of calls with its media engine and the calls of the platform service: `_onCallReady` and `_onCallEnded` go
on at any of the points at which they wait, in the manager or in the engine, with everything else that happens in
between.  Signaling data comes in at any time.

Not of the source: which call a call of the platform is for, and which calls have ended.

* `CallSystem.HangsUp` — what is left of calls that have ended when nothing goes on any more.
* `hangsUp_of_meets` — the runs that leave nothing, and start no media for a call that has ended.
-/

namespace RioGram.Calls

open Js Reaching

/-- What goes on in the engine: for a task of the manager that waits for it, or to apply signaling data. -/
inductive EngineJob where
  | start (call : CallSummary) (p : StartPoint)
  | stop (call : CallSummary) (p : StopPoint)
  | handle (applying : Applying)
deriving DecidableEq

structure CallSystem where
  manager : CallManager := {}
  engine : WebRtcMediaEngine := {}
  jobs : List EngineJob := []
  /-- By their uuid, and the call that each was started for. -/
  platformCalls : List (Str × ℤ) := []
  ended : List ℤ := []

inductive CallSystemEvent where
  | manager (event : CallEvent)
  | engineGoesOn (job : ℕ) (answer : Option (List ℕ))
  | receive (chunk : SignalingChunk)

/-- The platform service when the manager does something. -/
def onPlatform (callId : ℤ) (calls : List (Str × ℤ)) : CallEffect → List (Str × ℤ)
  | .reportIncomingCall uuid _ _ _ => calls ++ [(uuid, callId)]
  | .startActiveCall uuid _ _ _ _ => calls ++ [(uuid, callId)]
  | .endActiveCall uuid => calls.filter (·.1 ≠ uuid)
  | _ => calls

/-- The job that a task of the manager waits for. -/
def jobOf (e : WebRtcMediaEngine) : CallTask → Option EngineJob
  | .onCallReady call => some (.start call e.startCall)
  | .onCallEnded call => some (.stop call e.stopCall)
  | _ => none

/-- The call of an update that is looked at. -/
def updated (raw : CallJson) : Option CallSummary := (TdlibCallParser.parseCall raw).filter (·.id ≠ 0)

/-- The calls that an event ends. -/
def endedBy : CallEvent → List ℤ
  | .updateCall raw _ => ((updated raw).filter (·.isEnded)).toList.map (·.id)
  | _ => []

/-- The manager forgets its call after a while. -/
def CallTask.isDelayed : CallTask → Bool
  | delayed _ => true
  | _ => false

namespace CallSystem

variable (s : CallSystem)

/-- The manager has done something: what now waits for the engine is a job of it. -/
def after (m : CallManager) : CallSystem :=
  { s with
    manager := { m with tasks := m.tasks.filter fun task => (jobOf s.engine task).isNone }
    jobs := s.jobs ++ m.tasks.filterMap (jobOf s.engine)
    platformCalls := m.effects.foldl (onPlatform ((m.activeCall.map (·.id)).getD 0)) s.platformCalls }

def manages (event : CallEvent) : CallSystem :=
  { s.after (s.manager.step event) with ended := s.ended ++ endedBy event }

/-- `_onCallReady` ends with its start-up. -/
def startGoesOn (job : ℕ) (call : CallSummary) (p : StartPoint) (answer : Option (List ℕ)) : CallSystem :=
  { s with
    engine := (s.engine.goOnStarting call.id p answer).1
    jobs := s.jobs.eraseIdx job ++
      match (s.engine.goOnStarting call.id p answer).2 with
      | .waits next => [.start call next]
      | _ => [] }

/-- `_onCallEnded` goes on when `stopCall` returns. -/
def stopGoesOn (job : ℕ) (call : CallSummary) (p : StopPoint) (isDone : Bool) : CallSystem :=
  if isDone then
    match (s.engine.goOnStopping p).2 with
    | .waits next =>
        { s with
          engine := (s.engine.goOnStopping p).1
          jobs := s.jobs.eraseIdx job ++ [.stop call next] }
    | _ =>
        { s with
          engine := (s.engine.goOnStopping p).1
          jobs := s.jobs.eraseIdx job }.after ({ s.manager with effects := [] }.goOn (.onCallEnded call) true)
  else { s with jobs := s.jobs.eraseIdx job }

def handleGoesOn (job : ℕ) (applying : Applying) (isDone : Bool) : CallSystem :=
  { s with
    engine := (s.engine.goOnApplying applying isDone).1
    jobs := s.jobs.eraseIdx job ++ (s.engine.goOnApplying applying isDone).2.toList.map .handle }

@[grind =]
def engineGoesOn (job : ℕ) (answer : Option (List ℕ)) : CallSystem :=
  match s.jobs[job]? with
  | none => s
  | some (.start call p) => s.startGoesOn job call p answer
  | some (.stop call p) => s.stopGoesOn job call p answer.isSome
  | some (.handle applying) => s.handleGoesOn job applying answer.isSome

def receive (chunk : SignalingChunk) : CallSystem :=
  { s with
    engine := (s.engine.handleSignalingData chunk).1
    jobs := s.jobs ++ (s.engine.handleSignalingData chunk).2.toList.map .handle }

def step (s : CallSystem) : CallSystemEvent → CallSystem
  | .manager event => s.manages event
  | .engineGoesOn job answer => s.engineGoesOn job answer
  | .receive chunk => s.receive chunk

/-! ## What is left of a call -/

/-- No call that has ended has a stream, a connection or a call of the platform. -/
structure Released : Prop where
  stream : ∀ stream, s.engine.localStream = some stream → stream.owner ∉ s.ended
  connection : ∀ pc, s.engine.peerConnection = some pc → pc.owner ∉ s.ended
  platform : ∀ call ∈ s.platformCalls, call.2 ∉ s.ended

/-- Nothing goes on any more, but that the manager forgets its call after a while. -/
def IsDone : Prop := s.jobs = [] ∧ ∀ task ∈ s.manager.tasks, task.isDelayed

def HangsUp : Prop := s.IsDone → s.Released

/-- Media are started for no call that has ended. -/
def StartsLive (event : CallSystemEvent) : Prop :=
  ∀ callId ∈ (s.step event).engine.started.drop s.engine.started.length, callId ∉ s.ended

end CallSystem

/-! ## Runs in order -/

/-- `_onCallReady` has not come to its start-up. -/
def CallTask.isStarting : CallTask → Bool
  | startActiveCall _ _ => true
  | setCallConnected _ _ => true
  | onCallReady _ => true
  | _ => false

/-- A start-up that has not got its stream. -/
def StartPoint.isEarly : StartPoint → Bool
  | localRenderer => true
  | remoteRenderer => true
  | renderers => true
  | stopping _ => true
  | userMedia => true
  | _ => false

namespace CallSystem

variable (s : CallSystem)

/-- What was begun for the call, if anything, has got its stream. -/
def HasStarted (callId : ℤ) : Prop :=
  (∀ task ∈ s.manager.tasks, task.isStarting → task.call.id ≠ callId) ∧
    ∀ call p, .start call p ∈ s.jobs → p.isEarly → call.id ≠ callId

/-- The end of a call has still to close the connection. -/
def IsStopping : Prop := ∃ call p, .stop call p ∈ s.jobs

/-- A call ends only when no start-up of it is still to get its stream, and does not come back.  A start-up whose call
has ended gets its connection only before the end of a call closes it.  The end of a call does not fail with something
left to be released, and what it asks of the platform is done before another call of the platform has been started. -/
@[grind =]
def Orderly : CallSystemEvent → Prop
  | .manager (.updateCall raw _) => ∀ call, updated raw = some call →
      (call.isEnded → s.HasStarted call.id) ∧ (call.isEnded = false → call.id ∉ s.ended)
  | .manager (.resume task isDone) => ∀ call, s.manager.tasks[task]? = some (.endActiveCall call) → isDone →
      s.platformCalls = []
  | .engineGoesOn job answer =>
      match s.jobs[job]? with
      | some (.start call .connection) => answer ≠ none → call.id ∈ s.ended → s.IsStopping
      | some (.stop _ _) => answer = none → s.Released
      | _ => True
  | _ => True

end CallSystem

/-! ## What the engine does -/

namespace WebRtcMediaEngine

variable {e e' : WebRtcMediaEngine}

/-- Nothing is done to the stream and the connection, and no media are asked for. -/
structure SameMedia (e e' : WebRtcMediaEngine) : Prop where
  stream : e'.localStream = e.localStream
  connection : e'.peerConnection = e.peerConnection
  started : e'.started = e.started

lemma SameMedia.refl (e : WebRtcMediaEngine) : SameMedia e e := ⟨rfl, rfl, rfl⟩

lemma SameMedia.trans {e'' : WebRtcMediaEngine} (h : SameMedia e e') (h' : SameMedia e' e'') : SameMedia e e'' :=
  ⟨h'.stream.trans h.stream, h'.connection.trans h.connection, h'.started.trans h.started⟩

lemma sameMedia_handleSignalingData (e : WebRtcMediaEngine) (chunk : SignalingChunk) :
    SameMedia e (e.handleSignalingData chunk).1 := by
  rcases e.handleSignalingData_cases chunk with h | h | ⟨pc, -, h⟩
  · rw [h]
    exact .refl e
  · rw [h]
    exact ⟨rfl, rfl, rfl⟩
  · rw [h]
    exact ⟨rfl, rfl, rfl⟩

lemma sameMedia_goOnApplying (e : WebRtcMediaEngine) (applying : Applying) (isDone : Bool) :
    SameMedia e (e.goOnApplying applying isDone).1 := by
  rw [goOnApplying_fst]
  split_ifs
  · exact .refl e
  · exact ⟨rfl, rfl, rfl⟩

lemma sameMedia_flush (e : WebRtcMediaEngine) (length taken : ℕ) : SameMedia e (e.flush length taken).1 := by
  rw [flush]
  split_ifs
  · exact .refl e
  · split
    · exact ⟨rfl, rfl, rfl⟩
    · exact e.sameMedia_handleSignalingData _

lemma sameMedia_addTracks (e : WebRtcMediaEngine) (tracks : List ℕ) : SameMedia e (e.addTracks tracks).1 := by
  cases tracks with
  | nil =>
      rw [addTracks]
      split_ifs
      · exact .refl e
      · exact e.sameMedia_flush _ _
  | cons track rest =>
      rw [addTracks]
      split_ifs <;> exact .refl e

/-- What a start-up does to the media when it goes on. -/
structure Starts (e e' : WebRtcMediaEngine) (owner : ℤ) (p : StartPoint) (answer : Option (List ℕ)) : Prop where
  stream : ∀ stream, e'.localStream = some stream → e.localStream = some stream ∨ p.isEarly ∧ stream.owner = owner
  connection : ∀ pc, e'.peerConnection = some pc →
    e.peerConnection = some pc ∨ p = .connection ∧ answer ≠ none ∧ pc.owner = owner
  started : e'.started = e.started ∨ p.isEarly ∧ e'.started = e.started ++ [owner]

lemma SameMedia.starts (h : SameMedia e e') (owner : ℤ) (p : StartPoint) (answer : Option (List ℕ)) :
    Starts e e' owner p answer :=
  ⟨fun _ hstream => .inl (h.stream.symm.trans hstream), fun _ hpc => .inl (h.connection.symm.trans hpc),
    .inl h.started⟩

lemma sameMedia_flushing (e : WebRtcMediaEngine) (owner : ℤ) (length taken : ℕ) (applying : Option Applying)
    (answer : Option (List ℕ)) : SameMedia e (e.goOnStarting owner (.flushing length taken applying) answer).1 := by
  cases applying with
  | none => exact e.sameMedia_flush length taken
  | some applying =>
      simp only [goOnStarting]
      split
      · exact e.sameMedia_goOnApplying applying answer.isSome
      · exact (e.sameMedia_goOnApplying applying answer.isSome).trans (sameMedia_flush _ length taken)

/-- The start-up stops what was there before, and asks for its media in the end. -/
lemma starts_stopping (e : WebRtcMediaEngine) (owner : ℤ) (p : StopPoint) (tracks : List ℕ) :
    Starts e (e.goOnStarting owner (.stopping p) (some tracks)).1 owner (.stopping p) (some tracks) := by
  cases p with
  | track rest => exact (SameMedia.refl e).starts _ _ _
  | dispose => exact ⟨fun _ hstream => (nomatch hstream), fun _ hpc => .inl hpc, .inl rfl⟩
  | close => exact ⟨fun _ hstream => .inl hstream, fun _ hpc => (nomatch hpc), .inr ⟨rfl, rfl⟩⟩

lemma starts_connection (e : WebRtcMediaEngine) (owner : ℤ) (tracks : List ℕ) :
    Starts e (e.goOnStarting owner .connection (some tracks)).1 owner .connection (some tracks) := by
  have hsame : SameMedia { e with peerConnection := some ⟨owner⟩ }
      (e.goOnStarting owner .connection (some tracks)).1 := by
    rcases Option.eq_none_or_eq_some e.localStream with hnone | ⟨stream, hstream⟩
    · simp only [goOnStarting, hnone, SameMedia.refl]
    · rw [goOnStarting_connection hstream]
      exact sameMedia_addTracks _ stream.tracks
  refine ⟨fun _ hstream => .inl (hsame.stream.symm.trans hstream), fun pc hpc => .inr ⟨rfl, ?_, ?_⟩, .inl hsame.started⟩
  · intro hnone
    cases hnone
  · cases hsame.connection.symm.trans hpc
    rfl

lemma starts_goOnStarting (e : WebRtcMediaEngine) (owner : ℤ) (p : StartPoint) (answer : Option (List ℕ)) :
    Starts e (e.goOnStarting owner p answer).1 owner p answer := by
  have hsame : Starts e e owner p answer := (SameMedia.refl e).starts owner p answer
  cases p with
  | flushing length taken applying => exact (e.sameMedia_flushing owner length taken applying answer).starts _ _ _
  | localRenderer => cases answer <;> exact hsame
  | remoteRenderer =>
      cases answer with
      | none => exact hsame
      | some tracks =>
          refine SameMedia.starts ?_ _ _ _
          exact ⟨rfl, rfl, rfl⟩
  | renderers => cases answer <;> exact hsame
  | stopping p =>
      cases answer with
      | none => exact hsame
      | some tracks => exact e.starts_stopping owner p tracks
  | userMedia =>
      cases answer with
      | none => exact hsame
      | some tracks =>
          refine ⟨fun stream hstream => .inr ⟨rfl, ?_⟩, fun _ hpc => .inl hpc, .inr ⟨rfl, rfl⟩⟩
          cases hstream
          rfl
  | connection =>
      cases answer with
      | none => exact hsame
      | some tracks => exact e.starts_connection owner tracks
  | track rest =>
      cases answer with
      | none => exact hsame
      | some tracks => exact (e.sameMedia_addTracks rest).starts _ _ _

lemma isEarly_of_flush {q : StartPoint} {length taken : ℕ} (h : (e.flush length taken).2 = .waits q) :
    q.isEarly = false := by
  rw [flush] at h
  split_ifs at h
  split at h
  · cases h
  · cases h
    rfl

lemma isEarly_of_addTracks {q : StartPoint} {tracks : List ℕ} (h : (e.addTracks tracks).2 = .waits q) :
    q.isEarly = false := by
  cases tracks with
  | nil =>
      rw [addTracks] at h
      split_ifs at h
      exact isEarly_of_flush h
  | cons track rest =>
      rw [addTracks] at h
      split_ifs at h
      cases h
      rfl

/-- A start-up that has got its stream does not ask for one again. -/
lemma isEarly_of_waits {owner : ℤ} {p q : StartPoint} {answer : Option (List ℕ)}
    (h : (e.goOnStarting owner p answer).2 = .waits q) (hq : q.isEarly) : p.isEarly := by
  cases p with
  | flushing length taken applying =>
      exfalso
      cases applying with
      | none => exact Bool.false_ne_true ((isEarly_of_flush h).symm.trans hq)
      | some applying =>
          simp only [goOnStarting] at h
          split at h
          · cases h
            cases hq
          · exact Bool.false_ne_true ((isEarly_of_flush h).symm.trans hq)
  | connection =>
      exfalso
      cases answer with
      | none => cases h
      | some tracks =>
          cases hstream : e.localStream with
          | none => simp only [goOnStarting, hstream, reduceCtorEq] at h
          | some stream =>
              rw [goOnStarting_connection hstream] at h
              exact Bool.false_ne_true ((isEarly_of_addTracks h).symm.trans hq)
  | track rest =>
      exfalso
      cases answer with
      | none => cases h
      | some tracks => exact Bool.false_ne_true ((isEarly_of_addTracks h).symm.trans hq)
  | _ => rfl

end WebRtcMediaEngine

/-! ## What the manager does -/

/-- A call of the platform is started. -/
def CallEffect.opens : CallEffect → Bool
  | reportIncomingCall .. => true
  | startActiveCall .. => true
  | _ => false

namespace CallManager

variable {m n : CallManager}

/-- No call is started on the platform, and no start-up begins. -/
def Quiet (m n : CallManager) : Prop :=
  (∀ effect ∈ n.effects, effect.opens = false) ∧
    ∀ task ∈ n.tasks, task.isStarting → ∃ old ∈ m.tasks, old.isStarting ∧ old.call = task.call

lemma quiet_begin (m : CallManager) : Quiet m { m with effects := [] } :=
  ⟨fun _ hmem => (nomatch hmem), fun task hmem hstarting => ⟨task, hmem, hstarting, rfl⟩⟩

lemma Quiet.emit (h : Quiet m n) {effect : CallEffect} (heffect : effect.opens = false) : Quiet m (n.emit effect) := by
  refine ⟨fun e he => ?_, h.2⟩
  rcases List.mem_append.mp he with hold | hnew
  · exact h.1 e hold
  · rw [List.mem_singleton.mp hnew]
    exact heffect

lemma Quiet.wait (h : Quiet m n) {task : CallTask}
    (htask : task.isStarting → ∃ old ∈ m.tasks, old.isStarting ∧ old.call = task.call) : Quiet m (n.wait task) := by
  refine ⟨h.1, fun t ht => ?_⟩
  rcases List.mem_append.mp ht with hold | hnew
  · exact h.2 t hold
  · rw [List.mem_singleton.mp hnew]
    exact htask

lemma Quiet.loadUserCallCapabilities (h : Quiet m n) (userId : ℤ) : Quiet m (n.loadUserCallCapabilities userId) := by
  rw [CallManager.loadUserCallCapabilities, requestUserName]
  split_ifs
  · exact h
  · exact h.emit rfl
  · exact (h.emit rfl).emit rfl

/-- All but updates of calls and the tasks is quiet. -/
lemma quiet_step (m : CallManager) {event : CallEvent} (hupdate : ∀ raw now, event ≠ .updateCall raw now)
    (hresume : ∀ task isDone, event ≠ .resume task isDone) :
    Quiet m (m.step event) ∧ (m.step event).platformCallUuid = m.platformCallUuid := by
  have hbegin := m.quiet_begin
  cases event with
  | loadUserCallCapabilities userId =>
      refine ⟨hbegin.loadUserCallCapabilities userId, ?_⟩
      simp only [step, handle, CallManager.loadUserCallCapabilities, requestUserName]
      split_ifs <;> rfl
  | startOutgoingCall userId isVideo displayName =>
      simp only [step, handle, startOutgoingCall]
      split_ifs
      · exact ⟨hbegin, rfl⟩
      · refine ⟨Quiet.emit (Quiet.loadUserCallCapabilities ?_ userId) rfl, ?_⟩
        · split
          · split_ifs <;> exact hbegin
          · exact hbegin
        · simp only [CallManager.loadUserCallCapabilities, requestUserName]
          repeat' split
          all_goals rfl
  | acceptCall =>
      simp only [step, handle, acceptCall]
      split
      · split_ifs
        · exact ⟨hbegin.emit rfl, rfl⟩
        · exact ⟨hbegin, rfl⟩
      · exact ⟨hbegin, rfl⟩
  | discardActiveCall now =>
      simp only [step, handle, discardActiveCall]
      split
      · exact ⟨hbegin.emit rfl, rfl⟩
      · exact ⟨hbegin, rfl⟩
  | toggleMute => exact ⟨Quiet.emit hbegin rfl, rfl⟩
  | toggleVideo =>
      simp only [step, handle, toggleVideo]
      split
      · split_ifs
        · exact ⟨Quiet.emit hbegin rfl, rfl⟩
        · exact ⟨hbegin, rfl⟩
      · exact ⟨hbegin, rfl⟩
  | updateCall raw now => exact absurd rfl (hupdate raw now)
  | updateNewCallSignalingData callId data =>
      simp only [step, handle, handleNewSignalingData]
      split_ifs
      · exact ⟨hbegin, rfl⟩
      · exact ⟨hbegin, rfl⟩
      · exact ⟨hbegin.emit rfl, rfl⟩
  | userFullInfo extra capabilities =>
      simp only [step, handle, handleUserFullInfo]
      repeat' split
      all_goals exact ⟨hbegin, rfl⟩
  | user id firstName lastName =>
      simp only [step, handle, handleUser]
      repeat' split
      all_goals exact ⟨hbegin, rfl⟩
  | error extra message =>
      simp only [step, handle, handleError]
      split_ifs <;> exact ⟨hbegin, rfl⟩
  | mediaState state => exact ⟨hbegin, rfl⟩
  | sendSignalingData data =>
      simp only [step, handle, sendSignalingData]
      repeat' split
      · exact ⟨hbegin, rfl⟩
      · exact ⟨hbegin, rfl⟩
      · exact ⟨hbegin.emit rfl, rfl⟩
  | durationTick now =>
      simp only [step, handle]
      repeat' split
      all_goals exact ⟨hbegin, rfl⟩
  | resume task isDone => exact absurd rfl (hresume task isDone)

/-- Going on, a task starts nothing. -/
lemma quiet_goOn (hquiet : Quiet m n) {task : CallTask}
    (htask : task.isStarting → ∃ old ∈ m.tasks, old.isStarting ∧ old.call = task.call) (isDone : Bool) :
    Quiet m (n.goOn task isDone) := by
  cases task with
  | startActiveCall call payload =>
      simp only [goOn]
      repeat' split
      · exact hquiet
      · exact (hquiet.emit rfl).wait fun _ => htask rfl
      · exact hquiet
  | setCallConnected call payload =>
      simp only [goOn]
      split_ifs
      · exact (hquiet.emit rfl).wait fun _ => htask rfl
      · exact hquiet
  | onCallReady call => exact hquiet
  | onCallEnded call =>
      simp only [goOn]
      repeat' split
      · exact Quiet.wait hquiet fun hstarting => absurd hstarting Bool.false_ne_true
      · exact (hquiet.emit rfl).wait fun hstarting => absurd hstarting Bool.false_ne_true
      · exact hquiet
  | endActiveCall call =>
      cases isDone with
      | false => exact hquiet
      | true => exact Quiet.wait hquiet fun hstarting => absurd hstarting Bool.false_ne_true
  | delayed call =>
      simp only [goOn]
      split_ifs <;> exact hquiet

/-- The uuid is let go of when the end of the call has been asked for, and only then. -/
lemma platformCallUuid_goOn (m : CallManager) (task : CallTask) (isDone : Bool) :
    (m.goOn task isDone).platformCallUuid = m.platformCallUuid ∨ (∃ call, task = .endActiveCall call) ∧ isDone := by
  cases task with
  | endActiveCall call =>
      cases isDone with
      | false => exact .inl rfl
      | true => exact .inr ⟨⟨call, rfl⟩, rfl⟩
  | _ =>
      left
      simp only [goOn]
      repeat' split
      all_goals rfl

lemma quiet_resume (m : CallManager) (task : ℕ) (isDone : Bool) :
    Quiet m (m.step (.resume task isDone)) ∧
      ((m.step (.resume task isDone)).platformCallUuid = m.platformCallUuid ∨
        ∃ call, m.tasks[task]? = some (.endActiveCall call) ∧ isDone) := by
  have hbegin := m.quiet_begin
  cases htask : m.tasks[task]? with
  | none =>
      have hstep : m.step (.resume task isDone) = { m with effects := [] } := by
        simp only [step, handle, resume, htask]
      rw [hstep]
      exact ⟨hbegin, .inl rfl⟩
  | some current =>
      have hcurrent : current ∈ m.tasks := List.mem_of_getElem? htask
      have hquiet : Quiet m { m with tasks := m.tasks.eraseIdx task, effects := [] } :=
        ⟨hbegin.1, fun t ht hstarting => ⟨t, List.mem_of_mem_eraseIdx ht, hstarting, rfl⟩⟩
      have hstep : m.step (.resume task isDone) =
          { m with tasks := m.tasks.eraseIdx task, effects := [] }.goOn current isDone := by
        rw [step, handle, resume_of_some (m := { m with effects := [] }) htask]
      rw [hstep]
      refine ⟨quiet_goOn hquiet (fun hstarting => ⟨current, hcurrent, hstarting, rfl⟩) isDone, ?_⟩
      rcases platformCallUuid_goOn { m with tasks := m.tasks.eraseIdx task, effects := [] } current isDone with
        hsame | ⟨⟨call, rfl⟩, hdone⟩
      · exact .inl hsame
      · exact .inr ⟨call, rfl, hdone⟩

/-! ### Updates of calls -/

lemma parseCall_of_updated {raw : CallJson} {call : CallSummary} (h : updated raw = some call) :
    TdlibCallParser.parseCall raw = some call ∧ call.id ≠ 0 := by
  rw [updated, Option.filter_eq_some_iff] at h
  exact ⟨h.1, of_decide_eq_true h.2⟩

lemma step_of_updated {raw : CallJson} {call : CallSummary} (h : updated raw = some call) (now : ℤ) :
    m.step (.updateCall raw now) =
      ((({ m with effects := [] } : CallManager).adopt call).reportIncoming call).actOn raw.state call now := by
  rcases parseCall_of_updated h with ⟨hparse, hid⟩
  simp only [step, handle, handleCallUpdate, hparse, if_neg hid]

lemma step_of_not_updated {raw : CallJson} (h : updated raw = none) (now : ℤ) :
    m.step (.updateCall raw now) = { m with effects := [] } := by
  simp only [step, handle, handleCallUpdate]
  split
  · rfl
  · next call hparse =>
      rw [updated, hparse, Option.filter_some] at h
      split_ifs at h with hid
      rw [if_pos (by simpa using hid)]

/-- What an update of a call that has not ended does: it may start one call on the platform, by the uuid that is
kept. -/
structure Updates (m n : CallManager) (call : CallSummary) : Prop where
  active : n.activeCall.map (·.id) = some call.id
  tasks : ∀ task ∈ n.tasks, task ∈ m.tasks ∨ task.call = call
  platform : n.effects = [] ∧ n.platformCallUuid = m.platformCallUuid ∨
    ∃ uuid, n.platformCallUuid = some uuid ∧ m.platformCallUuid.getD uuid = uuid ∧
      ∀ callId calls, n.effects.foldl (onPlatform callId) calls = calls ++ [(uuid, callId)]

lemma reportIncoming_of_not_ringing {call : CallSummary} (h : call.isIncomingRinging = false) :
    m.reportIncoming call = m := by
  rw [reportIncoming, if_neg]
  rw [h]
  exact fun hringing => Bool.false_ne_true hringing.1

/-- What the update of an incoming call does to a manager without a call on the platform. -/
lemma platform_reportIncoming (hm : m.effects = []) (call : CallSummary) :
    (m.reportIncoming call).effects = [] ∧ (m.reportIncoming call).platformCallUuid = m.platformCallUuid ∨
      ∃ uuid, (m.reportIncoming call).platformCallUuid = some uuid ∧ m.platformCallUuid.getD uuid = uuid ∧
        ∀ callId calls,
          (m.reportIncoming call).effects.foldl (onPlatform callId) calls = calls ++ [(uuid, callId)] := by
  rw [reportIncoming]
  split_ifs with hringing
  · refine .inr ⟨callUuid call.id, rfl, ?_, fun callId calls => ?_⟩
    · rw [hringing.2]
      rfl
    · simp only [emit, hm, List.nil_append, List.foldl_cons, List.foldl_nil, onPlatform]
  · exact .inl ⟨hm, rfl⟩

lemma tasks_reportIncoming (call : CallSummary) : (m.reportIncoming call).tasks = m.tasks := by
  rw [reportIncoming]
  split_ifs <;> rfl

lemma updates_step {raw : CallJson} {call : CallSummary} (h : updated raw = some call) (hended : call.isEnded = false)
    (now : ℤ) : Updates m (m.step (.updateCall raw now)) call := by
  have hactive : (m.step (.updateCall raw now)).activeCall.map (·.id) = some call.id := by
    rcases parseCall_of_updated h with ⟨hparse, hid⟩
    rw [step, handle, activeCall_handleCallUpdate hparse hid]
    rfl
  rw [step_of_updated h] at hactive ⊢
  have hplatform := platform_reportIncoming (m := ({ m with effects := [] } : CallManager).adopt call) rfl call
  have htasks : ∀ task ∈ ((({ m with effects := [] } : CallManager).adopt call).reportIncoming call).tasks,
      task ∈ m.tasks ∨ task.call = call := by
    rw [tasks_reportIncoming]
    exact fun task htask => .inl htask
  refine ⟨hactive, ?_, ?_⟩
  · rw [actOn]
    split
    · rw [onCallReady]
      split
      · exact htasks
      · intro task htask
        rcases List.mem_append.mp htask with hold | hnew
        · exact htasks task hold
        · rw [List.mem_singleton.mp hnew]
          exact .inr rfl
    · next hkind => simp [CallSummary.isEnded, hkind] at hended
    · next hkind => simp [CallSummary.isEnded, hkind] at hended
    · exact htasks
    · exact htasks
  · rw [actOn]
    split
    · next hkind =>
        rw [reportIncoming_of_not_ringing (by simp [CallSummary.isIncomingRinging, hkind]), onCallReady]
        split
        · exact .inl ⟨rfl, rfl⟩
        · refine .inr ⟨_, rfl, ?_, fun callId calls => rfl⟩
          cases huuid : m.platformCallUuid with
          | none => rfl
          | some uuid => simp [adopt, startDurationTimer]
    · next hkind => simp [CallSummary.isEnded, hkind] at hended
    · next hkind => simp [CallSummary.isEnded, hkind] at hended
    · exact hplatform
    · exact hplatform

/-- The end of a call waits for the engine. -/
lemma step_of_isEnded {raw : CallJson} {call : CallSummary} (h : updated raw = some call) (hended : call.isEnded)
    (now : ℤ) :
    m.step (.updateCall raw now) = (({ m with effects := [] } : CallManager).adopt call).onCallEnded call := by
  rw [step_of_updated h]
  rcases CallSummary.isEnded_iff.mp hended with hkind | hkind
  · rw [reportIncoming_of_not_ringing (by simp [CallSummary.isIncomingRinging, hkind]), actOn, hkind]
  · rw [reportIncoming_of_not_ringing (by simp [CallSummary.isIncomingRinging, hkind]), actOn, hkind]

end CallManager

/-! ## What a run keeps -/

/-- The end of a call has still to let go of its stream. -/
def StopPoint.isFirst : StopPoint → Bool
  | close => false
  | _ => true

lemma mem_of_mem_foldl_onPlatform {callId : ℤ} {effects : List CallEffect}
    (h : ∀ effect ∈ effects, effect.opens = false) {calls : List (Str × ℤ)} {call : Str × ℤ}
    (hcall : call ∈ effects.foldl (onPlatform callId) calls) : call ∈ calls := by
  induction effects generalizing calls with
  | nil => exact hcall
  | cons effect effects ih =>
      have hrest := ih (fun e he => h e (List.mem_cons_of_mem _ he)) hcall
      have heffect := h effect List.mem_cons_self
      cases effect with
      | reportIncomingCall uuid handle title isVideo => exact nomatch heffect
      | startActiveCall uuid handle title isVideo isIncoming => exact nomatch heffect
      | endActiveCall uuid => exact List.mem_of_mem_filter hrest
      | _ => exact hrest

/-- A member of a list that is not the one at an index stays when that is erased. -/
lemma mem_eraseIdx_of_ne {α : Type} {l : List α} {i : ℕ} {x y : α} (hi : l[i]? = some x) (hy : y ∈ l) (hne : y ≠ x) :
    y ∈ l.eraseIdx i := by
  rcases List.getElem?_eq_some_iff.mp hi with ⟨hlt, rfl⟩
  rcases List.mem_cons.mp ((List.getElem_cons_eraseIdx_perm hlt).mem_iff.mpr hy) with rfl | hmem
  · exact absurd rfl hne
  · exact hmem

namespace CallSystem

/-- What was begun for a call that has ended has got its stream, and what such a call still has is let go of. -/
structure Inv (s : CallSystem) : Prop where
  tasks : ∀ task ∈ s.manager.tasks, task.isStarting → task.call.id ∉ s.ended
  jobs : ∀ call p, .start call p ∈ s.jobs → p.isEarly → call.id ∉ s.ended
  stream : ∀ stream, s.engine.localStream = some stream → stream.owner ∈ s.ended →
    ∃ call p, .stop call p ∈ s.jobs ∧ p.isFirst
  connection : ∀ pc, s.engine.peerConnection = some pc → pc.owner ∈ s.ended → s.IsStopping
  uuid : ∀ call ∈ s.platformCalls, s.manager.platformCallUuid = some call.1
  platform : ∀ call ∈ s.platformCalls, call.2 ∈ s.ended → s.IsStopping

/-- Nothing has ended yet. -/
structure Before (s : CallSystem) : Prop where
  ended : s.ended = []
  platformCalls : s.platformCalls = []

variable {s : CallSystem}

lemma Inv.of_before (h : s.Before) : s.Inv := by
  have hended : ∀ callId, callId ∉ s.ended := by
    intro callId
    rw [h.ended]
    exact List.not_mem_nil
  refine ⟨fun task _ _ => hended _, fun call _ _ _ => hended _, fun stream _ howner => absurd howner (hended _),
    fun pc _ howner => absurd howner (hended _), fun call hcall => ?_, fun call hcall => ?_⟩
  · rw [h.platformCalls] at hcall
    exact nomatch hcall
  · rw [h.platformCalls] at hcall
    exact nomatch hcall

lemma Inv.hangsUp (h : s.Inv) : s.HangsUp := by
  intro hdone
  have hnone : ¬s.IsStopping := by
    rintro ⟨call, p, hjob⟩
    rw [hdone.1] at hjob
    exact nomatch hjob
  refine ⟨fun stream hstream howner => ?_, fun pc hpc howner => hnone (h.connection pc hpc howner),
    fun call hcall howner => hnone (h.platform call hcall howner)⟩
  rcases h.stream stream hstream howner with ⟨call, p, hjob, -⟩
  exact hnone ⟨call, p, hjob⟩

/-! ### The manager -/

/-- A job after the manager has done something is one from before, or what one of its tasks waits for. -/
lemma mem_jobs_after {m : CallManager} {job : EngineJob} (h : job ∈ (s.after m).jobs) :
    job ∈ s.jobs ∨ ∃ task ∈ m.tasks, jobOf s.engine task = some job :=
  (List.mem_append.mp h).imp_right List.mem_filterMap.mp

lemma isFirst_stopCall (e : WebRtcMediaEngine) : e.stopCall.isFirst := by
  rw [WebRtcMediaEngine.stopCall]
  cases (e.localStream.map (·.tracks)).getD [] <;> rfl

/-- The jobs to start a call that the manager adds are those of its tasks. -/
lemma start_mem_after {m : CallManager} {call : CallSummary} {p : StartPoint} (h : .start call p ∈ (s.after m).jobs) :
    .start call p ∈ s.jobs ∨ ∃ task ∈ m.tasks, task.isStarting ∧ task.call = call := by
  rcases mem_jobs_after h with hold | ⟨task, htask, hjob⟩
  · exact .inl hold
  · cases task with
    | onCallReady current =>
        cases hjob
        exact .inr ⟨_, htask, rfl, rfl⟩
    | onCallEnded current => exact nomatch Option.some_inj.mp hjob
    | _ => exact nomatch hjob

lemma mem_tasks_after {m : CallManager} {task : CallTask} (h : task ∈ (s.after m).manager.tasks) : task ∈ m.tasks :=
  List.mem_of_mem_filter h

lemma IsStopping.after (h : s.IsStopping) (m : CallManager) : (s.after m).IsStopping := by
  rcases h with ⟨call, p, hjob⟩
  exact ⟨call, p, List.mem_append_left _ hjob⟩

/-- What the manager may do while no call ends. -/
lemma Inv.after (h : s.Inv) {m : CallManager} (htasks : ∀ task ∈ m.tasks, task.isStarting → task.call.id ∉ s.ended)
    (huuid : ∀ call ∈ (s.after m).platformCalls, m.platformCallUuid = some call.1)
    (hplatform : ∀ call ∈ (s.after m).platformCalls, call ∈ s.platformCalls ∨ call.2 ∉ s.ended) :
    (s.after m).Inv := by
  refine ⟨fun task htask => htasks task (mem_tasks_after htask), fun call p hjob hearly => ?_,
    fun stream hstream howner => ?_, fun pc hpc howner => (h.connection pc hpc howner).after m, huuid,
    fun call hcall howner => ?_⟩
  · rcases start_mem_after hjob with hold | ⟨task, htask, hstarting, rfl⟩
    · exact h.jobs call p hold hearly
    · exact htasks task htask hstarting
  · rcases h.stream stream hstream howner with ⟨call, p, hjob, hfirst⟩
    exact ⟨call, p, List.mem_append_left _ hjob, hfirst⟩
  · rcases hplatform call hcall with hold | hlive
    · exact (h.platform call hold howner).after m
    · exact absurd howner hlive

lemma Inv.quiet (h : s.Inv) {m : CallManager} (hquiet : CallManager.Quiet s.manager m)
    (huuid : m.platformCallUuid = s.manager.platformCallUuid ∨ s.platformCalls = []) : (s.after m).Inv := by
  have hcalls : ∀ call ∈ (s.after m).platformCalls, call ∈ s.platformCalls :=
    fun call hcall => mem_of_mem_foldl_onPlatform hquiet.1 hcall
  refine h.after (fun task htask hstarting => ?_) (fun call hcall => ?_) fun call hcall => .inl (hcalls call hcall)
  · rcases hquiet.2 task htask hstarting with ⟨old, hold, holdStarting, hsame⟩
    rw [← hsame]
    exact h.tasks old hold holdStarting
  · rcases huuid with hsame | hnone
    · rw [hsame]
      exact h.uuid call (hcalls call hcall)
    · have hcall := hcalls call hcall
      rw [hnone] at hcall
      exact nomatch hcall

lemma endedBy_updateCall {raw : CallJson} {call : CallSummary} (h : updated raw = some call) (now : ℤ) :
    endedBy (.updateCall raw now) = if call.isEnded then [call.id] else [] := by
  rw [endedBy, h, Option.filter_some]
  split_ifs <;> rfl

lemma endedBy_of_ne {event : CallEvent} (h : ∀ raw now, event ≠ .updateCall raw now) : endedBy event = [] := by
  cases event with
  | updateCall raw now => exact absurd rfl (h raw now)
  | _ => rfl

/-- An update of a call that has not ended. -/
lemma inv_updates (h : s.Inv) {m : CallManager} {call : CallSummary} (hm : CallManager.Updates s.manager m call)
    (hlive : call.id ∉ s.ended) : (s.after m).Inv := by
  have hactive : (m.activeCall.map (·.id)).getD 0 = call.id := by rw [hm.active, Option.getD_some]
  have htasks : ∀ task ∈ m.tasks, task.isStarting → task.call.id ∉ s.ended := by
    intro task htask hstarting
    rcases hm.tasks task htask with hold | hcall
    · exact h.tasks task hold hstarting
    · rwa [hcall]
  rcases hm.platform with ⟨heffects, huuid⟩ | ⟨uuid, huuid, hkept, heffects⟩
  · have hcalls : (s.after m).platformCalls = s.platformCalls := by
      rw [CallSystem.after, heffects]
      rfl
    refine h.after htasks (fun other hother => ?_) fun other hother => .inl (hcalls ▸ hother)
    rw [hcalls] at hother
    exact huuid.trans (h.uuid other hother)
  · have hcalls : (s.after m).platformCalls = s.platformCalls ++ [(uuid, call.id)] := by
      rw [CallSystem.after, hactive]
      exact heffects _ _
    refine h.after htasks (fun other hother => ?_) fun other hother => ?_
    · rw [hcalls] at hother
      rcases List.mem_append.mp hother with hold | hnew
      · rw [h.uuid other hold, Option.getD_some] at hkept
        rw [huuid, hkept]
      · rw [List.mem_singleton.mp hnew]
        exact huuid
    · rw [hcalls] at hother
      rcases List.mem_append.mp hother with hold | hnew
      · exact .inl hold
      · rw [List.mem_singleton.mp hnew]
        exact .inr hlive

/-- The end of a call, of which nothing was begun that is still to get its stream. -/
lemma inv_ends (h : s.Inv) (m : CallManager) (hm : m.tasks = s.manager.tasks) (hnone : m.effects = [])
    (huuid : m.platformCallUuid = s.manager.platformCallUuid) {call : CallSummary} (hstarted : s.HasStarted call.id) :
    ({ s.after (m.onCallEnded call) with ended := s.ended ++ [call.id] } : CallSystem).Inv := by
  have hmem : ∀ {callId : ℤ}, callId ∉ s.ended → callId ≠ call.id → callId ∉ s.ended ++ [call.id] := by
    intro callId hold hne
    rw [List.mem_append, List.mem_singleton, not_or]
    exact ⟨hold, hne⟩
  have htasks : ∀ task ∈ (m.onCallEnded call).tasks, task.isStarting → task.call.id ∉ s.ended ++ [call.id] := by
    intro task htask hstarting
    rcases List.mem_append.mp htask with hold | hnew
    · rw [CallManager.emit, hm] at hold
      exact hmem (h.tasks task hold hstarting) (hstarted.1 task hold hstarting)
    · rw [List.mem_singleton.mp hnew] at hstarting
      cases hstarting
  have hstop : .stop call s.engine.stopCall ∈ (s.after (m.onCallEnded call)).jobs := by
    refine List.mem_append_right _ (List.mem_filterMap.mpr ⟨.onCallEnded call, ?_, rfl⟩)
    exact List.mem_append_right _ List.mem_cons_self
  have hcalls : (s.after (m.onCallEnded call)).platformCalls = s.platformCalls := by
    simp only [CallSystem.after, CallManager.onCallEnded, CallManager.emit, CallManager.wait, hnone]
    rfl
  refine ⟨fun task htask => htasks task (mem_tasks_after htask), fun other p hjob hearly => ?_,
    fun _ _ _ => ⟨call, _, hstop, isFirst_stopCall s.engine⟩, fun _ _ _ => ⟨call, _, hstop⟩, fun other hother => ?_,
    fun _ _ _ => ⟨call, _, hstop⟩⟩
  · rcases start_mem_after hjob with hold | ⟨task, htask, hstarting, rfl⟩
    · exact hmem (h.jobs other p hold hearly) (hstarted.2 other p hold hearly)
    · exact htasks task htask hstarting
  · rw [hcalls] at hother
    exact huuid.trans (h.uuid other hother)

lemma manages_of_endedBy {event : CallEvent} (h : endedBy event = []) :
    s.manages event = s.after (s.manager.step event) := by
  rw [manages, h, List.append_nil]
  rfl

lemma inv_manages (h : s.Inv) {event : CallEvent} (hok : s.Orderly (.manager event)) : (s.manages event).Inv := by
  by_cases hupdate : ∃ raw now, event = .updateCall raw now
  · rcases hupdate with ⟨raw, now, rfl⟩
    cases hraw : updated raw with
    | none =>
        rw [manages_of_endedBy (by rw [endedBy, hraw]; rfl), CallManager.step_of_not_updated hraw]
        exact h.quiet s.manager.quiet_begin (.inl rfl)
    | some call =>
        rcases hok call hraw with ⟨hends, hlives⟩
        rcases hended : call.isEnded
        · rw [manages_of_endedBy (by rw [endedBy_updateCall hraw, hended]; rfl)]
          exact inv_updates h (CallManager.updates_step hraw hended now) (hlives hended)
        · rw [manages, endedBy_updateCall hraw, if_pos hended, CallManager.step_of_isEnded hraw hended]
          exact inv_ends h (({ s.manager with effects := [] } : CallManager).adopt call) rfl rfl rfl (hends hended)
  · by_cases hresume : ∃ task isDone, event = .resume task isDone
    · rcases hresume with ⟨task, isDone, rfl⟩
      rcases s.manager.quiet_resume task isDone with ⟨hquiet, huuid⟩
      rw [manages_of_endedBy rfl]
      refine h.quiet hquiet (huuid.imp_right ?_)
      rintro ⟨call, htask, hdone⟩
      exact hok call htask hdone
    · have hother : ∀ raw now, event ≠ .updateCall raw now := fun raw now heq => hupdate ⟨raw, now, heq⟩
      have hquiet := s.manager.quiet_step hother fun task isDone heq => hresume ⟨task, isDone, heq⟩
      rw [manages_of_endedBy (endedBy_of_ne hother)]
      exact h.quiet hquiet.1 (.inl hquiet.2)

/-! ### The engine -/

lemma mem_of_mem_erased {jobs next : List EngineJob} {i : ℕ} {job : EngineJob} (h : job ∈ jobs.eraseIdx i ++ next) :
    job ∈ jobs ∨ job ∈ next :=
  (List.mem_append.mp h).imp_left List.mem_of_mem_eraseIdx

lemma inv_startGoesOn (h : s.Inv) {i : ℕ} {call : CallSummary} {p : StartPoint}
    (hi : s.jobs[i]? = some (.start call p)) {answer : Option (List ℕ)}
    (hok : s.Orderly (.engineGoesOn i answer)) : (s.startGoesOn i call p answer).Inv := by
  have hstarts := s.engine.starts_goOnStarting call.id p answer
  have hlive : p.isEarly → call.id ∉ s.ended := h.jobs call p (List.mem_of_getElem? hi)
  have hkeep : ∀ other q, .stop other q ∈ s.jobs → .stop other q ∈ (s.startGoesOn i call p answer).jobs :=
    fun other q hmem => List.mem_append_left _ (mem_eraseIdx_of_ne hi hmem fun heq => nomatch heq)
  have hstopping : s.IsStopping → (s.startGoesOn i call p answer).IsStopping :=
    fun ⟨other, q, hmem⟩ => ⟨other, q, hkeep other q hmem⟩
  refine ⟨h.tasks, fun other q hmem hearly => ?_, fun stream hstream howner => ?_, fun pc hpc howner => ?_, h.uuid,
    fun platformCall hcall howner => hstopping (h.platform platformCall hcall howner)⟩
  · rcases mem_of_mem_erased hmem with hold | hnew
    · exact h.jobs other q hold hearly
    · split at hnew
      · next next hnext =>
          cases List.mem_singleton.mp hnew
          exact hlive (WebRtcMediaEngine.isEarly_of_waits hnext hearly)
      · exact nomatch hnew
  · rcases hstarts.stream stream hstream with hold | ⟨hearly, hown⟩
    · rcases h.stream stream hold howner with ⟨other, q, hmem, hfirst⟩
      exact ⟨other, q, hkeep other q hmem, hfirst⟩
    · exact absurd (hown ▸ howner) (hlive hearly)
  · rcases hstarts.connection pc hpc with hold | ⟨rfl, hanswer, hown⟩
    · exact hstopping (h.connection pc hold howner)
    · simp only [Orderly, hi] at hok
      exact hstopping (hok hanswer (hown ▸ howner))

/-- What does nothing to the media and to calls. -/
lemma Inv.sameMedia (h : s.Inv) {e : WebRtcMediaEngine} (he : WebRtcMediaEngine.SameMedia s.engine e)
    {jobs : List EngineJob} (hstart : ∀ call p, .start call p ∈ jobs → .start call p ∈ s.jobs)
    (hstop : ∀ call p, .stop call p ∈ s.jobs → .stop call p ∈ jobs) :
    ({ s with engine := e, jobs := jobs } : CallSystem).Inv := by
  have hstopping : s.IsStopping → ({ s with engine := e, jobs := jobs } : CallSystem).IsStopping :=
    fun ⟨call, p, hmem⟩ => ⟨call, p, hstop call p hmem⟩
  refine ⟨h.tasks, fun call p hmem => h.jobs call p (hstart call p hmem), fun stream hstream howner => ?_,
    fun pc hpc howner => hstopping (h.connection pc (he.connection.symm.trans hpc) howner), h.uuid,
    fun call hcall howner => hstopping (h.platform call hcall howner)⟩
  rcases h.stream stream (he.stream.symm.trans hstream) howner with ⟨call, p, hmem, hfirst⟩
  exact ⟨call, p, hstop call p hmem, hfirst⟩

lemma start_notMem_handles {call : CallSummary} {p : StartPoint} {handles : List Applying} :
    .start call p ∉ handles.map EngineJob.handle := by
  intro h
  rcases List.mem_map.mp h with ⟨applying, -, heq⟩
  exact nomatch heq

lemma inv_handleGoesOn (h : s.Inv) {i : ℕ} {applying : Applying} (hi : s.jobs[i]? = some (.handle applying))
    (isDone : Bool) : (s.handleGoesOn i applying isDone).Inv := by
  refine h.sameMedia (s.engine.sameMedia_goOnApplying applying isDone) (fun call p hmem => ?_) fun call p hmem => ?_
  · exact (mem_of_mem_erased hmem).resolve_right start_notMem_handles
  · exact List.mem_append_left _ (mem_eraseIdx_of_ne hi hmem fun heq => nomatch heq)

lemma inv_receive (h : s.Inv) (chunk : SignalingChunk) : (s.receive chunk).Inv := by
  refine h.sameMedia (s.engine.sameMedia_handleSignalingData chunk) (fun call p hmem => ?_) fun call p hmem => ?_
  · exact (List.mem_append.mp hmem).resolve_right start_notMem_handles
  · exact List.mem_append_left _ hmem

/-- When the end of a call goes on in the manager, the call of the platform is ended. -/
lemma Inv.platformCalls_ends (h : s.Inv) (e : WebRtcMediaEngine) (jobs : List EngineJob) (call : CallSummary) :
    (({ s with engine := e, jobs := jobs } : CallSystem).after
      (({ s.manager with effects := [] } : CallManager).goOn (.onCallEnded call) true)).platformCalls = [] := by
  cases huuid : s.manager.platformCallUuid with
  | none =>
      have hnone : s.platformCalls = [] := by
        by_contra hne
        rcases List.exists_mem_of_ne_nil _ hne with ⟨platformCall, hmem⟩
        exact nomatch huuid.symm.trans (h.uuid platformCall hmem)
      simp only [CallSystem.after, CallManager.goOn, if_true, huuid]
      exact hnone
  | some uuid =>
      simp only [CallSystem.after, CallManager.goOn, if_true, huuid]
      refine List.filter_eq_nil_iff.mpr fun platformCall hmem hne => ?_
      have hsame := huuid.symm.trans (h.uuid platformCall hmem)
      exact of_decide_eq_true hne (Option.some_inj.mp hsame).symm

/-- The connection is closed, and the manager goes on. -/
lemma inv_closed (h : s.Inv) {i : ℕ} {call : CallSummary} (hi : s.jobs[i]? = some (.stop call .close)) :
    (s.stopGoesOn i call .close true).Inv := by
  have hquiet : CallManager.Quiet s.manager
      (({ s.manager with effects := [] } : CallManager).goOn (.onCallEnded call) true) := by
    refine CallManager.quiet_goOn s.manager.quiet_begin ?_ true
    exact fun hstarting => nomatch hstarting
  have hcalls : (s.stopGoesOn i call .close true).platformCalls = [] :=
    h.platformCalls_ends { s.engine with peerConnection := none, pendingSignaling := [] } (s.jobs.eraseIdx i) call
  have hnone : (s.stopGoesOn i call .close true).engine.peerConnection = none := rfl
  have htasks : ∀ task ∈ (({ s.manager with effects := [] } : CallManager).goOn (.onCallEnded call) true).tasks,
      task.isStarting → task.call.id ∉ s.ended := by
    intro task htask hstarting
    rcases hquiet.2 task htask hstarting with ⟨old, hold, holdStarting, hsame⟩
    rw [← hsame]
    exact h.tasks old hold holdStarting
  refine ⟨fun task htask => htasks task (mem_tasks_after htask), fun other p hjob hearly => ?_,
    fun stream hstream howner => ?_, fun pc hpc => (nomatch hnone.symm.trans hpc), fun platformCall hcall => ?_,
    fun platformCall hcall => ?_⟩
  · rcases start_mem_after hjob with hold | ⟨task, htask, hstarting, rfl⟩
    · exact h.jobs other p (List.mem_of_mem_eraseIdx hold) hearly
    · exact htasks task htask hstarting
  · rcases h.stream stream hstream howner with ⟨other, p, hjob, hfirst⟩
    refine ⟨other, p, List.mem_append_left _ (mem_eraseIdx_of_ne hi hjob ?_), hfirst⟩
    rintro ⟨⟩
    exact nomatch hfirst
  · rw [hcalls] at hcall
    exact nomatch hcall
  · rw [hcalls] at hcall
    exact nomatch hcall

lemma inv_stopGoesOn (h : s.Inv) {i : ℕ} {call : CallSummary} {p : StopPoint} (hi : s.jobs[i]? = some (.stop call p))
    {answer : Option (List ℕ)} (hok : s.Orderly (.engineGoesOn i answer)) :
    (s.stopGoesOn i call p answer.isSome).Inv := by
  cases answer with
  | none =>
      simp only [Orderly, hi] at hok
      rcases hok trivial with ⟨hstream, hconnection, hplatform⟩
      exact ⟨h.tasks, fun other q hmem => h.jobs other q (List.mem_of_mem_eraseIdx hmem),
        fun stream hsome howner => absurd howner (hstream stream hsome),
        fun pc hpc howner => absurd howner (hconnection pc hpc), h.uuid,
        fun platformCall hcall howner => absurd howner (hplatform platformCall hcall)⟩
  | some tracks =>
      have hlater : ∀ next other q,
          .start other q ∈ s.jobs.eraseIdx i ++ [.stop call next] → .start other q ∈ s.jobs := by
        intro next other q hmem
        rcases mem_of_mem_erased hmem with hold | hnew
        · exact hold
        · exact nomatch List.mem_singleton.mp hnew
      have hnext : ∀ next, .stop call next ∈ s.jobs.eraseIdx i ++ [.stop call next] :=
        fun next => List.mem_append_right _ List.mem_cons_self
      cases p with
      | track rest =>
          have hfirst : (WebRtcMediaEngine.stopTracks rest).isFirst := by cases rest <;> rfl
          exact ⟨h.tasks, fun other q hmem => h.jobs other q (hlater _ other q hmem),
            fun _ _ _ => ⟨call, _, hnext _, hfirst⟩, fun _ _ _ => ⟨call, _, hnext _⟩, h.uuid,
            fun _ _ _ => ⟨call, _, hnext _⟩⟩
      | dispose =>
          exact ⟨h.tasks, fun other q hmem => h.jobs other q (hlater _ other q hmem),
            fun _ hstream => (nomatch hstream), fun _ _ _ => ⟨call, _, hnext _⟩, h.uuid,
            fun _ _ _ => ⟨call, _, hnext _⟩⟩
      | close => exact inv_closed h hi

/-! ### Steps -/

/-- **One step** keeps what is held by calls that have ended in the hands of what lets go of it. -/
theorem inv_step (h : s.Inv) {event : CallSystemEvent} (hok : s.Orderly event) : (s.step event).Inv := by
  cases event with
  | manager event => exact inv_manages h hok
  | engineGoesOn job answer =>
      rw [step, engineGoesOn]
      cases hjob : s.jobs[job]? with
      | none => exact h
      | some current =>
          cases current with
          | start call p => exact inv_startGoesOn h hjob hok
          | stop call p => exact inv_stopGoesOn h hjob hok
          | handle applying => exact inv_handleGoesOn h hjob answer.isSome
  | receive chunk => exact inv_receive h chunk

lemma startsLive_of_same {event : CallSystemEvent} (h : (s.step event).engine.started = s.engine.started) :
    s.StartsLive event := by
  rw [StartsLive, h, List.drop_length]
  exact fun _ hmem => nomatch hmem

lemma started_stopGoesOn (job : ℕ) (call : CallSummary) (p : StopPoint) (isDone : Bool) :
    (s.stopGoesOn job call p isDone).engine.started = s.engine.started := by
  cases isDone with
  | false => rfl
  | true => cases p <;> rfl

/-- Only what has still to get its stream asks for media. -/
lemma Inv.startsLive (h : s.Inv) (event : CallSystemEvent) : s.StartsLive event := by
  cases event with
  | manager event => exact startsLive_of_same rfl
  | engineGoesOn job answer =>
      cases hjob : s.jobs[job]? with
      | none => exact startsLive_of_same (by rw [step, engineGoesOn, hjob])
      | some current =>
          cases current with
          | start call p =>
              have hstep : s.step (.engineGoesOn job answer) = s.startGoesOn job call p answer := by
                rw [step, engineGoesOn, hjob]
              rcases (s.engine.starts_goOnStarting call.id p answer).started with hsame | ⟨hearly, hasked⟩
              · exact startsLive_of_same (by rw [hstep]; exact hsame)
              · intro callId hmem
                rw [hstep, startGoesOn, hasked, List.drop_left, List.mem_singleton] at hmem
                rw [hmem]
                exact h.jobs call p (List.mem_of_getElem? hjob) hearly
          | stop call p =>
              refine startsLive_of_same ?_
              rw [step, engineGoesOn, hjob]
              exact started_stopGoesOn job call p answer.isSome
          | handle applying =>
              refine startsLive_of_same ?_
              rw [step, engineGoesOn, hjob]
              exact (s.engine.sameMedia_goOnApplying applying answer.isSome).started
  | receive chunk => exact startsLive_of_same (s.engine.sameMedia_handleSignalingData chunk).started

/-- **The end of a call** leaves nothing of it in the runs that are in order, and no media are started for it. -/
theorem hangsUp_of_meets {s : CallSystem} (h : s.Before) {events : List CallSystemEvent}
    (hok : Meets step Orderly s events) : Meets step StartsLive s events ∧ (events.foldl step s).HangsUp := by
  rcases hok.invariant (p := StartsLive) (Inv.of_before h) (fun t event ht he => inv_step ht he)
    fun t event ht _ => ht.startsLive event with ⟨hlive, hlast⟩
  exact ⟨hlive, hlast.hangsUp⟩

lemma orderly_engineGoesOn (h : s.ended = [] ∨ s.IsStopping) (job : ℕ) (tracks : List ℕ) :
    s.Orderly (.engineGoesOn job (some tracks)) := by
  simp only [Orderly]
  split
  · next call hjob =>
      intro _ howner
      rcases h with hnone | hstopping
      · rw [hnone] at howner
        exact nomatch howner
      · exact hstopping
  · exact fun hnone => nomatch hnone
  · trivial

lemma orderly_resume {task : ℕ} (h : s.platformCalls = [] ∨ s.manager.tasks[task]?.any CallTask.isStarting)
    (isDone : Bool) : s.Orderly (.manager (.resume task isDone)) := by
  intro call htask _
  rcases h with hnone | hstarting
  · exact hnone
  · rw [htask] at hstarting
    exact nomatch hstarting

/-- The summary of the call in the runs below. -/
def summary (stateKind : CallStateKind) : CallSummary :=
  { id := 1, userId := 1, isOutgoing := false, isVideo := false, stateKind := stateKind }

lemma updated_ready : updated (CallManager.callJson 1 "callStateReady") = some (summary .ready) := by decide

lemma updated_discarded : updated (CallManager.callJson 1 "callStateDiscarded") = some (summary .discarded) := by
  decide

/-- A call that is ready, up to where its start-up waits for its stream. -/
def toUserMedia : List CallSystemEvent :=
  [.manager (.updateCall (CallManager.callJson 1 "callStateReady") 0), .manager (.resume 0 true),
    .manager (.resume 0 true), .engineGoesOn 0 (some []), .engineGoesOn 0 (some []), .engineGoesOn 0 (some [])]

def discarded : CallSystemEvent := .manager (.updateCall (CallManager.callJson 1 "callStateDiscarded") 1)

/-- A call that ends when it has started. -/
theorem hangsUp_started :
    let s : CallSystem := { engine := { renderersInitialized := true } }
    let events := toUserMedia ++ [.engineGoesOn 0 (some []), .engineGoesOn 0 (some []), discarded,
      .engineGoesOn 0 (some []), .engineGoesOn 0 (some []), .manager (.resume 0 true)]
    Meets step StartsLive s events ∧ (events.foldl step s).HangsUp ∧ (events.foldl step s).ended = [1] := by
  intro s events
  have hbegin : s.Before := ⟨rfl, rfl⟩
  have hready : s.Orderly (.manager (.updateCall (CallManager.callJson 1 "callStateReady") 0)) := by
    intro call hcall
    cases updated_ready.symm.trans hcall
    exact ⟨fun hended => (nomatch hended), fun _ => List.not_mem_nil⟩
  have hdiscarded : ∀ t : CallSystem, t.jobs = [] → t.manager.tasks.length = 0 → t.Orderly discarded := by
    intro t hjobs htasks call hcall
    cases updated_discarded.symm.trans hcall
    refine ⟨fun _ => ⟨fun task htask => ?_, fun other p hjob => ?_⟩, fun hlive => nomatch hlive⟩
    · rw [List.eq_nil_of_length_eq_zero htasks] at htask
      exact nomatch htask
    · rw [hjobs] at hjob
      exact nomatch hjob
  -- the types of the steps are left open, so that the states are computed by the kernel alone
  have hok : Meets step Orderly s events :=
    ⟨hready, (orderly_resume (.inr (by decide +kernel)) true : _), (orderly_resume (.inr (by decide +kernel)) true : _),
      (orderly_engineGoesOn (.inl (by decide +kernel)) 0 [] : _),
      (orderly_engineGoesOn (.inl (by decide +kernel)) 0 [] : _),
      (orderly_engineGoesOn (.inl (by decide +kernel)) 0 [] : _),
      (orderly_engineGoesOn (.inl (by decide +kernel)) 0 [] : _),
      (orderly_engineGoesOn (.inl (by decide +kernel)) 0 [] : _),
      (hdiscarded _ (by decide +kernel) (by decide +kernel) : _),
      (orderly_engineGoesOn (.inr ⟨summary .discarded, .dispose, by decide +kernel⟩) 0 [] : _),
      (orderly_engineGoesOn (.inr ⟨summary .discarded, .close, by decide +kernel⟩) 0 [] : _),
      (orderly_resume (.inl (by decide +kernel)) true : _), trivial⟩
  rcases hangsUp_of_meets hbegin hok with ⟨hlive, hlast⟩
  exact ⟨hlive, hlast, by decide +kernel⟩

/-- A call that ends while its start-up waits for a stream has one afterwards, and a connection. -/
theorem starts_after_end :
    let s : CallSystem := { engine := { renderersInitialized := true } }
    let t := (toUserMedia ++ [discarded, .engineGoesOn 1 (some []), .engineGoesOn 1 (some []),
      .manager (.resume 0 true)]).foldl step s
    let u := [.engineGoesOn 0 (some [7]), .engineGoesOn 0 (some []), .engineGoesOn 0 (some [])].foldl step t
    s.Before ∧ ¬t.StartsLive (.engineGoesOn 0 (some [7])) ∧ u.ended = [1] ∧ u.IsDone ∧
      u.engine.localStream = some ⟨[7], 1⟩ ∧ u.engine.peerConnection = some ⟨1⟩ ∧ ¬u.HangsUp := by
  intro s t u
  have hended : u.ended = [1] := by decide +kernel
  have hstream : u.engine.localStream = some ⟨[7], 1⟩ := by decide +kernel
  have hdone : u.IsDone := ⟨by decide +kernel, by decide +kernel⟩
  refine ⟨⟨rfl, rfl⟩, fun hlive => ?_, hended, hdone, hstream, by decide +kernel, fun hangs => ?_⟩
  · exact hlive 1 (by decide +kernel) (by decide +kernel)
  · exact (hangs hdone).stream _ hstream (by rw [hended]; exact List.mem_cons_self)

end CallSystem

end RioGram.Calls
