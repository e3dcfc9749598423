import RioGram.Calls.MediaEngine
import RioGram.Core.Reachable

/-!
# The delivery of signaling data

The start-up of a call in the engine, with chunks of signaling data that come in while it runs.  Before it, the engine
may have been in any call, of which chunks may be queued or just being applied.

* `StartUp.Delivers` — what has been applied to the connection of the call, and in which order.
* `delivers_of_meets` — the runs in which it is what has come in.
-/

namespace RioGram.Calls

open Js Reaching

inductive StartStatus where
  | idle
  | running (p : StartPoint)
  | returned
  | failed (p : StartPoint)
deriving DecidableEq

/-- A start-up, the chunks that are being applied outside of it, and those that came in before it or while it ran. -/
structure StartUp where
  callId : ℤ
  engine : WebRtcMediaEngine := {}
  status : StartStatus := .idle
  handling : List Applying := []
  received : List SignalingChunk := []
  count : ℕ := 0

inductive StartUpEvent where
  | startCall
  | startGoesOn (answer : Option (List ℕ))
  | receive (data : Str)
  | handlingGoesOn (i : ℕ) (isDone : Bool)

namespace StartUp

variable (s : StartUp)

def startCall : StartUp :=
  match s.status with
  | .idle => { s with status := .running s.engine.startCall }
  | _ => s

/-- Where a start-up is after it has gone on. -/
def statusAfter (p : StartPoint) : Progress StartPoint → StartStatus
  | .waits q => .running q
  | .returns => .returned
  | .fails => .failed p

def startGoesOn (answer : Option (List ℕ)) : StartUp :=
  match s.status with
  | .running p =>
      { s with
        engine := (s.engine.goOnStarting s.callId p answer).1
        status := statusAfter p (s.engine.goOnStarting s.callId p answer).2 }
  | _ => s

def isOver : StartStatus → Bool
  | .returned => true
  | .failed _ => true
  | _ => false

/-- The chunk that comes in next. -/
def next (data : Str) : SignalingChunk := { data := data, callId := s.callId, number := s.count }

def receive (data : Str) : StartUp :=
  { s with
    engine := (s.engine.handleSignalingData (s.next data)).1
    handling := s.handling ++ (s.engine.handleSignalingData (s.next data)).2.toList
    received := if isOver s.status then s.received else s.received ++ [s.next data]
    count := s.count + 1 }

def handlingGoesOn (i : ℕ) (isDone : Bool) : StartUp :=
  match s.handling[i]? with
  | none => s
  | some applying =>
      { s with
        engine := (s.engine.goOnApplying applying isDone).1
        handling := s.handling.eraseIdx i ++ (s.engine.goOnApplying applying isDone).2.toList }

def step (s : StartUp) : StartUpEvent → StartUp
  | .startCall => s.startCall
  | .startGoesOn answer => s.startGoesOn answer
  | .receive data => s.receive data
  | .handlingGoesOn i isDone => s.handlingGoesOn i isDone

/-! ## What is delivered -/

/-- The chunks applied to the connection of the call. -/
def applied : List SignalingChunk := s.engine.appliedTo s.callId

/-- The turns that the loop over the queue still takes, at most. -/
def toGo : StartPoint → ℕ
  | .flushing length taken applying => 4 * (length - taken) + (applying.map (·.rest + 1)).getD 0
  | _ => 0

/-- No connection is the call's. -/
def Foreign : Prop := ∀ pc, s.engine.peerConnection = some pc → pc.owner ≠ s.callId

/-- What came in has been applied, and after it only what came in later. -/
def AllApplied : Prop := ∃ later, s.applied = s.received ++ later ∧ ∀ chunk ∈ later, chunk ∉ s.received

/-- What came in is applied in its order and once, and nothing else is; a start-up that fails has no connection, or has
applied it; and its loop over the queue comes to an end and leaves the queue as it is until then. -/
structure Delivers : Prop where
  own : ∀ chunk ∈ s.applied, chunk.callId = s.callId
  distinct : s.received.Nodup
  order : ∀ p, s.status = .running p → s.applied <+: s.received
  all : s.status = .returned → s.AllApplied
  failure : ∀ p, s.status = .failed p → s.applied = [] ∧ s.Foreign ∨ s.AllApplied
  flushes : ∀ length taken applying, s.status = .running (.flushing length taken applying) → ∀ tracks,
    (s.startGoesOn (some tracks)).status = .returned ∨
      ∃ taken' applying', (s.startGoesOn (some tracks)).status = .running (.flushing length taken' applying') ∧
        (s.startGoesOn (some tracks)).engine.pendingSignaling = s.engine.pendingSignaling ∧
        toGo (.flushing length taken' applying') < toGo (.flushing length taken applying)

end StartUp

/-! ## Runs in order -/

/-- What came in before is gone. -/
def StartPoint.isCleared : StartPoint → Bool
  | userMedia => true
  | connection => true
  | track _ => true
  | flushing .. => true
  | _ => false

/-- How much of the queue has been taken. -/
def StartPoint.taken : StartPoint → ℕ
  | flushing _ taken _ => taken
  | _ => 0

namespace StartUp

variable (s : StartUp)

/-- A chunk is in the queue of a start-up that has its connection, or is being applied in the loop over it. -/
def MustGoOn : StartPoint → Prop
  | .track _ => s.engine.pendingSignaling ≠ []
  | .flushing _ _ applying => applying ≠ none
  | _ => False

/-- While the start-up runs, what comes in can be applied, and comes after the queue has been cleared; with a
connection, it comes when nothing of the queue is left to be applied.  Nothing that is applied fails from then on, and
neither does the start-up while a chunk waits for its connection. -/
def Orderly (event : StartUpEvent) : Prop :=
  match s.status, event with
  | .idle, .receive _ => False
  | .running p, .receive data => p.isCleared ∧ WebRtcMediaEngine.isApplicable data ∧
      (s.engine.peerConnection ≠ none → s.engine.pendingSignaling.drop p.taken = [])
  | .running p, .startGoesOn answer => s.MustGoOn p → answer ≠ none
  | .running p, .handlingGoesOn _ isDone => p.isCleared → isDone
  | _, _ => True

/-- No start-up of the call has been yet. -/
structure Before : Prop where
  idle : s.status = .idle
  received : s.received = []
  applied : s.applied = []
  connection : s.Foreign


/-! ## What a run keeps -/

/-- What is queued and what has been applied at a point. -/
def Keeps : StartPoint → Prop
  | .userMedia => s.engine.peerConnection = none ∧ s.applied = [] ∧ s.engine.pendingSignaling = s.received
  | .connection => s.engine.peerConnection = none ∧ s.applied = [] ∧ s.engine.pendingSignaling = s.received ∧
      s.engine.localStream ≠ none
  | .track _ => s.engine.peerConnection = some ⟨s.callId⟩ ∧ s.engine.localStream ≠ none ∧
      s.applied ++ s.engine.pendingSignaling = s.received
  | .flushing length taken _ => s.engine.peerConnection = some ⟨s.callId⟩ ∧
      s.engine.pendingSignaling.length = length ∧ taken ≤ length ∧
      s.applied ++ s.engine.pendingSignaling.drop taken = s.received
  | _ => s.received = [] ∧ s.applied = [] ∧ s.Foreign

/-- All of what came in has been applied, and what is applied later is the call's. -/
def KeepsAll : Prop := s.engine.peerConnection = some ⟨s.callId⟩ ∧
  ∃ later, s.applied = s.received ++ later ∧ ∀ c ∈ later, c ∉ s.received ∧ c.callId = s.callId

/-- What the status of the start-up says. -/
def KeepsStatus : Prop :=
  match s.status with
  | .idle => s.received = [] ∧ s.applied = [] ∧ s.Foreign
  | .running p => s.Keeps p ∧
      (p.isCleared → ∀ c ∈ s.engine.pendingSignaling, WebRtcMediaEngine.isApplicable c.data)
  | .returned => s.KeepsAll
  | .failed _ => s.applied = [] ∧ s.Foreign ∨ s.KeepsAll

structure Inv : Prop where
  own : ∀ c ∈ s.received, c.callId = s.callId ∧ c.number < s.count
  sorted : s.received.Pairwise fun c d => c.number < d.number
  status : s.KeepsStatus

variable {s}

lemma Inv.of_before (h : s.Before) : s.Inv := by
  refine ⟨by simp [h.received], by simp [h.received], ?_⟩
  rw [KeepsStatus, h.idle]
  exact ⟨h.received, h.applied, h.connection⟩

lemma startGoesOn_of_running {p : StartPoint} (h : s.status = .running p) (answer : Option (List ℕ)) :
    s.startGoesOn answer = { s with
      engine := (s.engine.goOnStarting s.callId p answer).1
      status := statusAfter p (s.engine.goOnStarting s.callId p answer).2 } := by
  rw [startGoesOn, h]

lemma KeepsStatus.of_running {p : StartPoint} (h : s.KeepsStatus) (hp : s.status = .running p) : s.Keeps p ∧
    (p.isCleared → ∀ c ∈ s.engine.pendingSignaling, WebRtcMediaEngine.isApplicable c.data) := by
  rw [KeepsStatus, hp] at h
  exact h

lemma inv_startCall (h : s.Inv) : s.startCall.Inv := by
  rw [startCall]
  split
  · next hidle =>
      have hstatus := h.status
      rw [KeepsStatus, hidle] at hstatus
      refine ⟨h.own, h.sorted, ?_⟩
      rw [KeepsStatus, WebRtcMediaEngine.startCall]
      split_ifs
      · exact ⟨hstatus, fun hcleared => nomatch hcleared⟩
      · exact ⟨hstatus, fun hcleared => nomatch hcleared⟩
  · exact h

/-- A turn of the loop over the queue applies the next chunk. -/
lemma inv_flush (h : s.Inv) {e : WebRtcMediaEngine} (hpc : e.peerConnection = some ⟨s.callId⟩)
    (happlicable : ∀ c ∈ e.pendingSignaling, WebRtcMediaEngine.isApplicable c.data) {taken : ℕ}
    (htaken : taken ≤ e.pendingSignaling.length)
    (horder : e.appliedTo s.callId ++ e.pendingSignaling.drop taken = s.received) (p : StartPoint) :
    ({ s with
      engine := (e.flush e.pendingSignaling.length taken).1
      status := statusAfter p (e.flush e.pendingSignaling.length taken).2 } : StartUp).Inv := by
  refine ⟨h.own, h.sorted, ?_⟩
  rcases WebRtcMediaEngine.flush_cases hpc happlicable htaken with
    ⟨hflush, hdrop⟩ | ⟨chunk, rest, -, hlt, hdrop, hflush⟩
  · rw [hflush, KeepsStatus]
    rw [hdrop, List.append_nil] at horder
    exact ⟨hpc, [], by rw [List.append_nil]; exact horder, fun c hc => nomatch hc⟩
  · rw [hflush, KeepsStatus]
    refine ⟨⟨hpc, rfl, hlt, ?_⟩, fun _ => happlicable⟩
    rw [applied, WebRtcMediaEngine.appliedTo_apply, if_pos rfl, List.append_assoc, ← horder, hdrop]
    rfl

lemma inv_addTracks (h : s.Inv) {e : WebRtcMediaEngine} (hpc : e.peerConnection = some ⟨s.callId⟩)
    (hstream : e.localStream ≠ none)
    (happlicable : ∀ c ∈ e.pendingSignaling, WebRtcMediaEngine.isApplicable c.data)
    (horder : e.appliedTo s.callId ++ e.pendingSignaling = s.received) (p : StartPoint) (tracks : List ℕ) :
    ({ s with engine := (e.addTracks tracks).1, status := statusAfter p (e.addTracks tracks).2 } : StartUp).Inv := by
  cases tracks with
  | nil =>
      rw [WebRtcMediaEngine.addTracks, if_neg hstream]
      exact inv_flush h hpc happlicable (Nat.zero_le _) horder p
  | cons track rest =>
      have hthere : ¬(e.peerConnection = none ∨ e.localStream = none) := by
        rw [hpc, not_or]
        exact ⟨fun hnone => (nomatch hnone), hstream⟩
      rw [WebRtcMediaEngine.addTracks, if_neg hthere]
      exact ⟨h.own, h.sorted, ⟨hpc, hstream, horder⟩, fun _ => happlicable⟩

/-- A start-up that fails before it has its connection has applied nothing. -/
lemma inv_fails (h : s.Inv) {p : StartPoint} (happlied : s.applied = []) (hforeign : s.Foreign) :
    ({ s with status := .failed p } : StartUp).Inv :=
  ⟨h.own, h.sorted, .inl ⟨happlied, hforeign⟩⟩

lemma foreign_of_none (h : s.engine.peerConnection = none) : s.Foreign := by
  intro pc hpc
  rw [h] at hpc
  exact nomatch hpc

lemma inv_startGoesOn (h : s.Inv) {answer : Option (List ℕ)} (hok : s.Orderly (.startGoesOn answer)) :
    (s.startGoesOn answer).Inv := by
  rcases hp : s.status with _ | p | _ | p
  · rwa [startGoesOn, hp]
  · rw [startGoesOn_of_running hp]
    rcases h.status.of_running hp with ⟨hkeeps, happlicable⟩
    have hgoes : s.MustGoOn p → answer ≠ none := by simpa only [Orderly, hp] using hok
    cases p with
    | localRenderer =>
        cases answer with
        | none => exact inv_fails h hkeeps.2.1 hkeeps.2.2
        | some tracks => exact ⟨h.own, h.sorted, hkeeps, fun hcleared => nomatch hcleared⟩
    | remoteRenderer =>
        cases answer with
        | none => exact inv_fails h hkeeps.2.1 hkeeps.2.2
        | some tracks => exact ⟨h.own, h.sorted, hkeeps, fun hcleared => nomatch hcleared⟩
    | renderers =>
        cases answer with
        | none => exact inv_fails h hkeeps.2.1 hkeeps.2.2
        | some tracks => exact ⟨h.own, h.sorted, hkeeps, fun hcleared => nomatch hcleared⟩
    | stopping q =>
        cases answer with
        | none => exact inv_fails h hkeeps.2.1 hkeeps.2.2
        | some tracks =>
            cases q with
            | track rest => exact ⟨h.own, h.sorted, hkeeps, fun hcleared => nomatch hcleared⟩
            | dispose => exact ⟨h.own, h.sorted, hkeeps, fun hcleared => nomatch hcleared⟩
            | close => exact ⟨h.own, h.sorted, ⟨rfl, hkeeps.2.1, hkeeps.1.symm⟩, fun _ c hc => nomatch hc⟩
    | userMedia =>
        cases answer with
        | none => exact inv_fails h hkeeps.2.1 (foreign_of_none hkeeps.1)
        | some tracks =>
            exact ⟨h.own, h.sorted, ⟨hkeeps.1, hkeeps.2.1, hkeeps.2.2, fun hnone => nomatch hnone⟩, happlicable⟩
    | connection =>
        cases answer with
        | none => exact inv_fails h hkeeps.2.1 (foreign_of_none hkeeps.1)
        | some tracks =>
            rcases hkeeps with ⟨-, happlied, hpending, hstream⟩
            rcases Option.ne_none_iff_exists'.mp hstream with ⟨stream, hsome⟩
            rw [WebRtcMediaEngine.goOnStarting_connection hsome]
            refine inv_addTracks h (e := { s.engine with peerConnection := some ⟨s.callId⟩ }) rfl hstream
              (happlicable rfl) ?_ _ _
            exact (congrArg (· ++ s.engine.pendingSignaling) happlied).trans hpending
    | track rest =>
        cases answer with
        | none =>
            -- nothing waits for the connection: it fails with all applied
            have hempty : s.engine.pendingSignaling = [] := by
              by_contra hne
              exact hgoes hne rfl
            have horder := hkeeps.2.2
            rw [hempty, List.append_nil] at horder
            exact ⟨h.own, h.sorted, .inr ⟨hkeeps.1, [], by rw [List.append_nil]; exact horder, fun _ hc => nomatch hc⟩⟩
        | some tracks => exact inv_addTracks h hkeeps.1 hkeeps.2.1 (happlicable rfl) hkeeps.2.2 _ _
    | flushing length taken applying =>
        rcases hkeeps with ⟨hpc, rfl, htaken, horder⟩
        have hflush := inv_flush h hpc (happlicable rfl) htaken horder
        cases applying with
        | none => exact hflush _
        | some applying =>
            cases answer with
            | none => exact absurd rfl (hgoes fun hnone => nomatch hnone)
            | some tracks =>
                simp only [WebRtcMediaEngine.goOnStarting, Option.isSome_some]
                rcases s.engine.goOnApplying_of_isDone applying with hdone | ⟨rest, -, hdone⟩
                · rw [hdone]
                  exact hflush _
                · rw [hdone]
                  exact ⟨h.own, h.sorted, ⟨hpc, rfl, htaken, horder⟩, happlicable⟩
  · rwa [startGoesOn, hp]
  · rwa [startGoesOn, hp]

lemma isApplicable_ne_nil {data : Str} (h : WebRtcMediaEngine.isApplicable data) : data ≠ [] := by
  rintro rfl
  exact absurd h (by decide)

/-- The next chunk is behind those that came in. -/
lemma Inv.receive_own (h : s.Inv) (data : Str) :
    ∀ c ∈ s.received ++ [s.next data], c.callId = s.callId ∧ c.number < s.count + 1 := by
  intro c hc
  rcases List.mem_append.mp hc with hold | hnew
  · exact ⟨(h.own c hold).1, Nat.lt_succ_of_lt (h.own c hold).2⟩
  · rw [List.mem_singleton.mp hnew]
    exact ⟨rfl, Nat.lt_succ_self _⟩

lemma Inv.receive_sorted (h : s.Inv) (data : Str) :
    (s.received ++ [s.next data]).Pairwise fun c d => c.number < d.number := by
  rw [List.pairwise_append]
  refine ⟨h.sorted, List.pairwise_singleton _ _, fun c hc d hd => ?_⟩
  rw [List.mem_singleton.mp hd]
  exact (h.own c hc).2

lemma Inv.next_notMem (h : s.Inv) (data : Str) : s.next data ∉ s.received := fun hmem =>
  Nat.lt_irrefl _ (h.own _ hmem).2

lemma appliedTo_apply_self (e : WebRtcMediaEngine) (chunk : SignalingChunk) :
    (e.apply ⟨s.callId⟩ chunk).appliedTo s.callId = e.appliedTo s.callId ++ [chunk] := by
  rw [WebRtcMediaEngine.appliedTo_apply, if_pos rfl]

/-- What comes in while the start-up has no connection is queued. -/
lemma inv_receive_queue (h : s.Inv) {p : StartPoint} (hp : s.status = .running p) {data : Str} (hcleared : p.isCleared)
    (hdata : WebRtcMediaEngine.isApplicable data) (hpc : s.engine.peerConnection = none) : (s.receive data).Inv := by
  rcases h.status.of_running hp with ⟨hkeeps, happlicable⟩
  have hreceive : s.receive data = { s with
      engine := s.engine.queue (s.next data)
      received := s.received ++ [s.next data]
      count := s.count + 1 } := by
    rw [receive, WebRtcMediaEngine.handleSignalingData_of_none hpc (isApplicable_ne_nil hdata), hp]
    simp [isOver]
  have hqueue : ∀ c ∈ s.engine.pendingSignaling ++ [s.next data], WebRtcMediaEngine.isApplicable c.data := by
    intro c hc
    rcases List.mem_append.mp hc with hold | hnew
    · exact happlicable hcleared c hold
    · rw [List.mem_singleton.mp hnew]
      exact hdata
  rw [hreceive]
  refine ⟨h.receive_own data, h.receive_sorted data, ?_⟩
  rw [KeepsStatus, hp]
  refine ⟨?_, fun _ => hqueue⟩
  cases p with
  | userMedia => exact ⟨hkeeps.1, hkeeps.2.1, congrArg (· ++ [s.next data]) hkeeps.2.2⟩
  | connection => exact ⟨hkeeps.1, hkeeps.2.1, congrArg (· ++ [s.next data]) hkeeps.2.2.1, hkeeps.2.2.2⟩
  | track rest => exact nomatch hpc.symm.trans hkeeps.1
  | flushing length taken applying => exact nomatch hpc.symm.trans hkeeps.1
  | _ => exact nomatch hcleared

/-- What comes in when all of the queue has been taken is applied. -/
lemma inv_receive_apply (h : s.Inv) {p : StartPoint} (hp : s.status = .running p) {data : Str} (hcleared : p.isCleared)
    (hdata : WebRtcMediaEngine.isApplicable data) (hpc : s.engine.peerConnection ≠ none)
    (hdrop : s.engine.pendingSignaling.drop p.taken = []) : (s.receive data).Inv := by
  rcases h.status.of_running hp with ⟨hkeeps, happlicable⟩
  have hconnection : s.engine.peerConnection = some ⟨s.callId⟩ := by
    cases p with
    | userMedia => exact absurd hkeeps.1 hpc
    | connection => exact absurd hkeeps.1 hpc
    | track rest => exact hkeeps.1
    | flushing length taken applying => exact hkeeps.1
    | _ => exact nomatch hcleared
  have hnext : WebRtcMediaEngine.isApplicable (s.next data).data := hdata
  rcases WebRtcMediaEngine.handleSignalingData_of_some hconnection hnext with ⟨rest, -, hhandle⟩
  have hreceive : s.receive data = { s with
      engine := s.engine.apply ⟨s.callId⟩ (s.next data)
      handling := s.handling ++ [⟨s.next data, rest⟩]
      received := s.received ++ [s.next data]
      count := s.count + 1 } := by
    rw [receive, hhandle, hp]
    rfl
  rw [hreceive]
  refine ⟨h.receive_own data, h.receive_sorted data, ?_⟩
  rw [KeepsStatus, hp]
  refine ⟨?_, happlicable⟩
  have horder : ∀ left : List SignalingChunk, left = [] → s.applied ++ left = s.received →
      s.engine.appliedTo s.callId ++ [s.next data] ++ left = s.received ++ [s.next data] := by
    rintro _ rfl hreceived
    rw [List.append_nil] at hreceived
    rw [List.append_nil, ← hreceived, applied]
  cases p with
  | userMedia => exact absurd hkeeps.1 hpc
  | connection => exact absurd hkeeps.1 hpc
  | track rest =>
      refine ⟨hkeeps.1, hkeeps.2.1, ?_⟩
      have hqueue : s.engine.pendingSignaling = [] := hdrop
      rw [applied, appliedTo_apply_self]
      exact horder _ hqueue hkeeps.2.2
  | flushing length taken applying =>
      refine ⟨hkeeps.1, hkeeps.2.1, hkeeps.2.2.1, ?_⟩
      rw [applied, appliedTo_apply_self]
      exact horder _ hdrop hkeeps.2.2.2
  | _ => exact nomatch hcleared

/-- What comes in afterwards. -/
lemma receive_of_isOver (h : isOver s.status) (data : Str) : s.receive data = { s with
    engine := (s.engine.handleSignalingData (s.next data)).1
    handling := s.handling ++ (s.engine.handleSignalingData (s.next data)).2.toList
    count := s.count + 1 } := by
  rw [receive, if_pos h]

/-- What comes in after all has been applied. -/
lemma KeepsAll.receive (h : s.Inv) (hall : s.KeepsAll) (hover : isOver s.status) (data : Str) :
    (s.receive data).KeepsAll := by
  rw [receive_of_isOver hover]
  rcases hall with ⟨hpc, later, hlater, hothers⟩
  refine ⟨(s.engine.peerConnection_handleSignalingData _).trans hpc, ?_⟩
  rcases s.engine.appliedTo_handleSignalingData (s.next data) s.callId with hsame | ⟨-, hmore⟩
  · exact ⟨later, hsame.trans hlater, hothers⟩
  · refine ⟨later ++ [s.next data], ?_, fun c hc => ?_⟩
    · rw [← List.append_assoc, ← hlater]
      exact hmore
    · rcases List.mem_append.mp hc with hold | hnew
      · exact hothers c hold
      · rw [List.mem_singleton.mp hnew]
        exact ⟨h.next_notMem data, rfl⟩

/-- What comes in without a connection of the call. -/
lemma Foreign.receive (hforeign : s.Foreign) (happlied : s.applied = []) (hover : isOver s.status) (data : Str) :
    (s.receive data).applied = [] ∧ (s.receive data).Foreign := by
  rw [receive_of_isOver hover]
  constructor
  · rcases s.engine.appliedTo_handleSignalingData (s.next data) s.callId with hsame | ⟨hpc, -⟩
    · exact hsame.trans happlied
    · exact absurd rfl (hforeign _ hpc)
  · intro pc hpc
    apply hforeign pc
    rwa [← s.engine.peerConnection_handleSignalingData (s.next data)]

lemma status_receive (data : Str) : (s.receive data).status = s.status := rfl

lemma inv_receive (h : s.Inv) {data : Str} (hok : s.Orderly (.receive data)) : (s.receive data).Inv := by
  have hstatus := h.status
  have hover : isOver s.status → (s.receive data).KeepsStatus → (s.receive data).Inv := by
    intro hover hkeeps
    rw [receive_of_isOver hover] at hkeeps ⊢
    exact ⟨fun c hc => ⟨(h.own c hc).1, Nat.lt_succ_of_lt (h.own c hc).2⟩, h.sorted, hkeeps⟩
  rcases hp : s.status with _ | p | _ | p
  · simp only [Orderly, hp] at hok
  · simp only [Orderly, hp] at hok
    by_cases hpc : s.engine.peerConnection = none
    · exact inv_receive_queue h hp hok.1 hok.2.1 hpc
    · exact inv_receive_apply h hp hok.1 hok.2.1 hpc (hok.2.2 hpc)
  · have hisOver : isOver s.status := by rw [hp]; rfl
    rw [KeepsStatus, hp] at hstatus
    refine hover hisOver ?_
    rw [KeepsStatus, status_receive, hp]
    exact hstatus.receive h hisOver data
  · have hisOver : isOver s.status := by rw [hp]; rfl
    rw [KeepsStatus, hp] at hstatus
    refine hover hisOver ?_
    rw [KeepsStatus, status_receive, hp]
    exact hstatus.imp (fun hnone => hnone.2.receive hnone.1 hisOver data) fun hall => hall.receive h hisOver data

lemma inv_handlingGoesOn (h : s.Inv) {i : ℕ} {isDone : Bool} (hok : s.Orderly (.handlingGoesOn i isDone)) :
    (s.handlingGoesOn i isDone).Inv := by
  rw [handlingGoesOn]
  split
  · exact h
  · next applying _ =>
      rw [WebRtcMediaEngine.goOnApplying_fst]
      split_ifs with hdone
      · exact ⟨h.own, h.sorted, h.status⟩
      · refine ⟨h.own, h.sorted, ?_⟩
        have hstatus := h.status
        rcases hp : s.status with _ | p | _ | p
        · rw [KeepsStatus, hp] at hstatus
          exact hstatus
        · have hbefore : ¬p.isCleared := by
            simp only [Orderly, hp] at hok
            exact fun hcleared => hdone (hok hcleared)
          rw [KeepsStatus, hp] at hstatus
          refine ⟨?_, fun hcleared => absurd hcleared hbefore⟩
          cases p with
          | userMedia => exact absurd rfl hbefore
          | connection => exact absurd rfl hbefore
          | track rest => exact absurd rfl hbefore
          | flushing length taken applying => exact absurd rfl hbefore
          | _ => exact hstatus.1
        · rw [KeepsStatus, hp] at hstatus
          exact hstatus
        · rw [KeepsStatus, hp] at hstatus
          exact hstatus

/-- **One step** keeps the order. -/
theorem inv_step (h : s.Inv) {event : StartUpEvent} (hok : s.Orderly event) : (s.step event).Inv := by
  cases event with
  | startCall => exact inv_startCall h
  | startGoesOn answer => exact inv_startGoesOn h hok
  | receive data => exact inv_receive h hok
  | handlingGoesOn i isDone => exact inv_handlingGoesOn h hok

/-- A turn of the loop over the queue is the last, or there are fewer to come. -/
lemma flushes_of_inv (h : s.Inv) {length taken : ℕ} {applying : Option Applying}
    (hp : s.status = .running (.flushing length taken applying)) (tracks : List ℕ) :
    (s.startGoesOn (some tracks)).status = .returned ∨
      ∃ taken' applying', (s.startGoesOn (some tracks)).status = .running (.flushing length taken' applying') ∧
        (s.startGoesOn (some tracks)).engine.pendingSignaling = s.engine.pendingSignaling ∧
        toGo (.flushing length taken' applying') < toGo (.flushing length taken applying) := by
  rcases h.status.of_running hp with ⟨⟨hpc, rfl, htaken, -⟩, happlicable⟩
  have hflush : ∀ turns, (s.engine.flush s.engine.pendingSignaling.length taken).2 = .returns ∨
      ∃ taken' applying', (s.engine.flush s.engine.pendingSignaling.length taken).2 =
          .waits (.flushing s.engine.pendingSignaling.length taken' applying') ∧
        (s.engine.flush s.engine.pendingSignaling.length taken).1.pendingSignaling = s.engine.pendingSignaling ∧
        toGo (.flushing s.engine.pendingSignaling.length taken' applying') <
          4 * (s.engine.pendingSignaling.length - taken) + turns := by
    intro turns
    rcases WebRtcMediaEngine.flush_cases hpc (happlicable rfl) htaken with
      ⟨hflush, -⟩ | ⟨chunk, rest, hrest, hlt, -, hflush⟩
    · exact .inl (by rw [hflush])
    · refine .inr ⟨_, _, by rw [hflush], by rw [hflush]; rfl, ?_⟩
      simp only [toGo, Option.map_some, Option.getD_some]
      omega
  have hstatus : ∀ {q : StartPoint} {progress : Progress StartPoint} {turns : ℕ} {queue : List SignalingChunk},
      (progress = .returns ∨ ∃ taken' applying',
        progress = .waits (.flushing s.engine.pendingSignaling.length taken' applying') ∧
          queue = s.engine.pendingSignaling ∧
          toGo (.flushing s.engine.pendingSignaling.length taken' applying') < turns) →
      statusAfter q progress = .returned ∨ ∃ taken' applying',
        statusAfter q progress = .running (.flushing s.engine.pendingSignaling.length taken' applying') ∧
          queue = s.engine.pendingSignaling ∧
          toGo (.flushing s.engine.pendingSignaling.length taken' applying') < turns := by
    rintro q progress turns queue (rfl | ⟨taken', applying', rfl, hturns⟩)
    · exact .inl rfl
    · exact .inr ⟨taken', applying', rfl, hturns⟩
  rw [startGoesOn_of_running hp]
  cases applying with
  | none => exact hstatus (hflush 0)
  | some applying =>
      simp only [WebRtcMediaEngine.goOnStarting, Option.isSome_some]
      rcases s.engine.goOnApplying_of_isDone applying with hdone | ⟨rest, hrest, hdone⟩
      · rw [hdone]
        exact hstatus (hflush (applying.rest + 1))
      · rw [hdone]
        refine .inr ⟨_, _, rfl, rfl, ?_⟩
        simp only [toGo, Option.map_some, Option.getD_some]
        omega

/-- While a start-up runs, what has been applied is the first of what came in. -/
lemma Keeps.applied_begins {p : StartPoint} (h : s.Keeps p) : s.applied <+: s.received := by
  cases p with
  | userMedia => exact h.2.1 ▸ List.nil_prefix
  | connection => exact h.2.1 ▸ List.nil_prefix
  | track rest => exact ⟨_, h.2.2⟩
  | flushing length taken applying => exact ⟨_, h.2.2.2⟩
  | _ => exact h.2.1 ▸ List.nil_prefix

lemma Inv.distinct (h : s.Inv) : s.received.Nodup :=
  h.sorted.imp fun hlt heq => Nat.ne_of_lt hlt (congrArg SignalingChunk.number heq)

lemma KeepsAll.allApplied (h : s.KeepsAll) : s.AllApplied := by
  rcases h with ⟨-, later, hlater, hothers⟩
  exact ⟨later, hlater, fun c hc => (hothers c hc).1⟩

lemma KeepsAll.own (hall : s.KeepsAll) (h : s.Inv) : ∀ c ∈ s.applied, c.callId = s.callId := by
  rcases hall with ⟨-, later, hlater, hothers⟩
  intro c hc
  rw [hlater] at hc
  rcases List.mem_append.mp hc with hold | hnew
  · exact (h.own c hold).1
  · exact (hothers c hnew).2

lemma Inv.applied_own (h : s.Inv) : ∀ c ∈ s.applied, c.callId = s.callId := by
  have hnothing : s.applied = [] → ∀ c ∈ s.applied, c.callId = s.callId := by
    intro hnil
    rw [hnil]
    exact fun c hc => nomatch hc
  have hstatus := h.status
  rw [KeepsStatus] at hstatus
  split at hstatus
  · exact hnothing hstatus.2.1
  · exact fun c hc => (h.own c (hstatus.1.applied_begins.subset hc)).1
  · exact hstatus.own h
  · rcases hstatus with hnone | hall
    · exact hnothing hnone.1
    · exact hall.own h

lemma Inv.delivers (h : s.Inv) : s.Delivers := by
  have hstatus := h.status
  refine ⟨h.applied_own, h.distinct, ?_, ?_, ?_, fun length taken applying hp tracks => flushes_of_inv h hp tracks⟩
  · exact fun p hp => (hstatus.of_running hp).1.applied_begins
  · intro hp
    rw [KeepsStatus, hp] at hstatus
    exact hstatus.allApplied
  · intro p hp
    rw [KeepsStatus, hp] at hstatus
    exact hstatus.imp_right KeepsAll.allApplied

/-- **Signaling data is delivered** in the runs that are in order. -/
theorem delivers_of_meets {s : StartUp} (h : s.Before) {events : List StartUpEvent}
    (hok : Meets step Orderly s events) : (events.foldl step s).Delivers := by
  have hreach : Reachable step Orderly s (events.foldl step s) := Reachable.start.run hok
  exact (hreach.invariant (Inv.of_before h) fun t event ht he => inv_step ht he).delivers


/-- A candidate of the other side. -/
def candidateData : Str := ascii "\x7b\"type\":\"candidate\",\"candidate\":\"a\"\x7d"

/-- A start-up without a stream before, up to where it waits for one. -/
def toUserMedia : List StartUpEvent :=
  [.startCall, .startGoesOn (some []), .startGoesOn (some []), .startGoesOn (some [])]

/-- What comes in while the start-up waits for its stream. -/
theorem delivers_candidate :
    let s : StartUp := { callId := 1, engine := { renderersInitialized := true } }
    let events := toUserMedia ++ [.receive candidateData, .startGoesOn (some []), .startGoesOn (some []),
      .startGoesOn (some []), .startGoesOn (some [])]
    (events.foldl step s).Delivers ∧ (events.foldl step s).status = .returned := by
  intro s events
  have hbefore : s.Before := ⟨rfl, rfl, rfl, fun _ hpc => nomatch hpc⟩
  have hgoes : ∀ t : StartUp, t.Orderly (.startGoesOn (some [])) := by
    intro t
    rcases hp : t.status with _ | p | _ | p
    · simp only [Orderly, hp]
    · simp only [Orderly, hp]
      exact fun _ hnone => nomatch hnone
    · simp only [Orderly, hp]
    · simp only [Orderly, hp]
  refine ⟨delivers_of_meets hbefore ⟨trivial, hgoes _, hgoes _, hgoes _, ?_, hgoes _, hgoes _, hgoes _, hgoes _,
    trivial⟩, by decide +kernel⟩
  exact ⟨rfl, by decide +kernel, fun hpc => absurd rfl hpc⟩

/-- What comes in before the start-up is lost, and with binary data in the queue the loop over it fails. -/
theorem lost_or_failed :
    let s : StartUp := { callId := 1, engine := { renderersInitialized := true } }
    let early := .receive candidateData :: toUserMedia ++ [.startGoesOn (some []), .startGoesOn (some [])]
    let binary := toUserMedia ++ [.receive (ascii "tgcalls"), .startGoesOn (some []), .startGoesOn (some []),
      .startGoesOn (some [])]
    (s.Before ∧ (early.foldl step s).status = .returned ∧ (early.foldl step s).applied = [] ∧
      ¬(early.foldl step s).Delivers) ∧
    (binary.foldl step s).status = .failed (.flushing 1 1 none) ∧ ¬(binary.foldl step s).Delivers := by
  refine ⟨⟨⟨rfl, rfl, rfl, fun _ hpc => nomatch hpc⟩, by decide +kernel, by decide +kernel, fun h => ?_⟩,
    by decide +kernel, fun h => ?_⟩
  · rcases h.all (by decide +kernel) with ⟨later, hlater, -⟩
    have hlost := congrArg List.length hlater
    rw [List.length_append] at hlost
    exact absurd (Nat.le.intro hlost.symm) (by decide +kernel)
  · rcases h.failure _ (by decide +kernel : _ = StartStatus.failed (.flushing 1 1 none)) with hnone | ⟨later, hlater, -⟩
    · exact hnone.2 ⟨1⟩ (by decide +kernel) rfl
    · have hlost := congrArg List.length hlater
      rw [List.length_append] at hlost
      exact absurd (Nat.le.intro hlost.symm) (by decide +kernel)

end StartUp

end RioGram.Calls
