import RioGram.Calls.Signaling

/-!
# The media engine

`startCall`, `stopCall` and `handleSignalingData` of `WebRtcMediaEngine`, each by the points at which it waits.  When a
function returns to one that waits for it, that goes on in the same step.

Not of the source: whose start-up has asked for a stream or made a connection, which call a chunk of signaling data
belongs to and how many came before it, what was applied to which connection, and for whom media were asked for.
-/

namespace RioGram.Calls

open Js

structure MediaStream where
  tracks : List ℕ
  owner : ℤ
deriving DecidableEq

structure RTCPeerConnection where
  owner : ℤ
deriving DecidableEq

/-- A chunk of signaling data, as the string of its codes. -/
structure SignalingChunk where
  data : Str
  callId : ℤ
  number : ℕ
deriving DecidableEq

/-- How far a function has come. -/
inductive Progress (π : Type) where
  | waits (p : π)
  | returns
  | fails
deriving DecidableEq

/-- What `stopCall` waits for: that a track stops, with the others that are left, and that the stream is disposed of and
the connection closed. -/
inductive StopPoint where
  | track (rest : List ℕ)
  | dispose
  | close
deriving DecidableEq

/-- What `handleSignalingData` waits for when it applies a chunk, by how many operations are still to follow. -/
structure Applying where
  chunk : SignalingChunk
  rest : ℕ
deriving DecidableEq

/-- What `startCall` waits for. -/
inductive StartPoint where
  | localRenderer
  | remoteRenderer
  /-- `initializeRenderers` has nothing to do. -/
  | renderers
  | stopping (p : StopPoint)
  | userMedia
  | connection
  | track (rest : List ℕ)
  /-- `handleSignalingData` in the loop over the queue, which had a length and of which some were taken; it may return
  at once. -/
  | flushing (length taken : ℕ) (applying : Option Applying)
deriving DecidableEq

structure WebRtcMediaEngine where
  renderersInitialized : Bool := false
  localStream : Option MediaStream := none
  peerConnection : Option RTCPeerConnection := none
  pendingSignaling : List SignalingChunk := []
  applied : List (RTCPeerConnection × SignalingChunk) := []
  started : List ℤ := []
deriving DecidableEq

namespace WebRtcMediaEngine

variable (e : WebRtcMediaEngine)

/-! ## The end of a call -/

/-- `stopCall` when tracks are left. -/
def stopTracks : List ℕ → StopPoint
  | [] => .dispose
  | _ :: rest => .track rest

def stopCall : StopPoint := stopTracks ((e.localStream.map (·.tracks)).getD [])

def goOnStopping : StopPoint → WebRtcMediaEngine × Progress StopPoint
  | .track rest => (e, .waits (stopTracks rest))
  | .dispose => ({ e with localStream := none }, .waits .close)
  | .close => ({ e with peerConnection := none, pendingSignaling := [] }, .returns)

/-! ## Signaling data -/

def queue (chunk : SignalingChunk) : WebRtcMediaEngine :=
  { e with pendingSignaling := e.pendingSignaling ++ [chunk] }

def apply (pc : RTCPeerConnection) (chunk : SignalingChunk) : WebRtcMediaEngine :=
  { e with applied := e.applied ++ [(pc, chunk)] }

/-- `handleSignalingData` up to where it waits.  An offer is followed by an answer, which is created and set. -/
def handleSignalingData (chunk : SignalingChunk) : WebRtcMediaEngine × Option Applying :=
  if chunk.data = [] then (e, none)
  else
    match e.peerConnection with
    | none => (e.queue chunk, none)
    | some pc =>
        match readSignal chunk.data with
        | .offer _ => (e.apply pc chunk, some ⟨chunk, 2⟩)
        | .answer _ => (e.apply pc chunk, some ⟨chunk, 0⟩)
        | .candidate (some _) => (e.apply pc chunk, some ⟨chunk, 0⟩)
        | .candidate none => (e, none)
        | .binary => (e.queue chunk, none)

/-- The rest of `handleSignalingData`, which queues what could not be applied. -/
def goOnApplying (applying : Applying) (isDone : Bool) : WebRtcMediaEngine × Option Applying :=
  if !isDone then (e.queue applying.chunk, none)
  else if applying.rest = 0 then (e, none)
  else (e, some { applying with rest := applying.rest - 1 })

/-! ## The start of a call -/

def startCall : StartPoint := if e.renderersInitialized then .renderers else .localRenderer

/-- The next turn of the loop over the queue, which fails if the queue has another length than when it began. -/
def flush (length taken : ℕ) : WebRtcMediaEngine × Progress StartPoint :=
  if e.pendingSignaling.length ≠ length then (e, .fails)
  else
    match e.pendingSignaling[taken]? with
    | none => ({ e with pendingSignaling := [] }, .returns)
    | some chunk =>
        ((e.handleSignalingData chunk).1, .waits (.flushing length (taken + 1) (e.handleSignalingData chunk).2))

/-- `startCall` when tracks are left to be added; without a stream or a connection it fails. -/
def addTracks : List ℕ → WebRtcMediaEngine × Progress StartPoint
  | [] => if e.localStream = none then (e, .fails) else e.flush e.pendingSignaling.length 0
  | _ :: rest => if e.peerConnection = none ∨ e.localStream = none then (e, .fails) else (e, .waits (.track rest))

def askFor (owner : ℤ) : WebRtcMediaEngine := { e with started := e.started ++ [owner] }

/-- The rest of `startCall`.  The answer has the tracks of a stream where one was asked for. -/
def goOnStarting (owner : ℤ) (p : StartPoint) (answer : Option (List ℕ)) : WebRtcMediaEngine × Progress StartPoint :=
  match p, answer with
  | .flushing length taken none, _ => e.flush length taken
  | .flushing length taken (some applying), _ =>
      match (e.goOnApplying applying answer.isSome).2 with
      | some next => ((e.goOnApplying applying answer.isSome).1, .waits (.flushing length taken (some next)))
      | none => (e.goOnApplying applying answer.isSome).1.flush length taken
  | _, none => (e, .fails)
  | .localRenderer, some _ => (e, .waits .remoteRenderer)
  | .remoteRenderer, some _ => ({ e with renderersInitialized := true }, .waits (.stopping e.stopCall))
  | .renderers, some _ => (e, .waits (.stopping e.stopCall))
  | .stopping q, some _ =>
      match (e.goOnStopping q).2 with
      | .waits next => ((e.goOnStopping q).1, .waits (.stopping next))
      | _ => ((e.goOnStopping q).1.askFor owner, .waits .userMedia)
  | .userMedia, some tracks =>
      ({ e.askFor owner with localStream := some { tracks := tracks, owner := owner } }, .waits .connection)
  | .connection, some _ =>
      let e := { e with peerConnection := some { owner := owner } }
      match e.localStream with
      | none => (e, .fails)
      | some stream => e.addTracks stream.tracks
  | .track rest, some _ => e.addTracks rest


/-! ## What the functions do -/

/-- The engine finds something to apply in it. -/
def isApplicable (data : Str) : Bool :=
  match readSignal data with
  | .offer _ => true
  | .answer _ => true
  | .candidate candidate => candidate.isSome
  | .binary => false

/-- What has been applied to the connections of a call. -/
def appliedTo (callId : ℤ) : List SignalingChunk := (e.applied.filter (·.1.owner = callId)).map (·.2)

variable {e} {chunk : SignalingChunk} {pc : RTCPeerConnection} {callId : ℤ}

lemma appliedTo_apply : (e.apply pc chunk).appliedTo callId =
    e.appliedTo callId ++ if pc.owner = callId then [chunk] else [] := by
  rw [appliedTo, apply, List.filter_append, List.map_append, appliedTo]
  split_ifs with h <;> simp [h]

/-- Without a connection a chunk is queued. -/
lemma handleSignalingData_of_none (hpc : e.peerConnection = none) (hdata : chunk.data ≠ []) :
    e.handleSignalingData chunk = (e.queue chunk, none) := by
  rw [handleSignalingData, if_neg hdata, hpc]

/-- With a connection a chunk is applied to it if it can be. -/
lemma handleSignalingData_of_some (hpc : e.peerConnection = some pc) (hdata : isApplicable chunk.data) :
    ∃ rest ≤ 2, e.handleSignalingData chunk = (e.apply pc chunk, some ⟨chunk, rest⟩) := by
  have hne : chunk.data ≠ [] := by
    intro hnil
    rw [hnil] at hdata
    exact absurd hdata (by decide)
  rw [isApplicable] at hdata
  rw [handleSignalingData, if_neg hne, hpc]
  split at hdata
  · next h => exact ⟨2, le_rfl, by simp only [h]⟩
  · next h => exact ⟨0, Nat.zero_le 2, by simp only [h]⟩
  · next candidate h =>
      rcases Option.isSome_iff_exists.mp hdata with ⟨c, rfl⟩
      exact ⟨0, Nat.zero_le 2, by simp only [h]⟩
  · exact nomatch hdata

/-- A chunk is applied to a connection that is there, or not at all. -/
lemma handleSignalingData_cases (e : WebRtcMediaEngine) (chunk : SignalingChunk) :
    (e.handleSignalingData chunk).1 = e ∨ (e.handleSignalingData chunk).1 = e.queue chunk ∨
      ∃ pc, e.peerConnection = some pc ∧ (e.handleSignalingData chunk).1 = e.apply pc chunk := by
  rw [handleSignalingData]
  split_ifs
  · exact .inl rfl
  · split
    · exact .inr (.inl rfl)
    · next pc hpc =>
        split
        · exact .inr (.inr ⟨pc, hpc, rfl⟩)
        · exact .inr (.inr ⟨pc, hpc, rfl⟩)
        · exact .inr (.inr ⟨pc, hpc, rfl⟩)
        · exact .inl rfl
        · exact .inr (.inl rfl)

lemma goOnApplying_of_isDone (e : WebRtcMediaEngine) (applying : Applying) :
    e.goOnApplying applying true = (e, none) ∨
      ∃ rest < applying.rest, e.goOnApplying applying true = (e, some { applying with rest := rest }) := by
  rw [goOnApplying, if_neg (by decide)]
  split_ifs with hrest
  · exact .inl rfl
  · exact .inr ⟨_, Nat.sub_one_lt hrest, rfl⟩

/-- **The loop over the queue**: if all of it can be applied, the next chunk is, or the loop is over. -/
lemma flush_cases (hpc : e.peerConnection = some pc) (happlicable : ∀ c ∈ e.pendingSignaling, isApplicable c.data)
    {taken : ℕ} (htaken : taken ≤ e.pendingSignaling.length) :
    e.flush e.pendingSignaling.length taken = ({ e with pendingSignaling := [] }, .returns) ∧
        e.pendingSignaling.drop taken = [] ∨
      ∃ chunk rest, rest ≤ 2 ∧ taken < e.pendingSignaling.length ∧
        e.pendingSignaling.drop taken = chunk :: e.pendingSignaling.drop (taken + 1) ∧
        e.flush e.pendingSignaling.length taken =
          (e.apply pc chunk, .waits (.flushing e.pendingSignaling.length (taken + 1) (some ⟨chunk, rest⟩))) := by
  rw [flush, if_neg (not_not_intro rfl)]
  rcases Nat.lt_or_eq_of_le htaken with hlt | heq
  · right
    have hmem : e.pendingSignaling[taken] ∈ e.pendingSignaling := List.getElem_mem hlt
    rcases handleSignalingData_of_some hpc (happlicable _ hmem) with ⟨rest, hrest, hhandle⟩
    refine ⟨e.pendingSignaling[taken], rest, hrest, hlt, List.drop_eq_getElem_cons hlt, ?_⟩
    rw [List.getElem?_eq_getElem hlt]
    simp only [hhandle]
  · left
    rw [List.getElem?_eq_none heq.ge]
    exact ⟨rfl, List.drop_of_length_le heq.ge⟩


/-- With its stream, a start-up adds the tracks to its connection. -/
lemma goOnStarting_connection {stream : MediaStream} (h : e.localStream = some stream) (owner : ℤ) (tracks : List ℕ) :
    e.goOnStarting owner .connection (some tracks) =
      ({ e with peerConnection := some { owner := owner } } : WebRtcMediaEngine).addTracks stream.tracks := by
  simp only [goOnStarting]
  split
  · next hnone => exact nomatch h.symm.trans hnone
  · next other hother =>
      cases Option.some_inj.mp (h.symm.trans hother)
      rfl


lemma peerConnection_handleSignalingData (e : WebRtcMediaEngine) (chunk : SignalingChunk) :
    (e.handleSignalingData chunk).1.peerConnection = e.peerConnection := by
  rcases e.handleSignalingData_cases chunk with h | h | ⟨pc, -, h⟩ <;> rw [h] <;> rfl

/-- A chunk is applied to the connection of a call that has one. -/
lemma appliedTo_handleSignalingData (e : WebRtcMediaEngine) (chunk : SignalingChunk) (callId : ℤ) :
    (e.handleSignalingData chunk).1.appliedTo callId = e.appliedTo callId ∨
      e.peerConnection = some ⟨callId⟩ ∧
        (e.handleSignalingData chunk).1.appliedTo callId = e.appliedTo callId ++ [chunk] := by
  rcases e.handleSignalingData_cases chunk with h | h | ⟨⟨owner⟩, hpc, h⟩
  · exact .inl (by rw [h])
  · exact .inl (by rw [h]; rfl)
  · rw [h, appliedTo_apply]
    split_ifs with howner
    · exact .inr ⟨hpc.trans (by rw [← howner]), rfl⟩
    · exact .inl (List.append_nil _)

/-- What goes on being applied is done, or is queued if it fails. -/
lemma goOnApplying_fst (e : WebRtcMediaEngine) (applying : Applying) (isDone : Bool) :
    (e.goOnApplying applying isDone).1 = if isDone then e else e.queue applying.chunk := by
  rw [goOnApplying]
  cases isDone with
  | false => rfl
  | true =>
      simp only [Bool.not_true, Bool.false_eq_true, if_false, if_true]
      split_ifs <;> rfl

end WebRtcMediaEngine

end RioGram.Calls
