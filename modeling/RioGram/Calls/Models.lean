import RioGram.Js.Strings

/-!
# Calls

The summary of a call that the manager keeps, and how the parser makes one out of `updateCall`.  Integers are read by
`tdIntOr`, which gives 0 for what is none.

What is only shown is left out: the reason for which a call was discarded, the message of a failed one, and whether it
is to be rated.
-/

namespace RioGram.Calls

open Js

inductive CallStateKind where
  | pending
  | exchangingKeys
  | ready
  | hangingUp
  | discarded
  | error
  | unknown
deriving DecidableEq

structure CallSummary where
  id : ℤ
  userId : ℤ
  userDisplayName : Option Str := none
  isOutgoing : Bool
  isVideo : Bool
  stateKind : CallStateKind
deriving DecidableEq

namespace CallSummary

def isIncomingRinging (call : CallSummary) : Bool := !call.isOutgoing && call.stateKind = .pending

def isEnded (call : CallSummary) : Bool := call.stateKind = .discarded || call.stateKind = .error

lemma isEnded_iff {call : CallSummary} : call.isEnded ↔ call.stateKind = .discarded ∨ call.stateKind = .error := by
  rw [isEnded, Bool.or_eq_true, decide_eq_true_iff, decide_eq_true_iff]

/-- `copyWith`, which keeps the name when there is no new one. -/
def copyWith (call : CallSummary) (userDisplayName : Option Str) : CallSummary :=
  { call with userDisplayName := userDisplayName <|> call.userDisplayName }

@[simp] lemma id_copyWith (call : CallSummary) (userDisplayName : Option Str) :
    (call.copyWith userDisplayName).id = call.id := rfl

end CallSummary

/-- What a session gets for its media from `callStateReady`: hosts and ports of the servers are all that the engine
uses. -/
structure CallReadyPayload where
  servers : List (Str × ℤ) := []
deriving DecidableEq

/-- The state in the JSON of a call. -/
structure CallStateJson where
  type : Option Str := none
  servers : List (Str × ℤ) := []

/-- The JSON of a call. -/
structure CallJson where
  type : Option Str
  id : ℤ
  userId : ℤ
  isOutgoing : Option Bool := none
  isVideo : Option Bool := none
  state : CallStateJson := {}

namespace TdlibCallParser

def parseCallStateKind (state : CallStateJson) : CallStateKind :=
  if state.type = some (ascii "callStatePending") then .pending
  else if state.type = some (ascii "callStateExchangingKeys") then .exchangingKeys
  else if state.type = some (ascii "callStateReady") then .ready
  else if state.type = some (ascii "callStateHangingUp") then .hangingUp
  else if state.type = some (ascii "callStateDiscarded") then .discarded
  else if state.type = some (ascii "callStateError") then .error
  else .unknown

def parseCall (json : CallJson) : Option CallSummary :=
  if json.type ≠ some (ascii "call") then none
  else
    some {
      id := json.id
      userId := json.userId
      isOutgoing := json.isOutgoing.getD false
      isVideo := json.isVideo.getD false
      stateKind := parseCallStateKind json.state }

def parseCallReadyPayload (state : CallStateJson) : Option CallReadyPayload :=
  if state.type ≠ some (ascii "callStateReady") then none else some { servers := state.servers }

end TdlibCallParser

/-- The media of a call, as the engine reports them. -/
structure CallMediaState where
  hasLocalAudio : Bool := false
  hasLocalVideo : Bool := false
  hasRemoteAudio : Bool := false
  hasRemoteVideo : Bool := false
  isMuted : Bool := false
  selectedInputDeviceId : Option Str := none
  selectedOutputDeviceId : Option Str := none
deriving DecidableEq

end RioGram.Calls
