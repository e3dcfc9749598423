import Mathlib.Data.Int.Notation
import RioGram.Core.Mapping

/-!
# The bridge to tdweb

`tdlib_bridge.js` has one client of tdweb at a time; all clients that it creates hand their updates to the same
function.  It keeps the last authorization update, resolves with it whoever waits for one, and keeps a blob URL for each
file that was read.

Clients, waits and URLs are numbered as they come.  Of a client is kept what `close` depends on, and of an update its
client and whether it is an authorization update.  What the bridge hands to the callback of the application is returned.
-/

namespace RioGram.Web

/-- Where a client of tdweb is. -/
inductive TdwebState where
  | start | active | closing | closed
deriving DecidableEq

/-- An update or a reply of a client, with the type of its authorization state if it is an authorization update. -/
structure WebUpdate where
  client : ℕ
  authorizationState : Option String := none
deriving DecidableEq

def WebUpdate.isAuthorizationUpdate (update : WebUpdate) : Bool := update.authorizationState.any (· ≠ "")

/-- A wait for an authorization update, up to where the application has gone on. -/
inductive ReadyWait where
  | pending
  | resolved (update : WebUpdate)
  | rejected
  | done
deriving DecidableEq

def ReadyWait.isResolved : ReadyWait → Bool
  | .resolved _ => true
  | _ => false

/-- A blob URL, with the file that was read and the client that has read it. -/
structure BlobUrl where
  fileId : ℤ
  client : ℕ
  revoked : Bool := false
deriving DecidableEq

structure TdlibBridge where
  tdClient : Option ℕ := none
  clients : List TdwebState := []
  lastAuthorizationUpdate : Option WebUpdate := none
  readyResolve : Option ℕ := none
  waits : List ReadyWait := []
  blobUrlByFileId : List (ℤ × ℕ) := []
  urls : List BlobUrl := []
deriving DecidableEq

namespace TdlibBridge

variable (b : TdlibBridge)

/-! ## Authorization updates -/

def notifyReady (update : WebUpdate) : TdlibBridge :=
  match b.readyResolve with
  | none => { b with lastAuthorizationUpdate := some update }
  | some n =>
      { b with
        lastAuthorizationUpdate := some update
        readyResolve := none
        waits := b.waits.set n (.resolved update) }

def dispatchUpdate (update : WebUpdate) : TdlibBridge :=
  if update.isAuthorizationUpdate then b.notifyReady update else b

def waitForAuthorizationUpdate : TdlibBridge :=
  match b.lastAuthorizationUpdate with
  | some update => { b with waits := b.waits ++ [.resolved update] }
  | none => { b with readyResolve := some b.waits.length, waits := b.waits ++ [.pending] }

/-- The time of the wait is over. -/
def readyTimeout : TdlibBridge :=
  match b.readyResolve with
  | none => b
  | some n => { b with readyResolve := none, waits := b.waits.set n .rejected }

/-! ## Blob URLs -/

def blobUrl (fileId : ℤ) : Option ℕ := (Keyed.lookup Prod.fst fileId b.blobUrlByFileId).map Prod.snd

/-- `URL.revokeObjectURL`. -/
def revokeObjectURL (url : ℕ) : TdlibBridge :=
  { b with urls := b.urls.modify url fun u => { u with revoked := true } }

/-- All URLs that are kept are revoked, and none is kept. -/
def revokeUrls : TdlibBridge :=
  { (b.blobUrlByFileId.map Prod.snd).foldl revokeObjectURL b with blobUrlByFileId := [] }

/-- What `readFileBlobUrl` comes to at once: a URL or none, or that a client is asked. -/
inductive BlobRead where
  | resolved (url : Option ℕ)
  | sent (client : ℕ)
deriving DecidableEq

def readFileBlobUrl (fileId : ℤ) : BlobRead :=
  match b.tdClient with
  | none => .resolved none
  | some client =>
      match b.blobUrl fileId with
      | some url => .resolved (some url)
      | none => .sent client

/-- The client has answered, with data or without, and the URL is what `readFileBlobUrl` comes to. -/
def readAnswered (fileId : ℤ) (client : ℕ) (hasData : Bool) : TdlibBridge × Option ℕ :=
  if !hasData then (b, none)
  else
    let url := b.urls.length
    let previous := b.blobUrl fileId
    let b : TdlibBridge := { b with urls := b.urls ++ [⟨fileId, client, false⟩] }
    let b := match previous with
      | some previous => b.revokeObjectURL previous
      | none => b
    ({ b with blobUrlByFileId := Keyed.without Prod.fst fileId b.blobUrlByFileId ++ [(fileId, url)] }, some url)

/-! ## Clients -/

def create : TdlibBridge := { b with tdClient := some b.clients.length, clients := b.clients ++ [.start] }

/-- `sendStart` of a client. -/
def started (client : ℕ) : TdlibBridge :=
  match b.clients[client]? with
  | some .start => { b with clients := b.clients.set client .active }
  | _ => b

/-- The update that a client is closed. -/
def closedUpdate (client : ℕ) : WebUpdate := ⟨client, some "authorizationStateClosed"⟩

/-- `close` of a client: one that was not started says at once that it is closed. -/
def closeClient (client : ℕ) : TdlibBridge × List WebUpdate :=
  match b.clients[client]? with
  | some .start =>
      ({ b with clients := b.clients.set client .closed }.dispatchUpdate (closedUpdate client), [closedUpdate client])
  | some .active => ({ b with clients := b.clients.set client .closing }, [])
  | _ => (b, [])

/-- A client is started, and not closed yet. -/
def isStarted (client : ℕ) : Bool := b.clients[client]? = some .active || b.clients[client]? = some .closing

/-- An update of a client; with the last one it is closed. -/
def onUpdate (update : WebUpdate) : TdlibBridge × List WebUpdate :=
  if b.isStarted update.client then
    let isClosed := update = closedUpdate update.client
    let b := { b with clients := if isClosed then b.clients.set update.client .closed else b.clients }
    (b.dispatchUpdate update, [update])
  else (b, [])

/-- A reply of a client, or its error. -/
def onReply (update : WebUpdate) : TdlibBridge × List WebUpdate :=
  if update.client < b.clients.length then (b.dispatchUpdate update, [update]) else (b, [])

/-- The client that is there is closed. -/
def closeCurrent : TdlibBridge × List WebUpdate :=
  match b.tdClient with
  | none => (b, [])
  | some client => b.closeClient client

def close : TdlibBridge × List WebUpdate :=
  let closed := { b with readyResolve := none, lastAuthorizationUpdate := none }.revokeUrls.closeCurrent
  ({ closed.1 with tdClient := none }, closed.2)

def clearStorage : TdlibBridge × List WebUpdate :=
  let closed := b.closeCurrent
  ({ closed.1 with tdClient := none, lastAuthorizationUpdate := none }.revokeUrls, closed.2)

/-! ## What changes -/

variable {b : TdlibBridge} {u v : WebUpdate} {client : ℕ}

@[simp] lemma dispatchUpdate_tdClient : (b.dispatchUpdate u).tdClient = b.tdClient := by
  rw [dispatchUpdate, notifyReady]
  split_ifs
  · split <;> rfl
  · rfl

/-- Who waits is told of an authorization update. -/
lemma resolved_mem_dispatchUpdate (h : .resolved v ∈ (b.dispatchUpdate u).waits) :
    .resolved v ∈ b.waits ∨ (v = u ∧ u.isAuthorizationUpdate = true ∧ b.readyResolve ≠ none) := by
  rw [dispatchUpdate] at h
  split_ifs at h with hauthorization
  · rw [notifyReady] at h
    cases hready : b.readyResolve with
    | none =>
        rw [hready] at h
        exact .inl h
    | some n =>
        rw [hready] at h
        rcases List.mem_or_eq_of_mem_set h with hold | heq
        · exact .inl hold
        · exact .inr ⟨ReadyWait.resolved.inj heq, hauthorization, Option.some_ne_none n⟩
  · exact .inl h

@[simp] lemma closeClient_tdClient : (b.closeClient client).1.tdClient = b.tdClient := by
  rw [closeClient]
  split
  · exact dispatchUpdate_tdClient
  · rfl
  · rfl

/-- A client that was not started says that it is closed. -/
lemma mem_closeClient (h : u ∈ (b.closeClient client).2) :
    u = closedUpdate client ∧ b.clients[client]? = some .start := by
  rw [closeClient] at h
  split at h
  case h_1 hstart => exact ⟨List.mem_singleton.mp h, hstart⟩
  case h_2 => exact absurd h List.not_mem_nil
  case h_3 => exact absurd h List.not_mem_nil

lemma resolved_mem_closeClient (h : .resolved v ∈ (b.closeClient client).1.waits) :
    .resolved v ∈ b.waits ∨
      (v = closedUpdate client ∧ b.clients[client]? = some .start ∧ b.readyResolve ≠ none) := by
  rw [closeClient] at h
  split at h
  case h_1 hstart =>
    rcases resolved_mem_dispatchUpdate h with hold | ⟨heq, -, hready⟩
    · exact .inl hold
    · exact .inr ⟨heq, hstart, hready⟩
  case h_2 => exact .inl h
  case h_3 => exact .inl h

@[simp] lemma closeCurrent_tdClient : b.closeCurrent.1.tdClient = b.tdClient := by
  rw [closeCurrent]
  split
  · rfl
  · exact closeClient_tdClient

lemma mem_closeCurrent (h : u ∈ b.closeCurrent.2) : b.tdClient = some u.client := by
  rw [closeCurrent] at h
  split at h
  case h_1 => exact absurd h List.not_mem_nil
  case h_2 client hclient => rw [hclient, (mem_closeClient h).1, closedUpdate]

lemma resolved_mem_closeCurrent (h : .resolved v ∈ b.closeCurrent.1.waits) :
    .resolved v ∈ b.waits ∨
      ((∃ client ∈ b.tdClient, b.clients[client]? = some .start) ∧ b.readyResolve ≠ none) := by
  rw [closeCurrent] at h
  split at h
  case h_1 => exact .inl h
  case h_2 client hclient =>
    rcases resolved_mem_closeClient h with hold | ⟨-, hstart, hready⟩
    · exact .inl hold
    · exact .inr ⟨⟨client, hclient, hstart⟩, hready⟩

lemma mem_onUpdate (h : u ∈ (b.onUpdate v).2) : u = v ∧ b.isStarted v.client = true := by
  rw [onUpdate] at h
  split_ifs at h with hstarted
  · exact ⟨List.mem_singleton.mp h, hstarted⟩
  · exact absurd h List.not_mem_nil

@[simp] lemma onUpdate_tdClient : (b.onUpdate u).1.tdClient = b.tdClient := by
  rw [onUpdate]
  split
  · exact dispatchUpdate_tdClient
  · rfl

lemma resolved_mem_onUpdate (h : .resolved v ∈ (b.onUpdate u).1.waits) :
    .resolved v ∈ b.waits ∨
      (v = u ∧ u.isAuthorizationUpdate = true ∧ b.readyResolve ≠ none ∧ b.isStarted u.client = true) := by
  rw [onUpdate] at h
  split at h
  case isTrue hstarted =>
    exact (resolved_mem_dispatchUpdate h).imp_right
      fun ⟨heq, hauthorization, hready⟩ => ⟨heq, hauthorization, hready, hstarted⟩
  case isFalse => exact .inl h

lemma mem_onReply (h : u ∈ (b.onReply v).2) : u = v ∧ v.client < b.clients.length := by
  rw [onReply] at h
  split_ifs at h with hlt
  · exact ⟨List.mem_singleton.mp h, hlt⟩
  · exact absurd h List.not_mem_nil

@[simp] lemma onReply_tdClient : (b.onReply u).1.tdClient = b.tdClient := by
  rw [onReply]
  split
  · exact dispatchUpdate_tdClient
  · rfl

lemma resolved_mem_onReply (h : .resolved v ∈ (b.onReply u).1.waits) :
    .resolved v ∈ b.waits ∨
      (v = u ∧ u.isAuthorizationUpdate = true ∧ b.readyResolve ≠ none ∧ u.client < b.clients.length) := by
  rw [onReply] at h
  split at h
  case isTrue hlt =>
    exact (resolved_mem_dispatchUpdate h).imp_right
      fun ⟨heq, hauthorization, hready⟩ => ⟨heq, hauthorization, hready, hlt⟩
  case isFalse => exact .inl h

/-! ### URLs -/

/-- The URLs of a list are revoked. -/
lemma foldl_revokeObjectURL (list : List ℕ) (b : TdlibBridge) : ∃ urls : List BlobUrl,
    list.foldl revokeObjectURL b = { b with urls := urls } ∧ ∀ url, urls[url]? = b.urls[url]?.map fun u =>
      if url ∈ list then { u with revoked := true } else u := by
  induction list generalizing b with
  | nil => exact ⟨b.urls, rfl, fun url => by simp⟩
  | cons first list ih =>
      rcases ih (b.revokeObjectURL first) with ⟨urls, heq, hurls⟩
      refine ⟨urls, heq, fun url => ?_⟩
      rw [hurls, revokeObjectURL, List.getElem?_modify]
      cases b.urls[url]? with
      | none => rfl
      | some u =>
          by_cases hfirst : first = url
          · subst hfirst
            simp
          · simp [hfirst, Ne.symm hfirst]

lemma exists_revokeUrls (b : TdlibBridge) : ∃ urls : List BlobUrl,
    b.revokeUrls = { b with urls := urls, blobUrlByFileId := [] } ∧ ∀ url, urls[url]? = b.urls[url]?.map fun u =>
      if url ∈ b.blobUrlByFileId.map Prod.snd then { u with revoked := true } else u := by
  rcases foldl_revokeObjectURL (b.blobUrlByFileId.map Prod.snd) b with ⟨urls, heq, hurls⟩
  exact ⟨urls, by rw [revokeUrls, heq], hurls⟩

lemma exists_dispatchUpdate (b : TdlibBridge) (u : WebUpdate) : ∃ last ready waits, b.dispatchUpdate u = { b with
    lastAuthorizationUpdate := last
    readyResolve := ready
    waits := waits } := by
  rw [dispatchUpdate]
  split_ifs
  · rw [notifyReady]
    split
    · exact ⟨_, b.readyResolve, b.waits, rfl⟩
    · exact ⟨_, _, _, rfl⟩
  · exact ⟨_, _, _, rfl⟩

/-- A client that is closed leaves the URLs as they are. -/
lemma exists_closeCurrent (b : TdlibBridge) : ∃ clients last ready waits, b.closeCurrent.1 = { b with
    clients := clients
    lastAuthorizationUpdate := last
    readyResolve := ready
    waits := waits } ∧ clients.length = b.clients.length := by
  rw [closeCurrent]
  split
  case h_1 => exact ⟨_, _, _, _, rfl, rfl⟩
  case h_2 client hclient =>
    rw [closeClient]
    split
    · rcases exists_dispatchUpdate { b with clients := b.clients.set client .closed } (closedUpdate client) with
        ⟨last, ready, waits, heq⟩
      exact ⟨_, last, ready, waits, heq, List.length_set⟩
    · exact ⟨_, _, _, _, rfl, List.length_set⟩
    · exact ⟨_, _, _, _, rfl, rfl⟩

/-- After the client was closed all URLs that were kept are revoked, and no client is there. -/
structure IsClosed (b after : TdlibBridge) : Prop where
  urls : ∀ url : ℕ, after.urls[url]? = b.urls[url]?.map fun u =>
    if url ∈ b.blobUrlByFileId.map Prod.snd then { u with revoked := true } else u
  blobUrlByFileId : after.blobUrlByFileId = []
  tdClient : after.tdClient = none
  clients : after.clients.length = b.clients.length

lemma isClosed_close (b : TdlibBridge) : IsClosed b b.close.1 := by
  rcases exists_revokeUrls { b with readyResolve := none, lastAuthorizationUpdate := none } with ⟨urls, hrevoke, hurls⟩
  rcases exists_closeCurrent { b with
    readyResolve := none, lastAuthorizationUpdate := none, urls := urls, blobUrlByFileId := [] } with
    ⟨clients, last, ready, waits, hclose, hlength⟩
  simp only [close, hrevoke, hclose]
  exact ⟨hurls, rfl, rfl, hlength⟩

lemma isClosed_clearStorage (b : TdlibBridge) : IsClosed b b.clearStorage.1 := by
  rcases exists_closeCurrent b with ⟨clients, last, ready, waits, hclose, hlength⟩
  rcases exists_revokeUrls { b with
    clients := clients, lastAuthorizationUpdate := none, readyResolve := ready, waits := waits, tdClient := none } with
    ⟨urls, hrevoke, hurls⟩
  simp only [clearStorage, hclose, hrevoke]
  exact ⟨hurls, rfl, rfl, hlength⟩

/-- An answer with data, where the file has no URL yet. -/
lemma readAnswered_of_none {fileId : ℤ} (h : b.blobUrl fileId = none) (client : ℕ) :
    b.readAnswered fileId client true = ({ b with
      urls := b.urls ++ [⟨fileId, client, false⟩]
      blobUrlByFileId := b.blobUrlByFileId ++ [(fileId, b.urls.length)] }, some b.urls.length) := by
  have hwithout : Keyed.without Prod.fst fileId b.blobUrlByFileId = b.blobUrlByFileId :=
    Keyed.without_of_lookup_none (Option.map_eq_none_iff.mp h)
  simp only [readAnswered, h, Bool.not_true, Bool.false_eq_true, if_false, hwithout]

/-- An answer with data revokes the URL that the file has. -/
lemma readAnswered_of_some {fileId : ℤ} {previous : ℕ} {u : BlobUrl} (h : b.blobUrl fileId = some previous)
    (hu : b.urls[previous]? = some u) (client : ℕ) :
    (b.readAnswered fileId client true).1.urls[previous]? = some { u with revoked := true } := by
  have hurls : (b.readAnswered fileId client true).1.urls =
      (b.urls ++ [(⟨fileId, client, false⟩ : BlobUrl)]).modify previous fun u => { u with revoked := true } := by
    simp only [readAnswered, h, Bool.not_true, Bool.false_eq_true, if_false]
    rfl
  rcases List.getElem?_eq_some_iff.mp hu with ⟨hlt, -⟩
  rw [hurls, List.getElem?_modify, List.getElem?_append_left hlt, hu]
  simp

end TdlibBridge

end RioGram.Web
