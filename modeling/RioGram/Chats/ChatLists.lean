import RioGram.Chats.Unread
import RioGram.Core.Mapping
import Mathlib

/-!
# The lists of chats

A chat has a position in every chat list that it is in.  TDLib reports all positions of a chat with the chat,
with its last message and with its draft, and a single position by itself; the manager keeps them with the
chat, and shows the chats of the active list.

* `membership_as_reported` says when the positions that are kept are those that were reported.
* `archived_chat_shown` is a run in which a chat is shown that has no position any more.
-/

namespace RioGram.Chats

open Keyed Reaching

/-! ## Positions -/

inductive ChatListKey where
  | main
  | archive
  | folder (folderId : ℤ)
deriving DecidableEq

def ChatListKey.storageId : ChatListKey → String
  | .main => "main"
  | .archive => "archive"
  | .folder folderId => "folder_" ++ toString folderId

inductive ChatPositionSource where
  | normal | sponsored | publicServiceAnnouncement
deriving DecidableEq

structure ChatPositionInfo where
  list : ChatListKey
  order : ℤ
  isPinned : Bool := false
  source : ChatPositionSource := .normal
deriving DecidableEq

def mergePosition (existing : List ChatPositionInfo) (update : ChatPositionInfo) : List ChatPositionInfo :=
  let filtered := existing.filter (·.list.storageId != update.list.storageId)
  if update.order ≠ 0 then filtered ++ [update] else filtered

/-- A chat as the list shows it, with the fields that `ChatSummary` leaves out. -/
structure ListedChat where
  chat : ChatSummary
  positions : List ChatPositionInfo := []
  draftPreview : Option String := none
deriving DecidableEq

namespace ListedChat

variable (chat : ListedChat) (list : ChatListKey)

def positionIn : Option ChatPositionInfo := chat.positions.find? (·.list.storageId == list.storageId)

def isInList : Bool := (chat.positionIn list).any (·.order ≠ 0)

def isSponsoredChat : Bool := chat.positions.any (·.source == .sponsored)

end ListedChat

def compareInList (a b : ListedChat) (list : ChatListKey) : Ordering :=
  match a.positionIn list, b.positionIn list with
  | none, none => compare a.chat.id b.chat.id
  | none, some _ => .gt
  | some _, none => .lt
  | some posA, some posB =>
      if posA.isPinned ≠ posB.isPinned then if posA.isPinned then .lt else .gt
      else (compare posB.order posA.order).then (compare a.chat.id b.chat.id)

/-! ## The manager -/

/-- The positions and the draft that come with a chat, or with an update of it. -/
structure Listing where
  positions : List ChatPositionInfo := []
  draftPreview : Option String := none
deriving DecidableEq

/-- The fields that the lists have to do with, beside those of `Manager`. -/
structure ChatLists where
  manager : Manager := {}
  activeChatList : ChatListKey := .main
  /-- The keys of `_chatsById`, in the order in which they were added. -/
  chatIds : List ℤ := []
  listings : ℤ → Listing := fun _ => {}

namespace ChatLists

variable (P : Platform) (s : ChatLists)

def setListing (chatId : ℤ) (listing : Listing) : ChatLists :=
  { s with listings := Function.update s.listings chatId listing }

def hasChat (chatId : ℤ) : Bool := (s.manager.chatsById chatId).isSome

def chatById (chatId : ℤ) : Option ListedChat :=
  (s.manager.chatsById chatId).map fun chat =>
    { chat, positions := (s.listings chatId).positions, draftPreview := (s.listings chatId).draftPreview }

/-- The positions that replace those of a chat. -/
def newPositions (chatId : ℤ) (positions : List ChatPositionInfo) : List ChatPositionInfo :=
  if positions ≠ [] then positions else (s.listings chatId).positions

def upsertChat (raw : RawChat) (listing : Listing) : ChatLists :=
  let manager := s.manager.handleChat P raw
  if s.hasChat raw.id then
    { s with manager }.setListing raw.id
      { positions := s.newPositions raw.id listing.positions
        draftPreview := listing.draftPreview <|> (s.listings raw.id).draftPreview }
  else { s with manager, chatIds := s.chatIds ++ [raw.id] }.setListing raw.id listing

def handleChatLastMessage (chatId : Option ℤ) (lastMessage : Option RawMessage)
    (positions : List ChatPositionInfo) : ChatLists :=
  let manager := s.manager.handleChatLastMessage P chatId lastMessage
  match chatId with
  | none => { s with manager }
  | some chatId =>
      if s.hasChat chatId then
        { s with manager }.setListing chatId
          { s.listings chatId with positions := s.newPositions chatId positions }
      else { s with manager }

def handleUpdateChatPosition (chatId : Option ℤ) (position : Option ChatPositionInfo) : ChatLists :=
  match chatId, position with
  | some chatId, some position =>
      if s.hasChat chatId then
        s.setListing chatId
          { s.listings chatId with positions := mergePosition (s.listings chatId).positions position }
      else { s with manager := s.manager.send (.getChat chatId) }
  | _, _ => s

def handleUpdateChatDraftMessage (chatId : Option ℤ) (listing : Listing) : ChatLists :=
  match chatId with
  | none => s
  | some chatId =>
      if s.hasChat chatId then
        s.setListing chatId { listing with positions := s.newPositions chatId listing.positions }
      else { s with manager := s.manager.send (.getChat chatId) }

def shouldHideSponsoredChat (chat : ListedChat) : Bool :=
  s.manager.settings.shouldBlockAds && chat.isSponsoredChat

def visibleChats : List ListedChat :=
  (((s.chatIds.filterMap s.chatById).filter (·.isInList s.activeChatList)).filter
    (!s.shouldHideSponsoredChat ·)).mergeSort fun a b => (compareInList a b s.activeChatList).isLE

def switchChatList (list : ChatListKey) : ChatLists :=
  if s.activeChatList.storageId = list.storageId then s
  else { s with activeChatList := list, manager := s.manager.send (.other "loadChats") }

end ChatLists

/-! ## Runs -/

inductive ListEvent where
  | switchChatList (list : ChatListKey)
  | chatPosition (chatId : Option ℤ) (position : Option ChatPositionInfo)
  | chatDraftMessage (chatId : Option ℤ) (listing : Listing)
  /-- An event of the manager, with what comes with the chat that it is about. -/
  | manager (e : Event) (listing : Listing)

def ChatLists.step (P : Platform) (s : ChatLists) : ListEvent → ChatLists
  | .switchChatList list => s.switchChatList list
  | .chatPosition chatId position => s.handleUpdateChatPosition chatId position
  | .chatDraftMessage chatId listing => s.handleUpdateChatDraftMessage chatId listing
  | .manager (.update (.newChat raw)) listing | .manager (.update (.chat raw)) listing =>
      s.upsertChat P raw listing
  | .manager (.update (.chatLastMessage chatId lastMessage)) listing =>
      s.handleChatLastMessage P chatId lastMessage listing.positions
  | .manager e _ => { s with manager := s.manager.step P e }

/-- The chat and all its positions, if they come with the event. -/
def ListEvent.fullList : ListEvent → Option (ℤ × List ChatPositionInfo)
  | .chatDraftMessage (some chatId) listing => some (chatId, listing.positions)
  | .manager (.update (.newChat raw)) listing | .manager (.update (.chat raw)) listing =>
      some (raw.id, listing.positions)
  | .manager (.update (.chatLastMessage (some chatId) _)) listing => some (chatId, listing.positions)
  | _ => none

/-- The chats of TDLib are stored when they come. -/
def ListEvent.chat : ListEvent → Option ℤ
  | .manager (.update (.newChat raw)) _ | .manager (.update (.chat raw)) _ => some raw.id
  | _ => none

/-- What TDLib has reported, by chat and list. -/
structure ListRun where
  lists : ChatLists := {}
  reported : ℤ → ChatListKey → Option ChatPositionInfo := fun _ _ => none

namespace ListRun

variable (P : Platform) (r : ListRun)

/-- All positions of a chat replace those that were reported before; a single one replaces that in its list, or
removes it if its order is zero. -/
def report (e : ListEvent) : ℤ → ChatListKey → Option ChatPositionInfo :=
  match e with
  | .chatPosition (some chatId) (some position) =>
      Function.update r.reported chatId
        (Function.update (r.reported chatId) position.list
          (if position.order = 0 then none else some position))
  | e =>
      match e.fullList with
      | none => r.reported
      | some (chatId, positions) =>
          Function.update r.reported chatId fun list => lookup ChatPositionInfo.list list positions

def step (e : ListEvent) : ListRun where
  lists := r.lists.step P e
  reported := r.report e

/-- Every stored chat has at most one position in a list, the one that was reported last. -/
@[mk_iff]
structure Faithful (r : ListRun) : Prop where
  chatIds : ∀ chatId, chatId ∈ r.lists.chatIds ↔ r.lists.hasChat chatId
  positions : ∀ chatId, r.lists.hasChat chatId →
    Represents ChatPositionInfo.list (r.lists.listings chatId).positions (r.reported chatId)

/-- All positions of a stored chat name each list once, and there are some or none are kept of the chat. -/
def Listed (e : ListEvent) : Prop :=
  match e.fullList with
  | none => True
  | some (chatId, positions) =>
      e.chat = some chatId ∨ r.lists.hasChat chatId →
        (positions.map ChatPositionInfo.list).Nodup ∧
        (r.lists.hasChat chatId → positions = [] → (r.lists.listings chatId).positions = [])

end ListRun

/-! ## What holds in every run -/

lemma ChatListKey.storageId_injective : Function.Injective ChatListKey.storageId := by
  have hmain (folderId : ℤ) : "main" ≠ "folder_" ++ toString folderId := fun h => by
    simpa using congrArg (·.toList.head?) h
  have harchive (folderId : ℤ) : "archive" ≠ "folder_" ++ toString folderId := fun h => by
    simpa using congrArg (·.toList.head?) h
  intro list list' h
  cases list with
  | main =>
      cases list' with
      | main => rfl
      | archive => exact absurd h (by decide)
      | folder folderId => exact absurd h (hmain folderId)
  | archive =>
      cases list' with
      | main => exact absurd h (by decide)
      | archive => rfl
      | folder folderId => exact absurd h (harchive folderId)
  | folder folderId =>
      cases list' with
      | main => exact absurd h.symm (hmain folderId)
      | archive => exact absurd h.symm (harchive folderId)
      | folder folderId' =>
          exact congrArg ChatListKey.folder (Int.repr_injective ((String.append_right_inj _).mp h))

lemma storageId_beq (list list' : ChatListKey) :
    (list.storageId == list'.storageId) = (list == list') := by
  rw [Bool.eq_iff_iff, beq_iff_eq, beq_iff_eq, ChatListKey.storageId_injective.eq_iff]

lemma positionIn_eq (chat : ListedChat) (list : ChatListKey) :
    chat.positionIn list = lookup ChatPositionInfo.list list chat.positions := by
  simp only [ListedChat.positionIn, lookup, storageId_beq]

/-- A single position is put into its list or taken out of it. -/
lemma mergePosition_represents {existing : List ChatPositionInfo} {f : ChatListKey → Option ChatPositionInfo}
    (h : Represents ChatPositionInfo.list existing f) (update : ChatPositionInfo) :
    Represents ChatPositionInfo.list (mergePosition existing update)
      (Function.update f update.list (if update.order = 0 then none else some update)) := by
  have hfiltered : (existing.filter (·.list.storageId != update.list.storageId)) =
      without ChatPositionInfo.list update.list existing := by
    simp only [without, bne, storageId_beq]
  simp only [mergePosition, hfiltered, ne_eq, ite_not]
  split_ifs
  · exact h.remove update.list
  · exact h.put update

/-! ### Stored chats -/

/-- A single position of a chat. -/
def ListEvent.isPosition : ListEvent → Bool
  | .chatPosition (some _) (some _) => true
  | _ => false

/-- A chat comes with all its positions. -/
lemma ListEvent.chat_eq_none {e : ListEvent} (h : e.fullList = none) : e.chat = none := by
  rw [ListEvent.chat.eq_def]
  split
  · cases h
  · cases h
  · rfl

namespace ChatLists

variable {P : Platform} {s s' : ChatLists}

lemma hasChat_eq (s : ChatLists) (chatId : ℤ) : s.hasChat chatId = (s.manager.shownCount chatId).isSome := by
  rw [hasChat, Manager.shownCount, Option.isSome_map]

/-- Only chat objects bring chats. -/
lemma step_hasChat_manager (e : Event) (listing : Listing) (chatId : ℤ) :
    ((s.manager.step P e).chatsById chatId).isSome ↔
      (ListEvent.manager e listing).chat = some chatId ∨ s.hasChat chatId := by
  have hcount : ((s.manager.step P e).chatsById chatId).isSome =
      (s.manager.countAfter e chatId).isSome := by
    rw [← Manager.step_shownCount (P := P), Manager.shownCount, Option.isSome_map]
  rw [hcount, hasChat_eq, Manager.countAfter.eq_def]
  split
  · rename_i raw
    simp only [ListEvent.chat, Option.some.injEq]
    split_ifs with h
    · simp [h]
    · simp [Ne.symm h]
  · rename_i raw
    simp only [ListEvent.chat, Option.some.injEq]
    split_ifs with h
    · simp [h]
    · simp [Ne.symm h]
  · rename_i readId unreadCount
    have hnone : (ListEvent.manager (.update (.chatReadInbox (some readId) (some unreadCount))) listing).chat =
      none := rfl
    split_ifs
    · simp [hnone]
    · simp [hnone]
  · rename_i raw
    have hnone : (ListEvent.manager (.update (.newMessage raw)) listing).chat = none := rfl
    by_cases hmatch : chatId = raw.chatId ∧ s.manager.messageMatchesActiveForumTopic raw
    · simp [hmatch, hnone]
    · simp [hmatch, hnone]
  · rename_i hnew hchat hread hmessage
    have hnone : (ListEvent.manager e listing).chat = none := by
      rw [ListEvent.chat.eq_def]
      split
      · rename_i raw _ hraw
        cases hraw
        exact (hnew raw rfl).elim
      · rename_i raw _ hraw
        cases hraw
        exact (hchat raw rfl).elim
      · rfl
    simp [hnone]

/-- All positions of a chat have come, with the chat itself or without. -/
structure Takes (s s' : ChatLists) (chatId : ℤ) (positions : List ChatPositionInfo) (isChat : Prop) :
    Prop where
  hasChat : ∀ i, s'.hasChat i ↔ isChat ∧ i = chatId ∨ s.hasChat i
  chatIds : ∀ i, i ∈ s'.chatIds ↔ (isChat ∧ ¬s.hasChat chatId) ∧ i = chatId ∨ i ∈ s.chatIds
  others : ∀ i, i ≠ chatId → s'.listings i = s.listings i
  known : s.hasChat chatId → (s'.listings chatId).positions = s.newPositions chatId positions
  new : isChat → ¬s.hasChat chatId → (s'.listings chatId).positions = positions

/-- The chats and their positions stay. -/
structure Keeps (s s' : ChatLists) : Prop where
  hasChat : ∀ i, s'.hasChat i = s.hasChat i
  chatIds : s'.chatIds = s.chatIds
  listings : s'.listings = s.listings

lemma upsertChat_takes (raw : RawChat) (listing : Listing) :
    Takes s (s.upsertChat P raw listing) raw.id listing.positions True := by
  have hstored := step_hasChat_manager (P := P) (s := s) (.update (.chat raw)) listing
  have hchat (i : ℤ) : ((s.manager.handleChat P raw).chatsById i).isSome ↔
      True ∧ i = raw.id ∨ s.hasChat i := by
    refine (hstored i).trans (or_congr_left ?_)
    rw [true_and, eq_comm (a := i)]
    exact Option.some_inj
  simp only [upsertChat]
  split_ifs with hknown
  · refine ⟨hchat, fun i => ?_, fun i hi => Function.update_of_ne hi _ _, fun _ => ?_, fun _ hnew => ?_⟩
    · simp [hknown, setListing]
    · simp [setListing]
    · exact absurd hknown hnew
  · refine ⟨hchat, fun i => ?_, fun i hi => Function.update_of_ne hi _ _, fun hknown' => ?_, fun _ _ => ?_⟩
    · simp [hknown, setListing, or_comm]
    · exact absurd hknown' hknown
    · simp [setListing]

lemma takes_of_known {chatId : ℤ} {positions : List ChatPositionInfo} {manager : Manager} {listing : Listing}
    (hmanager : ∀ i, (manager.chatsById i).isSome = s.hasChat i)
    (hlisting : listing.positions = s.newPositions chatId positions) :
    Takes s ({ s with manager }.setListing chatId listing) chatId positions False where
  hasChat i := by simp [hasChat, setListing, hmanager]
  chatIds i := by simp [setListing]
  others _ hi := Function.update_of_ne hi _ _
  known _ := by simpa [setListing] using hlisting
  new := nofun

lemma takes_of_unknown {chatId : ℤ} {positions : List ChatPositionInfo} {manager : Manager}
    (hunknown : ¬s.hasChat chatId) (hmanager : ∀ i, (manager.chatsById i).isSome = s.hasChat i) :
    Takes s { s with manager } chatId positions False where
  hasChat i := by simp [hasChat, hmanager]
  chatIds i := by simp
  others _ _ := rfl
  known hknown := absurd hknown hunknown
  new := nofun

lemma handleChatLastMessage_takes (chatId : ℤ) (lastMessage : Option RawMessage)
    (positions : List ChatPositionInfo) :
    Takes s (s.handleChatLastMessage P (some chatId) lastMessage positions) chatId positions False := by
  have hmanager (i : ℤ) : ((s.manager.handleChatLastMessage P (some chatId) lastMessage).chatsById i).isSome =
      s.hasChat i := by
    have hsame := Manager.handleChatLastMessage_sameCounts P s.manager (some chatId) lastMessage i
    rw [hasChat_eq, ← hsame, Manager.shownCount, Option.isSome_map]
  simp only [handleChatLastMessage]
  split_ifs with hknown
  · exact takes_of_known hmanager rfl
  · exact takes_of_unknown hknown hmanager

lemma handleUpdateChatDraftMessage_takes (chatId : ℤ) (listing : Listing) :
    Takes s (s.handleUpdateChatDraftMessage (some chatId) listing) chatId listing.positions False := by
  simp only [handleUpdateChatDraftMessage]
  split_ifs with hknown
  · exact takes_of_known (fun _ => rfl) rfl
  · exact takes_of_unknown hknown fun _ => rfl

/-! ### Steps -/

lemma step_takes {e : ListEvent} {chatId : ℤ} {positions : List ChatPositionInfo}
    (h : e.fullList = some (chatId, positions)) :
    Takes s (s.step P e) chatId positions (e.chat = some chatId) := by
  have hwith {s' : ChatLists} {isChat : Prop} (hchat : e.chat = some chatId ↔ isChat)
      (ht : Takes s s' chatId positions isChat) : Takes s s' chatId positions (e.chat = some chatId) := by
    rwa [propext hchat]
  rw [ListEvent.fullList.eq_def] at h
  split at h
  · cases h
    exact hwith (iff_of_false nofun not_false) (handleUpdateChatDraftMessage_takes _ _)
  · cases h
    exact hwith (iff_of_true rfl trivial) (upsertChat_takes _ _)
  · cases h
    exact hwith (iff_of_true rfl trivial) (upsertChat_takes _ _)
  · cases h
    exact hwith (iff_of_false nofun not_false) (handleChatLastMessage_takes _ _ _)
  · cases h

lemma step_keeps {e : ListEvent} (hfull : e.fullList = none) (hposition : ¬e.isPosition) :
    Keeps s (s.step P e) := by
  cases e with
  | switchChatList list =>
      simp only [step, switchChatList]
      split_ifs
      · exact ⟨fun _ => rfl, rfl, rfl⟩
      · exact ⟨fun _ => rfl, rfl, rfl⟩
  | chatPosition chatId position =>
      cases chatId with
      | none => exact ⟨fun _ => rfl, rfl, rfl⟩
      | some chatId =>
          cases position with
          | none => exact ⟨fun _ => rfl, rfl, rfl⟩
          | some position => exact absurd rfl hposition
  | chatDraftMessage chatId listing =>
      cases chatId with
      | none => exact ⟨fun _ => rfl, rfl, rfl⟩
      | some chatId => cases hfull
  | manager e listing =>
      have hkept : Keeps s { s with manager := s.manager.step P e } := by
        have hstored := step_hasChat_manager (P := P) (s := s) e listing
        simp only [ListEvent.chat_eq_none hfull, reduceCtorEq, false_or] at hstored
        exact ⟨fun i => Bool.eq_iff_iff.mpr (hstored i), rfl, rfl⟩
      cases e with
      | update update =>
          cases update with
          | newChat raw => cases hfull
          | chat raw => cases hfull
          | chatLastMessage chatId lastMessage =>
              cases chatId with
              | none => exact ⟨fun _ => rfl, rfl, rfl⟩
              | some chatId => cases hfull
          | _ => exact hkept
      | _ => exact hkept

end ChatLists

namespace ListRun

variable {P : Platform} {r : ListRun} {e : ListEvent} {chatId : ℤ} {positions : List ChatPositionInfo}

lemma report_of_fullList (h : e.fullList = some (chatId, positions)) : r.report e =
    Function.update r.reported chatId fun list => lookup ChatPositionInfo.list list positions := by
  rw [report.eq_def]
  split
  · cases h
  · rw [h]

lemma report_of_nothing (hfull : e.fullList = none) (hposition : ¬e.isPosition) :
    r.report e = r.reported := by
  rw [report.eq_def]
  split
  · exact absurd rfl hposition
  · rw [hfull]

/-- All positions of a chat are kept as they are reported exactly if they name each list once, and if there
are some where some are kept already. -/
lemma newPositions_represents_iff :
    Represents ChatPositionInfo.list (r.lists.newPositions chatId positions)
        (fun list => lookup ChatPositionInfo.list list positions) ↔
      (positions.map ChatPositionInfo.list).Nodup ∧
        (positions = [] → (r.lists.listings chatId).positions = []) := by
  rw [ChatLists.newPositions]
  split_ifs with hsome
  · exact ⟨fun h => ⟨h.nodup, fun hnil => absurd hnil hsome⟩, fun h => represents_of_nodup h.1⟩
  · rw [not_not] at hsome
    subst hsome
    refine ⟨fun h => ⟨List.nodup_nil, fun _ => h.nil_of_nil⟩, fun h => ?_⟩
    rw [h.2 rfl]
    exact represents_of_nodup List.nodup_nil

lemma faithful_full_iff (h : r.Faithful) (hfull : e.fullList = some (chatId, positions)) :
    (r.step P e).Faithful ↔ r.Listed e := by
  have htakes := ChatLists.step_takes (P := P) (s := r.lists) hfull
  have hlisted : r.Listed e ↔ (e.chat = some chatId ∨ r.lists.hasChat chatId →
      (positions.map ChatPositionInfo.list).Nodup ∧
        (r.lists.hasChat chatId → positions = [] → (r.lists.listings chatId).positions = [])) := by
    rw [Listed, hfull]
  have hreported (i : ℤ) : (r.step P e).reported i =
      if i = chatId then fun list => lookup ChatPositionInfo.list list positions else r.reported i := by
    simp only [step, report_of_fullList hfull, Function.update_apply]
  have hown : (e.chat = some chatId ∨ r.lists.hasChat chatId → Represents ChatPositionInfo.list
      ((r.step P e).lists.listings chatId).positions ((r.step P e).reported chatId)) ↔ r.Listed e := by
    rw [hlisted, hreported, if_pos rfl]
    refine imp_congr_right fun hstored => ?_
    by_cases hknown : r.lists.hasChat chatId
    · simp only [step, htakes.known hknown, newPositions_represents_iff, hknown, true_imp_iff]
    · have hchat := hstored.resolve_right hknown
      simp only [step, htakes.new hchat hknown, hknown, Bool.false_eq_true, false_imp_iff, and_true]
      exact ⟨fun hrep => hrep.nodup, represents_of_nodup⟩
  rw [← hown]
  constructor
  · intro hnext hstored
    refine hnext.positions chatId ((htakes.hasChat chatId).mpr ?_)
    exact hstored.imp_left fun hchat => ⟨hchat, rfl⟩
  · intro hstored
    refine ⟨fun i => ?_, fun i hi => ?_⟩
    · have hids := htakes.chatIds i
      have hhas := htakes.hasChat i
      rw [h.chatIds i] at hids
      refine hids.trans (Iff.trans ?_ hhas.symm)
      by_cases hi : i = chatId
      · subst hi
        by_cases hknown : r.lists.hasChat i
        · simp [hknown]
        · simp [hknown]
      · simp [hi]
    · by_cases hchat : i = chatId
      · subst hchat
        exact hstored (((htakes.hasChat i).mp hi).imp_left And.left)
      · have hkept : r.lists.hasChat i := ((htakes.hasChat i).mp hi).resolve_left fun hnew => hchat hnew.2
        rw [hreported, if_neg hchat]
        simp only [step, htakes.others i hchat]
        exact h.positions i hkept

lemma faithful_of_keeps (h : r.Faithful) (hfull : e.fullList = none) (hposition : ¬e.isPosition) :
    (r.step P e).Faithful := by
  have hkeeps := ChatLists.step_keeps (P := P) (s := r.lists) hfull hposition
  have hreported := report_of_nothing (r := r) hfull hposition
  refine ⟨fun i => ?_, fun i hi => ?_⟩
  · simp only [step, hkeeps.chatIds, hkeeps.hasChat]
    exact h.chatIds i
  · simp only [step, hkeeps.listings, hreported]
    exact h.positions i (hkeeps.hasChat i ▸ hi)

/-- A single position is merged into those of a known chat. -/
lemma faithful_position (h : r.Faithful) (position : ChatPositionInfo) :
    (r.step P (.chatPosition (some chatId) (some position))).Faithful := by
  have hreported : (r.step P (.chatPosition (some chatId) (some position))).reported =
      Function.update r.reported chatId (Function.update (r.reported chatId) position.list
        (if position.order = 0 then none else some position)) := rfl
  by_cases hknown : r.lists.hasChat chatId
  · have hlists : (r.step P (.chatPosition (some chatId) (some position))).lists =
        r.lists.setListing chatId { r.lists.listings chatId with
          positions := mergePosition (r.lists.listings chatId).positions position } := if_pos hknown
    rw [faithful_iff, hlists, hreported]
    refine ⟨h.chatIds, fun i hi => ?_⟩
    have hkept := h.positions i hi
    by_cases hchat : i = chatId
    · subst hchat
      simpa [ChatLists.setListing] using mergePosition_represents hkept position
    · simpa [ChatLists.setListing, Function.update_of_ne hchat] using hkept
  · have hlists : (r.step P (.chatPosition (some chatId) (some position))).lists =
        { r.lists with manager := r.lists.manager.send (.getChat chatId) } := if_neg hknown
    rw [faithful_iff, hlists, hreported]
    refine ⟨h.chatIds, fun i hi => ?_⟩
    have hother : i ≠ chatId := by
      rintro rfl
      exact hknown hi
    rw [Function.update_of_ne hother]
    exact h.positions i hi

lemma step_faithful_iff (h : r.Faithful) (e : ListEvent) : (r.step P e).Faithful ↔ r.Listed e := by
  cases hfull : e.fullList with
  | some full => exact faithful_full_iff h hfull
  | none =>
      have hlisted : r.Listed e := by rw [Listed, hfull]; trivial
      refine iff_of_true ?_ hlisted
      cases hposition : e.isPosition with
      | false => exact faithful_of_keeps h hfull (by simp [hposition])
      | true =>
          rw [ListEvent.isPosition.eq_def] at hposition
          split at hposition
          · exact faithful_position h _
          · cases hposition

/-- The active list shows the chats that were reported with a position in it and are not hidden. -/
def ShowsReported (r : ListRun) : Prop :=
  ∀ chat, chat ∈ r.lists.visibleChats ↔ ∃ chatId, r.lists.chatById chatId = some chat ∧
    (∃ position, r.reported chatId r.lists.activeChatList = some position ∧ position.order ≠ 0) ∧
    ¬r.lists.shouldHideSponsoredChat chat

lemma Faithful.showsReported (h : r.Faithful) : r.ShowsReported := by
  intro chat
  have hlisted (i : ℤ) (hchat : r.lists.chatById i = some chat) : i ∈ r.lists.chatIds ∧
      chat.positionIn r.lists.activeChatList = r.reported i r.lists.activeChatList := by
    rcases Option.map_eq_some_iff.mp hchat with ⟨summary, hsummary, rfl⟩
    have hknown : r.lists.hasChat i := by rw [ChatLists.hasChat, hsummary]; rfl
    exact ⟨(h.chatIds i).mpr hknown, (positionIn_eq _ _).trans ((h.positions i hknown).lookup_eq _)⟩
  simp only [ChatLists.visibleChats, List.mem_mergeSort, List.mem_filter, List.mem_filterMap,
    ListedChat.isInList, Bool.not_eq_true', Option.any_eq_true, decide_eq_true_eq,
    Bool.not_eq_true]
  constructor
  · rintro ⟨⟨⟨i, -, hchat⟩, position, hposition, horder⟩, hshown⟩
    exact ⟨i, hchat, ⟨position, (hlisted i hchat).2 ▸ hposition, horder⟩, hshown⟩
  · rintro ⟨i, hchat, ⟨position, hposition, horder⟩, hshown⟩
    exact ⟨⟨⟨i, (hlisted i hchat).1, hchat⟩, position, (hlisted i hchat).2 ▸ hposition, horder⟩, hshown⟩

/-- **The positions of every chat are those that were reported last**, and the active list shows the chats
that were reported with a position in it, in every run in which no chat loses its last positions by a list of
all of them; and where the positions are those, a step keeps them so exactly if it is not such a list. -/
theorem membership_as_reported (P : Platform) :
    (∀ r, Reachable (step P) Listed {} r → r.Faithful ∧ r.ShowsReported) ∧
    ∀ (r : ListRun) (e : ListEvent), r.Faithful → ((r.step P e).Faithful ↔ r.Listed e) := by
  refine ⟨fun r h => ?_, fun r e hr => step_faithful_iff hr e⟩
  have hr : r.Faithful := by
    refine h.invariant (I := Faithful) ⟨fun i => ?_, fun i hi => ?_⟩ fun r e hr => (step_faithful_iff hr e).mpr
    · exact iff_of_false List.not_mem_nil Bool.false_ne_true
    · cases hi
  exact ⟨hr, hr.showsReported⟩

/-- A chat of the main list. -/
def newChat : ListEvent :=
  .manager (.update (.newChat { id := 1, title := "Chat" })) { positions := [{ list := .main, order := 5 }] }

/-- The chat is moved to the archive, and has a draft then. -/
def archiving : List ListEvent :=
  [newChat, .chatPosition (some 1) (some { list := .archive, order := 7 }),
    .chatPosition (some 1) (some { list := .main, order := 0 }),
    .chatDraftMessage (some 1) { positions := [{ list := .archive, order := 8 }] }]

theorem membership_as_reported_archiving : (archiving.foldl (step .plain) {}).Faithful := by
  refine ((membership_as_reported .plain).1 _ (Reachable.start.run ?_)).1
  refine ⟨fun _ => ⟨by decide, fun h => ?_⟩, trivial, trivial, fun _ => ⟨by decide, fun _ h => ?_⟩, trivial⟩
  · cases h
  · cases h

/-- The chat is still shown after an event, although it has been reported with no position. -/
def StillShown (e : ListEvent) : Prop :=
  ([newChat, e].foldl (step .plain) {}).reported 1 .main = none ∧
    ([newChat, e].foldl (step .plain) {}).lists.visibleChats.map (·.chat.id) = [1]

/-- **A chat is shown that is in no list any more**, when TDLib says so with a chat, with its last message or
with its draft. -/
theorem archived_chat_shown :
    StillShown (.manager (.update (.chat { id := 1, title := "Chat" })) {}) ∧
      StillShown (.manager (.update (.chatLastMessage (some 1) none)) {}) ∧
      StillShown (.chatDraftMessage (some 1) {}) := by
  refine ⟨⟨rfl, ?_⟩, ⟨rfl, ?_⟩, ⟨rfl, ?_⟩⟩
  · decide +kernel
  · decide +kernel
  · decide +kernel

end ListRun

end RioGram.Chats
