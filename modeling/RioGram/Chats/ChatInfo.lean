import RioGram.Chats.Models
import RioGram.Core.Reachable
import RioGram.Core.Rounds

/-!
# Loading what is known of a chat

`loadChatInfo` asks for a chat, and its answer sends the requests for the group or the user behind it.  The
manager counts how many of these are not answered, and when none is left the loading ends.  `ChatInfoRun` is
the loading with the requests that are not answered, each with the number of the load that it is of.

* `loading_iff_outstanding` says when the manager shows that it is loading exactly while a request of the
  last load is not answered.
* `failed_chat_loads` and `late_reply_ends_load` are runs in which it does not.
-/

namespace RioGram.Chats

open Asking Reaching

/-! ## The data -/

/-- `chatPermissions`, of which only one right has to do with posting in a channel. -/
structure ChatPermissionsInfo where
  canSendBasicMessages : Bool
deriving DecidableEq

inductive ChatMemberStatusKind where
  | unknown | creator | administrator | member | restricted | left | banned
deriving DecidableEq

/-- The `status` of the user in a group. -/
inductive RawMemberStatus where
  | creator
  | administrator (canPostMessages : Bool)
  | member | restricted | left | banned
  | other (type : String)
deriving DecidableEq

/-- What of the information has to do with posting.  Without permissions it has those of
`const ChatPermissionsInfo()`, from which permissions that were read always differ. -/
structure ChatDetailInfo where
  permissions : Option ChatPermissionsInfo := none
  myStatus : ChatMemberStatusKind := .unknown
  canPostMessages : Bool := false
deriving DecidableEq

namespace ChatDetailInfo

variable (info : ChatDetailInfo)

def isSubscribed : Bool := info.myStatus != .left && info.myStatus != .banned

/-- `const ChatPermissionsInfo()` allows basic messages. -/
def canSendBasicMessages : Bool := (info.permissions.map (·.canSendBasicMessages)).getD true

def canSendInChannel : Bool := info.canPostMessages || info.canSendBasicMessages

def merge (other : ChatDetailInfo) : ChatDetailInfo where
  permissions := other.permissions <|> info.permissions
  myStatus := if other.myStatus ≠ .unknown then other.myStatus else info.myStatus
  canPostMessages := other.canPostMessages || info.canPostMessages

end ChatDetailInfo

/-- The `type` of a chat with the id of the group or the user behind it. -/
inductive InfoChatType where
  | basicGroup (basicGroupId : ℤ)
  | supergroup (supergroupId : ℤ) (isChannel : Bool)
  | secret (userId : Option ℤ)
  | privateUser (userId : Option ℤ)
  | other (type : String)
deriving DecidableEq

structure RawInfoChat where
  id : ℤ
  title : Option String := some ""
  type : InfoChatType
  permissions : Option ChatPermissionsInfo := none
deriving DecidableEq

/-- What of a `ChatSummary` has to do with the loading and with posting. -/
structure InfoSummary where
  kind : ChatKind
  basicGroupId : Option ℤ := none
  supergroupId : Option ℤ := none
  privateUserId : Option ℤ := none
  canSendMessages : Bool := true
deriving DecidableEq

/-- `TdlibChatParser.parseChat`; which kind of private chat it is plays no part here. -/
def RawInfoChat.parse (raw : RawInfoChat) : Option InfoSummary :=
  if raw.title = none then none
  else
    let canSendMessages := (raw.permissions.map (·.canSendBasicMessages)).getD true
    some <| match raw.type with
      | .basicGroup basicGroupId => { kind := .group, basicGroupId := some basicGroupId, canSendMessages }
      | .supergroup supergroupId isChannel =>
          { kind := if isChannel then .channel else .group
            supergroupId := some supergroupId
            canSendMessages }
      | .secret userId => { kind := .secret, privateUserId := userId, canSendMessages }
      | .privateUser userId => { kind := .privateChat, privateUserId := userId, canSendMessages }
      | .other _ => { kind := .privateChat, canSendMessages }

def parseMemberStatus : RawMemberStatus → ChatMemberStatusKind
  | .creator => .creator
  | .administrator _ => .administrator
  | .member => .member
  | .restricted => .restricted
  | .left => .left
  | .banned => .banned
  | .other _ => .unknown

def parseCanPostMessages : RawMemberStatus → Bool
  | .creator => true
  | .administrator canPostMessages => canPostMessages
  | _ => false

def parseChatForInfo (raw : RawInfoChat) : ChatDetailInfo := { permissions := raw.permissions }

/-- `parseSupergroup`. -/
def parseSupergroup (status : RawMemberStatus) : ChatDetailInfo :=
  { myStatus := parseMemberStatus status, canPostMessages := parseCanPostMessages status }

/-- `parseBasicGroupMeta`. -/
def parseBasicGroupMeta (status : RawMemberStatus) : ChatDetailInfo :=
  { myStatus := parseMemberStatus status }

/-! ## Requests and replies -/

/-- What is asked for; the extras are `chatInfo_chat_<chat>`, `chatInfo_basicFull_<chat>`,
`chatInfo_basic_<chat>`, `chatInfo_super_<chat>`, `chatInfo_superFull_<chat>`, `chatInfo_members_<chat>`,
`chatInfo_user_<chat>` and `chatInfo_createInvite_<chat>`. -/
inductive InfoTarget where
  | chat
  | basicFull (basicGroupId : ℤ)
  | basic (basicGroupId : ℤ)
  | super (supergroupId : ℤ)
  | superFull (supergroupId : ℤ)
  | members (supergroupId : ℤ) (offset limit : ℕ)
  | user (userId : ℤ)
  | createInvite
deriving DecidableEq

/-- A request for what is behind a chat. -/
def InfoTarget.isFollowUp (target : InfoTarget) : Bool := target != .chat && target != .createInvite

structure InfoRequest where
  chatId : ℤ
  target : InfoTarget
deriving DecidableEq

inductive InfoReply where
  | chat (raw : RawInfoChat)
  | basicGroupFullInfo
  | basicGroup (status : RawMemberStatus)
  | supergroup (status : RawMemberStatus)
  | supergroupFullInfo
  | chatMembers
  | user
  | chatInviteLink (inviteLink : Option String)
  | error (message : Option String)
deriving DecidableEq

/-- Whether a request gets such a reply. -/
def InfoTarget.gets : InfoTarget → InfoReply → Bool
  | _, .error _ => true
  | .chat, .chat _ => true
  | .basicFull _, .basicGroupFullInfo => true
  | .basic _, .basicGroup _ => true
  | .super _, .supergroup _ => true
  | .superFull _, .supergroupFullInfo => true
  | .members _ _ _, .chatMembers => true
  | .user _, .user => true
  | .createInvite, .chatInviteLink _ => true
  | _, _ => false

/-! ## The manager -/

structure ChatInfo where
  loadingChatInfoForChatId : Option ℤ := none
  isLoadingChatInfo : Bool := false
  chatInfoError : Option String := none
  chatInfoPendingRequests : ℕ := 0
  chatInfoById : ℤ → Option ChatDetailInfo := fun _ => none
  chatsById : ℤ → Option InfoSummary := fun _ => none
  activeChatId : Option ℤ := none
  sent : List InfoRequest := []

namespace ChatInfo

variable (s : ChatInfo)

def setInfo (chatId : ℤ) (info : Option ChatDetailInfo) : ChatInfo :=
  { s with chatInfoById := fun i => if i = chatId then info else s.chatInfoById i }

def setChat (chatId : ℤ) (chat : InfoSummary) : ChatInfo :=
  { s with chatsById := fun i => if i = chatId then some chat else s.chatsById i }

def clearChatInfo (chatId : ℤ) : ChatInfo :=
  let s := s.setInfo chatId none
  if s.loadingChatInfoForChatId = some chatId then
    { s with loadingChatInfoForChatId := none, isLoadingChatInfo := false, chatInfoPendingRequests := 0 }
  else s

def loadChatInfo (chatId : ℤ) : ChatInfo :=
  let s : ChatInfo :=
    { s with
      loadingChatInfoForChatId := some chatId
      chatInfoError := none
      isLoadingChatInfo := true
      chatInfoPendingRequests := 0 }
  { s.setInfo chatId (some {}) with sent := s.sent ++ [⟨chatId, .chat⟩] }

def isKnownChannel (chatId : ℤ) : Bool := (s.chatsById chatId).any (·.kind == .channel)

/-- A channel is loaded when it is opened. -/
def openChat (chatId : ℤ) : ChatInfo :=
  let s := { s with activeChatId := some chatId }
  if s.isKnownChannel chatId then s.loadChatInfo chatId else s

def closeChat : ChatInfo := { s with activeChatId := none }

def createPrimaryInviteLink (chatId : ℤ) : ChatInfo :=
  { s with sent := s.sent ++ [⟨chatId, .createInvite⟩] }

def syncChannelSummary (chatId : ℤ) (info : ChatDetailInfo) : ChatInfo :=
  match s.chatsById chatId with
  | none => s
  | some chat =>
      if chat.kind ≠ .channel then s
      else s.setChat chatId { chat with canSendMessages := info.canSendInChannel }

def mergeChatInfo (chatId : ℤ) (patch : ChatDetailInfo) : ChatInfo :=
  let merged := ((s.chatInfoById chatId).getD {}).merge patch
  (s.setInfo chatId (some merged)).syncChannelSummary chatId merged

def finishChatInfoLoad : ChatInfo := { s with isLoadingChatInfo := false }

def completeChatInfoRequest : ChatInfo :=
  if s.chatInfoPendingRequests = 0 then s
  else
    let s : ChatInfo := { s with chatInfoPendingRequests := s.chatInfoPendingRequests - 1 }
    if s.chatInfoPendingRequests = 0 then s.finishChatInfoLoad else s

/-- The requests for what is behind a chat. -/
def infoRequests (chatId : ℤ) (chat : InfoSummary) : List InfoRequest :=
  match chat.basicGroupId, chat.supergroupId, chat.privateUserId with
  | some basicGroupId, _, _ => [⟨chatId, .basicFull basicGroupId⟩, ⟨chatId, .basic basicGroupId⟩]
  | none, some supergroupId, _ =>
      -- the members of a channel are not shown to those who only read it
      [⟨chatId, .super supergroupId⟩, ⟨chatId, .superFull supergroupId⟩] ++
        if chat.kind ≠ .channel then [⟨chatId, .members supergroupId 0 50⟩] else []
  | none, none, some userId => [⟨chatId, .user userId⟩]
  | none, none, none => []

def continueChatInfoLoad (chatId : ℤ) (chat : InfoSummary) : ChatInfo :=
  if s.loadingChatInfoForChatId ≠ some chatId then s
  else
    let requests := infoRequests chatId chat
    let s : ChatInfo := { s with sent := s.sent ++ requests }
    if requests = [] then s.finishChatInfoLoad
    else { s with chatInfoPendingRequests := requests.length }

def upsertChat (chatId : ℤ) : Option InfoSummary → ChatInfo
  | none => s
  | some summary =>
      match s.chatsById chatId with
      | none => s.setChat chatId summary
      | some existing =>
          s.setChat chatId
            { kind := summary.kind
              basicGroupId := summary.basicGroupId <|> existing.basicGroupId
              supergroupId := summary.supergroupId <|> existing.supergroupId
              privateUserId := summary.privateUserId <|> existing.privateUserId
              canSendMessages := summary.canSendMessages }

/-- `updateNewChat`, and a `chat` that was not asked for here. -/
def handleChat (raw : RawInfoChat) : ChatInfo := s.upsertChat raw.id raw.parse

/-- What `_handleChatResponse` does with the answer to the first request. -/
def handleInfoChat (chatId : ℤ) (raw : RawInfoChat) : ChatInfo :=
  let s := s.mergeChatInfo chatId (parseChatForInfo raw)
  let s := match s.chatsById chatId <|> raw.parse with
    | some chat => s.continueChatInfoLoad chatId chat
    | none => s.finishChatInfoLoad
  s.upsertChat chatId raw.parse

/-- What the handlers do with a reply, which the extra of the request comes with. -/
def handleReply (request : InfoRequest) : InfoReply → ChatInfo
  | .chat raw => s.handleInfoChat request.chatId raw
  | .basicGroupFullInfo => (s.mergeChatInfo request.chatId {}).completeChatInfoRequest
  | .basicGroup status =>
      (s.mergeChatInfo request.chatId (parseBasicGroupMeta status)).completeChatInfoRequest
  | .supergroup status =>
      (s.mergeChatInfo request.chatId (parseSupergroup status)).completeChatInfoRequest
  | .supergroupFullInfo => (s.mergeChatInfo request.chatId {}).completeChatInfoRequest
  | .chatMembers => s.completeChatInfoRequest
  | .user => s.completeChatInfoRequest
  | .chatInviteLink inviteLink => if inviteLink.isSome then s.mergeChatInfo request.chatId {} else s
  | .error message =>
      match request.target with
      | .members _ _ _ => s.completeChatInfoRequest
      | _ =>
          ({ s with chatInfoError := some (message.getD "Ошибка загрузки информации") } :
            ChatInfo).completeChatInfoRequest

end ChatInfo

/-! ## Runs -/

inductive InfoEvent where
  | loadChatInfo (chatId : ℤ)
  | clearChatInfo (chatId : ℤ)
  | openChat (chatId : ℤ)
  | closeChat
  | createPrimaryInviteLink (chatId : ℤ)
  /-- A chat that no load has asked for. -/
  | chat (raw : RawInfoChat)
  /-- The reply to a request of the load with the number. -/
  | reply (number : ℕ) (request : InfoRequest) (reply : InfoReply)

structure ChatInfoRun where
  info : ChatInfo := {}
  rounds : Rounds InfoRequest := {}
  /-- The number of the last load, as long as it is not cleared. -/
  current : Option ℕ := none

namespace ChatInfoRun

/-- The load that begins with the last request that was sent. -/
def load (r : ChatInfoRun) (chatId : ℤ) : ChatInfoRun where
  info := r.info.loadChatInfo chatId
  rounds := r.rounds.ask [⟨chatId, .chat⟩]
  current := some (r.rounds.latest + 1)

@[grind =]
def step (r : ChatInfoRun) : InfoEvent → ChatInfoRun
  | .loadChatInfo chatId => r.load chatId
  | .clearChatInfo chatId =>
      { r with
        info := r.info.clearChatInfo chatId
        current := if r.info.loadingChatInfoForChatId = some chatId then none else r.current }
  | .openChat chatId =>
      let opened := if r.info.isKnownChannel chatId then r.load chatId else r
      { opened with info := r.info.openChat chatId }
  | .closeChat => { r with info := r.info.closeChat }
  | .createPrimaryInviteLink chatId =>
      { r with
        info := r.info.createPrimaryInviteLink chatId
        rounds := r.rounds.join 0 [⟨chatId, .createInvite⟩] }
  | .chat raw => { r with info := r.info.handleChat raw }
  | .reply number request reply =>
      let info := r.info.handleReply request reply
      { r with
        info
        rounds := (r.rounds.answer (number, request)).join number (info.sent.drop r.info.sent.length) }

/-- TDLib answers requests that were sent, each once, and of every chat it tells the title and the
permissions. -/
def Served (r : ChatInfoRun) : InfoEvent → Prop
  | .chat raw => raw.title.isSome ∧ raw.permissions.isSome
  | .reply number request reply =>
      (number, request) ∈ r.rounds.outstanding ∧ request.target.gets reply ∧
        match reply with
        | .chat raw => raw.id = request.chatId ∧ raw.title.isSome ∧ raw.permissions.isSome
        | _ => True
  | _ => True

/-- The manager shows that it is loading exactly while a request of the last load is not answered. -/
def Faithful (r : ChatInfoRun) : Prop :=
  r.info.isLoadingChatInfo ↔ ∃ request ∈ r.rounds.outstanding, r.current = some request.1

/-- The first request of the last load is not answered with an error.  Of what is left of other loads, no
chat comes for the chat that is being loaded, and nothing else that counts while the manager counts. -/
@[grind =]
def InTime (r : ChatInfoRun) : InfoEvent → Prop
  | .reply number request reply =>
      if r.current = some number then request.target = .chat → ∀ message, reply ≠ .error message
      else
        match reply with
        | .chat _ => r.info.loadingChatInfoForChatId ≠ some request.chatId
        | .chatInviteLink _ => True
        | _ => r.info.chatInfoPendingRequests = 0
  | _ => True

end ChatInfoRun

/-! ## What a reply does to the loading -/

/-- Nothing is different that the loading has to do with. -/
structure SameLoad (s s' : ChatInfo) : Prop where
  loadingFor : s'.loadingChatInfoForChatId = s.loadingChatInfoForChatId
  pending : s'.chatInfoPendingRequests = s.chatInfoPendingRequests
  loading : s'.isLoadingChatInfo = s.isLoadingChatInfo
  sent : s'.sent = s.sent

/-- One request less is pending. -/
structure Counted (s s' : ChatInfo) : Prop where
  loadingFor : s'.loadingChatInfoForChatId = s.loadingChatInfoForChatId
  pending : s'.chatInfoPendingRequests = s.chatInfoPendingRequests - 1
  loading : s'.isLoadingChatInfo ↔ s.isLoadingChatInfo ∧ s.chatInfoPendingRequests ≠ 1
  sent : s'.sent = s.sent

variable {s s' s'' : ChatInfo} {chatId : ℤ}

lemma SameLoad.trans (h : SameLoad s s') (h' : SameLoad s' s'') : SameLoad s s'' :=
  ⟨h'.loadingFor.trans h.loadingFor, h'.pending.trans h.pending, h'.loading.trans h.loading,
    h'.sent.trans h.sent⟩

namespace ChatInfo

lemma mergeChatInfo_sameLoad (patch : ChatDetailInfo) : SameLoad s (s.mergeChatInfo chatId patch) := by
  simp only [mergeChatInfo, syncChannelSummary]
  split
  · exact ⟨rfl, rfl, rfl, rfl⟩
  · split_ifs
    · exact ⟨rfl, rfl, rfl, rfl⟩
    · exact ⟨rfl, rfl, rfl, rfl⟩

lemma upsertChat_sameLoad (summary : Option InfoSummary) : SameLoad s (s.upsertChat chatId summary) := by
  rw [upsertChat.eq_def]
  split
  · exact ⟨rfl, rfl, rfl, rfl⟩
  · split
    · exact ⟨rfl, rfl, rfl, rfl⟩
    · exact ⟨rfl, rfl, rfl, rfl⟩

lemma completeChatInfoRequest_counted (h : SameLoad s s') : Counted s s'.completeChatInfoRequest := by
  rcases h with ⟨hloadingFor, hpending, hloading, hsent⟩
  simp only [completeChatInfoRequest]
  split_ifs with hnone hlast
  · have hmore : s.chatInfoPendingRequests ≠ 1 := by omega
    exact ⟨hloadingFor, by omega, by rw [hloading]; exact (and_iff_left hmore).symm, hsent⟩
  · change s'.chatInfoPendingRequests - 1 = 0 at hlast
    have hone : s.chatInfoPendingRequests = 1 := by omega
    exact ⟨hloadingFor, by rw [← hpending]; rfl,
      iff_of_false Bool.false_ne_true fun hloading => hloading.2 hone, hsent⟩
  · change s'.chatInfoPendingRequests - 1 ≠ 0 at hlast
    have hmore : s.chatInfoPendingRequests ≠ 1 := by omega
    exact ⟨hloadingFor, by rw [← hpending], by rw [← hloading]; exact (and_iff_left hmore).symm, hsent⟩

lemma handleReply_counted (request : InfoRequest) {reply : InfoReply} (hchat : ∀ raw, reply ≠ .chat raw)
    (hinvite : ∀ inviteLink, reply ≠ .chatInviteLink inviteLink) :
    Counted s (s.handleReply request reply) := by
  have hsame : SameLoad s s := ⟨rfl, rfl, rfl, rfl⟩
  cases reply with
  | chat raw => exact absurd rfl (hchat raw)
  | basicGroupFullInfo => exact completeChatInfoRequest_counted (mergeChatInfo_sameLoad _)
  | basicGroup status => exact completeChatInfoRequest_counted (mergeChatInfo_sameLoad _)
  | supergroup status => exact completeChatInfoRequest_counted (mergeChatInfo_sameLoad _)
  | supergroupFullInfo => exact completeChatInfoRequest_counted (mergeChatInfo_sameLoad _)
  | chatMembers => exact completeChatInfoRequest_counted hsame
  | user => exact completeChatInfoRequest_counted hsame
  | chatInviteLink inviteLink => exact absurd rfl (hinvite inviteLink)
  | error message =>
      simp only [handleReply]
      split
      · exact completeChatInfoRequest_counted hsame
      · exact completeChatInfoRequest_counted ⟨rfl, rfl, rfl, rfl⟩

lemma handleReply_inviteLink (request : InfoRequest) (inviteLink : Option String) :
    SameLoad s (s.handleReply request (.chatInviteLink inviteLink)) := by
  simp only [handleReply]
  split_ifs
  · exact mergeChatInfo_sameLoad _
  · exact ⟨rfl, rfl, rfl, rfl⟩

/-- What the answer to the first request does: the manager asks for what is behind the chat and counts the
requests. -/
structure Continued (s : ChatInfo) (requests : List InfoRequest) (s' : ChatInfo) : Prop where
  loadingFor : s'.loadingChatInfoForChatId = s.loadingChatInfoForChatId
  pending : s'.chatInfoPendingRequests =
    if requests = [] then s.chatInfoPendingRequests else requests.length
  loading : s'.isLoadingChatInfo ↔ s.isLoadingChatInfo ∧ requests ≠ []
  sent : s'.sent = s.sent ++ requests

lemma continueChatInfoLoad_continued (h : s.loadingChatInfoForChatId = some chatId) (chat : InfoSummary) :
    Continued s (infoRequests chatId chat) (s.continueChatInfoLoad chatId chat) := by
  simp only [continueChatInfoLoad, h, ne_eq, not_true, if_false]
  split_ifs with hnone
  · exact ⟨h.symm ▸ rfl, (if_pos hnone).symm, iff_of_false Bool.false_ne_true fun hload => hload.2 hnone, rfl⟩
  · exact ⟨h.symm ▸ rfl, (if_neg hnone).symm, (and_iff_left hnone).symm, rfl⟩

/-- A chat with a title is read. -/
lemma parse_of_title {raw : RawInfoChat} (htitle : raw.title.isSome) (known : Option InfoSummary) :
    (known <|> raw.parse) ≠ none := by
  cases known with
  | some chat => exact Option.some_ne_none chat
  | none =>
      change raw.parse ≠ none
      rw [RawInfoChat.parse, if_neg (Option.isSome_iff_ne_none.mp htitle)]
      exact Option.some_ne_none _

lemma handleInfoChat_other {raw : RawInfoChat} (h : s.loadingChatInfoForChatId ≠ some chatId)
    (htitle : raw.title.isSome) : SameLoad s (s.handleInfoChat chatId raw) := by
  have hmerged : SameLoad s (s.mergeChatInfo chatId (parseChatForInfo raw)) := mergeChatInfo_sameLoad _
  simp only [handleInfoChat]
  split
  case h_1 chat hchat =>
    rw [continueChatInfoLoad, if_pos (by rw [hmerged.loadingFor]; exact h)]
    exact hmerged.trans (upsertChat_sameLoad _)
  case h_2 hnone =>
    exact absurd hnone (parse_of_title htitle _)

lemma handleInfoChat_continued {raw : RawInfoChat} (h : s.loadingChatInfoForChatId = some chatId)
    (htitle : raw.title.isSome) :
    ∃ requests, (∀ request ∈ requests, request.chatId = chatId ∧ request.target.isFollowUp) ∧
      Continued s requests (s.handleInfoChat chatId raw) := by
  have hmerged : SameLoad s (s.mergeChatInfo chatId (parseChatForInfo raw)) := mergeChatInfo_sameLoad _
  simp only [handleInfoChat]
  split
  case h_1 chat hchat =>
    have hcontinued := continueChatInfoLoad_continued (hmerged.loadingFor.trans h) chat
    have hupserted := @upsertChat_sameLoad ((s.mergeChatInfo chatId
      (parseChatForInfo raw)).continueChatInfoLoad chatId chat) chatId raw.parse
    refine ⟨infoRequests chatId chat, ?_, ?_, ?_, ?_, ?_⟩
    · intro request hrequest
      rw [infoRequests.eq_def] at hrequest
      have hfollows : ∀ target, request = ⟨chatId, target⟩ → target.isFollowUp →
          request.chatId = chatId ∧ request.target.isFollowUp := by
        rintro target rfl htarget
        exact ⟨rfl, htarget⟩
      split at hrequest
      · simp only [List.mem_cons, List.not_mem_nil, or_false] at hrequest
        rcases hrequest with hfull | hbasic
        · exact hfollows _ hfull rfl
        · exact hfollows _ hbasic rfl
      · simp only [List.mem_append, List.mem_cons, List.not_mem_nil, or_false] at hrequest
        rcases hrequest with (hsuper | hfull) | hmembers
        · exact hfollows _ hsuper rfl
        · exact hfollows _ hfull rfl
        · split_ifs at hmembers
          · exact hfollows _ (List.mem_singleton.mp hmembers) rfl
          · cases hmembers
      · exact hfollows _ (List.mem_singleton.mp hrequest) rfl
      · cases hrequest
    · exact (hupserted.loadingFor.trans hcontinued.loadingFor).trans hmerged.loadingFor
    · rw [hupserted.pending, hcontinued.pending, hmerged.pending]
    · rw [hupserted.loading, hcontinued.loading, hmerged.loading]
    · rw [hupserted.sent, hcontinued.sent, hmerged.sent]
  case h_2 hnone =>
    exact absurd hnone (parse_of_title htitle _)

end ChatInfo

/-! ## What holds in every run -/

namespace ChatInfoRun

variable {r : ChatInfoRun}

/-- The chat of the last load has been asked for and nothing else. -/
structure AsksForChat (r : ChatInfoRun) : Prop where
  targets : ∀ request ∈ r.rounds.outstanding, request.1 = r.rounds.latest → request.2.target = .chat
  due : r.rounds.due = 1
  pending : r.info.chatInfoPendingRequests = 0
  loading : r.info.isLoadingChatInfo

/-- The chat has come, and the other requests are counted. -/
structure Counts (r : ChatInfoRun) : Prop where
  targets : ∀ request ∈ r.rounds.outstanding, request.1 = r.rounds.latest → request.2.target.isFollowUp
  pending : r.info.chatInfoPendingRequests = r.rounds.due
  loading : r.info.isLoadingChatInfo ↔ 0 < r.rounds.due

structure Consistent (r : ChatInfoRun) : Prop where
  numbered : r.rounds.Numbered
  idle : r.current = none → r.info.loadingChatInfoForChatId = none ∧ ¬r.info.isLoadingChatInfo ∧
    r.info.chatInfoPendingRequests = 0
  current : ∀ {number}, r.current = some number → number = r.rounds.latest ∧ 0 < number
  own : r.current.isSome → ∀ request ∈ r.rounds.outstanding, request.1 = r.rounds.latest →
    r.info.loadingChatInfoForChatId = some request.2.chatId
  phase : r.current.isSome → r.AsksForChat ∨ r.Counts

lemma Consistent.faithful (h : r.Consistent) : r.Faithful := by
  have hwaits : (∃ request ∈ r.rounds.outstanding, r.current = some request.1) ↔
      r.current.isSome ∧ 0 < r.rounds.due := by
    rw [Rounds.due, List.countP_pos_iff]
    constructor
    · rintro ⟨request, hmem, hcurrent⟩
      exact ⟨by rw [hcurrent]; rfl, request, hmem, beq_iff_eq.mpr (h.current hcurrent).1⟩
    · rintro ⟨hcurrent, request, hmem, hlatest⟩
      rcases Option.isSome_iff_exists.mp hcurrent with ⟨number, hnumber⟩
      exact ⟨request, hmem, by rw [hnumber, (h.current hnumber).1, beq_iff_eq.mp hlatest]⟩
  rw [Faithful, hwaits]
  cases hcurrent : r.current with
  | none => exact iff_of_false (h.idle hcurrent).2.1 fun hsome => absurd hsome.1 Bool.false_ne_true
  | some number =>
      rcases h.phase (by rw [hcurrent]; rfl) with hasks | hcounts
      · exact iff_of_true hasks.loading ⟨rfl, by rw [hasks.due]; exact Nat.one_pos⟩
      · rw [hcounts.loading]
        exact (and_iff_right rfl).symm

lemma start_consistent : ({} : ChatInfoRun).Consistent := by
  refine ⟨?_, fun _ => ⟨rfl, Bool.false_ne_true, rfl⟩,
    fun hcurrent => absurd hcurrent (Option.some_ne_none _).symm,
    fun hcurrent => absurd hcurrent Bool.false_ne_true, fun hcurrent => absurd hcurrent Bool.false_ne_true⟩
  intro request hmem
  cases hmem

/-- A load forgets the one before it. -/
lemma load_consistent (h : r.Consistent) (chatId : ℤ) : (r.load chatId).Consistent := by
  have hrequest : ∀ request ∈ (r.load chatId).rounds.outstanding,
      request.1 = (r.load chatId).rounds.latest → request.2 = ⟨chatId, .chat⟩ := by
    intro request hmem hlatest
    rcases List.mem_append.mp hmem with hold | hnew
    · have hle := h.numbered request hold
      have hsucc : request.1 = r.rounds.latest + 1 := hlatest
      omega
    · rw [List.map_singleton, List.mem_singleton] at hnew
      rw [hnew]
  refine ⟨h.numbered.ask _, fun hnone => absurd hnone (Option.some_ne_none _), ?_, ?_, fun _ => .inl ?_⟩
  · intro number hnumber
    obtain rfl : r.rounds.latest + 1 = number := Option.some.inj hnumber
    exact ⟨rfl, Nat.succ_pos _⟩
  · intro _ request hmem hlatest
    rw [hrequest request hmem hlatest]
    rfl
  · refine ⟨fun request hmem hlatest => ?_, Rounds.due_ask h.numbered _, rfl, rfl⟩
    rw [hrequest request hmem hlatest]

/-- The parts of the state that are not of the loading do not matter. -/
lemma Consistent.same (h : r.Consistent) {info : ChatInfo}
    (hloadingFor : info.loadingChatInfoForChatId = r.info.loadingChatInfoForChatId)
    (hpending : info.chatInfoPendingRequests = r.info.chatInfoPendingRequests)
    (hloading : info.isLoadingChatInfo = r.info.isLoadingChatInfo) :
    ({ r with info } : ChatInfoRun).Consistent := by
  refine ⟨h.numbered, ?_, h.current, ?_, fun hcurrent => ?_⟩
  · simp only [hloadingFor, hpending, hloading]
    exact h.idle
  · simp only [hloadingFor]
    exact h.own
  · rcases h.phase hcurrent with hasks | hcounts
    · exact .inl ⟨hasks.targets, hasks.due, hpending.trans hasks.pending, by rw [hloading]; exact hasks.loading⟩
    · exact .inr ⟨hcounts.targets, hpending.trans hcounts.pending, by rw [hloading]; exact hcounts.loading⟩

lemma clear_consistent (h : r.Consistent) (chatId : ℤ) : (r.step (.clearChatInfo chatId)).Consistent := by
  simp only [step, ChatInfo.clearChatInfo]
  split_ifs with hloadingFor hclears hclears
  · exact ⟨h.numbered, fun _ => ⟨rfl, Bool.false_ne_true, rfl⟩,
      fun hcurrent => absurd hcurrent (Option.some_ne_none _).symm,
      fun hcurrent => absurd hcurrent Bool.false_ne_true,
      fun hcurrent => absurd hcurrent Bool.false_ne_true⟩
  · exact absurd hloadingFor hclears
  · exact absurd hclears hloadingFor
  · exact h.same rfl rfl rfl

/-- The requests of other loads do not matter. -/
lemma Consistent.other (h : r.Consistent) {rounds : Rounds InfoRequest} (hnumbered : rounds.Numbered)
    (hlatest : rounds.latest = r.rounds.latest)
    (hdue : r.current.isSome → rounds.due = r.rounds.due)
    (hown : r.current.isSome → ∀ request ∈ rounds.outstanding, request.1 = r.rounds.latest →
      request ∈ r.rounds.outstanding) : ({ r with rounds } : ChatInfoRun).Consistent := by
  refine ⟨hnumbered, h.idle, ?_, ?_, fun hcurrent => ?_⟩
  · simp only [hlatest]
    exact h.current
  · simp only [hlatest]
    exact fun hcurrent request hmem hnumber =>
      h.own hcurrent request (hown hcurrent request hmem hnumber) hnumber
  · have hdue := hdue hcurrent
    have hown := hown hcurrent
    rcases h.phase hcurrent with hasks | hcounts
    · refine .inl ⟨?_, hdue.trans hasks.due, hasks.pending, hasks.loading⟩
      simp only [hlatest]
      exact fun request hmem hnumber => hasks.targets request (hown request hmem hnumber) hnumber
    · refine .inr ⟨?_, by rw [hdue]; exact hcounts.pending, by rw [hdue]; exact hcounts.loading⟩
      simp only [hlatest]
      exact fun request hmem hnumber => hcounts.targets request (hown request hmem hnumber) hnumber

lemma invite_consistent (h : r.Consistent) (chatId : ℤ) :
    (r.step (.createPrimaryInviteLink chatId)).Consistent := by
  have hpositive : r.current.isSome → 0 ≠ r.rounds.latest := by
    intro hcurrent
    rcases Option.isSome_iff_exists.mp hcurrent with ⟨number, hnumber⟩
    rcases h.current hnumber with ⟨hlatest, hpos⟩
    omega
  refine (@Consistent.other r h (r.rounds.join 0 [⟨chatId, .createInvite⟩])
    (h.numbered.join (Nat.zero_le _) _) rfl (fun hcurrent => ?_)
    fun hcurrent request hmem hnumber => ?_).same rfl rfl rfl
  · rw [Rounds.due_join, if_neg (hpositive hcurrent), Nat.add_zero]
  · rcases List.mem_append.mp hmem with hold | hnew
    · exact hold
    · rw [List.map_singleton, List.mem_singleton] at hnew
      rw [hnew] at hnumber
      exact absurd hnumber (hpositive hcurrent)

/-- In time, a reply for another load changes nothing of the loading. -/
lemma reply_other_same {number : ℕ} {request : InfoRequest} {reply : InfoReply}
    (hserved : r.Served (.reply number request reply)) (hin : r.InTime (.reply number request reply))
    (hother : r.current ≠ some number) : SameLoad r.info (r.info.handleReply request reply) := by
  simp only [InTime, if_neg hother] at hin
  have same_of_counted : r.info.chatInfoPendingRequests = 0 → (∀ raw, reply ≠ .chat raw) →
      (∀ inviteLink, reply ≠ .chatInviteLink inviteLink) →
      SameLoad r.info (r.info.handleReply request reply) := by
    intro hpending hchat hinvite
    have hcounted := ChatInfo.handleReply_counted (s := r.info) request hchat hinvite
    refine ⟨hcounted.loadingFor, by rw [hcounted.pending, hpending], ?_, hcounted.sent⟩
    rw [Bool.eq_iff_iff, hcounted.loading, hpending]
    exact and_iff_left (by decide)
  cases reply with
  | chat raw => exact ChatInfo.handleInfoChat_other hin hserved.2.2.2.1
  | chatInviteLink inviteLink => exact ChatInfo.handleReply_inviteLink request inviteLink
  | basicGroupFullInfo => exact same_of_counted hin (fun _ => by simp) fun _ => by simp
  | basicGroup status => exact same_of_counted hin (fun _ => by simp) fun _ => by simp
  | supergroup status => exact same_of_counted hin (fun _ => by simp) fun _ => by simp
  | supergroupFullInfo => exact same_of_counted hin (fun _ => by simp) fun _ => by simp
  | chatMembers => exact same_of_counted hin (fun _ => by simp) fun _ => by simp
  | user => exact same_of_counted hin (fun _ => by simp) fun _ => by simp
  | error message => exact same_of_counted hin (fun _ => by simp) fun _ => by simp

lemma reply_other_consistent (h : r.Consistent) {number : ℕ} {request : InfoRequest} {reply : InfoReply}
    (hserved : r.Served (.reply number request reply)) (hin : r.InTime (.reply number request reply))
    (hother : r.current ≠ some number) : (r.step (.reply number request reply)).Consistent := by
  have hsame := reply_other_same hserved hin hother
  have hlate : r.current.isSome → number ≠ r.rounds.latest := by
    rintro hcurrent rfl
    rcases Option.isSome_iff_exists.mp hcurrent with ⟨number, hnumber⟩
    rw [(h.current hnumber).1] at hnumber
    exact hother hnumber
  simp only [step, hsame.sent, List.drop_length]
  refine (@Consistent.other r h ((r.rounds.answer (number, request)).join number [])
    ((h.numbered.answer _).join (h.numbered _ hserved.1) _) rfl (fun hcurrent => ?_)
    fun _ request hmem _ => ?_).same hsame.loadingFor hsame.pending hsame.loading
  · rw [Rounds.due_join, Rounds.due_answer hserved.1, if_neg (hlate hcurrent)]
    split_ifs <;> rfl
  · rw [Rounds.join, List.map_nil, List.append_nil] at hmem
    exact List.mem_of_mem_erase hmem

/-- The chat of the last load comes. -/
lemma reply_chat_consistent (h : r.Consistent) {request : InfoRequest} {raw : RawInfoChat}
    (hserved : r.Served (.reply r.rounds.latest request (.chat raw)))
    (hcurrent : r.current = some r.rounds.latest) :
    (r.step (.reply r.rounds.latest request (.chat raw))).Consistent := by
  have hsome : r.current.isSome := by rw [hcurrent]; rfl
  have htarget : request.target = .chat := by
    have hgets := hserved.2.1
    cases hrequest : request.target <;> simp [hrequest, InfoTarget.gets] at hgets ⊢
  have hasks : r.AsksForChat := by
    rcases h.phase hsome with hasks | hcounts
    · exact hasks
    · have hfollows := hcounts.targets _ hserved.1 rfl
      rw [htarget] at hfollows
      exact absurd hfollows Bool.false_ne_true
  have hloadingFor := h.own hsome _ hserved.1 rfl
  rcases ChatInfo.handleInfoChat_continued hloadingFor hserved.2.2.2.1 with ⟨requests, hrequests, hcontinued⟩
  have hanswered : (r.rounds.answer (r.rounds.latest, request)).due = 0 := by
    rw [Rounds.due_answer hserved.1, if_pos rfl, hasks.due]
  have hnew : ∀ other ∈ ((r.rounds.answer (r.rounds.latest, request)).join r.rounds.latest
      requests).outstanding, other.1 = r.rounds.latest → other.2 ∈ requests := by
    intro other hmem hlatest
    rcases List.mem_append.mp hmem with hold | hadded
    · exact absurd (beq_iff_eq.mpr hlatest) (List.countP_eq_zero.mp hanswered other hold)
    · rcases List.mem_map.mp hadded with ⟨_, hrequest, rfl⟩
      exact hrequest
  have hdue : ((r.rounds.answer (r.rounds.latest, request)).join r.rounds.latest requests).due =
      requests.length := by
    rw [Rounds.due_join, hanswered, Nat.zero_add]
    exact if_pos rfl
  have hsent : (r.info.handleReply request (.chat raw)).sent.drop r.info.sent.length = requests := by
    change (r.info.handleInfoChat request.chatId raw).sent.drop _ = _
    rw [hcontinued.sent, List.drop_left]
  simp only [step, hsent]
  refine ⟨(h.numbered.answer _).join (Nat.le_refl _) _, fun hnone => ?_, h.current, ?_,
    fun _ => .inr ⟨?_, ?_, ?_⟩⟩
  · rw [hcurrent] at hnone
    exact absurd hnone (Option.some_ne_none _)
  · intro _ other hmem hlatest
    rw [(hrequests _ (hnew other hmem hlatest)).1]
    exact hcontinued.loadingFor.trans hloadingFor
  · exact fun other hmem hlatest => (hrequests _ (hnew other hmem hlatest)).2
  · rw [hdue]
    refine hcontinued.pending.trans ?_
    split_ifs with hnone
    · rw [hasks.pending, hnone]
      rfl
    · rfl
  · rw [hdue, List.length_pos_iff]
    exact hcontinued.loading.trans (and_iff_right hasks.loading)

/-- What is behind the chat of the last load comes, or an error in its place. -/
lemma reply_counted_consistent (h : r.Consistent) {request : InfoRequest} {reply : InfoReply}
    (hserved : r.Served (.reply r.rounds.latest request reply))
    (hin : r.InTime (.reply r.rounds.latest request reply))
    (hcurrent : r.current = some r.rounds.latest) (hchat : ∀ raw, reply ≠ .chat raw) :
    (r.step (.reply r.rounds.latest request reply)).Consistent := by
  have hsome : r.current.isSome := by rw [hcurrent]; rfl
  simp only [InTime, if_pos hcurrent] at hin
  have hcounts : r.Counts := by
    rcases h.phase hsome with hasks | hcounts
    · have htarget := hasks.targets _ hserved.1 rfl
      have hgets := hserved.2.1
      rw [htarget] at hgets
      cases reply <;> simp_all [InfoTarget.gets]
    · exact hcounts
  have hinvite : ∀ inviteLink, reply ≠ .chatInviteLink inviteLink := by
    rintro inviteLink rfl
    have hfollows := hcounts.targets _ hserved.1 rfl
    have hgets := hserved.2.1
    cases hrequest : request.target <;> simp_all [InfoTarget.gets, InfoTarget.isFollowUp]
  have hcounted := ChatInfo.handleReply_counted (s := r.info) request hchat hinvite
  have hdue : ((r.rounds.answer (r.rounds.latest, request)).join r.rounds.latest []).due =
      r.rounds.due - 1 := by
    rw [Rounds.due_join, Rounds.due_answer hserved.1, if_pos rfl]
    split_ifs <;> rfl
  have hold : ∀ other ∈ ((r.rounds.answer (r.rounds.latest, request)).join r.rounds.latest
      []).outstanding, other ∈ r.rounds.outstanding := by
    intro other hmem
    rw [Rounds.join, List.map_nil, List.append_nil] at hmem
    exact List.mem_of_mem_erase hmem
  simp only [step, hcounted.sent, List.drop_length]
  refine ⟨(h.numbered.answer _).join (Nat.le_refl _) _, fun hnone => ?_, h.current, ?_,
    fun _ => .inr ⟨?_, ?_, ?_⟩⟩
  · rw [hcurrent] at hnone
    exact absurd hnone (Option.some_ne_none _)
  · intro _ other hmem hlatest
    rw [hcounted.loadingFor]
    exact h.own hsome other (hold other hmem) hlatest
  · exact fun other hmem hlatest => hcounts.targets other (hold other hmem) hlatest
  · rw [hdue, hcounted.pending, hcounts.pending]
  · rw [hdue, hcounted.loading, hcounts.loading, hcounts.pending]
    omega

lemma step_consistent (h : r.Consistent) (e : InfoEvent) (hserved : r.Served e) (hin : r.InTime e) :
    (r.step e).Consistent := by
  cases e with
  | loadChatInfo chatId => exact load_consistent h chatId
  | clearChatInfo chatId => exact clear_consistent h chatId
  | openChat chatId =>
      by_cases hchannel : r.info.isKnownChannel chatId
      · have hopened : (r.info.openChat chatId).isLoadingChatInfo = true ∧
            (r.info.openChat chatId).loadingChatInfoForChatId = some chatId ∧
            (r.info.openChat chatId).chatInfoPendingRequests = 0 := by
          have hloads : ({ r.info with activeChatId := some chatId } : ChatInfo).isKnownChannel chatId :=
            hchannel
          simp only [ChatInfo.openChat, if_pos hloads]
          exact ⟨rfl, rfl, rfl⟩
        simp only [step, if_pos hchannel]
        exact (load_consistent h chatId).same hopened.2.1 hopened.2.2 hopened.1
      · have hopened : r.info.openChat chatId = { r.info with activeChatId := some chatId } :=
          if_neg hchannel
        simp only [step, if_neg hchannel, hopened]
        exact h.same rfl rfl rfl
  | closeChat => exact h.same rfl rfl rfl
  | createPrimaryInviteLink chatId => exact invite_consistent h chatId
  | chat raw =>
      have hsame : SameLoad r.info (r.info.handleChat raw) := ChatInfo.upsertChat_sameLoad _
      exact h.same hsame.loadingFor hsame.pending hsame.loading
  | reply number request reply =>
      by_cases hcurrent : r.current = some number
      · obtain rfl : number = r.rounds.latest := (h.current hcurrent).1
        by_cases hchat : ∃ raw, reply = .chat raw
        · rcases hchat with ⟨raw, rfl⟩
          exact reply_chat_consistent h hserved hcurrent
        · exact reply_counted_consistent h hserved hin hcurrent fun raw heq => hchat ⟨raw, heq⟩
      · exact reply_other_consistent h hserved hin hcurrent

/-- **The manager shows that it is loading exactly while a request of the last load is not answered**, in
every state of every run whose replies come in time. -/
theorem loading_iff_outstanding (r : ChatInfoRun)
    (h : Reachable step (fun r e => r.Served e ∧ r.InTime e) {} r) : r.Faithful := by
  have hconsistent : r.Consistent := by
    refine h.invariant (I := Consistent) start_consistent ?_
    intro r e hr he
    exact step_consistent hr e he.1 he.2
  exact hconsistent.faithful

/-- A group. -/
def infoGroup (id : ℤ) : RawInfoChat :=
  { id, type := .basicGroup id, permissions := some ⟨true⟩ }

/-- A group is loaded, and one of the two requests for it is answered. -/
def loadGroup (number : ℕ) (id : ℤ) : List InfoEvent :=
  [.loadChatInfo id, .reply number ⟨id, .chat⟩ (.chat (infoGroup id)),
    .reply number ⟨id, .basic id⟩ (.basicGroup .member)]

theorem loading_iff_outstanding_group : ((loadGroup 1 5).foldl step {}).Faithful := by
  refine loading_iff_outstanding _ (Reachable.start.run ⟨⟨trivial, trivial⟩, ⟨?_, ?_⟩, ⟨?_, ?_⟩, trivial⟩)
  · exact ⟨by decide, rfl, rfl, rfl, rfl⟩
  · simp [InTime, step, load]
  · exact ⟨by decide, rfl, trivial⟩
  · simp [InTime, step, load]

/-- **A load that fails at once loads forever, and the replies to another load end a load**: the group 5 has
not been answered when the group 6 is loaded. -/
theorem loading_not_outstanding :
    (∃ r, Reachable step Served {} r ∧ r.info.isLoadingChatInfo ∧ r.rounds.outstanding = [] ∧ ¬r.Faithful) ∧
    ∃ r, Reachable step Served {} r ∧ ¬r.info.isLoadingChatInfo ∧
      (2, ⟨6, .basicFull 6⟩) ∈ r.rounds.outstanding ∧ r.current = some 2 ∧ ¬r.Faithful := by
  constructor
  · have hreach : Reachable step Served {}
        ([.loadChatInfo 5, .reply 1 ⟨5, .chat⟩ (.error none)].foldl step {}) :=
      Reachable.start.run ⟨trivial, ⟨by decide, rfl, trivial⟩, trivial⟩
    refine ⟨_, hreach, by decide, by decide, fun h => ?_⟩
    rcases h.mp (by decide) with ⟨request, hmem, -⟩
    exact absurd hmem (by decide +revert)
  · have hreach : Reachable step Served {} ((loadGroup 1 5 ++ loadGroup 2 6 ++
        [InfoEvent.reply 1 ⟨5, .basicFull 5⟩ .basicGroupFullInfo]).foldl step {}) :=
      Reachable.start.run ⟨trivial, ⟨by decide, rfl, rfl, rfl, rfl⟩, ⟨by decide, rfl, trivial⟩, trivial,
        ⟨by decide, rfl, rfl, rfl, rfl⟩, ⟨by decide, rfl, trivial⟩, ⟨by decide, rfl, trivial⟩, trivial⟩
    refine ⟨_, hreach, by decide, by decide, by decide, fun h => ?_⟩
    exact absurd (h.mpr ⟨(2, ⟨6, .basicFull 6⟩), by decide, by decide⟩) (by decide)

end ChatInfoRun

end RioGram.Chats
