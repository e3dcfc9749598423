import Mathlib.Data.Rat.Defs
import RioGram.Chats.Models
import RioGram.Core.Merging

/-!
# The details of a chat

What the screen of a chat shows comes in several replies of TDLib.  Each is read into a `ChatDetailInfo`, and
`_mergeChatInfo` merges these as they come.

* `ChatDetailInfo.mergeAll_eq` says what there is after all replies, field by field.
* `ChatDetailInfo.mergeAll_perm_iff`: the order of the replies does not matter exactly if no two of them have
  different values for a field of which the last value is kept.
* `chatInfo_any_order_iff`: of the replies of one chat only two have such a field in common, the number of members.
-/

namespace RioGram.ChatDetails

open Merging Chats

/-! ## The data -/

structure ChatPermissionsInfo where
  canSendBasicMessages : Bool := true
  canSendAudios : Bool := true
  canSendDocuments : Bool := true
  canSendPhotos : Bool := true
  canSendVideos : Bool := true
  canSendVideoNotes : Bool := true
  canSendVoiceNotes : Bool := true
  canSendPolls : Bool := true
  canSendOtherMessages : Bool := true
  canAddLinkPreviews : Bool := true
  canReactToMessages : Bool := true
  canEditTag : Bool := true
  canChangeInfo : Bool := false
  canInviteUsers : Bool := false
  canPinMessages : Bool := false
  canCreateTopics : Bool := false
deriving DecidableEq

/-- A double of JSON is a rational number. -/
structure ChatAdminSettings where
  slowModeDelay : ℤ := 0
  slowModeDelayExpiresIn : ℚ := 0
  isSlowModeEnabled : Bool := false
  hasAggressiveAntiSpamEnabled : Bool := false
  joinByRequest : Bool := false
  joinToSendMessages : Bool := false
  isAllHistoryAvailable : Bool := true
deriving DecidableEq

def ChatAdminSettings.merge (settings other : ChatAdminSettings) : ChatAdminSettings where
  slowModeDelay := if other.slowModeDelay > 0 then other.slowModeDelay else settings.slowModeDelay
  slowModeDelayExpiresIn :=
    if other.slowModeDelayExpiresIn > 0 then other.slowModeDelayExpiresIn else settings.slowModeDelayExpiresIn
  isSlowModeEnabled := other.isSlowModeEnabled || settings.isSlowModeEnabled
  hasAggressiveAntiSpamEnabled := other.hasAggressiveAntiSpamEnabled || settings.hasAggressiveAntiSpamEnabled
  joinByRequest := other.joinByRequest || settings.joinByRequest
  joinToSendMessages := other.joinToSendMessages || settings.joinToSendMessages
  isAllHistoryAvailable := other.isAllHistoryAvailable && settings.isAllHistoryAvailable

structure ChatInviteLinkInfo where
  url : String
  name : String := ""
  isPrimary : Bool := false
  isRevoked : Bool := false
  memberCount : ℤ := 0
  createsJoinRequest : Bool := false
deriving DecidableEq

inductive ChatMemberStatusKind where
  | unknown | creator | administrator | member | restricted | left | banned
deriving DecidableEq

/-- `permissions` are none for `const ChatPermissionsInfo()`, from which permissions that were read always differ:
the class has no equality of its own. -/
structure ChatDetailInfo where
  chatId : ℤ
  description : String := ""
  username : Option String := none
  memberCount : Option ℤ := none
  inviteLink : Option ChatInviteLinkInfo := none
  permissions : Option ChatPermissionsInfo := none
  adminSettings : ChatAdminSettings := {}
  myStatus : ChatMemberStatusKind := .unknown
  canManageMembers : Bool := false
  canChangeInfo : Bool := false
  canUpgradeToSupergroup : Bool := false
  upgradedToSupergroupId : Option ℤ := none
  linkedChatId : Option ℤ := none
  hasLinkedChat : Bool := false
  canPostMessages : Bool := false
deriving DecidableEq

namespace ChatDetailInfo

def merge (info other : ChatDetailInfo) : ChatDetailInfo :=
  if other.chatId ≠ info.chatId then other
  else
    { chatId := info.chatId
      description := if other.description ≠ "" then other.description else info.description
      username := other.username <|> info.username
      memberCount := other.memberCount <|> info.memberCount
      inviteLink := other.inviteLink <|> info.inviteLink
      permissions := other.permissions <|> info.permissions
      adminSettings := info.adminSettings.merge other.adminSettings
      myStatus := if other.myStatus ≠ .unknown then other.myStatus else info.myStatus
      canManageMembers := other.canManageMembers || info.canManageMembers
      canChangeInfo := other.canChangeInfo || info.canChangeInfo
      canUpgradeToSupergroup := other.canUpgradeToSupergroup || info.canUpgradeToSupergroup
      upgradedToSupergroupId := other.upgradedToSupergroupId <|> info.upgradedToSupergroupId
      linkedChatId := other.linkedChatId <|> info.linkedChatId
      hasLinkedChat := other.hasLinkedChat || info.hasLinkedChat
      canPostMessages := other.canPostMessages || info.canPostMessages }

def canSendInChannel (info : ChatDetailInfo) : Bool :=
  info.canPostMessages || (info.permissions.getD {}).canSendBasicMessages

/-- The infos of the replies, merged as they come. -/
def mergeAll (chatId : ℤ) (infos : List ChatDetailInfo) : ChatDetailInfo := infos.foldl merge { chatId }

/-! ## What there is after all replies -/

def shownDescription (info : ChatDetailInfo) : Option String := Option.guard (· ≠ "") info.description

def shownDelay (info : ChatDetailInfo) : Option ℤ := Option.guard (· > 0) info.adminSettings.slowModeDelay

def shownExpiry (info : ChatDetailInfo) : Option ℚ := Option.guard (· > 0) info.adminSettings.slowModeDelayExpiresIn

def shownStatus (info : ChatDetailInfo) : Option ChatMemberStatusKind := Option.guard (· ≠ .unknown) info.myStatus

lemma mergeAll_concat (chatId : ℤ) (infos : List ChatDetailInfo) (info : ChatDetailInfo) :
    mergeAll chatId (infos ++ [info]) = (mergeAll chatId infos).merge info := by
  rw [mergeAll, List.foldl_append, List.foldl_cons, List.foldl_nil, mergeAll]

/-- Of some fields the last value is kept, of others whether one or all of the infos have it. -/
def overall (chatId : ℤ) (infos : List ChatDetailInfo) : ChatDetailInfo where
  chatId := chatId
  description := (last shownDescription infos).getD ""
  username := last username infos
  memberCount := last memberCount infos
  inviteLink := last inviteLink infos
  permissions := last permissions infos
  adminSettings :=
    { slowModeDelay := (last shownDelay infos).getD 0
      slowModeDelayExpiresIn := (last shownExpiry infos).getD 0
      isSlowModeEnabled := infos.any (·.adminSettings.isSlowModeEnabled)
      hasAggressiveAntiSpamEnabled := infos.any (·.adminSettings.hasAggressiveAntiSpamEnabled)
      joinByRequest := infos.any (·.adminSettings.joinByRequest)
      joinToSendMessages := infos.any (·.adminSettings.joinToSendMessages)
      isAllHistoryAvailable := infos.all (·.adminSettings.isAllHistoryAvailable) }
  myStatus := (last shownStatus infos).getD .unknown
  canManageMembers := infos.any canManageMembers
  canChangeInfo := infos.any canChangeInfo
  canUpgradeToSupergroup := infos.any canUpgradeToSupergroup
  upgradedToSupergroupId := last upgradedToSupergroupId infos
  linkedChatId := last linkedChatId infos
  hasLinkedChat := infos.any hasLinkedChat
  canPostMessages := infos.any canPostMessages

theorem mergeAll_eq {chatId : ℤ} {infos : List ChatDetailInfo} (h : ∀ info ∈ infos, info.chatId = chatId) :
    mergeAll chatId infos = overall chatId infos := by
  induction infos using List.reverseRecOn with
  | nil => rfl
  | append_singleton infos info ih =>
      have hlater := ih fun info hinfo => h info (List.mem_append_left _ hinfo)
      have hid : info.chatId = chatId := h info (List.mem_append_right _ List.mem_cons_self)
      rw [mergeAll_concat, hlater, merge, if_neg (by simp [overall, hid])]
      simp [overall, ChatAdminSettings.merge, last_concat, shownDescription, shownDelay, shownExpiry, shownStatus,
        getD_guard, Bool.or_comm, Bool.and_comm]

/-- No two infos have different values for a field of which the last value is kept. -/
@[mk_iff] structure Agree (infos : List ChatDetailInfo) : Prop where
  description : Single shownDescription infos
  username : Single ChatDetailInfo.username infos
  memberCount : Single ChatDetailInfo.memberCount infos
  inviteLink : Single ChatDetailInfo.inviteLink infos
  permissions : Single ChatDetailInfo.permissions infos
  slowModeDelay : Single shownDelay infos
  slowModeDelayExpiresIn : Single shownExpiry infos
  myStatus : Single shownStatus infos
  upgradedToSupergroupId : Single ChatDetailInfo.upgradedToSupergroupId infos
  linkedChatId : Single ChatDetailInfo.linkedChatId infos

/-- **The order in which the infos come does not matter** exactly if they agree. -/
theorem mergeAll_perm_iff {chatId : ℤ} {infos : List ChatDetailInfo} (h : ∀ info ∈ infos, info.chatId = chatId) :
    (∀ order, order.Perm infos → mergeAll chatId order = mergeAll chatId infos) ↔ Agree infos := by
  have hoverall : ∀ order, order.Perm infos → mergeAll chatId order = overall chatId order :=
    fun order horder => mergeAll_eq fun info hinfo => h info (horder.mem_iff.mp hinfo)
  rw [mergeAll_eq h]
  constructor
  · intro hsame
    have hfields : ∀ order, order.Perm infos → overall chatId order = overall chatId infos :=
      fun order horder => (hoverall order horder).symm.trans (hsame order horder)
    have hlast {β : Type} {g : ChatDetailInfo → Option β} (field : ChatDetailInfo → Option β)
        (hfield : ∀ infos, field (overall chatId infos) = last g infos) : Single g infos :=
      last_perm_iff.mp fun order horder => by rw [← hfield, ← hfield, hfields order horder]
    have hguard {β : Type} {p : β → Bool} {f : ChatDetailInfo → β} {d : β} (field : ChatDetailInfo → β)
        (hfield : ∀ infos, field (overall chatId infos) = (last (fun a => Option.guard p (f a)) infos).getD d)
        (hd : p d = false) : Single (fun a => Option.guard p (f a)) infos :=
      (last_guard_perm_iff hd).mp fun order horder => by rw [← hfield, ← hfield, hfields order horder]
    exact
      { description := hguard description (fun _ => rfl) rfl
        username := hlast username fun _ => rfl
        memberCount := hlast memberCount fun _ => rfl
        inviteLink := hlast inviteLink fun _ => rfl
        permissions := hlast permissions fun _ => rfl
        slowModeDelay := hguard (·.adminSettings.slowModeDelay) (fun _ => rfl) rfl
        slowModeDelayExpiresIn := hguard (·.adminSettings.slowModeDelayExpiresIn) (fun _ => rfl) rfl
        myStatus := hguard myStatus (fun _ => rfl) rfl
        upgradedToSupergroupId := hlast upgradedToSupergroupId fun _ => rfl
        linkedChatId := hlast linkedChatId fun _ => rfl }
  · intro hagree order horder
    rw [hoverall order horder]
    have hlast {β : Type} {g : ChatDetailInfo → Option β} (hg : Single g infos) : last g order = last g infos :=
      last_perm_iff.mpr hg order horder
    simp only [overall, hlast hagree.description, hlast hagree.username, hlast hagree.memberCount,
      hlast hagree.inviteLink, hlast hagree.permissions, hlast hagree.slowModeDelay,
      hlast hagree.slowModeDelayExpiresIn, hlast hagree.myStatus, hlast hagree.upgradedToSupergroupId,
      hlast hagree.linkedChatId, horder.any_eq, horder.all_eq]

end ChatDetailInfo

/-! ## The replies

Numbers are as `tdInt` reads them, and a missing `@type` is as any other. -/

structure RawPermissions where
  type : String
  canSendBasicMessages : Option Bool := none
  canSendAudios : Option Bool := none
  canSendDocuments : Option Bool := none
  canSendPhotos : Option Bool := none
  canSendVideos : Option Bool := none
  canSendVideoNotes : Option Bool := none
  canSendVoiceNotes : Option Bool := none
  canSendPolls : Option Bool := none
  canSendOtherMessages : Option Bool := none
  canAddLinkPreviews : Option Bool := none
  canReactToMessages : Option Bool := none
  canEditTag : Option Bool := none
  canChangeInfo : Option Bool := none
  canInviteUsers : Option Bool := none
  canPinMessages : Option Bool := none
  canCreateTopics : Option Bool := none
deriving DecidableEq

/-- There are none for `const ChatPermissionsInfo()`. -/
def parsePermissions (json : Option RawPermissions) : Option ChatPermissionsInfo :=
  json.bind fun json =>
    if json.type ≠ "chatPermissions" then none
    else
      some
        { canSendBasicMessages := json.canSendBasicMessages.getD true
          canSendAudios := json.canSendAudios.getD true
          canSendDocuments := json.canSendDocuments.getD true
          canSendPhotos := json.canSendPhotos.getD true
          canSendVideos := json.canSendVideos.getD true
          canSendVideoNotes := json.canSendVideoNotes.getD true
          canSendVoiceNotes := json.canSendVoiceNotes.getD true
          canSendPolls := json.canSendPolls.getD true
          canSendOtherMessages := json.canSendOtherMessages.getD true
          canAddLinkPreviews := json.canAddLinkPreviews.getD true
          canReactToMessages := json.canReactToMessages.getD true
          canEditTag := json.canEditTag.getD true
          canChangeInfo := json.canChangeInfo.getD false
          canInviteUsers := json.canInviteUsers.getD false
          canPinMessages := json.canPinMessages.getD false
          canCreateTopics := json.canCreateTopics.getD false }

structure RawInviteLink where
  type : String
  inviteLink : Option String := none
  name : Option String := none
  isPrimary : Option Bool := none
  isRevoked : Option Bool := none
  memberCount : Option ℤ := none
  createsJoinRequest : Option Bool := none
deriving DecidableEq

def parseInviteLink (json : Option RawInviteLink) : Option ChatInviteLinkInfo :=
  json.bind fun json =>
    if json.type ≠ "chatInviteLink" then none
    else
      json.inviteLink.bind fun url =>
        if url = "" then none
        else
          some
            { url
              name := json.name.getD ""
              isPrimary := json.isPrimary.getD false
              isRevoked := json.isRevoked.getD false
              memberCount := json.memberCount.getD 0
              createsJoinRequest := json.createsJoinRequest.getD false }

structure RawUsernames where
  type : String
  activeUsernames : Option (List String) := none
  editableUsername : Option String := none
deriving DecidableEq

def parseActiveUsername (usernames : Option RawUsernames) : Option String :=
  usernames.bind fun usernames =>
    if usernames.type ≠ "usernames" then none
    else
      match usernames.activeUsernames.getD [] with
      | first :: _ => some first
      | [] => usernames.editableUsername.filter (· ≠ "")

/-- The `rights` of an administrator. -/
structure RawRights where
  canRestrictMembers : Option Bool := none
  canChangeInfo : Option Bool := none
  canPostMessages : Option Bool := none
deriving DecidableEq

structure RawMemberStatus where
  type : String
  rights : Option RawRights := none
  canBeEdited : Option Bool := none
  permissions : Option RawPermissions := none
deriving DecidableEq

def parseMemberStatus (status : Option RawMemberStatus) : ChatMemberStatusKind :=
  match status.map (·.type) with
  | some "chatMemberStatusCreator" => .creator
  | some "chatMemberStatusAdministrator" => .administrator
  | some "chatMemberStatusMember" => .member
  | some "chatMemberStatusRestricted" => .restricted
  | some "chatMemberStatusLeft" => .left
  | some "chatMemberStatusBanned" => .banned
  | _ => .unknown

/-- The creator may do everything, an administrator what the rights say. -/
def parseRight (right : RawRights → Option Bool) (status : Option RawMemberStatus) : Bool :=
  if status.map (·.type) = some "chatMemberStatusCreator" then true
  else if status.map (·.type) ≠ some "chatMemberStatusAdministrator" then false
  else ((status.bind (·.rights)).bind right).getD false

def parseCanManageMembers : Option RawMemberStatus → Bool := parseRight (·.canRestrictMembers)

def parseCanChangeInfo : Option RawMemberStatus → Bool := parseRight (·.canChangeInfo)

def parseCanPostMessages : Option RawMemberStatus → Bool := parseRight (·.canPostMessages)

structure RawMemberId where
  type : String
  userId : Option ℤ := none
deriving DecidableEq

structure RawMember where
  memberId : Option RawMemberId := none
  tag : Option String := none
  status : Option RawMemberStatus := none
deriving DecidableEq

structure ChatMemberInfo where
  userId : ℤ
  tag : String := ""
  status : ChatMemberStatusKind := .unknown
  isOwner : Bool := false
  canBeEdited : Bool := false
  restrictedPermissions : Option ChatPermissionsInfo := none
deriving DecidableEq

/-- The id of a member that is a user, else 0. -/
def RawMember.userId (json : RawMember) : ℤ :=
  match json.memberId with
  | some memberId => if memberId.type = "messageSenderUser" then memberId.userId.getD 0 else 0
  | none => 0

def parseChatMember (json : RawMember) : ChatMemberInfo :=
  let status := parseMemberStatus json.status
  { userId := json.userId
    tag := json.tag.getD ""
    status
    isOwner := status = .creator
    canBeEdited := (json.status.bind (·.canBeEdited)).getD false
    restrictedPermissions :=
      if status = .restricted then parsePermissions (json.status.bind (·.permissions)) else none }

/-- What is no object is not in the list. -/
def parseChatMembers (members : Option (List RawMember)) : List ChatMemberInfo :=
  ((members.getD []).map parseChatMember).filter (·.userId ≠ 0)

lemma length_parseChatMembers (members : Option (List RawMember)) :
    (parseChatMembers members).length = (members.getD []).countP (·.userId ≠ 0) := by
  rw [parseChatMembers, ← List.countP_eq_length_filter, List.countP_map]
  rfl

structure RawChat where
  permissions : Option RawPermissions := none
deriving DecidableEq

def parseChatForInfo (chat : RawChat) (chatId : ℤ) : ChatDetailInfo :=
  { chatId, permissions := parsePermissions chat.permissions }

structure RawBasicGroupFullInfo where
  type : String
  description : Option String := none
  members : Option (List RawMember) := none
  inviteLink : Option RawInviteLink := none
deriving DecidableEq

def parseBasicGroupFullInfo (json : RawBasicGroupFullInfo) (chatId : ℤ) : ChatDetailInfo :=
  if json.type ≠ "basicGroupFullInfo" then { chatId }
  else
    { chatId
      description := json.description.getD ""
      memberCount := some (parseChatMembers json.members).length
      inviteLink := parseInviteLink json.inviteLink }

structure RawBasicGroup where
  type : String
  memberCount : Option ℤ := none
  status : Option RawMemberStatus := none
  isActive : Option Bool := none
  upgradedToSupergroupId : Option ℤ := none
deriving DecidableEq

def parseBasicGroupMeta (json : RawBasicGroup) (chatId : ℤ) : ChatDetailInfo :=
  if json.type ≠ "basicGroup" then { chatId }
  else
    let upgradedId := json.upgradedToSupergroupId.getD 0
    { chatId
      memberCount := json.memberCount
      myStatus := parseMemberStatus json.status
      canManageMembers := parseCanManageMembers json.status
      canChangeInfo := parseCanChangeInfo json.status
      canUpgradeToSupergroup := json.isActive.getD true && upgradedId == 0
      upgradedToSupergroupId := if upgradedId = 0 then none else some upgradedId }

structure RawSupergroup where
  type : String
  usernames : Option RawUsernames := none
  memberCount : Option ℤ := none
  status : Option RawMemberStatus := none
  hasLinkedChat : Option Bool := none
  isSlowModeEnabled : Option Bool := none
  joinByRequest : Option Bool := none
  joinToSendMessages : Option Bool := none
deriving DecidableEq

def parseSupergroup (json : RawSupergroup) (chatId : ℤ) : ChatDetailInfo :=
  if json.type ≠ "supergroup" then { chatId }
  else
    { chatId
      username := parseActiveUsername json.usernames
      memberCount := json.memberCount
      myStatus := parseMemberStatus json.status
      canManageMembers := parseCanManageMembers json.status
      canChangeInfo := parseCanChangeInfo json.status
      canPostMessages := parseCanPostMessages json.status
      hasLinkedChat := json.hasLinkedChat.getD false
      adminSettings :=
        { isSlowModeEnabled := json.isSlowModeEnabled.getD false
          joinByRequest := json.joinByRequest.getD false
          joinToSendMessages := json.joinToSendMessages.getD false } }

structure RawSupergroupFullInfo where
  type : String
  description : Option String := none
  memberCount : Option ℤ := none
  inviteLink : Option RawInviteLink := none
  linkedChatId : Option ℤ := none
  slowModeDelay : Option ℤ := none
  slowModeDelayExpiresIn : Option ℚ := none
  hasAggressiveAntiSpamEnabled : Option Bool := none
  isAllHistoryAvailable : Option Bool := none
deriving DecidableEq

def parseLinkedChatId (value : Option ℤ) : Option ℤ :=
  let id := value.getD 0
  if id = 0 then none else some id

def parseSupergroupFullInfo (json : RawSupergroupFullInfo) (chatId : ℤ) : ChatDetailInfo :=
  if json.type ≠ "supergroupFullInfo" then { chatId }
  else
    { chatId
      description := json.description.getD ""
      memberCount := json.memberCount
      inviteLink := parseInviteLink json.inviteLink
      linkedChatId := parseLinkedChatId json.linkedChatId
      adminSettings :=
        { slowModeDelay := json.slowModeDelay.getD 0
          slowModeDelayExpiresIn := json.slowModeDelayExpiresIn.getD 0
          hasAggressiveAntiSpamEnabled := json.hasAggressiveAntiSpamEnabled.getD false
          isAllHistoryAvailable := json.isAllHistoryAvailable.getD true } }

/-! ## The manager -/

/-- What TDLib replies about a chat. -/
inductive Reply where
  | chat (json : RawChat)
  | basicGroup (json : RawBasicGroup)
  | basicGroupFullInfo (json : RawBasicGroupFullInfo)
  | supergroup (json : RawSupergroup)
  | supergroupFullInfo (json : RawSupergroupFullInfo)
deriving DecidableEq

def Reply.parse (chatId : ℤ) : Reply → ChatDetailInfo
  | chat json => parseChatForInfo json chatId
  | basicGroup json => parseBasicGroupMeta json chatId
  | basicGroupFullInfo json => parseBasicGroupFullInfo json chatId
  | supergroup json => parseSupergroup json chatId
  | supergroupFullInfo json => parseSupergroupFullInfo json chatId

lemma Reply.parse_chatId (chatId : ℤ) (reply : Reply) : (reply.parse chatId).chatId = chatId := by
  cases reply with
  | chat json => rfl
  | basicGroup json => rw [parse, parseBasicGroupMeta]; split_ifs <;> rfl
  | basicGroupFullInfo json => rw [parse, parseBasicGroupFullInfo]; split_ifs <;> rfl
  | supergroup json => rw [parse, parseSupergroup]; split_ifs <;> rfl
  | supergroupFullInfo json => rw [parse, parseSupergroupFullInfo]; split_ifs <;> rfl

/-- What of a `ChatSummary` has to do with the details. -/
structure Summary where
  kind : ChatKind
  canSendMessages : Bool := true
deriving DecidableEq

structure Manager where
  chatInfoById : ℤ → Option ChatDetailInfo := fun _ => none
  chatsById : ℤ → Option Summary := fun _ => none

namespace Manager

variable (m : Manager) (chatId : ℤ)

def syncChannelSummary (info : ChatDetailInfo) : Manager :=
  match m.chatsById chatId with
  | some chat =>
      if chat.kind ≠ .channel then m
      else
        let chat := { chat with canSendMessages := info.canSendInChannel }
        { m with chatsById := fun i => if i = chatId then some chat else m.chatsById i }
  | none => m

@[simp] lemma syncChannelSummary_chatInfoById (info : ChatDetailInfo) :
    (m.syncChannelSummary chatId info).chatInfoById = m.chatInfoById := by
  rw [syncChannelSummary]
  split
  · split_ifs <;> rfl
  · rfl

def mergeChatInfo (patch : ChatDetailInfo) : Manager :=
  let merged := ((m.chatInfoById chatId).getD { chatId }).merge patch
  let m := { m with chatInfoById := fun i => if i = chatId then some merged else m.chatInfoById i }
  m.syncChannelSummary chatId merged

/-- The replies come one after another. -/
def handleReplies (replies : List Reply) : Manager :=
  replies.foldl (fun m reply => m.mergeChatInfo chatId (reply.parse chatId)) m

/-- What the replies lead to does not depend on the order in which they come. -/
def AnyOrder (replies : List Reply) : Prop :=
  ∀ order, order.Perm replies →
    (m.handleReplies chatId order).chatInfoById chatId = (m.handleReplies chatId replies).chatInfoById chatId

variable {m chatId} {replies : List Reply}

lemma handleReplies_concat (reply : Reply) :
    m.handleReplies chatId (replies ++ [reply]) =
      (m.handleReplies chatId replies).mergeChatInfo chatId (reply.parse chatId) := by
  rw [handleReplies, List.foldl_append, List.foldl_cons, List.foldl_nil, handleReplies]

/-- Into the fresh info of a chat the infos of the replies are merged. -/
lemma handleReplies_chatInfoById (hfresh : m.chatInfoById chatId = none) :
    ((m.handleReplies chatId replies).chatInfoById chatId).getD { chatId } =
      ChatDetailInfo.mergeAll chatId (replies.map (Reply.parse chatId)) := by
  induction replies using List.reverseRecOn with
  | nil => simp [handleReplies, hfresh, ChatDetailInfo.mergeAll]
  | append_singleton replies reply ih =>
      rw [handleReplies_concat, mergeChatInfo, ih, List.map_append, List.map_singleton, ChatDetailInfo.mergeAll_concat]
      simp

lemma handleReplies_isSome (hne : replies ≠ []) : ((m.handleReplies chatId replies).chatInfoById chatId).isSome := by
  induction replies using List.reverseRecOn with
  | nil => exact absurd rfl hne
  | append_singleton replies reply _ =>
      rw [handleReplies_concat, mergeChatInfo]
      simp

/-- The order of the replies does not matter exactly if what they say agrees. -/
theorem anyOrder_iff (hfresh : m.chatInfoById chatId = none) (hne : replies ≠ []) :
    m.AnyOrder chatId replies ↔ ChatDetailInfo.Agree (replies.map (Reply.parse chatId)) := by
  have hinfo : ∀ {replies}, replies ≠ [] → (m.handleReplies chatId replies).chatInfoById chatId =
      some (ChatDetailInfo.mergeAll chatId (replies.map (Reply.parse chatId))) := by
    intro replies hne
    rcases Option.isSome_iff_exists.mp (@handleReplies_isSome m chatId _ hne) with ⟨info, hsome⟩
    rw [← handleReplies_chatInfoById hfresh, hsome, Option.getD_some]
  have hids : ∀ info ∈ replies.map (Reply.parse chatId), info.chatId = chatId := by
    intro info h
    rcases List.mem_map.mp h with ⟨reply, -, rfl⟩
    exact reply.parse_chatId chatId
  rw [← ChatDetailInfo.mergeAll_perm_iff hids]
  constructor
  · intro h order horder
    rcases exists_perm_map horder with ⟨order, hperm, rfl⟩
    have hsame := h order hperm
    rw [hinfo hne, hinfo fun hnil => hne (hperm.symm.trans (hnil ▸ List.Perm.refl _)).eq_nil] at hsame
    exact Option.some.inj hsame
  · intro h order hperm
    rw [hinfo hne, hinfo fun hnil => hne (hperm.symm.trans (hnil ▸ List.Perm.refl _)).eq_nil,
      h _ (hperm.map _)]

end Manager

/-! ## The replies of one chat -/

/-- The two numbers of members of a supergroup, if both are there. -/
def SameMemberCount (supergroup : RawSupergroup) (fullInfo : RawSupergroupFullInfo) : Prop :=
  supergroup.type = "supergroup" → fullInfo.type = "supergroupFullInfo" →
    ∀ count count', supergroup.memberCount = some count → fullInfo.memberCount = some count' → count = count'

/-- A basic group has as many members as are listed and have an id of a user. -/
def AllMembersListed (basicGroup : RawBasicGroup) (fullInfo : RawBasicGroupFullInfo) : Prop :=
  basicGroup.type = "basicGroup" → fullInfo.type = "basicGroupFullInfo" →
    ∀ count, basicGroup.memberCount = some count → count = (fullInfo.members.getD []).countP (·.userId ≠ 0)

def supergroupReplies (chat : Option RawChat) (supergroup : RawSupergroup) (fullInfo : RawSupergroupFullInfo) :
    List Reply :=
  (chat.map Reply.chat).toList ++ [.supergroup supergroup, .supergroupFullInfo fullInfo]

def basicGroupReplies (chat : Option RawChat) (basicGroup : RawBasicGroup) (fullInfo : RawBasicGroupFullInfo) :
    List Reply :=
  (chat.map Reply.chat).toList ++ [.basicGroup basicGroup, .basicGroupFullInfo fullInfo]

section Replies

open ChatDetailInfo

variable {chatId : ℤ} {chat : Option RawChat}

lemma parseSupergroupFullInfo_permissions (json : RawSupergroupFullInfo) :
    (parseSupergroupFullInfo json chatId).permissions = none := by
  rw [parseSupergroupFullInfo]
  split_ifs <;> rfl

lemma parseBasicGroupFullInfo_permissions (json : RawBasicGroupFullInfo) :
    (parseBasicGroupFullInfo json chatId).permissions = none := by
  rw [parseBasicGroupFullInfo]
  split_ifs <;> rfl

/-- Only the number of members is in two replies. -/
lemma agree_supergroupReplies_iff {supergroup : RawSupergroup} {fullInfo : RawSupergroupFullInfo} :
    Agree ((supergroupReplies chat supergroup fullInfo).map (Reply.parse chatId)) ↔
      SameMemberCount supergroup fullInfo := by
  rw [agree_iff]
  simp only [single_iff_pairwise, supergroupReplies, SameMemberCount]
  by_cases hsupergroup : supergroup.type = "supergroup"
  · by_cases hfullInfo : fullInfo.type = "supergroupFullInfo"
    · cases chat <;> simp [Reply.parse, parseChatForInfo, parseSupergroup, parseSupergroupFullInfo, hsupergroup,
        hfullInfo, shownDescription, shownDelay, shownExpiry, shownStatus]
    · cases chat <;> simp [Reply.parse, parseChatForInfo, parseSupergroup, parseSupergroupFullInfo, hsupergroup,
        hfullInfo, shownDescription, shownDelay, shownExpiry, shownStatus]
  · cases chat <;> simp [Reply.parse, parseChatForInfo, parseSupergroup, parseSupergroupFullInfo_permissions,
      hsupergroup, shownDescription, shownDelay, shownExpiry, shownStatus]

lemma agree_basicGroupReplies_iff {basicGroup : RawBasicGroup} {fullInfo : RawBasicGroupFullInfo} :
    Agree ((basicGroupReplies chat basicGroup fullInfo).map (Reply.parse chatId)) ↔
      AllMembersListed basicGroup fullInfo := by
  rw [agree_iff]
  simp only [single_iff_pairwise, basicGroupReplies, AllMembersListed]
  by_cases hbasicGroup : basicGroup.type = "basicGroup"
  · by_cases hfullInfo : fullInfo.type = "basicGroupFullInfo"
    · cases chat <;> simp [Reply.parse, parseChatForInfo, parseBasicGroupMeta, parseBasicGroupFullInfo, hbasicGroup,
        hfullInfo, length_parseChatMembers, shownDescription, shownDelay, shownExpiry, shownStatus]
    · cases chat <;> simp [Reply.parse, parseChatForInfo, parseBasicGroupMeta, parseBasicGroupFullInfo, hbasicGroup,
        hfullInfo, shownDescription, shownDelay, shownExpiry, shownStatus]
  · cases chat <;> simp [Reply.parse, parseChatForInfo, parseBasicGroupMeta, parseBasicGroupFullInfo_permissions,
      hbasicGroup, shownDescription, shownDelay, shownExpiry, shownStatus]

end Replies

lemma supergroupReplies_ne_nil (chat : Option RawChat) (supergroup : RawSupergroup) (fullInfo : RawSupergroupFullInfo) :
    supergroupReplies chat supergroup fullInfo ≠ [] := by
  simp [supergroupReplies]

lemma basicGroupReplies_ne_nil (chat : Option RawChat) (basicGroup : RawBasicGroup) (fullInfo : RawBasicGroupFullInfo) :
    basicGroupReplies chat basicGroup fullInfo ≠ [] := by
  simp [basicGroupReplies]

/-- **The order in which the replies about a chat come does not matter** exactly if the two that have the number of
its members do not differ in it. -/
theorem chatInfo_any_order_iff (m : Manager) (chatId : ℤ) (hfresh : m.chatInfoById chatId = none) :
    (∀ chat supergroup fullInfo,
      m.AnyOrder chatId (supergroupReplies chat supergroup fullInfo) ↔ SameMemberCount supergroup fullInfo) ∧
    (∀ chat basicGroup fullInfo,
      m.AnyOrder chatId (basicGroupReplies chat basicGroup fullInfo) ↔ AllMembersListed basicGroup fullInfo) := by
  constructor
  · intro chat supergroup fullInfo
    rw [Manager.anyOrder_iff hfresh (supergroupReplies_ne_nil _ _ _), agree_supergroupReplies_iff]
  · intro chat basicGroup fullInfo
    rw [Manager.anyOrder_iff hfresh (basicGroupReplies_ne_nil _ _ _), agree_basicGroupReplies_iff]

/-- A new manager has nothing of any chat. -/
theorem chatInfo_any_order_new :
    ((({} : Manager).AnyOrder (-100) (supergroupReplies none { type := "supergroup", memberCount := some 7 }
        { type := "supergroupFullInfo", memberCount := some 7 })) ∧
      ({} : Manager).AnyOrder (-4) (basicGroupReplies none { type := "basicGroup", memberCount := some 1 }
        { type := "basicGroupFullInfo", members := some [{ memberId := some ⟨"messageSenderUser", some 5⟩ }] })) := by
  constructor
  · refine ((chatInfo_any_order_iff {} (-100) rfl).1 _ _ _).mpr ?_
    rintro - - count count' ⟨⟩ ⟨⟩
    rfl
  · refine ((chatInfo_any_order_iff {} (-4) rfl).2 _ _ _).mpr ?_
    rintro - - count ⟨⟩
    rfl

/-- TDLib does not know the number of members of the supergroup, which the full info has. -/
theorem memberCount_by_order :
    ¬ ({} : Manager).AnyOrder (-100) (supergroupReplies (some {}) { type := "supergroup", memberCount := some 0 }
      { type := "supergroupFullInfo", memberCount := some 42 }) := by
  intro h
  have hswap := h [.chat {}, .supergroupFullInfo { type := "supergroupFullInfo", memberCount := some 42 },
    .supergroup { type := "supergroup", memberCount := some 0 }] ((List.Perm.swap _ _ []).cons _)
  exact absurd (congrArg (Option.map (·.memberCount)) hswap) (by decide)

end RioGram.ChatDetails
