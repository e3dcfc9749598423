import RioGram.Secret.Manager

/-!
# The requests of the settings

Nine managers send requests to TDLib, and hear all its answers.  Each request has an extra, which comes back with its
answer, and by which they know whose answer it is.

* `comparable_of_begins` — a request whose extra begins with a text begins with what the text begins with.
* `owner_of_begins` — of the nine, only those two that share a prefix can be mistaken for one another by it.
-/

namespace RioGram.Settings

open Js Secret

/-! ## Extras -/

inductive SecurityRequest where
  | passwordState | setPassword
deriving DecidableEq

def SecurityRequest.extra : SecurityRequest → Str
  | passwordState => ascii "security_password_state"
  | setPassword => ascii "security_set_password"

inductive LocalPremiumFeature where
  | uploadFileSize | increasedLimits | fasterDownloads
deriving DecidableEq

def LocalPremiumFeature.name : LocalPremiumFeature → Str
  | uploadFileSize => ascii "uploadFileSize"
  | increasedLimits => ascii "increasedLimits"
  | fasterDownloads => ascii "fasterDownloads"

inductive SecurityPrivacyRequest where
  | disableSponsored
  | premiumLimit (feature : LocalPremiumFeature)
deriving DecidableEq

def SecurityPrivacyRequest.extra : SecurityPrivacyRequest → Str
  | disableSponsored => ascii "security_privacy_disable_sponsored"
  | premiumLimit feature => ascii "security_premium_" ++ feature.name

/-- The requests for stickers have the number of the request at their end. -/
inductive StickerRequest where
  | installedSets (requestId : ℤ)
  | favoriteStickers (requestId : ℤ)
  | recentStickers (requestId : ℤ)
  | stickerSet (setId requestId : ℤ)
  | searchSet (name : Str) (requestId : ℤ)
  | installSet (name : Str) (requestId : ℤ)
  | searchStickers (requestId : ℤ)
  | gifSearch (requestId : ℤ)
  | gifBot (requestId : ℤ)
deriving DecidableEq

/-- What the extra begins with. -/
def StickerRequest.stem : StickerRequest → String
  | installedSets _ => "installedSets_"
  | favoriteStickers _ => "favoriteStickers_"
  | recentStickers _ => "recentStickers_"
  | stickerSet _ _ => "stickerSet_"
  | searchSet _ _ => "searchSet_"
  | installSet _ _ => "installSet_"
  | searchStickers _ => "searchStickers_"
  | gifSearch _ => "gifSearch_"
  | gifBot _ => "gifBot_"

def StickerRequest.extra : StickerRequest → Str
  | installedSets requestId => ascii "installedSets_" ++ intToString requestId
  | favoriteStickers requestId => ascii "favoriteStickers_" ++ intToString requestId
  | recentStickers requestId => ascii "recentStickers_" ++ intToString requestId
  | stickerSet setId requestId => ascii "stickerSet_" ++ (intToString setId ++ ascii "_" ++ intToString requestId)
  | searchSet name requestId => ascii "searchSet_" ++ (name ++ intToString requestId)
  | installSet name requestId => ascii "installSet_" ++ (name ++ intToString requestId)
  | searchStickers requestId => ascii "searchStickers_" ++ intToString requestId
  | gifSearch requestId => ascii "gifSearch_" ++ intToString requestId
  | gifBot requestId => ascii "gifBot_" ++ intToString requestId

inductive ProfileRequest where
  | ownMe
  | ownFull
  | user (userId : ℤ)
  | full (userId : ℤ)
  | common (userId : ℤ)
  | commonChat (userId chatId : ℤ)
  | blocked
  | blockedUser (userId : ℤ)
  | setName
  | setBio
  | setUsername
  | setPhoto
  | block (userId : ℤ)
  | unblock (userId : ℤ)
  | blockReplies (messageId : ℤ)
deriving DecidableEq

def ProfileRequest.extra : ProfileRequest → Str
  | ownMe => ascii "profile_own_me"
  | ownFull => ascii "profile_own_full"
  | user userId => ascii "profile_user_" ++ intToString userId
  | full userId => ascii "profile_full_" ++ intToString userId
  | common userId => ascii "profile_common_" ++ intToString userId
  | commonChat userId chatId => ascii "profile_common_chat_" ++ (intToString userId ++ ascii "_" ++ intToString chatId)
  | blocked => ascii "profile_blocked"
  | blockedUser userId => ascii "profile_blocked_user_" ++ intToString userId
  | setName => ascii "profile_set_name"
  | setBio => ascii "profile_set_bio"
  | setUsername => ascii "profile_set_username"
  | setPhoto => ascii "profile_set_photo"
  | block userId => ascii "profile_block_" ++ intToString userId
  | unblock userId => ascii "profile_unblock_" ++ intToString userId
  | blockReplies messageId => ascii "profile_block_replies_" ++ intToString messageId

inductive ContactRequest where
  | load
  | search
  | add (userId : ℤ)
  | remove (userId : ℤ)
  | importPhoneBook
  | user (userId : ℤ)
  | searchUser (userId : ℤ)
deriving DecidableEq

def ContactRequest.extra : ContactRequest → Str
  | load => ascii "contacts_load"
  | search => ascii "contacts_search"
  | add userId => ascii "contacts_add_" ++ intToString userId
  | remove userId => ascii "contacts_remove_" ++ intToString userId
  | importPhoneBook => ascii "contacts_import"
  | user userId => ascii "contacts_user_" ++ intToString userId
  | searchUser userId => ascii "contacts_search_user_" ++ intToString userId

inductive StoryRequest where
  | loadMain
  | active (chatId : ℤ)
  | getStory (posterChatId storyId : ℤ)
  | openStory (posterChatId storyId : ℤ)
  | closeStory (posterChatId storyId : ℤ)
  | canPost (chatId : ℤ)
  | reactions
  | postPhoto
  | postVideo
  | reaction (posterChatId storyId : ℤ)
  | reply (posterChatId storyId : ℤ)
  | chat (chatId : ℤ)
deriving DecidableEq

/-- Two numbers with a line between them. -/
def pairToString (a b : ℤ) : Str := intToString a ++ ascii "_" ++ intToString b

def StoryRequest.extra : StoryRequest → Str
  | loadMain => ascii "story_load_main"
  | active chatId => ascii "story_active_" ++ intToString chatId
  | getStory posterChatId storyId => ascii "story_get_" ++ pairToString posterChatId storyId
  | openStory posterChatId storyId => ascii "story_open_" ++ pairToString posterChatId storyId
  | closeStory posterChatId storyId => ascii "story_close_" ++ pairToString posterChatId storyId
  | canPost chatId => ascii "story_can_post_" ++ intToString chatId
  | reactions => ascii "story_reactions"
  | postPhoto => ascii "story_post_photo"
  | postVideo => ascii "story_post_video"
  | reaction posterChatId storyId => ascii "story_reaction_" ++ pairToString posterChatId storyId
  | reply posterChatId storyId => ascii "story_reply_" ++ pairToString posterChatId storyId
  | chat chatId => ascii "story_chat_" ++ intToString chatId

inductive SessionRequest where
  | list
  | terminate (sessionId : ℤ)
  | terminateAll
deriving DecidableEq

def SessionRequest.extra : SessionRequest → Str
  | list => ascii "sessions_list"
  | terminate sessionId => ascii "sessions_terminate_" ++ intToString sessionId
  | terminateAll => ascii "sessions_terminate_all"

inductive PrivacySettingKind where
  | showPhoneNumber | showProfilePhoto | showStatus | allowChatInvites | allowCalls | allowFindingByPhoneNumber
deriving DecidableEq

def PrivacySettingKind.name : PrivacySettingKind → Str
  | showPhoneNumber => ascii "showPhoneNumber"
  | showProfilePhoto => ascii "showProfilePhoto"
  | showStatus => ascii "showStatus"
  | allowChatInvites => ascii "allowChatInvites"
  | allowCalls => ascii "allowCalls"
  | allowFindingByPhoneNumber => ascii "allowFindingByPhoneNumber"

inductive PrivacyRequest where
  | rules (setting : PrivacySettingKind)
  | setRules (setting : PrivacySettingKind)
deriving DecidableEq

def PrivacyRequest.extra : PrivacyRequest → Str
  | rules setting => ascii "privacy_" ++ setting.name
  | setRules setting => ascii "privacy_set_" ++ setting.name

/-- A request of one of the nine. -/
inductive SettingsRequest where
  | security (request : SecurityRequest)
  | securityPrivacy (request : SecurityPrivacyRequest)
  | sticker (request : StickerRequest)
  | profile (request : ProfileRequest)
  | contact (request : ContactRequest)
  | story (request : StoryRequest)
  | secret (request : SecretRequest)
  | session (request : SessionRequest)
  | privacy (request : PrivacyRequest)
deriving DecidableEq

inductive SettingsOwner where
  | security | securityPrivacy | sticker | profile | contact | story | secret | session | privacy
deriving DecidableEq

namespace SettingsRequest

def extra : SettingsRequest → Str
  | security request => request.extra
  | securityPrivacy request => request.extra
  | sticker request => request.extra
  | profile request => request.extra
  | contact request => request.extra
  | story request => request.extra
  | secret request => request.extra
  | session request => request.extra
  | privacy request => request.extra

def owner : SettingsRequest → SettingsOwner
  | security _ => .security
  | securityPrivacy _ => .securityPrivacy
  | sticker _ => .sticker
  | profile _ => .profile
  | contact _ => .contact
  | story _ => .story
  | secret _ => .secret
  | session _ => .session
  | privacy _ => .privacy

/-- What the extras of a manager begin with, or those of a kind of requests. -/
def stem : SettingsRequest → String
  | security _ => "security_"
  | securityPrivacy _ => "security_"
  | sticker request => request.stem
  | profile _ => "profile_"
  | contact _ => "contacts_"
  | story _ => "story_"
  | secret _ => "secret_"
  | session _ => "sessions_"
  | privacy _ => "privacy_"

/-! ## Whose answer it is -/

lemma begins_with_stem (request : SettingsRequest) : ascii request.stem <+: request.extra := by
  have happend : ∀ {p s : Str} (rest : Str), p <+: s → p <+: s ++ rest := fun rest h =>
    h.trans (List.prefix_append _ rest)
  cases request with
  | sticker r => cases r <;> exact happend _ List.prefix_rfl
  | securityPrivacy r =>
      simp only [stem, extra]
      cases r with
      | disableSponsored => decide
      | premiumLimit feature => exact happend _ (by decide)
  | secret r | privacy r =>
      simp only [stem, extra]
      cases r <;> exact happend _ (by decide)
  | security r | profile r | contact r | story r | session r =>
      simp only [stem, extra]
      cases r <;> first | decide | exact happend _ (by decide)

end SettingsRequest

/-- One of the texts begins with the other. -/
def Comparable (p q : String) : Prop := ascii p <+: ascii q ∨ ascii q <+: ascii p

instance (p q : String) : Decidable (Comparable p q) := inferInstanceAs (Decidable (_ ∨ _))

/-- A request whose extra begins with a text. -/
lemma comparable_of_begins {request : SettingsRequest} {p : String}
    (h : SecretChatManager.begins (some request.extra) p = true) : Comparable p request.stem :=
  List.prefix_or_prefix_of_prefix (List.isPrefixOf_iff_prefix.mp h) request.begins_with_stem

/-- What a manager takes for the beginning of its extras; the one of stickers takes any. -/
def SettingsOwner.start : SettingsOwner → String
  | security => "security_"
  | securityPrivacy => "security_"
  | sticker => ""
  | profile => "profile_"
  | contact => "contacts_"
  | story => "story_"
  | secret => "secret_"
  | session => "sessions_"
  | privacy => "privacy_"

/-- The two that share a prefix. -/
def SettingsOwner.isSecurity : SettingsOwner → Bool
  | security | securityPrivacy => true
  | _ => false

/-- What begins the extras, and whose they are. -/
def stems : List (String × SettingsOwner) :=
  [("security_", .security), ("security_", .securityPrivacy), ("installedSets_", .sticker),
    ("favoriteStickers_", .sticker), ("recentStickers_", .sticker), ("stickerSet_", .sticker), ("searchSet_", .sticker),
    ("installSet_", .sticker), ("searchStickers_", .sticker), ("gifSearch_", .sticker), ("gifBot_", .sticker),
    ("profile_", .profile), ("contacts_", .contact), ("story_", .story), ("secret_", .secret), ("sessions_", .session),
    ("privacy_", .privacy)]

lemma stem_mem_stems (request : SettingsRequest) : (request.stem, request.owner) ∈ stems := by
  cases request with
  | sticker r => cases r <;> simp [SettingsRequest.stem, StickerRequest.stem, SettingsRequest.owner, stems]
  | _ => simp [SettingsRequest.stem, SettingsRequest.owner, stems]

lemma owner_of_comparable : ∀ entry ∈ stems, ∀ owner ∈ stems.map Prod.snd, Comparable owner.start entry.1 →
    owner = entry.2 ∨ owner = .sticker ∨ (owner.isSecurity = true ∧ entry.2.isSecurity = true) := by
  decide

/-- **Whose an extra can be taken for**: that of the manager itself, or any where it is the one of stickers, or where
both are of those that share a prefix. -/
lemma owner_of_begins {request : SettingsRequest} {owner : SettingsOwner}
    (h : SecretChatManager.begins (some request.extra) owner.start = true) :
    owner = request.owner ∨ owner = .sticker ∨ (owner.isSecurity = true ∧ request.owner.isSecurity = true) := by
  have howner : owner ∈ stems.map Prod.snd := by
    cases owner <;> decide
  exact owner_of_comparable _ (stem_mem_stems request) owner howner (comparable_of_begins h)

end RioGram.Settings
