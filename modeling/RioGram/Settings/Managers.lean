import Mathlib.Data.Finset.Insert
import RioGram.Settings.Requests

/-!
# The managers of the account

What the managers of the password, of the privacy and of the sessions have, as far as it decides what they show as
loading, saving and failed, and what they send.  What they show beside is left out.

Each of them hears every update and looks at its type and its extra.  `handleUpdate_of_other` of a manager says that an
answer with an extra that does not begin like its own leaves it as it is.
-/

namespace RioGram.Settings

open Js Secret SecretChatManager

/-! ## Updates -/

structure StoryPosterSummary where
  title : Str := []
  storyIds : List ℤ := []
deriving DecidableEq

/-- What TDLib answers to a question whether a story can be posted, if it cannot. -/
inductive CanPostStoryRefusal where
  | premiumNeeded | boostNeeded | activeStoryLimitExceeded | weeklyLimitExceeded | monthlyLimitExceeded
  | liveStoryIsActive
deriving DecidableEq

/-- What the nine look at in an update, beside its extra. -/
inductive SettingsUpdate where
  | ok
  | error (message : Option Str)
  | passwordState
  | chat (id : Option ℤ) (title : Str) (messageAutoDeleteTime : ℤ)
  | stickerSets (setIds : List ℤ)
  | stickers
  | stickerSet (setId : ℤ)
  | inlineQueryResults
  | user (userId : ℤ) (isSelf : Bool)
  | updateUser (userId : ℤ) (isSelf : Bool)
  | users (users userIds : List ℤ)
  | userFullInfo
  | chats (chatIds : List ℤ)
  | messageSenders (userIds : List ℤ)
  | importedContacts
  | chatActiveStories (chatId : ℤ) (poster : StoryPosterSummary)
  | updateChatActiveStories (chatId : ℤ) (poster : StoryPosterSummary)
  | updateStoryDeleted (chatId storyId : ℤ)
  | updateStoryPostSucceeded
  | updateStoryPostFailed (message : Option Str)
  | availableReactions (emojis : List Str)
  | canPostStoryResult (refusal : Option CanPostStoryRefusal)
  | secretChat (summary : SecretChatSummary)
  | updateSecretChat (summary : SecretChatSummary)
  | sessions
  | userPrivacySettingRules
  | updateUserPrivacySettingRules (setting : PrivacySettingKind)

/-- An answer that is no result. -/
def SettingsUpdate.isReply : SettingsUpdate → Bool
  | ok | error _ => true
  | _ => false

lemma begins_of_begins {extra : Option Str} {start longer : String} (hlonger : ascii start <+: ascii longer)
    (h : begins extra start = false) : begins extra longer = false := by
  cases extra with
  | none => rfl
  | some extra =>
      rw [Bool.eq_false_iff] at h ⊢
      intro hextra
      exact h (List.isPrefixOf_iff_prefix.mpr (hlonger.trans (List.isPrefixOf_iff_prefix.mp hextra)))

lemma ne_of_begins {extra : Option Str} {start whole : String} (hwhole : ascii start <+: ascii whole)
    (h : begins extra start = false) : (extra == some (ascii whole)) = false := by
  rw [beq_eq_false_iff_ne]
  rintro rfl
  exact Bool.false_ne_true (h.symm.trans (List.isPrefixOf_iff_prefix.mpr hwhole))

/-! ## The password -/

structure SecuritySettingsManager where
  isLoading : Bool := false
  isSaving : Bool := false
  lastError : Option Str := none
  sent : List SecurityRequest := []

inductive SecuritySettingsCall where
  | startListening | loadPasswordState | setPassword | removePassword

namespace SecuritySettingsManager

variable (m : SecuritySettingsManager)

def send (request : SecurityRequest) : SecuritySettingsManager := { m with sent := m.sent ++ [request] }

def loadPasswordState : SecuritySettingsManager := { m with isLoading := true, lastError := none }.send .passwordState

def setPassword : SecuritySettingsManager := { m with isSaving := true, lastError := none }.send .setPassword

def removePassword : SecuritySettingsManager := m.setPassword

def startListening : SecuritySettingsManager := m.loadPasswordState

def call : SecuritySettingsCall → SecuritySettingsManager
  | .startListening => m.startListening
  | .loadPasswordState => m.loadPasswordState
  | .setPassword => m.setPassword
  | .removePassword => m.removePassword

def handlePasswordState (extra : Option Str) : SecuritySettingsManager :=
  if extra.isSome && extra != some (ascii "security_password_state") && extra != some (ascii "security_set_password")
  then m
  else { m with isLoading := false, isSaving := false }

def handleOk (extra : Option Str) : SecuritySettingsManager :=
  if extra != some (ascii "security_set_password") then m else m.loadPasswordState

def handleError (extra message : Option Str) : SecuritySettingsManager :=
  if !begins extra "security_" then m
  else { m with isLoading := false, isSaving := false, lastError := some (message.getD (units "Ошибка пароля")) }

def handleUpdate (extra : Option Str) : SettingsUpdate → SecuritySettingsManager
  | .passwordState => m.handlePasswordState extra
  | .ok => m.handleOk extra
  | .error message => m.handleError extra message
  | _ => m

variable {m}

lemma handleUpdate_of_other {extra : Option Str} {update : SettingsUpdate} (h : begins extra "security_" = false)
    (hreply : update.isReply) : m.handleUpdate extra update = m := by
  cases update with
  | ok =>
      have hother : (extra == some (ascii "security_set_password")) = false := ne_of_begins (by decide) h
      exact if_pos (by rw [bne, hother]; rfl)
  | error message => exact if_pos (by simp [h])
  | _ => cases hreply

end SecuritySettingsManager

/-! ## The privacy of this app -/

structure SecurityPrivacyManager where
  blockAdsEnabled : Bool := false
  lastError : Option Str := none
  /-- How many changes of `blockAdsEnabled` are being stored. -/
  storing : ℕ := 0
  sent : List SecurityPrivacyRequest := []

inductive SecurityPrivacyCall where
  | load (blockAdsEnabled : Bool)
  | startListening
  | onAuthorized
  | setBlockAdsEnabled (value : Bool)
  /-- A change has been stored. -/
  | stored

namespace SecurityPrivacyManager

variable (m : SecurityPrivacyManager)

def send (request : SecurityPrivacyRequest) : SecurityPrivacyManager := { m with sent := m.sent ++ [request] }

def load (blockAdsEnabled : Bool) : SecurityPrivacyManager := { m with blockAdsEnabled }

def applyAdBlockingServerPreference : SecurityPrivacyManager :=
  if !m.blockAdsEnabled then m else m.send .disableSponsored

def fetchPremiumLimits : SecurityPrivacyManager := m.send (.premiumLimit .increasedLimits)

def startListening : SecurityPrivacyManager := m.fetchPremiumLimits

def onAuthorized : SecurityPrivacyManager := m.applyAdBlockingServerPreference.fetchPremiumLimits

/-- The part before the value is stored. -/
def setBlockAdsEnabled (value : Bool) : SecurityPrivacyManager :=
  { m with blockAdsEnabled := value, storing := m.storing + 1 }

/-- The part after it is. -/
def blockAdsStored : SecurityPrivacyManager :=
  if m.storing = 0 then m else { m with storing := m.storing - 1 }.applyAdBlockingServerPreference

def call : SecurityPrivacyCall → SecurityPrivacyManager
  | .load blockAdsEnabled => m.load blockAdsEnabled
  | .startListening => m.startListening
  | .onAuthorized => m.onAuthorized
  | .setBlockAdsEnabled value => m.setBlockAdsEnabled value
  | .stored => m.blockAdsStored

/-- The error to the toggle of sponsored messages is expected of an account without Premium. -/
def handleError (extra message : Option Str) : SecurityPrivacyManager :=
  if !begins extra "security_" then m
  else if extra == some (ascii "security_privacy_disable_sponsored") then m
  else { m with lastError := some (message.getD (units "Ошибка настроек приватности")) }

def handleUpdate (extra : Option Str) : SettingsUpdate → SecurityPrivacyManager
  | .error message => m.handleError extra message
  | _ => m

variable {m}

lemma handleUpdate_of_other {extra : Option Str} {update : SettingsUpdate} (h : begins extra "security_" = false)
    (hreply : update.isReply) : m.handleUpdate extra update = m := by
  cases update with
  | ok => rfl
  | error message => exact if_pos (by simp [h])
  | _ => cases hreply

end SecurityPrivacyManager

/-! ## Sessions -/

structure SessionManager where
  isLoading : Bool := false
  isTerminating : Bool := false
  lastError : Option Str := none
  sent : List SessionRequest := []

inductive SessionCall where
  | loadActiveSessions
  | terminateSession (sessionId : ℤ)
  | terminateAllOtherSessions

namespace SessionManager

variable (m : SessionManager)

def send (request : SessionRequest) : SessionManager := { m with sent := m.sent ++ [request] }

def loadActiveSessions : SessionManager := { m with isLoading := true, lastError := none }.send .list

def terminateSession (sessionId : ℤ) : SessionManager :=
  { m with isTerminating := true, lastError := none }.send (.terminate sessionId)

def terminateAllOtherSessions : SessionManager :=
  { m with isTerminating := true, lastError := none }.send .terminateAll

def call : SessionCall → SessionManager
  | .loadActiveSessions => m.loadActiveSessions
  | .terminateSession sessionId => m.terminateSession sessionId
  | .terminateAllOtherSessions => m.terminateAllOtherSessions

def handleSessions (extra : Option Str) : SessionManager :=
  if extra != some (ascii "sessions_list") then m else { m with isLoading := false }

def handleOk (extra : Option Str) : SessionManager :=
  if !begins extra "sessions_" then m else { m with isTerminating := false }.loadActiveSessions

def handleError (extra message : Option Str) : SessionManager :=
  if !begins extra "sessions_" then m
  else { m with isLoading := false, isTerminating := false, lastError := some (message.getD (units "Ошибка сессий")) }

def handleUpdate (extra : Option Str) : SettingsUpdate → SessionManager
  | .sessions => m.handleSessions extra
  | .ok => m.handleOk extra
  | .error message => m.handleError extra message
  | _ => m

variable {m}

lemma handleUpdate_of_other {extra : Option Str} {update : SettingsUpdate} (h : begins extra "sessions_" = false)
    (hreply : update.isReply) : m.handleUpdate extra update = m := by
  cases update with
  | ok => exact if_pos (by simp [h])
  | error message => exact if_pos (by simp [h])
  | _ => cases hreply

end SessionManager

/-! ## The privacy of the account -/

def supportedSettings : List PrivacySettingKind :=
  [.showPhoneNumber, .showProfilePhoto, .showStatus, .allowChatInvites, .allowCalls, .allowFindingByPhoneNumber]

structure PrivacySettingsManager where
  /-- The settings whose rules are known. -/
  rulesBySetting : Finset PrivacySettingKind := ∅
  isLoading : Bool := false
  isSaving : Bool := false
  lastError : Option Str := none
  sent : List PrivacyRequest := []

inductive PrivacySettingsCall where
  | startListening
  | loadAll
  | setPreset (setting : PrivacySettingKind)

namespace PrivacySettingsManager

variable (m : PrivacySettingsManager)

def send (request : PrivacyRequest) : PrivacySettingsManager := { m with sent := m.sent ++ [request] }

def loadAll : PrivacySettingsManager :=
  { m with isLoading := true, lastError := none, sent := m.sent ++ supportedSettings.map .rules }

def startListening : PrivacySettingsManager := m.loadAll

def setPreset (setting : PrivacySettingKind) : PrivacySettingsManager :=
  { m with isSaving := true, lastError := none }.send (.setRules setting)

def call : PrivacySettingsCall → PrivacySettingsManager
  | .startListening => m.startListening
  | .loadAll => m.loadAll
  | .setPreset setting => m.setPreset setting

def handleRulesResponse (extra : Option Str) : PrivacySettingsManager :=
  if !begins extra "privacy_" || begins extra "privacy_set_" then m
  else
    let settingName := (extra.getD []).drop (ascii "privacy_").length
    match supportedSettings.find? (·.name = settingName) with
    | none => m
    | some setting =>
        let rulesBySetting := insert setting m.rulesBySetting
        { m with rulesBySetting, isLoading := decide (rulesBySetting.card < supportedSettings.length) }

def handleRulesUpdate (setting : PrivacySettingKind) : PrivacySettingsManager :=
  { m with rulesBySetting := insert setting m.rulesBySetting }

def handleOk (extra : Option Str) : PrivacySettingsManager :=
  if !begins extra "privacy_set_" then m else { m with isSaving := false }

def handleError (extra message : Option Str) : PrivacySettingsManager :=
  if !begins extra "privacy_" then m
  else
    { m with
      isSaving := false
      isLoading := false
      lastError := some (message.getD (units "Ошибка настроек приватности")) }

def handleUpdate (extra : Option Str) : SettingsUpdate → PrivacySettingsManager
  | .userPrivacySettingRules => m.handleRulesResponse extra
  | .updateUserPrivacySettingRules setting => m.handleRulesUpdate setting
  | .ok => m.handleOk extra
  | .error message => m.handleError extra message
  | _ => m

variable {m}

lemma handleUpdate_of_other {extra : Option Str} {update : SettingsUpdate} (h : begins extra "privacy_" = false)
    (hreply : update.isReply) : m.handleUpdate extra update = m := by
  cases update with
  | ok =>
      have hother : begins extra "privacy_set_" = false := begins_of_begins (by decide) h
      exact if_pos (by simp [hother])
  | error message => exact if_pos (by simp [h])
  | _ => cases hreply

end PrivacySettingsManager

end RioGram.Settings
