import RioGram.Core.Overlay
import RioGram.Core.Reachable
import RioGram.Js.Strings

/-!
# Settings of notifications

TDLib has settings of notifications for the kinds of chats and for each chat, and takes them back as a whole.
`NotificationSettingsManager` keeps some of the fields, writes the others from constants, and changes settings by
sending what it has with a field changed.  Its parts for the badge and for the deletion of messages are left out.

`SettingsRun` has beside the manager the settings that the app has received last for each of them.

* `SettingsRun.Frames` — what is sent are the received settings but for the fields that an operation is about.
* `frames_iff` — the steps in which it is so; `forall_frames_iff` — the runs.
-/

namespace RioGram.Notifications

open Js Reaching PartialMap

inductive NotificationScopeKind where
  | privateChats | groupChats | channelChats
deriving DecidableEq

/-- `scopeNotificationSettings` of TDLib; numbers are as `tdInt` reads them. -/
@[ext]
structure ScopeNotificationSettings where
  muteFor : Option ℤ
  soundId : Option ℤ
  showPreview : Option Bool
  useDefaultMuteStories : Option Bool
  muteStories : Option Bool
  storySoundId : Option ℤ
  showStoryPoster : Option Bool
  disablePinnedMessageNotifications : Option Bool
  disableMentionNotifications : Option Bool
deriving DecidableEq

/-- `chatNotificationSettings` of TDLib. -/
@[ext]
structure ChatNotificationSettings where
  useDefaultMuteFor : Option Bool
  muteFor : Option ℤ
  useDefaultSound : Option Bool
  soundId : Option ℤ
  useDefaultShowPreview : Option Bool
  showPreview : Option Bool
  useDefaultMuteStories : Option Bool
  muteStories : Option Bool
  useDefaultStorySound : Option Bool
  storySoundId : Option ℤ
  useDefaultShowStoryPoster : Option Bool
  showStoryPoster : Option Bool
  useDefaultDisablePinnedMessageNotifications : Option Bool
  disablePinnedMessageNotifications : Option Bool
  useDefaultDisableMentionNotifications : Option Bool
  disableMentionNotifications : Option Bool
deriving DecidableEq

def notificationMuteForeverSeconds : ℤ := 366 * 86400

/-! ## Models -/

structure ScopeNotificationSettingsModel where
  muteFor : ℤ := 0
  showPreview : Bool := true
  disableMentionNotifications : Bool := false
  disablePinnedMessageNotifications : Bool := false
deriving DecidableEq

def ScopeNotificationSettingsModel.toTdlib (m : ScopeNotificationSettingsModel)
    (previous : Option ScopeNotificationSettingsModel) : ScopeNotificationSettings where
  muteFor := some m.muteFor
  soundId := some 0
  showPreview := some m.showPreview
  useDefaultMuteStories := some true
  muteStories := some (0 < (previous.getD m).muteFor)
  storySoundId := some 0
  showStoryPoster := some true
  disablePinnedMessageNotifications := some m.disablePinnedMessageNotifications
  disableMentionNotifications := some m.disableMentionNotifications

structure ChatNotificationSettingsModel where
  useDefaultMuteFor : Bool := true
  muteFor : ℤ := 0
  useDefaultShowPreview : Bool := true
  showPreview : Bool := true
  useDefaultSound : Bool := true
  soundId : ℤ := 0
deriving DecidableEq

def ChatNotificationSettingsModel.toTdlib (m : ChatNotificationSettingsModel)
    (previous : Option ChatNotificationSettingsModel) : ChatNotificationSettings where
  useDefaultMuteFor := some m.useDefaultMuteFor
  muteFor := some m.muteFor
  useDefaultSound := some m.useDefaultSound
  soundId := some m.soundId
  useDefaultShowPreview := some m.useDefaultShowPreview
  showPreview := some m.showPreview
  useDefaultMuteStories := some true
  muteStories := some (0 < (previous.getD m).muteFor)
  useDefaultStorySound := some true
  storySoundId := some 0
  useDefaultShowStoryPoster := some true
  showStoryPoster := some true
  useDefaultDisablePinnedMessageNotifications := some true
  disablePinnedMessageNotifications := some false
  useDefaultDisableMentionNotifications := some true
  disableMentionNotifications := some false

namespace NotificationSettingsJson

def parseScope (json : ScopeNotificationSettings) : ScopeNotificationSettingsModel where
  muteFor := json.muteFor.getD 0
  showPreview := json.showPreview.getD true
  disableMentionNotifications := json.disableMentionNotifications.getD false
  disablePinnedMessageNotifications := json.disablePinnedMessageNotifications.getD false

def parseChat (json : ChatNotificationSettings) : ChatNotificationSettingsModel where
  useDefaultMuteFor := json.useDefaultMuteFor.getD true
  muteFor := json.muteFor.getD 0
  useDefaultShowPreview := json.useDefaultShowPreview.getD true
  showPreview := json.showPreview.getD true
  useDefaultSound := json.useDefaultSound.getD true
  soundId := json.soundId.getD 0

end NotificationSettingsJson

open NotificationSettingsJson

/-! ## The manager -/

inductive SettingsRequest where
  | getScopeNotificationSettings (scope : NotificationScopeKind)
  | getChat (chatId : ℤ)
  | setScopeNotificationSettings (scope : NotificationScopeKind) (settings : ScopeNotificationSettings)
  | setChatNotificationSettings (chatId : ℤ) (settings : ChatNotificationSettings)
deriving DecidableEq

structure NotificationSettingsManager where
  scopeSettings : NotificationScopeKind → Option ScopeNotificationSettingsModel := PartialMap.empty
  chatSettings : ℤ → Option ChatNotificationSettingsModel := PartialMap.empty
  isLoadingScopes : Bool := false
  isSaving : Bool := false
  lastError : Option Str := none
  sent : List SettingsRequest := []

inductive SettingsEvent where
  | loadScopeSettings
  | loadChatSettings (chatId : ℤ)
  | setScopeMuted (scope : NotificationScopeKind) (muted : Bool)
  | setScopeShowPreview (scope : NotificationScopeKind) (showPreview : Bool)
  | muteChat (chatId : ℤ) (durationSeconds : ℤ)
  | unmuteChat (chatId : ℤ)
  | setChatShowPreview (chatId : ℤ) (showPreview : Bool)
  /-- The answer to a request of the manager. -/
  | scopeResponse (scope : NotificationScopeKind) (settings : ScopeNotificationSettings)
  | updateScopeNotificationSettings (scope : NotificationScopeKind) (settings : ScopeNotificationSettings)
  /-- The answer to a request of the manager. -/
  | chatResponse (chatId : ℤ) (settings : Option ChatNotificationSettings)
  | updateChatNotificationSettings (chatId : ℤ) (settings : ChatNotificationSettings)
  /-- A chat that is new or that another component has asked for, which has its settings. -/
  | otherChat (chatId : ℤ) (settings : ChatNotificationSettings)
  /-- Answers, with whether they are to a request of the manager. -/
  | ok (isOwn : Bool)
  | error (isOwn : Bool) (message : Option Str)

namespace NotificationSettingsManager

variable (m : NotificationSettingsManager)

def allScopes : List NotificationScopeKind := [.privateChats, .groupChats, .channelChats]

def loadScopeSettings : NotificationSettingsManager :=
  { m with
    isLoadingScopes := true
    lastError := none
    sent := m.sent ++ allScopes.map .getScopeNotificationSettings }

def loadChatSettings (chatId : ℤ) : NotificationSettingsManager := { m with sent := m.sent ++ [.getChat chatId] }

def setScopeSettings (scope : NotificationScopeKind) (settings : ScopeNotificationSettingsModel) :
    NotificationSettingsManager :=
  { m with
    isSaving := true
    lastError := none
    sent := m.sent ++ [.setScopeNotificationSettings scope (settings.toTdlib (m.scopeSettings scope))] }

def setScopeMuted (scope : NotificationScopeKind) (muted : Bool) : NotificationSettingsManager :=
  m.setScopeSettings scope
    { (m.scopeSettings scope).getD {} with muteFor := if muted then notificationMuteForeverSeconds else 0 }

def setScopeShowPreview (scope : NotificationScopeKind) (showPreview : Bool) : NotificationSettingsManager :=
  m.setScopeSettings scope { (m.scopeSettings scope).getD {} with showPreview := showPreview }

def setChatSettings (chatId : ℤ) (settings : ChatNotificationSettingsModel) : NotificationSettingsManager :=
  { m with
    isSaving := true
    lastError := none
    sent := m.sent ++ [.setChatNotificationSettings chatId (settings.toTdlib (m.chatSettings chatId))] }

def muteChat (chatId durationSeconds : ℤ) : NotificationSettingsManager :=
  m.setChatSettings chatId
    { (m.chatSettings chatId).getD {} with useDefaultMuteFor := false, muteFor := durationSeconds }

def unmuteChat (chatId : ℤ) : NotificationSettingsManager :=
  m.setChatSettings chatId { (m.chatSettings chatId).getD {} with useDefaultMuteFor := true, muteFor := 0 }

def setChatShowPreview (chatId : ℤ) (showPreview : Bool) : NotificationSettingsManager :=
  m.setChatSettings chatId
    { (m.chatSettings chatId).getD {} with useDefaultShowPreview := false, showPreview := showPreview }

def handleScopeResponse (scope : NotificationScopeKind) (settings : ScopeNotificationSettings) :
    NotificationSettingsManager :=
  let scopeSettings := put scope (parseScope settings) m.scopeSettings
  { m with
    scopeSettings := scopeSettings
    isLoadingScopes := allScopes.any fun scope => (scopeSettings scope).isNone }

def handleScopeUpdate (scope : NotificationScopeKind) (settings : ScopeNotificationSettings) :
    NotificationSettingsManager :=
  { m with scopeSettings := put scope (parseScope settings) m.scopeSettings }

def handleChatNotificationUpdate (chatId : ℤ) (settings : ChatNotificationSettings) : NotificationSettingsManager :=
  { m with chatSettings := put chatId (parseChat settings) m.chatSettings }

def handleChatResponse (chatId : ℤ) (settings : Option ChatNotificationSettings) : NotificationSettingsManager :=
  settings.elim m (m.handleChatNotificationUpdate chatId)

def handleOk (isOwn : Bool) : NotificationSettingsManager := if isOwn then { m with isSaving := false } else m

def handleError (isOwn : Bool) (message : Option Str) : NotificationSettingsManager :=
  if isOwn then
    { m with
      isSaving := false
      isLoadingScopes := false
      lastError := some (message.getD (units "Ошибка настроек уведомлений")) }
  else m

def step (m : NotificationSettingsManager) : SettingsEvent → NotificationSettingsManager
  | .loadScopeSettings => m.loadScopeSettings
  | .loadChatSettings chatId => m.loadChatSettings chatId
  | .setScopeMuted scope muted => m.setScopeMuted scope muted
  | .setScopeShowPreview scope showPreview => m.setScopeShowPreview scope showPreview
  | .muteChat chatId durationSeconds => m.muteChat chatId durationSeconds
  | .unmuteChat chatId => m.unmuteChat chatId
  | .setChatShowPreview chatId showPreview => m.setChatShowPreview chatId showPreview
  | .scopeResponse scope settings => m.handleScopeResponse scope settings
  | .updateScopeNotificationSettings scope settings => m.handleScopeUpdate scope settings
  | .chatResponse chatId settings => m.handleChatResponse chatId settings
  | .updateChatNotificationSettings chatId settings => m.handleChatNotificationUpdate chatId settings
  | .otherChat _ _ => m
  | .ok isOwn => m.handleOk isOwn
  | .error isOwn message => m.handleError isOwn message

end NotificationSettingsManager

/-! ## What is sent and what was received -/

/-- The manager, and the settings that the app has received last. -/
structure SettingsRun where
  manager : NotificationSettingsManager := {}
  scopes : NotificationScopeKind → Option ScopeNotificationSettings := PartialMap.empty
  chats : ℤ → Option ChatNotificationSettings := PartialMap.empty

/-- The fields that the model of a scope lacks have the values that it writes for them, and the others are there. -/
structure ScopeNotificationSettings.IsPlain (j : ScopeNotificationSettings) : Prop where
  soundId : j.soundId = some 0
  useDefaultMuteStories : j.useDefaultMuteStories = some true
  muteStories : j.muteStories = some (0 < j.muteFor.getD 0 : Bool)
  storySoundId : j.storySoundId = some 0
  showStoryPoster : j.showStoryPoster = some true
  disablePinnedMessageNotifications : j.disablePinnedMessageNotifications.isSome
  disableMentionNotifications : j.disableMentionNotifications.isSome

/-- The fields that the model of a chat lacks have the values that it writes for them, where `muted` is what it takes
for the stories. -/
structure ChatNotificationSettings.IsPlain (j : ChatNotificationSettings) (muted : Bool) : Prop where
  useDefaultMuteStories : j.useDefaultMuteStories = some true
  muteStories : j.muteStories = some muted
  useDefaultStorySound : j.useDefaultStorySound = some true
  storySoundId : j.storySoundId = some 0
  useDefaultShowStoryPoster : j.useDefaultShowStoryPoster = some true
  showStoryPoster : j.showStoryPoster = some true
  useDefaultDisablePinned : j.useDefaultDisablePinnedMessageNotifications = some true
  disablePinned : j.disablePinnedMessageNotifications = some false
  useDefaultDisableMention : j.useDefaultDisableMentionNotifications = some true
  disableMention : j.disableMentionNotifications = some false

namespace ChatNotificationSettingsModel

variable (m : ChatNotificationSettingsModel) (j : ChatNotificationSettings)

def HasMute : Prop := j.useDefaultMuteFor = some m.useDefaultMuteFor ∧ j.muteFor = some m.muteFor

def HasSound : Prop := j.useDefaultSound = some m.useDefaultSound ∧ j.soundId = some m.soundId

def HasPreview : Prop := j.useDefaultShowPreview = some m.useDefaultShowPreview ∧ j.showPreview = some m.showPreview

end ChatNotificationSettingsModel

namespace SettingsRun

variable (r : SettingsRun)

/-- The requests that the manager sends on an event. -/
def sends (e : SettingsEvent) : List SettingsRequest := (r.manager.step e).sent.drop r.manager.sent.length

/-- The settings that come with an event are the last ones. -/
def receives (r : SettingsRun) : SettingsEvent → SettingsRun
  | .scopeResponse scope settings => { r with scopes := put scope settings r.scopes }
  | .updateScopeNotificationSettings scope settings => { r with scopes := put scope settings r.scopes }
  | .chatResponse chatId settings =>
      settings.elim r fun settings => { r with chats := put chatId settings r.chats }
  | .updateChatNotificationSettings chatId settings => { r with chats := put chatId settings r.chats }
  | .otherChat chatId settings => { r with chats := put chatId settings r.chats }
  | _ => r

def step (r : SettingsRun) (e : SettingsEvent) : SettingsRun := { r.receives e with manager := r.manager.step e }

/-- An operation sends the received settings, with no fields changed but those that it is about. -/
def Frames : SettingsEvent → Prop
  | .setScopeMuted scope muted => ∀ j, r.scopes scope = some j →
      ∃ settings, r.sends (.setScopeMuted scope muted) = [.setScopeNotificationSettings scope settings] ∧
        { settings with muteFor := j.muteFor } = j
  | .setScopeShowPreview scope showPreview => ∀ j, r.scopes scope = some j →
      ∃ settings, r.sends (.setScopeShowPreview scope showPreview) = [.setScopeNotificationSettings scope settings] ∧
        { settings with showPreview := j.showPreview } = j
  | .muteChat chatId durationSeconds => ∀ j, r.chats chatId = some j →
      ∃ settings, r.sends (.muteChat chatId durationSeconds) = [.setChatNotificationSettings chatId settings] ∧
        { settings with useDefaultMuteFor := j.useDefaultMuteFor, muteFor := j.muteFor } = j
  | .unmuteChat chatId => ∀ j, r.chats chatId = some j →
      ∃ settings, r.sends (.unmuteChat chatId) = [.setChatNotificationSettings chatId settings] ∧
        { settings with useDefaultMuteFor := j.useDefaultMuteFor, muteFor := j.muteFor } = j
  | .setChatShowPreview chatId showPreview => ∀ j, r.chats chatId = some j →
      ∃ settings, r.sends (.setChatShowPreview chatId showPreview) = [.setChatNotificationSettings chatId settings] ∧
        { settings with useDefaultShowPreview := j.useDefaultShowPreview, showPreview := j.showPreview } = j
  | _ => True

/-! ## When it is so -/

/-- What the manager has of a chat. -/
def modelOf (chatId : ℤ) : ChatNotificationSettingsModel := (r.manager.chatSettings chatId).getD {}

/-- For how long the stories of a chat are taken to be muted, where the manager may have no settings of it. -/
def storiesMuteFor (chatId muteFor : ℤ) : ℤ := ((r.manager.chatSettings chatId).map (·.muteFor)).getD muteFor

/-- The received settings have, where the model lacks a field, what it writes; and what it has of a chat is what was
received, or what it takes for a chat that was not loaded. -/
def Plain : SettingsEvent → Prop
  | .setScopeMuted scope _ => ∀ j, r.scopes scope = some j → j.IsPlain ∧ j.showPreview.isSome
  | .setScopeShowPreview scope _ => ∀ j, r.scopes scope = some j → j.IsPlain ∧ j.muteFor.isSome
  | .muteChat chatId durationSeconds => ∀ j, r.chats chatId = some j →
      j.IsPlain (0 < r.storiesMuteFor chatId durationSeconds) ∧ (r.modelOf chatId).HasSound j ∧
        (r.modelOf chatId).HasPreview j
  | .unmuteChat chatId => ∀ j, r.chats chatId = some j →
      j.IsPlain (0 < r.storiesMuteFor chatId 0) ∧ (r.modelOf chatId).HasSound j ∧ (r.modelOf chatId).HasPreview j
  | .setChatShowPreview chatId _ => ∀ j, r.chats chatId = some j →
      j.IsPlain (0 < r.storiesMuteFor chatId 0) ∧ (r.modelOf chatId).HasSound j ∧ (r.modelOf chatId).HasMute j
  | _ => True

variable {r}

/-- What the manager has of the scopes comes from what was received last. -/
def Follows (r : SettingsRun) : Prop := ∀ scope, r.manager.scopeSettings scope = (r.scopes scope).map parseScope

end SettingsRun

/-! ## Field by field -/

/-- A default changes nothing exactly if there is a value. -/
lemma some_getD_eq_iff {α : Type*} {o : Option α} {a : α} : some (o.getD a) = o ↔ o.isSome := by
  cases o <;> simp

namespace ScopeNotificationSettingsModel

variable {j : ScopeNotificationSettings}

lemma toTdlib_muted_iff (muteFor : ℤ) :
    { toTdlib { parseScope j with muteFor := muteFor } (some (parseScope j)) with muteFor := j.muteFor } = j ↔
      j.IsPlain ∧ j.showPreview.isSome := by
  constructor
  · intro h
    rw [ScopeNotificationSettings.ext_iff] at h
    rcases h with ⟨-, hsound, hpreview, hdefault, hstories, hstorySound, hposter, hpinned, hmention⟩
    exact ⟨⟨hsound.symm, hdefault.symm, hstories.symm, hstorySound.symm, hposter.symm, some_getD_eq_iff.mp hpinned,
      some_getD_eq_iff.mp hmention⟩, some_getD_eq_iff.mp hpreview⟩
  · rintro ⟨h, hpreview⟩
    exact ScopeNotificationSettings.ext rfl h.soundId.symm (some_getD_eq_iff.mpr hpreview)
      h.useDefaultMuteStories.symm h.muteStories.symm h.storySoundId.symm h.showStoryPoster.symm
      (some_getD_eq_iff.mpr h.disablePinnedMessageNotifications)
      (some_getD_eq_iff.mpr h.disableMentionNotifications)

lemma toTdlib_preview_iff (showPreview : Bool) :
    { toTdlib { parseScope j with showPreview := showPreview } (some (parseScope j)) with
        showPreview := j.showPreview } = j ↔ j.IsPlain ∧ j.muteFor.isSome := by
  constructor
  · intro h
    rw [ScopeNotificationSettings.ext_iff] at h
    rcases h with ⟨hmute, hsound, -, hdefault, hstories, hstorySound, hposter, hpinned, hmention⟩
    exact ⟨⟨hsound.symm, hdefault.symm, hstories.symm, hstorySound.symm, hposter.symm, some_getD_eq_iff.mp hpinned,
      some_getD_eq_iff.mp hmention⟩, some_getD_eq_iff.mp hmute⟩
  · rintro ⟨h, hmute⟩
    exact ScopeNotificationSettings.ext (some_getD_eq_iff.mpr hmute) h.soundId.symm rfl
      h.useDefaultMuteStories.symm h.muteStories.symm h.storySoundId.symm h.showStoryPoster.symm
      (some_getD_eq_iff.mpr h.disablePinnedMessageNotifications)
      (some_getD_eq_iff.mpr h.disableMentionNotifications)

end ScopeNotificationSettingsModel

namespace ChatNotificationSettingsModel

variable {m : ChatNotificationSettingsModel} {previous : Option ChatNotificationSettingsModel}
  {j : ChatNotificationSettings}

lemma toTdlib_muted_iff : { m.toTdlib previous with
    useDefaultMuteFor := j.useDefaultMuteFor, muteFor := j.muteFor } = j ↔
      j.IsPlain (0 < (previous.getD m).muteFor) ∧ m.HasSound j ∧ m.HasPreview j := by
  constructor
  · intro h
    rw [ChatNotificationSettings.ext_iff] at h
    rcases h with ⟨-, -, hdefaultSound, hsound, hdefaultPreview, hpreview, hdefault, hstories, hdefaultStorySound,
      hstorySound, hdefaultPoster, hposter, hdefaultPinned, hpinned, hdefaultMention, hmention⟩
    exact ⟨⟨hdefault.symm, hstories.symm, hdefaultStorySound.symm, hstorySound.symm, hdefaultPoster.symm,
      hposter.symm, hdefaultPinned.symm, hpinned.symm, hdefaultMention.symm, hmention.symm⟩,
      ⟨hdefaultSound.symm, hsound.symm⟩, hdefaultPreview.symm, hpreview.symm⟩
  · rintro ⟨h, hsound, hpreview⟩
    exact ChatNotificationSettings.ext rfl rfl hsound.1.symm hsound.2.symm hpreview.1.symm hpreview.2.symm
      h.useDefaultMuteStories.symm h.muteStories.symm h.useDefaultStorySound.symm h.storySoundId.symm
      h.useDefaultShowStoryPoster.symm h.showStoryPoster.symm h.useDefaultDisablePinned.symm h.disablePinned.symm
      h.useDefaultDisableMention.symm h.disableMention.symm

lemma toTdlib_preview_iff : { m.toTdlib previous with
    useDefaultShowPreview := j.useDefaultShowPreview, showPreview := j.showPreview } = j ↔
      j.IsPlain (0 < (previous.getD m).muteFor) ∧ m.HasSound j ∧ m.HasMute j := by
  constructor
  · intro h
    rw [ChatNotificationSettings.ext_iff] at h
    rcases h with ⟨hdefaultMute, hmute, hdefaultSound, hsound, -, -, hdefault, hstories, hdefaultStorySound,
      hstorySound, hdefaultPoster, hposter, hdefaultPinned, hpinned, hdefaultMention, hmention⟩
    exact ⟨⟨hdefault.symm, hstories.symm, hdefaultStorySound.symm, hstorySound.symm, hdefaultPoster.symm,
      hposter.symm, hdefaultPinned.symm, hpinned.symm, hdefaultMention.symm, hmention.symm⟩,
      ⟨hdefaultSound.symm, hsound.symm⟩, hdefaultMute.symm, hmute.symm⟩
  · rintro ⟨h, hsound, hmute⟩
    exact ChatNotificationSettings.ext hmute.1.symm hmute.2.symm hsound.1.symm hsound.2.symm rfl rfl
      h.useDefaultMuteStories.symm h.muteStories.symm h.useDefaultStorySound.symm h.storySoundId.symm
      h.useDefaultShowStoryPoster.symm h.showStoryPoster.symm h.useDefaultDisablePinned.symm h.disablePinned.symm
      h.useDefaultDisableMention.symm h.disableMention.symm

end ChatNotificationSettingsModel

namespace SettingsRun

variable {r : SettingsRun}

lemma exists_sent_iff {α β : Type*} {f : α → β} (hf : Function.Injective f) {l : List β} {a : α} (h : l = [f a])
    {p : α → Prop} : (∃ b, l = [f b] ∧ p b) ↔ p a := by
  constructor
  · rintro ⟨b, hb, hp⟩
    rw [h, List.singleton_inj] at hb
    rwa [hf hb]
  · intro hp
    exact ⟨a, h, hp⟩

lemma exists_scope_iff {scope : NotificationScopeKind} {settings : ScopeNotificationSettingsModel} {e : SettingsEvent}
    (h : r.manager.step e = r.manager.setScopeSettings scope settings) {p : ScopeNotificationSettings → Prop} :
    (∃ s, r.sends e = [.setScopeNotificationSettings scope s] ∧ p s) ↔
      p (settings.toTdlib (r.manager.scopeSettings scope)) := by
  refine exists_sent_iff (fun s s' hs => (SettingsRequest.setScopeNotificationSettings.inj hs).2) ?_
  rw [sends, h]
  exact List.drop_left

lemma exists_chat_iff {chatId : ℤ} {settings : ChatNotificationSettingsModel} {e : SettingsEvent}
    (h : r.manager.step e = r.manager.setChatSettings chatId settings) {p : ChatNotificationSettings → Prop} :
    (∃ s, r.sends e = [.setChatNotificationSettings chatId s] ∧ p s) ↔
      p (settings.toTdlib (r.manager.chatSettings chatId)) := by
  refine exists_sent_iff (fun s s' hs => (SettingsRequest.setChatNotificationSettings.inj hs).2) ?_
  rw [sends, h]
  exact List.drop_left

/-- What a chat is sent in place of what it has: the model of it, with another time. -/
lemma storiesMuteFor_eq (chatId : ℤ) (settings : ChatNotificationSettingsModel) :
    ((r.manager.chatSettings chatId).getD settings).muteFor = r.storiesMuteFor chatId settings.muteFor := by
  rw [storiesMuteFor]
  cases r.manager.chatSettings chatId <;> rfl

/-- **When a step leaves the other settings as they are.** -/
theorem frames_iff (h : r.Follows) (e : SettingsEvent) : r.Frames e ↔ r.Plain e := by
  cases e with
  | setScopeMuted scope muted =>
      refine forall_congr' fun j => forall_congr' fun hj => (exists_scope_iff rfl).trans ?_
      rw [h scope, hj]
      exact ScopeNotificationSettingsModel.toTdlib_muted_iff _
  | setScopeShowPreview scope showPreview =>
      refine forall_congr' fun j => forall_congr' fun hj => (exists_scope_iff rfl).trans ?_
      rw [h scope, hj]
      exact ScopeNotificationSettingsModel.toTdlib_preview_iff _
  | muteChat chatId durationSeconds =>
      refine forall_congr' fun j => forall_congr' fun _ => (exists_chat_iff rfl).trans ?_
      rw [ChatNotificationSettingsModel.toTdlib_muted_iff, storiesMuteFor_eq]
      exact Iff.rfl
  | unmuteChat chatId =>
      refine forall_congr' fun j => forall_congr' fun _ => (exists_chat_iff rfl).trans ?_
      rw [ChatNotificationSettingsModel.toTdlib_muted_iff, storiesMuteFor_eq]
      exact Iff.rfl
  | setChatShowPreview chatId showPreview =>
      refine forall_congr' fun j => forall_congr' fun _ => (exists_chat_iff rfl).trans ?_
      have hmodel : r.storiesMuteFor chatId (r.modelOf chatId).muteFor = r.storiesMuteFor chatId 0 := by
        rw [storiesMuteFor, storiesMuteFor, modelOf]
        cases r.manager.chatSettings chatId <;> rfl
      rw [ChatNotificationSettingsModel.toTdlib_preview_iff, storiesMuteFor_eq]
      change _ ∧ _ ↔ j.IsPlain (0 < r.storiesMuteFor chatId 0) ∧ _
      rw [← hmodel]
      exact Iff.rfl
  | _ => exact Iff.rfl

lemma follows_put (h : r.Follows) (scope : NotificationScopeKind) (settings : ScopeNotificationSettings)
    (scope' : NotificationScopeKind) : put scope (parseScope settings) r.manager.scopeSettings scope' =
      (put scope settings r.scopes scope').map parseScope := by
  rw [put_apply, put_apply]
  split_ifs
  · rfl
  · exact h scope'

/-- What the manager has of the scopes goes on to come from what was received. -/
lemma follows_step (h : r.Follows) (e : SettingsEvent) : (r.step e).Follows := by
  cases e with
  | scopeResponse scope settings => exact follows_put h scope settings
  | updateScopeNotificationSettings scope settings => exact follows_put h scope settings
  | chatResponse chatId settings => cases settings <;> exact h
  | ok isOwn => cases isOwn <;> exact h
  | error isOwn message => cases isOwn <;> exact h
  | _ => exact h

/-- **When a run leaves the other settings as they are**: exactly if all that it changes is plain. -/
theorem forall_frames_iff (events : List SettingsEvent) : Meets step Frames {} events ↔ Meets step Plain {} events :=
  meets_iff_meets (I := Follows) (fun _ e h => frames_iff h e) (fun _ e h _ => follows_step h e) (fun _ => rfl) events

/-- Settings with a sound of their own. -/
def withSound : ScopeNotificationSettings where
  muteFor := some 0
  soundId := some 7
  showPreview := some true
  useDefaultMuteStories := some true
  muteStories := some false
  storySoundId := some 0
  showStoryPoster := some true
  disablePinnedMessageNotifications := some false
  disableMentionNotifications := some false

/-- The user switches the previews off, and the sound of the notifications is gone. -/
theorem preview_drops_sound :
    let events := [.scopeResponse .privateChats withSound, .setScopeShowPreview .privateChats false]
    (events.foldl step {}).manager.sent = [.setScopeNotificationSettings .privateChats
        { withSound with showPreview := some false, soundId := some 0 }] ∧ ¬Meets step Frames {} events := by
  refine ⟨by decide, ?_⟩
  rw [forall_frames_iff]
  rintro ⟨-, hplain, -⟩
  exact nomatch (hplain withSound rfl).1.soundId

/-- A chat is muted and, when TDLib has said so, unmuted: its stories stay muted, which they were not. -/
theorem unmute_leaves_stories_muted :
    let j : ChatNotificationSettings := ChatNotificationSettingsModel.toTdlib {} none
    let muted : ChatNotificationSettings :=
      { j with useDefaultMuteFor := some false, muteFor := some notificationMuteForeverSeconds }
    (([.updateChatNotificationSettings 5 j, .muteChat 5 notificationMuteForeverSeconds,
        .updateChatNotificationSettings 5 muted, .unmuteChat 5] : List SettingsEvent).foldl step {}).manager.sent =
      [.setChatNotificationSettings 5 muted, .setChatNotificationSettings 5 { j with muteStories := some true }] := by
  decide

end SettingsRun

end RioGram.Notifications
