import RioGram.Chats.Models
import RioGram.Notifications.Settings

/-!
# Whether to notify, and with which text

The settings of a chat stand before those of its kind, and these before the built-in ones.

* `DecidesRight` — a chat without settings is one with the default settings, hidden texts are not shown, and a chat
  that is not muted any more is notified about.
* `decidesRight_iff` — when it is so; `absent_settings_reveal` — a chat without settings shows its texts.
-/

namespace RioGram.Notifications

open Js PartialMap NotificationSettingsJson

/-! ## Settings -/

def ScopeNotificationSettingsModel.isMuted (m : ScopeNotificationSettingsModel) : Bool := 0 < m.muteFor

namespace ChatNotificationSettingsModel

variable (m : ChatNotificationSettingsModel) (scope : Option ScopeNotificationSettingsModel)

def isMuted : Bool := if m.useDefaultMuteFor then (scope.map (·.isMuted)).getD false else 0 < m.muteFor

def effectiveShowPreview : Bool :=
  if m.useDefaultShowPreview then (scope.map (·.showPreview)).getD true else m.showPreview

/-- The chat has nothing of its own, whatever stands in the other fields. -/
def UsesDefaults : Prop := m.useDefaultMuteFor ∧ m.useDefaultShowPreview ∧ m.useDefaultSound

variable {m}

lemma isMuted_of_default (h : m.useDefaultMuteFor) : m.isMuted scope = (scope.map (·.isMuted)).getD false := if_pos h

lemma effectiveShowPreview_of_default (h : m.useDefaultShowPreview) :
    m.effectiveShowPreview scope = (scope.map (·.showPreview)).getD true := if_pos h

end ChatNotificationSettingsModel

def scopeForChatKind : Chats.ChatKind → NotificationScopeKind
  | .channel => .channelChats
  | .group => .groupChats
  | _ => .privateChats

/-- What is shown in place of a text. -/
def placeholder : Str := units "Новое сообщение"

namespace NotificationSettingsManager

variable (m : NotificationSettingsManager) (chatId : ℤ) (kind : Chats.ChatKind) (isMention : Bool) (preview : Str)

def scopeFor : Option ScopeNotificationSettingsModel := m.scopeSettings (scopeForChatKind kind)

def shouldNotify : Bool :=
  if (((m.chatSettings chatId).map (·.isMuted (m.scopeFor kind))).or
      ((m.scopeFor kind).map (·.isMuted))).getD false then false
  else if isMention && ((m.scopeFor kind).map (·.disableMentionNotifications)).getD false then false
  else true

def notificationBody : Str :=
  if ((m.chatSettings chatId).map (·.effectiveShowPreview (m.scopeFor kind))).getD true then preview else placeholder

/-! ## What the decisions should be -/

/-- The settings of the kind hide texts. -/
def HidesPreviews : Prop := ∃ scope, m.scopeFor kind = some scope ∧ scope.showPreview = false

/-- The chat has a setting for texts of its own. -/
def OverridesPreview : Prop :=
  ∃ settings, m.chatSettings chatId = some settings ∧ settings.useDefaultShowPreview = false

/-- Absent settings are default settings, hidden texts are not shown, and what TDLib has from `unmuteChat` makes for a
notification.  Between the operation and the update for it the manager may have changed in any way. -/
structure DecidesRight : Prop where
  asDefaults : m.chatSettings chatId = none → ∀ (other : NotificationSettingsManager) (otherId : ℤ),
    other.scopeSettings = m.scopeSettings → ∀ settings, other.chatSettings otherId = some settings →
      settings.UsesDefaults → m.shouldNotify chatId kind isMention = other.shouldNotify otherId kind isMention ∧
        m.notificationBody chatId kind preview = other.notificationBody otherId kind preview
  hidden : m.HidesPreviews kind → ¬m.OverridesPreview chatId → m.notificationBody chatId kind preview = placeholder
  unmuted : ∀ (sender : NotificationSettingsManager) (settings : ChatNotificationSettings),
    (sender.unmuteChat chatId).sent = sender.sent ++ [.setChatNotificationSettings chatId settings] →
      (m.handleChatNotificationUpdate chatId settings).shouldNotify chatId kind isMention = true

/-! ## When they are -/

variable {m chatId kind isMention preview}

lemma shouldNotify_eq_true_iff : m.shouldNotify chatId kind isMention = true ↔
    (((m.chatSettings chatId).map (·.isMuted (m.scopeFor kind))).or
      ((m.scopeFor kind).map (·.isMuted))).getD false = false ∧
    (isMention → ((m.scopeFor kind).map (·.disableMentionNotifications)).getD false = false) := by
  rw [shouldNotify]
  cases (((m.chatSettings chatId).map (·.isMuted (m.scopeFor kind))).or
      ((m.scopeFor kind).map (·.isMuted))).getD false with
  | false => cases isMention <;> simp
  | true => simp

/-- Default settings decide as absent ones do. -/
lemma shouldNotify_of_defaults {other : NotificationSettingsManager} {otherId : ℤ}
    {settings : ChatNotificationSettingsModel} (habsent : m.chatSettings chatId = none)
    (hscopes : other.scopeSettings = m.scopeSettings) (hstored : other.chatSettings otherId = some settings)
    (hdefaults : settings.UsesDefaults) :
    m.shouldNotify chatId kind isMention = other.shouldNotify otherId kind isMention := by
  have hscope : other.scopeFor kind = m.scopeFor kind := congrFun hscopes _
  rw [shouldNotify, shouldNotify, habsent, hstored, hscope, Option.map_some,
    ChatNotificationSettingsModel.isMuted_of_default _ hdefaults.1]
  cases m.scopeFor kind <;> rfl

lemma notificationBody_of_absent (habsent : m.chatSettings chatId = none) :
    m.notificationBody chatId kind preview = preview := by
  rw [notificationBody, habsent]
  rfl

lemma notificationBody_of_default {settings : ChatNotificationSettingsModel}
    (hstored : m.chatSettings chatId = some settings) (hdefault : settings.useDefaultShowPreview) :
    m.notificationBody chatId kind preview =
      if ((m.scopeFor kind).map (·.showPreview)).getD true then preview else placeholder := by
  rw [notificationBody, hstored, Option.map_some, Option.getD_some,
    ChatNotificationSettingsModel.effectiveShowPreview_of_default _ hdefault]

lemma showPreview_eq_false_iff : ((m.scopeFor kind).map (·.showPreview)).getD true = false ↔ m.HidesPreviews kind := by
  rw [HidesPreviews]
  cases m.scopeFor kind <;> simp

/-- The text of a chat with a default setting is hidden with those of its kind. -/
lemma notificationBody_of_hidden {settings : ChatNotificationSettingsModel}
    (hstored : m.chatSettings chatId = some settings) (hdefault : settings.useDefaultShowPreview)
    (hhides : m.HidesPreviews kind) : m.notificationBody chatId kind preview = placeholder := by
  rw [notificationBody_of_default hstored hdefault, showPreview_eq_false_iff.mpr hhides]
  rfl

/-- What `unmuteChat` sends has the default setting again. -/
lemma unmuteChat_settings {sender : NotificationSettingsManager} {settings : ChatNotificationSettings}
    (h : (sender.unmuteChat chatId).sent = sender.sent ++ [.setChatNotificationSettings chatId settings]) :
    (parseChat settings).useDefaultMuteFor = true := by
  have hsettings := List.append_cancel_left h
  rw [List.singleton_inj, SettingsRequest.setChatNotificationSettings.injEq] at hsettings
  rw [← hsettings.2]
  rfl

lemma shouldNotify_of_unmuted {settings : ChatNotificationSettings}
    (h : (parseChat settings).useDefaultMuteFor = true) :
    (m.handleChatNotificationUpdate chatId settings).shouldNotify chatId kind isMention = true ↔
      ∀ scope, m.scopeFor kind = some scope → scope.isMuted = false ∧
        (isMention → scope.disableMentionNotifications = false) := by
  have hstored : (m.handleChatNotificationUpdate chatId settings).chatSettings chatId = some (parseChat settings) :=
    if_pos rfl
  have hscope : (m.handleChatNotificationUpdate chatId settings).scopeFor kind = m.scopeFor kind := rfl
  rw [shouldNotify_eq_true_iff, hstored, hscope, Option.map_some,
    ChatNotificationSettingsModel.isMuted_of_default _ h]
  cases m.scopeFor kind <;> simp

/-- **When the decisions are right**: a chat without settings is in a kind whose texts are shown, or its text is the
placeholder itself, and the kind is not muted, nor are its mentions. -/
theorem decidesRight_iff (m : NotificationSettingsManager) (chatId : ℤ) (kind : Chats.ChatKind) (isMention : Bool)
    (preview : Str) : m.DecidesRight chatId kind isMention preview ↔
      (m.chatSettings chatId = none → m.HidesPreviews kind → preview = placeholder) ∧
      ∀ scope, m.scopeFor kind = some scope → scope.isMuted = false ∧
        (isMention → scope.disableMentionNotifications = false) := by
  constructor
  · intro h
    refine ⟨fun habsent hhides => ?_, ?_⟩
    · have hplain : ¬m.OverridesPreview chatId := by
        rintro ⟨settings, hstored, -⟩
        rw [habsent] at hstored
        cases hstored
      exact (notificationBody_of_absent habsent).symm.trans (h.hidden hhides hplain)
    · exact (shouldNotify_of_unmuted rfl).mp (h.unmuted m _ rfl)
  · rintro ⟨hpreview, hscope⟩
    refine ⟨?_, ?_, ?_⟩
    · intro habsent other otherId hscopes settings hstored hdefaults
      refine ⟨shouldNotify_of_defaults habsent hscopes hstored hdefaults, ?_⟩
      have hkind : other.scopeFor kind = m.scopeFor kind := congrFun hscopes _
      rw [notificationBody_of_absent habsent, notificationBody_of_default hstored hdefaults.2.1, hkind]
      split_ifs with hshows
      · rfl
      · exact hpreview habsent (showPreview_eq_false_iff.mp (Bool.eq_false_iff.mpr hshows))
    · intro hhides hplain
      cases hstored : m.chatSettings chatId with
      | none => rw [notificationBody_of_absent hstored, hpreview hstored hhides]
      | some settings =>
          refine notificationBody_of_hidden hstored ?_ hhides
          by_contra hown
          exact hplain ⟨settings, hstored, Bool.eq_false_iff.mpr hown⟩
    · intro sender settings hsent
      exact (shouldNotify_of_unmuted (unmuteChat_settings hsent)).mpr hscope

/-- Settings that hide texts. -/
def hidingScope : ScopeNotificationSettings := ScopeNotificationSettingsModel.toTdlib { showPreview := false } none

/-- Settings that mute. -/
def mutingScope : ScopeNotificationSettings :=
  ScopeNotificationSettingsModel.toTdlib { muteFor := notificationMuteForeverSeconds } none

/-- Texts are hidden, and a chat for which no settings have come shows its own; and a chat in a muted kind stays
muted by `unmuteChat`. -/
theorem absent_settings_reveal :
    let hidden := NotificationSettingsManager.step {} (.scopeResponse .privateChats hidingScope)
    let muted := NotificationSettingsManager.step {} (.scopeResponse .groupChats mutingScope)
    hidden.notificationBody 5 .privateChat (units "secret") = units "secret" ∧
      ¬hidden.DecidesRight 5 .privateChat false (units "secret") ∧ ¬muted.DecidesRight 5 .group false [] := by
  refine ⟨by decide, fun h => ?_, fun h => ?_⟩
  · have hbody := h.hidden ⟨_, rfl, rfl⟩ (by rintro ⟨settings, hstored, -⟩; cases hstored)
    exact absurd hbody (by decide)
  · have hnotify := h.unmuted {} _ rfl
    exact absurd hnotify (by decide)

end NotificationSettingsManager

end RioGram.Notifications
