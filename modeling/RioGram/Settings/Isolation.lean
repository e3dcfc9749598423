import RioGram.Core.Reachable
import RioGram.Settings.Media
import RioGram.Settings.People

/-!
# Whose answers they are

The nine managers over the one stream of updates, from before the app is authorized on.  Every answer comes to all of
them, and each decides by the extra whether it is its own.

* `SettingsRun.forall_isolated_iff` — an answer to one of them leaves what the others show, except for errors: those
  that the manager of stickers hears of anyone, and those between the two whose extras begin alike.
-/

namespace RioGram.Settings

open Js Secret SecretChatManager Reaching

/-! ## The managers together -/

structure SettingsManagers where
  security : SecuritySettingsManager := {}
  securityPrivacy : SecurityPrivacyManager := {}
  sticker : StickerManager := {}
  profile : ProfileManager := {}
  contact : ContactManager := {}
  story : StoryManager := {}
  secret : SecretChatManager := {}
  session : SessionManager := {}
  privacy : PrivacySettingsManager := {}

inductive SecretChatCall where
  | createSecretChat (userId : ℤ)
  | loadSecretChat (secretChatId : ℤ)
  | closeSecretChat (secretChatId : ℤ)
  | setChatTtl (chatId : ℤ) (preset : SecretChatTtlPreset)

inductive SettingsCall where
  | security (call : SecuritySettingsCall)
  | securityPrivacy (call : SecurityPrivacyCall)
  | sticker (call : StickerCall)
  | profile (call : ProfileCall)
  | contact (call : ContactCall)
  | story (call : StoryCall)
  | secret (call : SecretChatCall)
  | session (call : SessionCall)
  | privacy (call : PrivacySettingsCall)

/-- What a manager shows as loading and saving, of all and of single users, and its errors. -/
structure Shown where
  flags : List Bool
  users : List (Finset ℤ) := []
  lastErrors : List (Option Str)
deriving DecidableEq

def callSecret (m : SecretChatManager) : SecretChatCall → SecretChatManager
  | .createSecretChat userId => m.createSecretChat userId
  | .loadSecretChat secretChatId => m.loadSecretChat secretChatId
  | .closeSecretChat secretChatId => m.closeSecretChat secretChatId
  | .setChatTtl chatId preset => m.setChatTtl chatId preset

def handleSecretUpdate (m : SecretChatManager) (extra : Option Str) : SettingsUpdate → SecretChatManager
  | .ok => m.handleOk extra
  | .error message => m.handleError extra message
  | .secretChat summary => m.handleSecretChatResponse extra summary
  | .updateSecretChat summary => m.applySecretChat summary
  | .chat _ _ _ => m.handleCreatedChat extra
  | _ => m

lemma handleSecretUpdate_of_other {m : SecretChatManager} {extra : Option Str} {update : SettingsUpdate}
    (h : begins extra "secret_" = false) (hreply : update.isReply) : handleSecretUpdate m extra update = m := by
  cases update with
  | ok => exact if_pos (by simp [h])
  | error message => exact if_pos (by simp [h])
  | _ => cases hreply

namespace SettingsManagers

variable (m : SettingsManagers)

def call : SettingsCall → SettingsManagers
  | .security c => { m with security := m.security.call c }
  | .securityPrivacy c => { m with securityPrivacy := m.securityPrivacy.call c }
  | .sticker c => { m with sticker := m.sticker.call c }
  | .profile c => { m with profile := m.profile.call c }
  | .contact c => { m with contact := m.contact.call c }
  | .story c => { m with story := m.story.call c }
  | .secret c => { m with secret := callSecret m.secret c }
  | .session c => { m with session := m.session.call c }
  | .privacy c => { m with privacy := m.privacy.call c }

/-- What the app does with the nine once it is authorized. -/
def onAuthorized (savedMessagesChatId : Option ℤ) : SettingsManagers :=
  { m with
    securityPrivacy := m.securityPrivacy.onAuthorized.startListening
    sticker := m.sticker.startListening
    privacy := m.privacy.startListening
    security := m.security.startListening
    story := (m.story.setSavedMessagesChatId savedMessagesChatId).loadMainStoryList
    profile := m.profile.loadOwnProfile
    contact := m.contact.loadContacts }

def handleUpdate (extra : Option Str) (update : SettingsUpdate) : SettingsManagers where
  security := m.security.handleUpdate extra update
  securityPrivacy := m.securityPrivacy.handleUpdate extra update
  sticker := m.sticker.handleUpdate extra update
  profile := m.profile.handleUpdate extra update
  contact := m.contact.handleUpdate extra update
  story := m.story.handleUpdate extra update
  secret := handleSecretUpdate m.secret extra update
  session := m.session.handleUpdate extra update
  privacy := m.privacy.handleUpdate extra update

def sent : SettingsOwner → List SettingsRequest
  | .security => m.security.sent.map .security
  | .securityPrivacy => m.securityPrivacy.sent.map .securityPrivacy
  | .sticker => m.sticker.sent.map .sticker
  | .profile => m.profile.sent.map .profile
  | .contact => m.contact.sent.map .contact
  | .story => m.story.sent.map .story
  | .secret => m.secret.sent.map .secret
  | .session => m.session.sent.map .session
  | .privacy => m.privacy.sent.map .privacy

def shown : SettingsOwner → Shown
  | .security => { flags := [m.security.isLoading, m.security.isSaving], lastErrors := [m.security.lastError] }
  | .securityPrivacy => { flags := [], lastErrors := [m.securityPrivacy.lastError] }
  | .sticker =>
      { flags := [m.sticker.isLoadingSets, m.sticker.isLoadingStickers, m.sticker.isSearching,
          m.sticker.isSearchingGifs]
        lastErrors := [m.sticker.lastError] }
  | .profile =>
      { flags := [m.profile.isLoadingOwn, m.profile.isSavingOwn, m.profile.isLoadingBlocked]
        users := [m.profile.loadingFullInfo, m.profile.loadingCommonChats]
        lastErrors := [m.profile.lastError] }
  | .contact =>
      { flags := [m.contact.isLoading, m.contact.isSearching, m.contact.isImporting]
        lastErrors := [m.contact.lastError] }
  | .story =>
      { flags := [m.story.isLoadingList, m.story.postState.isPosting]
        lastErrors := [m.story.lastError, m.story.postState.lastError] }
  | .secret => { flags := [m.secret.isCreating], lastErrors := [m.secret.lastError] }
  | .session => { flags := [m.session.isLoading, m.session.isTerminating], lastErrors := [m.session.lastError] }
  | .privacy => { flags := [m.privacy.isLoading, m.privacy.isSaving], lastErrors := [m.privacy.lastError] }

variable {m}

lemma owner_of_mem_sent {owner : SettingsOwner} {request : SettingsRequest} (h : request ∈ m.sent owner) :
    request.owner = owner := by
  cases owner <;> rcases List.mem_map.mp h with ⟨r, _, rfl⟩ <;> rfl

/-! ## Answers of others -/

/-- **A manager does not hear what does not begin like its own.** -/
lemma shown_of_not_begins {owner : SettingsOwner} {extra : Option Str} {update : SettingsUpdate}
    (howner : owner ≠ .sticker) (h : begins extra owner.start = false) (hreply : update.isReply) :
    (m.handleUpdate extra update).shown owner = m.shown owner := by
  cases owner with
  | security => simp only [shown, handleUpdate, SecuritySettingsManager.handleUpdate_of_other h hreply]
  | securityPrivacy => simp only [shown, handleUpdate, SecurityPrivacyManager.handleUpdate_of_other h hreply]
  | sticker => exact absurd rfl howner
  | profile => simp only [shown, handleUpdate, ProfileManager.handleUpdate_of_other h hreply]
  | contact => simp only [shown, handleUpdate, ContactManager.handleUpdate_of_other h hreply]
  | story => simp only [shown, handleUpdate, StoryManager.handleUpdate_of_other h hreply]
  | secret => simp only [shown, handleUpdate, handleSecretUpdate_of_other h hreply]
  | session => simp only [shown, handleUpdate, SessionManager.handleUpdate_of_other h hreply]
  | privacy => simp only [shown, handleUpdate, PrivacySettingsManager.handleUpdate_of_other h hreply]

/-- Only the one of stickers and those that share a prefix hear an answer to another one. -/
lemma shown_of_other {owner : SettingsOwner} {request : SettingsRequest} {update : SettingsUpdate}
    (hother : owner ≠ request.owner) (hsticker : owner ≠ .sticker)
    (hsecurity : ¬(owner.isSecurity = true ∧ request.owner.isSecurity = true)) (hreply : update.isReply) :
    (m.handleUpdate (some request.extra) update).shown owner = m.shown owner := by
  refine shown_of_not_begins hsticker ?_ hreply
  rw [Bool.eq_false_iff]
  intro hbegins
  rcases owner_of_begins hbegins with howner | howner | howner
  · exact hother howner
  · exact hsticker howner
  · exact hsecurity howner

/-! ### The password and the privacy of the app -/

lemma begins_security (request : SecurityRequest) : begins (some request.extra) "security_" = true :=
  List.isPrefixOf_iff_prefix.mpr (SettingsRequest.security request).begins_with_stem

lemma begins_securityPrivacy (request : SecurityPrivacyRequest) : begins (some request.extra) "security_" = true :=
  List.isPrefixOf_iff_prefix.mpr (SettingsRequest.securityPrivacy request).begins_with_stem

lemma extra_ne_setPassword (request : SecurityPrivacyRequest) : request.extra ≠ ascii "security_set_password" := by
  cases request with
  | disableSponsored => decide
  | premiumLimit feature => cases feature <;> decide

lemma extra_ne_disableSponsored (request : SecurityRequest) :
    request.extra ≠ ascii "security_privacy_disable_sponsored" := by
  cases request <;> decide

lemma shown_security_error (request : SecurityPrivacyRequest) (message : Option Str) :
    (m.handleUpdate (some request.extra) (.error message)).shown .security =
      { flags := [false, false], lastErrors := [some (message.getD (units "Ошибка пароля"))] } := by
  simp [shown, handleUpdate, SecuritySettingsManager.handleUpdate, SecuritySettingsManager.handleError,
    begins_securityPrivacy]

lemma shown_securityPrivacy_error (request : SecurityRequest) (message : Option Str) :
    (m.handleUpdate (some request.extra) (.error message)).shown .securityPrivacy =
      { flags := [], lastErrors := [some (message.getD (units "Ошибка настроек приватности"))] } := by
  simp [shown, handleUpdate, SecurityPrivacyManager.handleUpdate, SecurityPrivacyManager.handleError, begins_security,
    extra_ne_disableSponsored]

lemma shown_sticker_error (extra : Str) (message : Option Str) :
    (m.handleUpdate (some extra) (.error message)).shown .sticker =
      { flags := [false, false, false, false], lastErrors := [some (message.getD (units "Ошибка стикеров"))] } :=
  rfl

/-- Those that take an error to a request of `owner` for their own show it already: the manager of stickers takes any,
and the ones of the password and of the privacy of the app take those of each other, but for one. -/
structure ErrorKnown (m : SettingsManagers) (owner : SettingsOwner) (message : Option Str) : Prop where
  sticker : owner ≠ .sticker → m.shown .sticker =
    { flags := [false, false, false, false], lastErrors := [some (message.getD (units "Ошибка стикеров"))] }
  security : owner = .securityPrivacy → m.shown .security =
    { flags := [false, false], lastErrors := [some (message.getD (units "Ошибка пароля"))] }
  securityPrivacy : owner = .security → m.shown .securityPrivacy =
    { flags := [], lastErrors := [some (message.getD (units "Ошибка настроек приватности"))] }

/-- **Whom an error reaches.** -/
lemma shown_error_iff {request : SettingsRequest} {message : Option Str} :
    (∀ owner, owner ≠ request.owner →
      (m.handleUpdate (some request.extra) (.error message)).shown owner = m.shown owner) ↔
    m.ErrorKnown request.owner message := by
  constructor
  · intro h
    refine ⟨fun howner => ?_, fun howner => ?_, fun howner => ?_⟩
    · rw [← h .sticker howner.symm]
      exact shown_sticker_error _ message
    · cases request with
      | securityPrivacy request =>
          rw [← h .security nofun]
          exact shown_security_error request message
      | _ => cases howner
    · cases request with
      | security request =>
          rw [← h .securityPrivacy nofun]
          exact shown_securityPrivacy_error request message
      | _ => cases howner
  · intro hknown owner hother
    cases owner with
    | sticker =>
        rw [hknown.sticker hother.symm]
        exact shown_sticker_error _ message
    | security =>
        cases request with
        | securityPrivacy request =>
            rw [hknown.security rfl]
            exact shown_security_error request message
        | security request => exact absurd rfl hother
        | _ => exact shown_of_other hother (by decide) (fun h => Bool.false_ne_true h.2) rfl
    | securityPrivacy =>
        cases request with
        | security request =>
            rw [hknown.securityPrivacy rfl]
            exact shown_securityPrivacy_error request message
        | securityPrivacy request => exact absurd rfl hother
        | _ => exact shown_of_other hother (by decide) (fun h => Bool.false_ne_true h.2) rfl
    | _ => exact shown_of_other hother (by decide) (fun h => Bool.false_ne_true h.1) rfl

/-- **`ok` is heard by whom it answers alone.** -/
lemma shown_ok {owner : SettingsOwner} {request : SettingsRequest} (hother : owner ≠ request.owner) :
    (m.handleUpdate (some request.extra) .ok).shown owner = m.shown owner := by
  -- Neither the manager of stickers nor the one of the privacy of the app looks at `ok`.
  cases owner with
  | sticker => rfl
  | securityPrivacy => rfl
  | security =>
      cases request with
      | securityPrivacy request =>
          have hself : m.security.handleUpdate (some request.extra) .ok = m.security :=
            if_pos (by simp [extra_ne_setPassword])
          simp only [shown, handleUpdate, SettingsRequest.extra, hself]
      | security request => exact absurd rfl hother
      | _ => exact shown_of_other hother (by decide) (fun h => Bool.false_ne_true h.2) rfl
  | _ => exact shown_of_other hother (by decide) (fun h => Bool.false_ne_true h.1) rfl

end SettingsManagers

/-! ## Runs -/

structure SettingsRun where
  managers : SettingsManagers := {}
  isListening : Bool := false
  /-- Whose requests have been answered, and which of theirs. -/
  answered : List (SettingsOwner × ℕ) := []

inductive SettingsEvent where
  | call (call : SettingsCall)
  | authorized (savedMessagesChatId : Option ℤ)
  /-- The answer to a request of one of the nine that has none yet. -/
  | answer (owner : SettingsOwner) (i : ℕ) (update : SettingsUpdate)
  /-- An update that answers none of them. -/
  | update (extra : Option Str) (update : SettingsUpdate)

namespace SettingsRun

variable (r : SettingsRun)

/-- The request if it is not answered. -/
def unanswered (owner : SettingsOwner) (i : ℕ) : Option SettingsRequest :=
  if (owner, i) ∈ r.answered then none else (r.managers.sent owner)[i]?

/-- An update comes to the managers, if they listen. -/
def hear (extra : Option Str) (update : SettingsUpdate) : SettingsRun :=
  if r.isListening then { r with managers := r.managers.handleUpdate extra update } else r

def step (r : SettingsRun) : SettingsEvent → SettingsRun
  | .call c => { r with managers := r.managers.call c }
  | .authorized savedMessagesChatId =>
      { r with managers := r.managers.onAuthorized savedMessagesChatId, isListening := true }
  | .answer owner i update =>
      match r.unanswered owner i with
      | none => r
      | some request => { r.hear (some request.extra) update with answered := (owner, i) :: r.answered }
  | .update extra update => r.hear extra update

/-- **An answer that is no result leaves what the others show.** -/
def Isolated : SettingsEvent → Prop
  | .answer owner i update =>
      update.isReply → ∀ request, r.unanswered owner i = some request → ∀ other, other ≠ owner →
        (r.step (.answer owner i update)).managers.shown other = r.managers.shown other
  | _ => True

/-- No error comes that another manager takes for its own, unless that shows it already. -/
def TakenByOwn : SettingsEvent → Prop
  | .answer owner i (.error message) =>
      r.isListening → (r.unanswered owner i).isSome → r.managers.ErrorKnown owner message
  | _ => True

variable {r}

lemma owner_of_unanswered {owner : SettingsOwner} {i : ℕ} {request : SettingsRequest}
    (h : r.unanswered owner i = some request) : request.owner = owner := by
  rw [unanswered] at h
  split_ifs at h
  exact SettingsManagers.owner_of_mem_sent (List.mem_of_getElem? h)

lemma managers_answer {owner : SettingsOwner} {i : ℕ} {request : SettingsRequest}
    (h : r.unanswered owner i = some request) (update : SettingsUpdate) :
    (r.step (.answer owner i update)).managers =
      if r.isListening then r.managers.handleUpdate (some request.extra) update else r.managers := by
  simp only [step, h, hear]
  split_ifs <;> rfl

lemma isolated_answer_iff {owner : SettingsOwner} {i : ℕ} {request : SettingsRequest}
    (h : r.unanswered owner i = some request) {update : SettingsUpdate} (hreply : update.isReply) :
    r.Isolated (.answer owner i update) ↔ (r.isListening → ∀ other, other ≠ request.owner →
      (r.managers.handleUpdate (some request.extra) update).shown other = r.managers.shown other) := by
  rw [Isolated, managers_answer h, owner_of_unanswered h]
  constructor
  · intro hisolated hlistening
    simpa only [if_pos hlistening] using hisolated hreply request h
  · intro hisolated _ _ _ other hother
    split_ifs with hlistening
    · exact hisolated hlistening other hother
    · rfl

/-- **When a step leaves the others.** -/
lemma isolated_iff (e : SettingsEvent) : r.Isolated e ↔ r.TakenByOwn e := by
  cases e with
  | answer owner i update =>
      cases hrequest : r.unanswered owner i with
      | none =>
          have hnone : r.Isolated (.answer owner i update) := fun _ request hsome => by
            rw [hrequest] at hsome
            cases hsome
          cases update with
          | error message => exact iff_of_true hnone fun _ hsome => by simp [hrequest] at hsome
          | _ => exact iff_of_true hnone trivial
      | some request =>
          cases owner_of_unanswered hrequest
          cases update with
          | error message =>
              rw [isolated_answer_iff hrequest rfl, TakenByOwn, hrequest]
              refine forall_congr' fun _ => SettingsManagers.shown_error_iff.trans ?_
              exact ⟨fun hknown _ => hknown, fun hknown => hknown rfl⟩
          | ok =>
              rw [isolated_answer_iff hrequest rfl]
              exact iff_of_true (fun _ other hother => SettingsManagers.shown_ok hother) trivial
          | _ => exact iff_of_true (fun hreply => nomatch hreply) trivial
  | _ => exact Iff.rfl

/-- **When the answers are isolated.**  All along a run an answer leaves what the others show exactly if all the errors
of the run are taken by those whose they are. -/
theorem forall_isolated_iff (events : List SettingsEvent) :
    Meets step Isolated {} events ↔ Meets step TakenByOwn {} events :=
  meets_iff_meets (I := fun _ => True) (fun _ e _ => isolated_iff e) (fun _ _ _ _ => trivial) trivial events

/-- The user of an account without Premium searches for GIFs and blocks advertisements. -/
def blockingAds : List SettingsEvent :=
  [.authorized none, .answer .sticker 3 (.chat (some 5) [] 0), .call (.sticker .searchGifs),
    .call (.securityPrivacy (.setBlockAdsEnabled true)), .call (.securityPrivacy .stored)]

/-- TDLib refuses to hide sponsored messages. -/
def premiumRequired : SettingsEvent := .answer .securityPrivacy 2 (.error (some (ascii "PREMIUM_ACCOUNT_REQUIRED")))

/-- The expected error is shown as one of the password, and ends the search. -/
theorem sponsored_error_shown :
    ¬Meets step Isolated {} (blockingAds ++ [premiumRequired]) ∧
      (blockingAds.foldl step {}).managers.sticker.isSearchingGifs = true ∧
      ((blockingAds ++ [premiumRequired]).foldl step {}).managers.sticker.isSearchingGifs = false ∧
      (blockingAds.foldl step {}).managers.security.lastError = none ∧
      ((blockingAds ++ [premiumRequired]).foldl step {}).managers.security.lastError =
        some (ascii "PREMIUM_ACCOUNT_REQUIRED") := by
  refine ⟨fun h => ?_, by decide +kernel, by decide +kernel, by decide +kernel, by decide +kernel⟩
  have hlast : Isolated (blockingAds.foldl step {}) premiumRequired := h.2.2.2.2.2.1
  have hsame := hlast rfl (.securityPrivacy .disableSponsored) (by decide +kernel) .security (by decide)
  exact absurd hsame (by decide +kernel)

end SettingsRun

end RioGram.Settings
