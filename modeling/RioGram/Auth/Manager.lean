import RioGram.Core.Quoted
import RioGram.Core.Reachable
import RioGram.Js.Strings

/-!
# The manager of the authorization

The state of `AuthManager`, what it does with updates of TDLib and with what the user submits, and how its own start and
its own timeout end.  Every error that TDLib answers any request of the program with comes to it.  `sent` has the
requests that it sends itself.

* `ownsPhase_iff` — the steps in which an error of another component does nothing.
* `forall_ownsPhase_iff` — the runs of which all steps are so.
-/

namespace RioGram.Auth

open Js Quoted Reaching

inductive AuthPhase where
  | initializing
  | waitPhoneNumber
  | waitCode
  | waitPassword
  | waitQrConfirmation
  | waitRegistration
  | waitEmailAddress
  | waitEmailCode
  | ready
  | error
deriving DecidableEq

structure RegistrationTerms where
  text : Str
  minUserAge : ℤ := 0
  showPopup : Bool := false
deriving DecidableEq

/-- The states of the authorization in TDLib; `other` are those that the manager only remembers. -/
inductive AuthorizationState where
  | waitPhoneNumber
  | waitCode
  | waitPassword
  | waitOtherDeviceConfirmation (link : Option Str)
  | waitEmailAddress
  | waitEmailCode
  | waitRegistration (terms : RegistrationTerms)
  | ready
  | closing
  | closed
  | other (type : Option Str)
deriving DecidableEq

inductive AuthRequest where
  | getAuthorizationState
  | setAuthenticationPhoneNumber (phoneNumber : Str)
  | requestQrCodeAuthentication
  | checkAuthenticationEmailCode (code : Str)
  | checkAuthenticationCode (code : Str)
  | checkAuthenticationPassword (password : Str)
  | setAuthenticationEmailAddress (emailAddress : Str)
  | registerUser (firstName lastName : Str) (disableNotification : Bool)
  | resendAuthenticationCode
  | logOut
deriving DecidableEq

/-- The tag of a request: most have none. -/
def AuthRequest.extra : AuthRequest → Option Str
  | getAuthorizationState => some (ascii "auth_getState")
  | requestQrCodeAuthentication => some (ascii "auth_qr_request")
  | _ => none

structure AuthManager where
  isWeb : Bool := false
  phase : AuthPhase := .initializing
  errorMessage : Option Str := none
  phoneNumber : Option Str := none
  qrConfirmationLink : Option Str := none
  registrationTerms : Option RegistrationTerms := none
  pendingEmailAddress : Option Str := none
  isInitializing : Bool := false
  isAuthRequestInProgress : Bool := false
  initialized : Bool := false
  needsWebStorageReset : Bool := false
  lastAuthorizationState : Option AuthorizationState := none
  authTimeoutTimer : Bool := false
  sent : List AuthRequest := []

inductive AuthEvent where
  | startInitialize
  /-- The rest of `initialize` comes to its end, or fails. -/
  | initializeEnds (failure : Option Str)
  | resetWebStorageAndInitialize
  /-- The storage is cleared, or that fails. -/
  | resetEnds (failure : Option Str)
  | submitPhoneNumber (phoneNumber : Str)
  | requestQrCodeAuthentication
  | submitCode (code : Str)
  | submitPassword (password : Str)
  | submitEmailAddress (email : Str)
  | registerUser (firstName lastName : Str) (disableNotification : Bool)
  | resendAuthenticationCode
  | logOut
  /-- The timer of a request is over; the hint is what the text says of the proxy of the system. -/
  | authTimeout (systemHint : Str)
  | updateFatalError (error : Option Str)
  | updateAuthorizationState (state : AuthorizationState)
  /-- A state as the answer to a request. -/
  | authorizationState (state : AuthorizationState) (extra : Option Str)
  /-- An error.  Whether the manager has sent the request itself that it answers is not in the update. -/
  | error (isOwn : Bool) (extra message : Option Str)

/-! ## Messages -/

section Messages

variable (toLowerCase : Str → Str)

def isTdlibDatabaseCorruptionMessage (message : Option Str) : Bool :=
  match message with
  | none => false
  | some message =>
      let contains := fun text => (indexOf (toLowerCase message) (ascii text)).isSome
      !message.isEmpty && (contains "crc mismatch" || contains "failed to validate binlog" ||
        contains "binlog.cpp" || (contains "binlog" && contains "failed"))

def tdlibDatabaseCorruptionUserMessage : Str :=
  units "Локальная база TDLib в браузере повреждена. Сбросьте локальные данные и войдите снова — переписка на " ++
    units "сервере Telegram сохранится."

def formatAuthErrorMessage (raw : Option Str) : Str :=
  if isTdlibDatabaseCorruptionMessage toLowerCase raw then tdlibDatabaseCorruptionUserMessage
  else raw.getD (units "Ошибка инициализации")

end Messages

/-- What the tags of requests begin with that are not of the authorization. -/
def nonAuthPrefixes : List Str :=
  [ascii "ping_", ascii "addProxy_", ascii "enableProxy_", ascii "disableProxy_", ascii "openChat_",
    ascii "getChatHistory_", ascii "getChatHistoryLocal_", ascii "forumTopicHistory_", ascii "forumTopics_",
    ascii "viewMessages_", ascii "chatInfo_", ascii "messageThread_", ascii "searchChats_", ascii "searchMessages_",
    ascii "newChatSearch_", ascii "newChatSearchLocal_", ascii "newChatPublic_", ascii "autoDownloadPresets_",
    ascii "storageStats_", ascii "optimizeStorage_", ascii "createSupergroup_", ascii "createBasicGroup_",
    ascii "upgradeBasicGroup_", ascii "joinChat_", ascii "joinInvite_", ascii "createPrivateChat_",
    ascii "createForumTopic_", ascii "story_load_", ascii "story_active_", ascii "story_get_", ascii "story_open_",
    ascii "story_close_", ascii "story_post_", ascii "story_reaction_", ascii "story_reply_", ascii "story_chat_",
    ascii "story_reactions", ascii "story_can_post_", ascii "sessions_", ascii "phone_change_"]

def isBenignAuthError (message : Str) : Bool := message = ascii "Another authorization query has started"

namespace AuthManager

variable (toLowerCase : Str → Str) (m : AuthManager)

def send (request : AuthRequest) : AuthManager := { m with sent := m.sent ++ [request] }

def setAuthError (raw : Option Str) : AuthManager :=
  { m with
    needsWebStorageReset := isTdlibDatabaseCorruptionMessage toLowerCase raw
    errorMessage := some (formatAuthErrorMessage toLowerCase raw) }

/-! ## Start -/

def beginInitializing : AuthManager :=
  { m with isInitializing := true, phase := .initializing, errorMessage := none, needsWebStorageReset := false }

/-- `initialize` up to where it waits. -/
def startInitialize : AuthManager :=
  if m.isInitializing then m
  else if m.initialized then { m.beginInitializing.send .getAuthorizationState with isInitializing := false }
  else m.beginInitializing

def initializeEnds (failure : Option Str) : AuthManager :=
  match failure with
  | none => { m with initialized := true, isInitializing := false }
  | some error => { { m with phase := .error }.setAuthError toLowerCase (some error) with isInitializing := false }

def resetWebStorageAndInitialize : AuthManager :=
  if !m.isWeb || m.isInitializing then m else m.beginInitializing

def resetEnds (failure : Option Str) : AuthManager :=
  let m := match failure with
    | none => { m with initialized := false, isInitializing := false }
    | some error => { { m with phase := .error }.setAuthError toLowerCase (some error) with isInitializing := false }
  if m.phase = .error then m else m.startInitialize

/-! ## Requests -/

def beginAuthRequest : AuthManager :=
  { m with isAuthRequestInProgress := true, errorMessage := none, authTimeoutTimer := true }

def submitPhoneNumber (phoneNumber : Str) : AuthManager :=
  if m.isAuthRequestInProgress ∨ m.phase ≠ .waitPhoneNumber then m
  else
    { m.beginAuthRequest with phoneNumber := some (trimDart phoneNumber) }.send
      (.setAuthenticationPhoneNumber (trimDart phoneNumber))

def requestQrCodeAuthentication : AuthManager :=
  if m.isAuthRequestInProgress ∨ m.phase ≠ .waitPhoneNumber then m
  else m.beginAuthRequest.send .requestQrCodeAuthentication

def submitCode (code : Str) : AuthManager :=
  if m.isAuthRequestInProgress ∨ m.phase ≠ .waitCode ∧ m.phase ≠ .waitEmailCode then m
  else if m.phase = .waitEmailCode then m.beginAuthRequest.send (.checkAuthenticationEmailCode (trimDart code))
  else m.beginAuthRequest.send (.checkAuthenticationCode (trimDart code))

def submitPassword (password : Str) : AuthManager :=
  if m.isAuthRequestInProgress ∨ m.phase ≠ .waitPassword then m
  else m.beginAuthRequest.send (.checkAuthenticationPassword password)

def submitEmailAddress (email : Str) : AuthManager :=
  if m.isAuthRequestInProgress ∨ m.phase ≠ .waitEmailAddress then m
  else
    { m.beginAuthRequest with pendingEmailAddress := some (trimDart email) }.send
      (.setAuthenticationEmailAddress (trimDart email))

def registerUser (firstName lastName : Str) (disableNotification : Bool) : AuthManager :=
  if m.isAuthRequestInProgress ∨ m.phase ≠ .waitRegistration then m
  else m.beginAuthRequest.send (.registerUser (trimDart firstName) (trimDart lastName) disableNotification)

def resendAuthenticationCode : AuthManager :=
  if m.isAuthRequestInProgress then m else m.send .resendAuthenticationCode

def authTimeout (systemHint : Str) : AuthManager :=
  if m.authTimeoutTimer then
    if m.isAuthRequestInProgress then
      { m with
        authTimeoutTimer := false
        isAuthRequestInProgress := false
        phase := .error
        errorMessage := some (units "Таймаут запроса (45 с)." ++ (systemHint ++
          units (" Проверьте PhantomProxy/StealthGate на VPS и доступность портов 15443/14443 " ++
            "(в релизе — адреса из .env)."))) }
    else { m with authTimeoutTimer := false }
  else m

/-! ## Updates -/

/-- What an answer ends: the request and its timer. -/
def endAuthRequest : AuthManager := { m with authTimeoutTimer := false, isAuthRequestInProgress := false }

def handleFatalError (error : Option Str) : AuthManager :=
  { m.endAuthRequest with phase := .error }.setAuthError toLowerCase
    (some (error.getD (units "Фатальная ошибка TDLib (WebAssembly)")))

def handleAuthorizationState (state : AuthorizationState) : AuthManager :=
  let m := { m.endAuthRequest with errorMessage := none, lastAuthorizationState := some state }
  match state with
  | .waitPhoneNumber => { m with phase := .waitPhoneNumber, qrConfirmationLink := none }
  | .waitCode => { m with phase := .waitCode }
  | .waitPassword => { m with phase := .waitPassword }
  | .waitOtherDeviceConfirmation link => { m with phase := .waitQrConfirmation, qrConfirmationLink := link }
  | .waitEmailAddress => { m with phase := .waitEmailAddress }
  | .waitEmailCode => { m with phase := .waitEmailCode }
  | .waitRegistration terms => { m with phase := .waitRegistration, registrationTerms := some terms }
  | .ready => { m with phase := .ready, qrConfirmationLink := none }
  | .closing => { m with phase := .waitPhoneNumber }
  | .closed =>
      { m with
        phase := .waitPhoneNumber
        qrConfirmationLink := none
        registrationTerms := none
        pendingEmailAddress := none }
  | .other _ => m

def isOther : AuthorizationState → Bool
  | .other _ => true
  | _ => false

/-- A state as an answer, which is looked at if the manager has asked for it. -/
def handleStateReply (state : AuthorizationState) (extra : Option Str) : AuthManager :=
  if !isOther state && extra = some (ascii "auth_getState") then m.handleAuthorizationState state else m

def shouldTreatAsAuthError (extra : Option Str) : Bool :=
  if m.phase = .ready then false
  else
    match extra with
    | none => true
    | some extra =>
        if extra = ascii "auth_getState" ∨ extra = ascii "auth_qr_request" then true
        else !nonAuthPrefixes.any fun start => start.isPrefixOf extra

def messageOf (message : Option Str) : Str := message.getD (units "Неизвестная ошибка TDLib")

def handleError (extra message : Option Str) : AuthManager :=
  if !m.shouldTreatAsAuthError extra then m
  else if isBenignAuthError (messageOf message) then m
  else { m.endAuthRequest with phase := .error, errorMessage := some (messageOf message) }

def step (m : AuthManager) : AuthEvent → AuthManager
  | .startInitialize => m.startInitialize
  | .initializeEnds failure => m.initializeEnds toLowerCase failure
  | .resetWebStorageAndInitialize => m.resetWebStorageAndInitialize
  | .resetEnds failure => m.resetEnds toLowerCase failure
  | .submitPhoneNumber phoneNumber => m.submitPhoneNumber phoneNumber
  | .requestQrCodeAuthentication => m.requestQrCodeAuthentication
  | .submitCode code => m.submitCode code
  | .submitPassword password => m.submitPassword password
  | .submitEmailAddress email => m.submitEmailAddress email
  | .registerUser firstName lastName disableNotification => m.registerUser firstName lastName disableNotification
  | .resendAuthenticationCode => m.resendAuthenticationCode
  | .logOut => m.send .logOut
  | .authTimeout systemHint => m.authTimeout systemHint
  | .updateFatalError error => m.handleFatalError toLowerCase error
  | .updateAuthorizationState state => m.handleAuthorizationState state
  | .authorizationState state extra => m.handleStateReply state extra
  | .error _ extra message => m.handleError extra message


/-! ## Whose errors -/

/-- What may make the phase that of an error: an error that answers a request of the manager itself, a fatal one, and
how its start and its timeout end. -/
def isOwnCause : AuthEvent → Bool
  | .error isOwn _ _ => isOwn
  | .updateFatalError _ => true
  | .initializeEnds failure => failure.isSome
  | .resetEnds failure => failure.isSome
  | .authTimeout _ => true
  | _ => false

/-- The phase becomes that of an error for an own cause only, and an error that answers a request of another component
changes neither it nor the message and the flag. -/
def OwnsPhase (event : AuthEvent) : Prop :=
  (m.phase ≠ .error → (m.step toLowerCase event).phase = .error → isOwnCause event) ∧
    ∀ extra message, event = .error false extra message →
      (m.step toLowerCase event).phase = m.phase ∧ (m.step toLowerCase event).errorMessage = m.errorMessage ∧
        (m.step toLowerCase event).isAuthRequestInProgress = m.isAuthRequestInProgress

/-- The manager is where the error would bring it. -/
def IsAtError (message : Option Str) : Prop :=
  m.phase = .error ∧ m.errorMessage = some (messageOf message) ∧ m.isAuthRequestInProgress = false

/-- An error that answers a request of another component is told from its own ones by the tag or the message. -/
def TellsErrors (event : AuthEvent) : Prop :=
  ∀ extra message, event = .error false extra message →
    m.phase = .ready ∨ (∃ tag start, extra = some tag ∧ start ∈ nonAuthPrefixes ∧ start <+: tag) ∨
      isBenignAuthError (messageOf message) ∨ m.IsAtError message

variable {toLowerCase m}

/-- The tags of the manager itself begin as none of the others. -/
lemma shouldTreatAsAuthError_eq_false_iff {extra : Option Str} : m.shouldTreatAsAuthError extra = false ↔
    m.phase = .ready ∨ ∃ tag start, extra = some tag ∧ start ∈ nonAuthPrefixes ∧ start <+: tag := by
  rw [shouldTreatAsAuthError.eq_def]
  by_cases hready : m.phase = .ready
  · rw [if_pos hready]
    exact iff_of_true rfl (.inl hready)
  · rw [if_neg hready, or_iff_right hready]
    cases extra with
    | none => exact iff_of_false (fun h => nomatch h) fun ⟨_, _, h, _⟩ => nomatch h
    | some tag =>
        dsimp only
        have hothers : (∃ tag' start, some tag = some tag' ∧ start ∈ nonAuthPrefixes ∧ start <+: tag') ↔
            ∃ start ∈ nonAuthPrefixes, start <+: tag := by
          simp
        rw [hothers]
        split_ifs with hown
        · refine iff_of_false (fun h => nomatch h) ?_
          rintro ⟨start, hstart, hbegins⟩
          have hnone : ∀ start ∈ nonAuthPrefixes, ¬start.isPrefixOf (ascii "auth_getState") ∧
              ¬start.isPrefixOf (ascii "auth_qr_request") := by decide
          rw [← List.isPrefixOf_iff_prefix] at hbegins
          rcases hown with rfl | rfl
          · exact (hnone start hstart).1 hbegins
          · exact (hnone start hstart).2 hbegins
        · simp only [Bool.not_eq_false', List.any_eq_true, List.isPrefixOf_iff_prefix]

lemma handleError_iff {extra message : Option Str} :
    ((m.handleError extra message).phase = m.phase ∧ (m.handleError extra message).errorMessage = m.errorMessage ∧
      (m.handleError extra message).isAuthRequestInProgress = m.isAuthRequestInProgress) ↔
      m.shouldTreatAsAuthError extra = false ∨ isBenignAuthError (messageOf message) ∨ m.IsAtError message := by
  rw [handleError, ← Bool.not_eq_true']
  split_ifs with hother hbenign
  · exact iff_of_true ⟨rfl, rfl, rfl⟩ (.inl hother)
  · exact iff_of_true ⟨rfl, rfl, rfl⟩ (.inr (.inl hbenign))
  · rw [or_iff_right hother, or_iff_right hbenign, IsAtError]
    exact and_congr eq_comm (and_congr eq_comm eq_comm)

lemma phase_beginInitializing (h : m.phase ≠ .error) : m.startInitialize.phase ≠ .error := by
  rw [startInitialize]
  split_ifs
  · exact h
  · exact fun hphase => nomatch hphase
  · exact fun hphase => nomatch hphase

lemma phase_handleAuthorizationState (h : m.phase ≠ .error) (state : AuthorizationState) :
    (m.handleAuthorizationState state).phase ≠ .error := by
  cases state with
  | other type => exact h
  | _ => exact fun hphase => nomatch hphase

/-- Only an error, an end of the start and a timeout can make the phase that of an error. -/
lemma phase_step_ne_error (h : m.phase ≠ .error) {event : AuthEvent} (hown : isOwnCause event = false)
    (herror : ∀ extra message, event ≠ .error false extra message) : (m.step toLowerCase event).phase ≠ .error := by
  cases event with
  | startInitialize => exact phase_beginInitializing h
  | initializeEnds failure =>
      cases failure with
      | none => exact h
      | some error => exact nomatch hown
  | resetWebStorageAndInitialize =>
      simp only [step, resetWebStorageAndInitialize]
      split_ifs
      · exact h
      · exact fun hphase => nomatch hphase
  | resetEnds failure =>
      cases failure with
      | none =>
          simp only [step, resetEnds, if_neg h]
          exact phase_beginInitializing h
      | some error => exact nomatch hown
  | submitPhoneNumber phoneNumber =>
      simp only [step, submitPhoneNumber]
      split_ifs <;> exact h
  | requestQrCodeAuthentication =>
      simp only [step, requestQrCodeAuthentication]
      split_ifs <;> exact h
  | submitCode code =>
      simp only [step, submitCode]
      split_ifs <;> exact h
  | submitPassword password =>
      simp only [step, submitPassword]
      split_ifs <;> exact h
  | submitEmailAddress email =>
      simp only [step, submitEmailAddress]
      split_ifs <;> exact h
  | registerUser firstName lastName disableNotification =>
      simp only [step, registerUser]
      split_ifs <;> exact h
  | resendAuthenticationCode =>
      simp only [step, resendAuthenticationCode]
      split_ifs <;> exact h
  | logOut => exact h
  | authTimeout systemHint => exact nomatch hown
  | updateFatalError error => exact nomatch hown
  | updateAuthorizationState state => exact phase_handleAuthorizationState h state
  | authorizationState state extra =>
      simp only [step, handleStateReply]
      split_ifs
      · exact phase_handleAuthorizationState h state
      · exact h
  | error isOwn extra message =>
      simp only [isOwnCause] at hown
      subst hown
      exact absurd rfl (herror extra message)

/-- **Whose errors change the phase**: the manager's own, unless one of another component is not told from them. -/
theorem ownsPhase_iff (event : AuthEvent) : m.OwnsPhase toLowerCase event ↔ m.TellsErrors event := by
  have hforeign : (∀ extra message, event = .error false extra message →
      (m.step toLowerCase event).phase = m.phase ∧ (m.step toLowerCase event).errorMessage = m.errorMessage ∧
        (m.step toLowerCase event).isAuthRequestInProgress = m.isAuthRequestInProgress) ↔ m.TellsErrors event := by
    refine forall_congr' fun extra => forall_congr' fun message => forall_congr' fun hevent => ?_
    subst hevent
    exact handleError_iff.trans ((or_congr_left shouldTreatAsAuthError_eq_false_iff).trans or_assoc)
  rw [OwnsPhase, hforeign]
  refine and_iff_right_of_imp fun htells hphase herror => ?_
  by_contra hown
  rw [Bool.not_eq_true] at hown
  refine phase_step_ne_error hphase hown (fun extra message hevent => ?_) herror
  rw [(hforeign.mpr htells extra message hevent).1] at herror
  exact hphase herror

/-- **The phase over runs.** -/
theorem forall_ownsPhase_iff (toLowerCase : Str → Str) (m : AuthManager) (events : List AuthEvent) :
    Meets (step toLowerCase) (OwnsPhase toLowerCase) m events ↔ Meets (step toLowerCase) TellsErrors m events :=
  meets_iff_meets (I := fun _ => True) (fun n event _ => ownsPhase_iff (m := n) event) (fun _ _ _ _ => trivial)
    trivial events

/-- While the manager waits for a phone number, the listing of the proxies fails, which another component has asked
for: the phase becomes that of an error. -/
theorem purge_error_ends_login :
    let events := [.startInitialize, .updateAuthorizationState .waitPhoneNumber,
      .error false (some (ascii "getProxies_purge")) (some (ascii "Request timeout"))]
    (events.foldl (step id) {}).phase = .error ∧ ¬Meets (step id) (OwnsPhase id) {} events := by
  refine ⟨by decide, ?_⟩
  rw [forall_ownsPhase_iff]
  rintro ⟨-, -, htells, -⟩
  have hnone : ∀ start ∈ nonAuthPrefixes, ¬start.isPrefixOf (ascii "getProxies_purge") := by decide
  rcases htells _ _ rfl with hready | ⟨tag, start, htag, hstart, hbegins⟩ | hbenign | hat
  · exact nomatch hready
  · rw [← Option.some_inj.mp htag, ← List.isPrefixOf_iff_prefix] at hbegins
    exact hnone start hstart hbegins
  · exact absurd hbenign (by decide)
  · exact nomatch hat.1

end AuthManager

end RioGram.Auth
