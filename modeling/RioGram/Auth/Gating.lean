import RioGram.Auth.Manager

/-!
# What the manager of the authorization sends, and when

The phase is a copy of the state of the authorization in TDLib, which the user's submissions are checked against.
`AuthRun` has beside the manager what TDLib knows: the state that it has reported last, and the requests of the manager
that it has not answered.

* `AuthRun.Gates` — a submission is sent in the state that takes it, with none before it unanswered, and the phase is
  that of the reported state.
* `gates_iff` — the steps in which it is so; `forall_gates_iff` — the runs.
-/

namespace RioGram.Auth

open Js Reaching

/-- The phase in which the user is shown a state; that a session closes has none. -/
def phaseOf : AuthorizationState → Option AuthPhase
  | .waitPhoneNumber => some .waitPhoneNumber
  | .waitCode => some .waitCode
  | .waitPassword => some .waitPassword
  | .waitOtherDeviceConfirmation _ => some .waitQrConfirmation
  | .waitEmailAddress => some .waitEmailAddress
  | .waitEmailCode => some .waitEmailCode
  | .waitRegistration _ => some .waitRegistration
  | .ready => some .ready
  | _ => none

/-- The requests with which the user goes on. -/
def AuthRequest.isInput : AuthRequest → Bool
  | setAuthenticationPhoneNumber _ => true
  | requestQrCodeAuthentication => true
  | checkAuthenticationEmailCode _ => true
  | checkAuthenticationCode _ => true
  | checkAuthenticationPassword _ => true
  | setAuthenticationEmailAddress _ => true
  | registerUser _ _ _ => true
  | _ => false

/-- The state in which TDLib takes a request. -/
def accepts : AuthorizationState → AuthRequest → Bool
  | .waitPhoneNumber, .setAuthenticationPhoneNumber _ => true
  | .waitPhoneNumber, .requestQrCodeAuthentication => true
  | .waitEmailCode, .checkAuthenticationEmailCode _ => true
  | .waitCode, .checkAuthenticationCode _ => true
  | .waitPassword, .checkAuthenticationPassword _ => true
  | .waitEmailAddress, .setAuthenticationEmailAddress _ => true
  | .waitRegistration _, .registerUser _ _ _ => true
  | _, _ => false

/-- The state that an update or an answer of TDLib reports. -/
def AuthEvent.reports : AuthEvent → Option AuthorizationState
  | updateAuthorizationState state => some state
  | authorizationState state _ => some state
  | _ => none

/-- What the user does to go on. -/
def AuthEvent.isSubmission : AuthEvent → Bool
  | submitPhoneNumber _ => true
  | requestQrCodeAuthentication => true
  | submitCode _ => true
  | submitPassword _ => true
  | submitEmailAddress _ => true
  | registerUser _ _ _ => true
  | _ => false

/-- What a submission asks for in a phase. -/
def AuthEvent.asksFor (phase : AuthPhase) : AuthEvent → Option AuthRequest
  | submitPhoneNumber phoneNumber =>
      if phase = .waitPhoneNumber then some (.setAuthenticationPhoneNumber (trimDart phoneNumber)) else none
  | requestQrCodeAuthentication => if phase = .waitPhoneNumber then some .requestQrCodeAuthentication else none
  | submitCode code =>
      if phase = .waitEmailCode then some (.checkAuthenticationEmailCode (trimDart code))
      else if phase = .waitCode then some (.checkAuthenticationCode (trimDart code))
      else none
  | submitPassword password => if phase = .waitPassword then some (.checkAuthenticationPassword password) else none
  | submitEmailAddress email =>
      if phase = .waitEmailAddress then some (.setAuthenticationEmailAddress (trimDart email)) else none
  | registerUser firstName lastName disableNotification =>
      if phase = .waitRegistration then
        some (.registerUser (trimDart firstName) (trimDart lastName) disableNotification)
      else none
  | _ => none

/-- The manager starts, or shows an error. -/
def AuthManager.IsAside (m : AuthManager) : Prop := m.phase = .initializing ∨ m.phase = .error

inductive AuthRunEvent where
  /-- An event of the manager, and the request that it is the answer to. -/
  | event (e : AuthEvent) (answered : Option ℕ)
  /-- A request is answered without more, which the manager does not look at. -/
  | ok (answered : ℕ)
  /-- `initialize` handles the state with which the client was created. -/
  | initialUpdate (state : AuthorizationState)

structure AuthRun where
  manager : AuthManager := {}
  reported : Option AuthorizationState := none
  unanswered : List AuthRequest := []

namespace AuthRun

variable (toLowerCase : Str → Str) (r : AuthRun)

/-- The requests that the manager sends on an event. -/
def sends (e : AuthEvent) : List AuthRequest := (r.manager.step toLowerCase e).sent.drop r.manager.sent.length

def step (r : AuthRun) : AuthRunEvent → AuthRun
  | .event e answered =>
      { manager := r.manager.step toLowerCase e
        reported := e.reports.or r.reported
        unanswered := answered.elim r.unanswered r.unanswered.eraseIdx ++ r.sends toLowerCase e }
  | .ok answered => { r with unanswered := r.unanswered.eraseIdx answered }
  | .initialUpdate state =>
      { r with
        manager := r.manager.handleAuthorizationState state
        reported := r.reported.or (some state) }

/-- The phase is that of the reported state. -/
def Agrees : Prop := r.manager.IsAside ∨ r.reported.bind phaseOf = some r.manager.phase

/-- The reported state takes the request, and no submission before it is unanswered. -/
def MaySend (request : AuthRequest) : Prop :=
  (∃ state, r.reported = some state ∧ accepts state request) ∧ ∀ earlier ∈ r.unanswered, earlier.isInput = false

def Gates : AuthRunEvent → Prop
  | .event e answered =>
      (∀ request ∈ r.sends toLowerCase e, request.isInput → r.MaySend request) ∧
        (r.step toLowerCase (.event e answered)).Agrees
  | event => (r.step toLowerCase event).Agrees

/-! ## When it is so -/

/-- A state that is handled has a phase, or leaves it where the manager is aside. -/
def Shows (state : AuthorizationState) : Prop :=
  (phaseOf state).isSome ∨ AuthManager.isOther state ∧ r.manager.IsAside

/-- No submission of which the manager has lost sight is unanswered: TDLib has a submission only while the manager
has a request in progress. -/
def InSight : Prop := (∃ earlier ∈ r.unanswered, earlier.isInput) → r.manager.isAuthRequestInProgress

/-- States come that have a phase: none with which a session closes, and others where the manager is aside.  What the
manager does not take for an answer has the phase in which it is already.  A submission comes where none that is
unanswered is out of sight. -/
def Orderly : AuthRunEvent → Prop
  | .event (.updateAuthorizationState state) _ => r.Shows state
  | .event (.authorizationState state extra) _ =>
      if !AuthManager.isOther state && extra = some (ascii "auth_getState") then r.Shows state
      else r.manager.IsAside ∨ phaseOf state = some r.manager.phase
  | .event e _ => (e.asksFor r.manager.phase).isSome → r.InSight
  | .ok _ => True
  | .initialUpdate state =>
      match r.reported with
      | none => r.Shows state
      | some reported => AuthManager.isOther state ∨ phaseOf reported = some ((phaseOf state).getD .waitPhoneNumber)

variable {toLowerCase r}

end AuthRun

/-! ## What the manager does on an event -/

namespace AuthManager

variable {toLowerCase : Str → Str} {m : AuthManager}

lemma handleAuthorizationState_phase (state : AuthorizationState) : (m.handleAuthorizationState state).phase =
    if isOther state then m.phase else (phaseOf state).getD .waitPhoneNumber := by
  cases state <;> rfl

lemma handleAuthorizationState_sent (state : AuthorizationState) :
    (m.handleAuthorizationState state).sent = m.sent := by
  cases state <;> rfl

lemma startInitialize_phase : m.startInitialize.phase = m.phase ∨ m.startInitialize.IsAside := by
  rw [startInitialize]
  split_ifs
  · exact .inl rfl
  · exact .inr (.inl rfl)
  · exact .inr (.inl rfl)

lemma startInitialize_sent : ∃ rest, m.startInitialize.sent = m.sent ++ rest ∧
    ∀ request ∈ rest, request.isInput = false := by
  rw [startInitialize]
  split_ifs
  · exact ⟨[], (List.append_nil _).symm, List.forall_mem_nil _⟩
  · exact ⟨[.getAuthorizationState], rfl, by decide⟩
  · exact ⟨[], (List.append_nil _).symm, List.forall_mem_nil _⟩

/-- Where an event does not report a state, the phase stays, or the manager is aside. -/
lemma step_phase {e : AuthEvent} (h : e.reports = none) :
    (m.step toLowerCase e).phase = m.phase ∨ (m.step toLowerCase e).IsAside := by
  cases e with
  | startInitialize => exact startInitialize_phase
  | initializeEnds failure =>
      cases failure with
      | none => exact .inl rfl
      | some error => exact .inr (.inr rfl)
  | resetWebStorageAndInitialize =>
      simp only [step, resetWebStorageAndInitialize]
      split_ifs
      · exact .inl rfl
      · exact .inr (.inl rfl)
  | resetEnds failure =>
      cases failure with
      | none =>
          simp only [step, resetEnds]
          split_ifs
          · exact .inl rfl
          · exact startInitialize_phase
      | some error => exact .inr (.inr rfl)
  | submitPhoneNumber phoneNumber => exact .inl (by rw [step, submitPhoneNumber]; split_ifs <;> rfl)
  | requestQrCodeAuthentication => exact .inl (by rw [step, requestQrCodeAuthentication]; split_ifs <;> rfl)
  | submitCode code => exact .inl (by rw [step, submitCode]; split_ifs <;> rfl)
  | submitPassword password => exact .inl (by rw [step, submitPassword]; split_ifs <;> rfl)
  | submitEmailAddress email => exact .inl (by rw [step, submitEmailAddress]; split_ifs <;> rfl)
  | registerUser firstName lastName disableNotification =>
      exact .inl (by rw [step, registerUser]; split_ifs <;> rfl)
  | resendAuthenticationCode => exact .inl (by rw [step, resendAuthenticationCode]; split_ifs <;> rfl)
  | logOut => exact .inl rfl
  | authTimeout systemHint =>
      rw [step, authTimeout]
      split_ifs
      · exact .inr (.inr rfl)
      · exact .inl rfl
      · exact .inl rfl
  | updateFatalError error => exact .inr (.inr rfl)
  | updateAuthorizationState state => cases h
  | authorizationState state extra => cases h
  | error isOwn extra message =>
      rw [step, handleError]
      split_ifs
      · exact .inl rfl
      · exact .inl rfl
      · exact .inr (.inr rfl)

/-- What a submission comes to that goes on in one phase. -/
lemma sent_of_submission {m' : AuthManager} {request : AuthRequest} (h : m'.sent = m.sent ++ [request])
    (phase : AuthPhase) : (if m.isAuthRequestInProgress ∨ m.phase ≠ phase then m else m').sent =
      m.sent ++ if m.isAuthRequestInProgress then [] else (if m.phase = phase then some request else none).toList := by
  by_cases hbusy : m.isAuthRequestInProgress
  · rw [if_pos (.inl hbusy), if_pos hbusy, List.append_nil]
  · rw [if_neg hbusy]
    by_cases hphase : m.phase = phase
    · rw [if_neg (not_or.mpr ⟨hbusy, not_not.mpr hphase⟩), if_pos hphase]
      exact h
    · rw [if_pos (.inr hphase), if_neg hphase]
      exact (List.append_nil _).symm

/-- A submission in its phase is sent, if no request is in progress. -/
lemma step_sent_of_isSubmission {e : AuthEvent} (h : e.isSubmission) : (m.step toLowerCase e).sent =
    m.sent ++ if m.isAuthRequestInProgress then [] else (e.asksFor m.phase).toList := by
  cases e with
  | submitPhoneNumber phoneNumber => exact sent_of_submission rfl _
  | requestQrCodeAuthentication => exact sent_of_submission rfl _
  | submitCode code =>
      rw [step, submitCode, AuthEvent.asksFor]
      by_cases hemail : m.phase = .waitEmailCode
      · by_cases hbusy : m.isAuthRequestInProgress
        · rw [if_pos (.inl hbusy), if_pos hbusy, List.append_nil]
        · rw [if_neg (not_or.mpr ⟨hbusy, fun hphase => hphase.2 hemail⟩), if_neg hbusy, if_pos hemail, if_pos hemail]
          rfl
      · simp only [ne_eq, hemail, not_false_eq_true, and_true, if_false]
        exact sent_of_submission rfl _
  | submitPassword password => exact sent_of_submission rfl _
  | submitEmailAddress email => exact sent_of_submission rfl _
  | registerUser firstName lastName disableNotification => exact sent_of_submission rfl _
  | _ => cases h

/-- What other events make the manager send is no submission. -/
lemma step_sent_of_not_isSubmission {e : AuthEvent} (h : e.isSubmission = false) :
    ∃ rest, (m.step toLowerCase e).sent = m.sent ++ rest ∧ ∀ request ∈ rest, request.isInput = false := by
  have hsame : ∀ m' : AuthManager, m'.sent = m.sent →
      ∃ rest, m'.sent = m.sent ++ rest ∧ ∀ request ∈ rest, request.isInput = false :=
    fun m' hm' => ⟨[], hm'.trans (List.append_nil _).symm, List.forall_mem_nil _⟩
  cases e with
  | startInitialize => exact startInitialize_sent
  | initializeEnds failure => exact hsame _ (by cases failure <;> rfl)
  | resetWebStorageAndInitialize =>
      exact hsame _ (by simp only [step, resetWebStorageAndInitialize]; split_ifs <;> rfl)
  | resetEnds failure =>
      cases failure with
      | none =>
          simp only [step, resetEnds]
          split_ifs
          · exact hsame _ rfl
          · exact startInitialize_sent
      | some error => exact hsame _ rfl
  | resendAuthenticationCode =>
      rw [step, resendAuthenticationCode]
      split_ifs
      · exact hsame _ rfl
      · exact ⟨[.resendAuthenticationCode], rfl, by decide⟩
  | logOut => exact ⟨[.logOut], rfl, by decide⟩
  | authTimeout systemHint => exact hsame _ (by rw [step, authTimeout]; split_ifs <;> rfl)
  | updateFatalError error => exact hsame _ rfl
  | updateAuthorizationState state => exact hsame _ (handleAuthorizationState_sent state)
  | authorizationState state extra =>
      rw [step, handleStateReply]
      split_ifs
      · exact hsame _ (handleAuthorizationState_sent state)
      · exact hsame _ rfl
  | error isOwn extra message => exact hsame _ (by rw [step, handleError]; split_ifs <;> rfl)
  | _ => cases h

end AuthManager

/-- What a submission asks for is one, and the state of its phase takes it. -/
lemma isInput_of_asksFor {e : AuthEvent} {request : AuthRequest} {phase : AuthPhase}
    (h : e.asksFor phase = some request) :
    request.isInput ∧ ∀ state, phaseOf state = some phase → accepts state request := by
  have hone : ∀ {phase' : AuthPhase} {request' : AuthRequest},
      (if phase = phase' then some request' else none) = some request → phase = phase' ∧ request' = request :=
    fun h => (Option.ite_none_right_eq_some.mp h).imp_right Option.some_inj.mp
  cases e with
  | submitPhoneNumber phoneNumber =>
      rcases hone h with ⟨rfl, rfl⟩
      exact ⟨rfl, fun state hstate => by cases state <;> first | rfl | exact nomatch hstate⟩
  | requestQrCodeAuthentication =>
      rcases hone h with ⟨rfl, rfl⟩
      exact ⟨rfl, fun state hstate => by cases state <;> first | rfl | exact nomatch hstate⟩
  | submitCode code =>
      rw [AuthEvent.asksFor] at h
      split_ifs at h with hemail hcode
      · subst hemail
        rw [← Option.some_inj.mp h]
        exact ⟨rfl, fun state hstate => by cases state <;> first | rfl | exact nomatch hstate⟩
      · subst hcode
        rw [← Option.some_inj.mp h]
        exact ⟨rfl, fun state hstate => by cases state <;> first | rfl | exact nomatch hstate⟩
  | submitPassword password =>
      rcases hone h with ⟨rfl, rfl⟩
      exact ⟨rfl, fun state hstate => by cases state <;> first | rfl | exact nomatch hstate⟩
  | submitEmailAddress email =>
      rcases hone h with ⟨rfl, rfl⟩
      exact ⟨rfl, fun state hstate => by cases state <;> first | rfl | exact nomatch hstate⟩
  | registerUser firstName lastName disableNotification =>
      rcases hone h with ⟨rfl, rfl⟩
      exact ⟨rfl, fun state hstate => by cases state <;> first | rfl | exact nomatch hstate⟩
  | _ => exact nomatch h

namespace AuthRun

variable {toLowerCase : Str → Str} {r : AuthRun}

/-! ### Submissions -/

/-- In a run that agrees so far, only what is unanswered can be in the way of a submission. -/
lemma maySend_iff (h : r.Agrees) {e : AuthEvent} {request : AuthRequest}
    (hrequest : e.asksFor r.manager.phase = some request) :
    r.MaySend request ↔ ∀ earlier ∈ r.unanswered, earlier.isInput = false := by
  refine and_iff_right ?_
  have hphase : ¬r.manager.IsAside := by
    rintro (haside | haside)
    · rw [haside] at hrequest
      cases e <;> exact nomatch hrequest
    · rw [haside] at hrequest
      cases e <;> exact nomatch hrequest
  rcases Option.bind_eq_some_iff.mp (h.resolve_left hphase) with ⟨state, hstate, hof⟩
  exact ⟨state, hstate, (isInput_of_asksFor hrequest).2 state hof⟩

lemma forall_sends_iff (h : r.Agrees) (e : AuthEvent) :
    (∀ request ∈ r.sends toLowerCase e, request.isInput → r.MaySend request) ↔
      ((e.asksFor r.manager.phase).isSome → r.InSight) := by
  by_cases hsubmits : e.isSubmission
  · have hsends : r.sends toLowerCase e =
        if r.manager.isAuthRequestInProgress then [] else (e.asksFor r.manager.phase).toList := by
      rw [sends, AuthManager.step_sent_of_isSubmission hsubmits, List.drop_left]
    rw [hsends, InSight]
    cases hrequest : e.asksFor r.manager.phase with
    | none => simp
    | some request =>
        have hasks : (some request).isSome = true := rfl
        rw [forall_prop_of_true hasks]
        by_cases hbusy : r.manager.isAuthRequestInProgress
        · rw [if_pos hbusy]
          exact iff_of_true (List.forall_mem_nil _) fun _ => hbusy
        · rw [if_neg hbusy, Option.toList_some, List.forall_mem_singleton,
            forall_prop_of_true (isInput_of_asksFor hrequest).1, maySend_iff h hrequest, imp_iff_not hbusy]
          simp
  · rw [Bool.not_eq_true] at hsubmits
    have hothers : ∃ rest, (r.manager.step toLowerCase e).sent = r.manager.sent ++ rest ∧
        ∀ request ∈ rest, request.isInput = false := AuthManager.step_sent_of_not_isSubmission hsubmits
    rcases hothers with ⟨rest, hrest, hinput⟩
    have hasks : e.asksFor r.manager.phase = none := by
      cases e <;> first | rfl | exact nomatch hsubmits
    rw [sends, hrest, List.drop_left, hasks]
    refine iff_of_true (fun request hrequest hof => ?_) fun h => nomatch h
    rw [hinput request hrequest] at hof
    exact nomatch hof

/-! ### States -/

lemma agrees_handled (m : AuthManager) (state : AuthorizationState) (unanswered : List AuthRequest) :
    AuthRun.Agrees ⟨m.handleAuthorizationState state, some state, unanswered⟩ ↔
      (phaseOf state).isSome ∨ AuthManager.isOther state ∧ m.IsAside := by
  cases state with
  | closing => exact iff_of_false (by rintro ((h | h) | h) <;> exact nomatch h) (by rintro (h | h) <;> exact nomatch h)
  | closed => exact iff_of_false (by rintro ((h | h) | h) <;> exact nomatch h) (by rintro (h | h) <;> exact nomatch h)
  | other type =>
      have haside : AuthManager.isOther (.other type) ∧ m.IsAside ↔ m.IsAside := and_iff_right rfl
      exact (or_iff_left fun h => nomatch h).trans (haside.symm.trans (or_iff_right fun h => nomatch h).symm)
  | _ => exact iff_of_true (.inr rfl) (.inl rfl)

/-- Where the phase stays as it is or the manager is aside, it agrees as before. -/
lemma agrees_of_phase (h : r.Agrees) {m : AuthManager} (hm : m.phase = r.manager.phase ∨ m.IsAside)
    (unanswered : List AuthRequest) : AuthRun.Agrees ⟨m, r.reported, unanswered⟩ := by
  rcases hm with hm | hm
  · rw [Agrees, AuthManager.IsAside, hm]
    exact h
  · exact .inl hm

lemma agrees_initialUpdate (h : r.Agrees) (state : AuthorizationState) :
    (r.step toLowerCase (.initialUpdate state)).Agrees ↔ r.Orderly (.initialUpdate state) := by
  rcases r with ⟨m, _ | reported, unanswered⟩
  · exact agrees_handled m state unanswered
  · rw [Orderly]
    by_cases hother : AuthManager.isOther state
    · refine iff_of_true ?_ (.inl hother)
      exact agrees_of_phase h (.inl (by rw [AuthManager.handleAuthorizationState_phase, if_pos hother])) unanswered
    · have hphase := AuthManager.handleAuthorizationState_phase (m := m) state
      rw [if_neg hother] at hphase
      have haside : ¬(m.handleAuthorizationState state).IsAside := by
        rw [AuthManager.IsAside, hphase]
        cases state <;> exact of_decide_eq_true rfl
      refine (or_iff_right haside).trans (Iff.trans ?_ (or_iff_right hother).symm)
      change phaseOf reported = some (m.handleAuthorizationState state).phase ↔ _
      rw [hphase]

/-- A state that the manager gets as an answer. -/
lemma agrees_authorizationState (state : AuthorizationState) (extra : Option Str)
    (answered : Option ℕ) : (r.step toLowerCase (.event (.authorizationState state extra) answered)).Agrees ↔
      r.Orderly (.event (.authorizationState state extra) answered) := by
  rw [Orderly, step, AuthManager.step, AuthManager.handleStateReply]
  split_ifs with hown
  · exact agrees_handled _ state _
  · exact Iff.rfl

/-- **When a step keeps to the state of TDLib.** -/
theorem gates_iff (h : r.Agrees) (event : AuthRunEvent) : r.Gates toLowerCase event ↔ r.Orderly event := by
  cases event with
  | event e answered =>
      have hagrees : e.reports = none → (r.step toLowerCase (.event e answered)).Agrees := fun hreports => by
        rw [step, hreports, Option.none_or]
        exact agrees_of_phase h (AuthManager.step_phase hreports) _
      have hsends : (∀ request ∈ r.sends toLowerCase e, request.isInput → r.MaySend request) ↔
          ((e.asksFor r.manager.phase).isSome → r.InSight) := forall_sends_iff h e
      cases e with
      | updateAuthorizationState state =>
          exact (and_iff_right (hsends.mpr fun hasks => nomatch hasks)).trans (agrees_handled _ state _)
      | authorizationState state extra =>
          exact (and_iff_right (hsends.mpr fun hasks => nomatch hasks)).trans (agrees_authorizationState _ _ _)
      | _ => exact (and_iff_left (hagrees rfl)).trans hsends
  | ok answered => exact iff_of_true h trivial
  | initialUpdate state => exact agrees_initialUpdate h state

/-- **When a run keeps to the state of TDLib**: exactly if all its steps are in order. -/
theorem forall_gates_iff (toLowerCase : Str → Str) (isWeb : Bool) (events : List AuthRunEvent) :
    Meets (step toLowerCase) (Gates toLowerCase) { manager := { isWeb := isWeb } } events ↔
      Meets (step toLowerCase) Orderly { manager := { isWeb := isWeb } } events := by
  refine meets_iff_meets (I := Agrees) (fun r event h => gates_iff h event) (fun r event _ h => ?_) (.inl (.inl rfl))
    events
  cases event with
  | event e answered => exact h.2
  | ok answered => exact h
  | initialUpdate state => exact h

/-- The session closes after the user has logged out, and the manager sends the phone number that the user enters
then. -/
theorem sent_while_closing :
    let events := [.event .startInitialize none, .event (.updateAuthorizationState .ready) none, .event .logOut none,
      .event (.updateAuthorizationState (.other (some (ascii "authorizationStateLoggingOut")))) none, .ok 0,
      .event (.updateAuthorizationState .closing) none, .event (.submitPhoneNumber (ascii "+79990000000")) none]
    (events.foldl (step id) {}).reported = some .closing ∧
      (events.foldl (step id) {}).manager.sent =
        [.logOut, .setAuthenticationPhoneNumber (ascii "+79990000000")] ∧
      ¬Meets (step id) (Gates id) {} events := by
  refine ⟨by decide, by decide, ?_⟩
  rw [show ({} : AuthRun) = { manager := { isWeb := false } } from rfl, forall_gates_iff]
  rintro ⟨-, -, -, hother, -⟩
  rcases hother with hother | ⟨-, haside⟩
  · exact nomatch hother
  · rcases haside with haside | haside <;> exact nomatch haside

/-- The timer of a request is over, the user tries again, and the number is sent twice with no answer to either. -/
theorem sent_twice_after_timeout :
    let events := [.event .startInitialize none, .event (.updateAuthorizationState .waitPhoneNumber) none,
      .event (.initializeEnds none) none, .event (.submitPhoneNumber (ascii "+79990000000")) none,
      .event (.authTimeout []) none, .event .startInitialize none,
      .event (.authorizationState .waitPhoneNumber (some (ascii "auth_getState"))) (some 1),
      .event (.submitPhoneNumber (ascii "+79990000000")) none]
    (events.foldl (step id) {}).unanswered = [.setAuthenticationPhoneNumber (ascii "+79990000000"),
      .setAuthenticationPhoneNumber (ascii "+79990000000")] := by
  decide

end AuthRun

end RioGram.Auth
