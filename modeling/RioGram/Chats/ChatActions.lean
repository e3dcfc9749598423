import RioGram.Chats.Manager
import RioGram.Core.Mapping
import RioGram.Core.Reachable

/-!
# Creating, upgrading and joining chats

Six actions of the user give a future each.  The extra of the request has the number of the call, a table has
the completers of the calls that wait by their extras, and a timer of 30 seconds runs for each.  Completing a
completer completes the future and ends the timer before anything else happens.

`ActionRun` is the manager's part of this with the calls so far and with what has happened first to each: the
reply with its extra, or the timeout.

* `calls_complete` says when every future completes once, with what has happened to its call.
* `unhandled_reply_ignored` is a run in which a call that is answered goes on waiting.
-/

namespace RioGram.Chats

open Keyed Reaching

/-! ## Requests and replies -/

inductive ActionPrefix where
  | createSupergroup | createBasicGroup | upgradeBasicGroup | joinChat | joinInvite | createPrivateChat
deriving DecidableEq

/-- The extra `<prefix>_<requestId>` of an action, or any other text. -/
inductive ActionExtra where
  | action (extraPrefix : ActionPrefix) (requestId : ℕ)
  | other (text : String)
deriving DecidableEq

/-- `_isChatActionExtra`. -/
def ActionExtra.isChatAction : ActionExtra → Bool
  | .action _ _ => true
  | .other _ => false

/-- The requests of the actions, without what is the same in all of them, and the request for a chat. -/
inductive ActionRequest where
  | createNewSupergroupChat (title : String) (isForum isChannel : Bool) (description : String)
  | createNewBasicGroupChat (userIds : List ℤ) (title : String)
  | upgradeBasicGroupChatToSupergroupChat (chatId : ℤ)
  | joinChat (chatId : ℤ)
  | joinChatByInviteLink (inviteLink : String)
  | createPrivateChat (userId : ℤ)
  | getChat (chatId : ℤ)
deriving DecidableEq

/-- What TDLib may answer: a `chat`, a `createdBasicGroupChat`, the four results of joining, or an `error`. -/
inductive ActionReply where
  | chat (chatId : ℤ)
  | createdBasicGroupChat (chatId : ℤ)
  | chatJoinResultSuccess (chatId : ℤ)
  | chatJoinResultRequestSent
  | chatJoinResultGuardBotApprovalRequired (botUserId queryId : ℤ)
  | chatJoinResultDeclined
  | error (message : Option String)
deriving DecidableEq

inductive ActionResult where
  | value (chatId : ℤ)
  | failed (message : String)
  | timedOut
deriving DecidableEq

/-! ## The calls -/

/-- The timer of a call, with the error that is shown when it fires. -/
structure ActionTimer where
  call : ℕ
  extra : ActionExtra
  error : String
deriving DecidableEq

/-- The fields of the manager that the actions have to do with.  A completer is named by the number of its call,
and `completions` are the futures in the order in which they complete. -/
structure ChatActions where
  chatActionRequestId : ℕ := 0
  chatActionCompleters : List (ActionExtra × ℕ) := []
  chatActionError : Option String := none
  timers : List ActionTimer := []
  completions : List (ℕ × ActionResult) := []
  sent : List (ActionRequest × Option ActionExtra) := []

namespace ChatActions

variable (P : Platform) (s : ChatActions)

def send (request : ActionRequest) (extra : Option ActionExtra) : ChatActions :=
  { s with sent := s.sent ++ [(request, extra)] }

/-- What the three functions that send an action have in common; they differ in the error of the timeout. -/
def sendAction (timeoutError : String) (request : ActionRequest) (extraPrefix : ActionPrefix) : ChatActions :=
  let requestId := s.chatActionRequestId + 1
  let extra : ActionExtra := .action extraPrefix requestId
  ({ s with
      chatActionRequestId := requestId
      chatActionCompleters := without Prod.fst extra s.chatActionCompleters ++ [(extra, requestId)]
      chatActionError := none
      timers := s.timers ++ [⟨requestId, extra, timeoutError⟩] } : ChatActions).send request (some extra)

def sendChatAction : ActionRequest → ActionPrefix → ChatActions := s.sendAction "Таймаут операции с чатом"

def sendCreatedBasicGroupAction : ActionRequest → ActionPrefix → ChatActions :=
  s.sendAction "Таймаут создания группы"

def sendJoinAction : ActionRequest → ActionPrefix → ChatActions := s.sendAction "Таймаут вступления в чат"

def createSupergroupChat (title : String) (isChannel : Bool) (description : String) (isForum : Bool) :
    ChatActions :=
  s.sendChatAction (.createNewSupergroupChat (P.trim title) isForum isChannel (P.trim description))
    .createSupergroup

def createBasicGroupChat (title : String) (userIds : List ℤ) : ChatActions :=
  s.sendCreatedBasicGroupAction (.createNewBasicGroupChat userIds (P.trim title)) .createBasicGroup

def upgradeBasicGroupToSupergroup (chatId : ℤ) : ChatActions :=
  s.sendChatAction (.upgradeBasicGroupChatToSupergroupChat chatId) .upgradeBasicGroup

def joinChat (chatId : ℤ) : ChatActions := s.sendJoinAction (.joinChat chatId) .joinChat

def joinChatByInviteLink (inviteLink : String) : ChatActions :=
  s.sendJoinAction (.joinChatByInviteLink (P.trim inviteLink)) .joinInvite

def createPrivateChat (userId : ℤ) : ChatActions :=
  s.sendChatAction (.createPrivateChat userId) .createPrivateChat

/-- The future of a call completes; nothing here keeps it from completing twice. -/
def complete (call : ℕ) (result : ActionResult) : ChatActions :=
  { s with
    timers := s.timers.filter (·.call != call)
    completions := s.completions ++ [(call, result)] }

/-- Takes the completer out of the table and completes it. -/
@[grind =]
def takeCompleter (extra : ActionExtra) (result : ActionResult) : ChatActions :=
  match lookup Prod.fst extra s.chatActionCompleters with
  | none => s
  | some (_, call) =>
      ({ s with chatActionCompleters := without Prod.fst extra s.chatActionCompleters } :
        ChatActions).complete call result

def completeChatAction (extra : ActionExtra) (chatId : ℤ) : ChatActions :=
  s.takeCompleter extra (.value chatId)

def failChatAction (extra : ActionExtra) (message : String) : ChatActions :=
  let after := s.takeCompleter extra (.failed message)
  if (lookup Prod.fst extra s.chatActionCompleters).isNone then after
  else { after with chatActionError := some message }

/-! ## Replies -/

/-- The part of `_handleChatResponse` that is about actions. -/
def handleChatResponse (extra : ActionExtra) (chatId : ℤ) : ChatActions :=
  if (lookup Prod.fst extra s.chatActionCompleters).isSome then s.completeChatAction extra chatId else s

def handleCreatedBasicGroupChat (extra : ActionExtra) (chatId : ℤ) : ChatActions :=
  (s.completeChatAction extra chatId).send (.getChat chatId) none

def handleChatJoinSuccess (extra : ActionExtra) (chatId : ℤ) : ChatActions :=
  (s.completeChatAction extra chatId).send (.getChat chatId) none

def handleChatJoinRequestSent (extra : ActionExtra) : ChatActions :=
  s.failChatAction extra "Заявка на вступление отправлена"

def handleChatJoinDeclined (extra : ActionExtra) : ChatActions :=
  s.failChatAction extra "Не удалось вступить в чат"

/-- The part of `_handleError` that is about actions. -/
def handleError (extra : ActionExtra) (message : Option String) : ChatActions :=
  if extra.isChatAction then s.failChatAction extra (message.getD "Ошибка операции с чатом") else s

/-- `_handleUpdate` has a case for each reply but one. -/
@[grind =]
def handleReply (extra : ActionExtra) : ActionReply → ChatActions
  | .chat chatId => s.handleChatResponse extra chatId
  | .createdBasicGroupChat chatId => s.handleCreatedBasicGroupChat extra chatId
  | .chatJoinResultSuccess chatId => s.handleChatJoinSuccess extra chatId
  | .chatJoinResultRequestSent => s.handleChatJoinRequestSent extra
  | .chatJoinResultGuardBotApprovalRequired _ _ => s
  | .chatJoinResultDeclined => s.handleChatJoinDeclined extra
  | .error message => s.handleError extra message

/-- The timer of a call fires. -/
@[grind =]
def fireTimeout (call : ℕ) : ChatActions :=
  match s.timers.find? (·.call == call) with
  | none => s
  | some timer =>
      ({ s with
          chatActionCompleters := without Prod.fst timer.extra s.chatActionCompleters
          chatActionError := some timer.error } : ChatActions).complete call .timedOut

end ChatActions

/-! ## Runs -/

inductive ActionEvent where
  | createSupergroupChat (title : String) (isChannel : Bool) (description : String) (isForum : Bool)
  | createBasicGroupChat (title : String) (userIds : List ℤ)
  | upgradeBasicGroupToSupergroup (chatId : ℤ)
  | joinChat (chatId : ℤ)
  | joinChatByInviteLink (inviteLink : String)
  | createPrivateChat (userId : ℤ)
  | reply (extra : Option ActionExtra) (reply : ActionReply)
  | timeout (call : ℕ)

def ChatActions.step (P : Platform) (s : ChatActions) : ActionEvent → ChatActions
  | .createSupergroupChat title isChannel description isForum =>
      s.createSupergroupChat P title isChannel description isForum
  | .createBasicGroupChat title userIds => s.createBasicGroupChat P title userIds
  | .upgradeBasicGroupToSupergroup chatId => s.upgradeBasicGroupToSupergroup chatId
  | .joinChat chatId => s.joinChat chatId
  | .joinChatByInviteLink inviteLink => s.joinChatByInviteLink P inviteLink
  | .createPrivateChat userId => s.createPrivateChat userId
  | .reply none _ => s
  | .reply (some extra) reply => s.handleReply extra reply
  | .timeout call => s.fireTimeout call

/-- The prefix of the call that an event is. -/
def ActionEvent.called : ActionEvent → Option ActionPrefix
  | .createSupergroupChat _ _ _ _ => some .createSupergroup
  | .createBasicGroupChat _ _ => some .createBasicGroup
  | .upgradeBasicGroupToSupergroup _ => some .upgradeBasicGroup
  | .joinChat _ => some .joinChat
  | .joinChatByInviteLink _ => some .joinInvite
  | .createPrivateChat _ => some .createPrivateChat
  | .reply _ _ | .timeout _ => none

/-- What happens to a call. -/
inductive Ending where
  | reply (reply : ActionReply)
  | timeout
deriving DecidableEq

/-- What a reply makes of the call; nothing is made of the request to be approved by a bot. -/
def ActionReply.result : ActionReply → Option ActionResult
  | .chat chatId | .createdBasicGroupChat chatId | .chatJoinResultSuccess chatId => some (.value chatId)
  | .chatJoinResultRequestSent => some (.failed "Заявка на вступление отправлена")
  | .chatJoinResultGuardBotApprovalRequired _ _ => none
  | .chatJoinResultDeclined => some (.failed "Не удалось вступить в чат")
  | .error message => some (.failed (message.getD "Ошибка операции с чатом"))

def Ending.result : Ending → Option ActionResult
  | .reply answer => answer.result
  | .timeout => some .timedOut

structure ActionRun where
  actions : ChatActions := {}
  calls : List (ℕ × ActionExtra) := []
  endings : List (ℕ × Ending) := []

namespace ActionRun

variable (P : Platform) (r : ActionRun)

/-- The calls that nothing has happened to. -/
def waiting : List (ℕ × ActionExtra) := r.calls.filter fun call => !r.endings.any (·.1 == call.1)

/-- What an event does to a call that waits. -/
@[grind =]
def ends : ActionEvent → Option (ℕ × Ending)
  | .reply (some extra) reply => (r.waiting.find? (·.2 == extra)).map fun call => (call.1, .reply reply)
  | .timeout number => (r.waiting.find? (·.1 == number)).map fun call => (call.1, .timeout)
  | _ => none

/-- The call that an event is. -/
def made (e : ActionEvent) : List (ℕ × ActionExtra) :=
  (e.called.map fun extraPrefix =>
    (r.actions.chatActionRequestId + 1, ActionExtra.action extraPrefix
      (r.actions.chatActionRequestId + 1))).toList

@[grind =]
def step (e : ActionEvent) : ActionRun where
  actions := r.actions.step P e
  calls := r.calls ++ r.made e
  endings := r.endings ++ (r.ends e).toList

/-- Every call to which something has happened is completed once, with that; the table and the timers are those
of the calls that wait. -/
structure Faithful (r : ActionRun) : Prop where
  once : (r.actions.completions.map Prod.fst).Nodup
  results : r.actions.completions.map (fun completion => (completion.1, some completion.2)) =
    r.endings.map fun ending => (ending.1, ending.2.result)
  table : r.actions.chatActionCompleters = r.waiting.map Prod.swap
  timers : r.actions.timers.map (fun timer => (timer.call, timer.extra)) = r.waiting

/-- No call that waits is told to be approved by a bot. -/
def Handled (r : ActionRun) : ActionEvent → Prop
  | .reply (some extra) (.chatJoinResultGuardBotApprovalRequired _ _) => extra ∉ r.waiting.map Prod.snd
  | _ => True

end ActionRun

/-! ## What an event does -/

variable {P : Platform} {s : ChatActions} {r : ActionRun}

/-- A call is sent: it gets the next number, a completer and a timer. -/
structure Called (s : ChatActions) (extraPrefix : ActionPrefix) (s' : ChatActions) : Prop where
  requestId : s'.chatActionRequestId = s.chatActionRequestId + 1
  completers : s'.chatActionCompleters =
    without Prod.fst (.action extraPrefix (s.chatActionRequestId + 1)) s.chatActionCompleters ++
      [(.action extraPrefix (s.chatActionRequestId + 1), s.chatActionRequestId + 1)]
  timers : ∃ error, s'.timers = s.timers ++
    [⟨s.chatActionRequestId + 1, .action extraPrefix (s.chatActionRequestId + 1), error⟩]
  completions : s'.completions = s.completions

lemma step_called {e : ActionEvent} {extraPrefix : ActionPrefix} (h : e.called = some extraPrefix) :
    Called s extraPrefix (s.step P e) := by
  cases e <;> cases h <;> exact ⟨rfl, rfl, ⟨_, rfl⟩, rfl⟩

/-- The state is the same but for what is shown and sent. -/
structure Idle (s s' : ChatActions) : Prop where
  requestId : s'.chatActionRequestId = s.chatActionRequestId
  completers : s'.chatActionCompleters = s.chatActionCompleters
  timers : s'.timers = s.timers
  completions : s'.completions = s.completions

/-- The future of one call completes, and its completer and its timer are gone. -/
structure Ended (s : ChatActions) (call : ℕ × ActionExtra) (result : ActionResult) (s' : ChatActions) :
    Prop where
  requestId : s'.chatActionRequestId = s.chatActionRequestId
  completers : s'.chatActionCompleters = without Prod.fst call.2 s.chatActionCompleters
  timers : s'.timers = s.timers.filter (·.call != call.1)
  completions : s'.completions = s.completions ++ [(call.1, result)]

section replies

variable {extra : ActionExtra} {reply : ActionReply}

lemma takeCompleter_of_none (h : lookup Prod.fst extra s.chatActionCompleters = none) (result : ActionResult) :
    s.takeCompleter extra result = s := by
  simp only [ChatActions.takeCompleter, h]

/-- A reply whose extra is not in the table completes nothing. -/
lemma handleReply_idle (h : lookup Prod.fst extra s.chatActionCompleters = none) :
    Idle s (s.handleReply extra reply) := by
  have hfail (message : String) : Idle s (s.failChatAction extra message) := by
    simp only [ChatActions.failChatAction, h, Option.isNone_none, if_true, takeCompleter_of_none h]
    exact ⟨rfl, rfl, rfl, rfl⟩
  have hsend (chatId : ℤ) : Idle s ((s.completeChatAction extra chatId).send (.getChat chatId) none) := by
    rw [ChatActions.completeChatAction, takeCompleter_of_none h]
    exact ⟨rfl, rfl, rfl, rfl⟩
  cases reply with
  | chat chatId =>
      simp only [ChatActions.handleReply, ChatActions.handleChatResponse, h, Option.isSome_none,
        Bool.false_eq_true, if_false]
      exact ⟨rfl, rfl, rfl, rfl⟩
  | createdBasicGroupChat chatId => exact hsend chatId
  | chatJoinResultSuccess chatId => exact hsend chatId
  | chatJoinResultRequestSent => exact hfail _
  | chatJoinResultGuardBotApprovalRequired botUserId queryId => exact ⟨rfl, rfl, rfl, rfl⟩
  | chatJoinResultDeclined => exact hfail _
  | error message =>
      simp only [ChatActions.handleReply, ChatActions.handleError]
      split_ifs
      · exact hfail _
      · exact ⟨rfl, rfl, rfl, rfl⟩

lemma takeCompleter_ended {number : ℕ}
    (h : lookup Prod.fst extra s.chatActionCompleters = some (extra, number)) (result : ActionResult) :
    Ended s (number, extra) result (s.takeCompleter extra result) := by
  simp only [ChatActions.takeCompleter, h]
  exact ⟨rfl, rfl, rfl, rfl⟩

/-- A reply whose extra is in the table completes the call with what the reply makes of it. -/
lemma handleReply_ended {number : ℕ} {result : ActionResult} (haction : extra.isChatAction)
    (h : lookup Prod.fst extra s.chatActionCompleters = some (extra, number))
    (hresult : reply.result = some result) : Ended s (number, extra) result (s.handleReply extra reply) := by
  have hfail (message : String) (hmessage : .failed message = result) :
      Ended s (number, extra) result (s.failChatAction extra message) := by
    have htaken := takeCompleter_ended h (.failed message)
    simp only [ChatActions.failChatAction, h, Option.isNone_some, Bool.false_eq_true, if_false]
    subst hmessage
    exact ⟨htaken.requestId, htaken.completers, htaken.timers, htaken.completions⟩
  have hsend (chatId : ℤ) (hvalue : .value chatId = result) :
      Ended s (number, extra) result ((s.completeChatAction extra chatId).send (.getChat chatId) none) := by
    have htaken := takeCompleter_ended h (.value chatId)
    subst hvalue
    exact ⟨htaken.requestId, htaken.completers, htaken.timers, htaken.completions⟩
  cases reply with
  | chat chatId =>
      simp only [ChatActions.handleReply, ChatActions.handleChatResponse, h, Option.isSome_some, if_true]
      obtain rfl := Option.some_inj.mp hresult
      exact takeCompleter_ended h _
  | createdBasicGroupChat chatId => exact hsend chatId (Option.some_inj.mp hresult)
  | chatJoinResultSuccess chatId => exact hsend chatId (Option.some_inj.mp hresult)
  | chatJoinResultRequestSent => exact hfail _ (Option.some_inj.mp hresult)
  | chatJoinResultGuardBotApprovalRequired botUserId queryId => cases hresult
  | chatJoinResultDeclined => exact hfail _ (Option.some_inj.mp hresult)
  | error message =>
      simp only [ChatActions.handleReply, ChatActions.handleError, haction, if_true]
      exact hfail _ (Option.some_inj.mp hresult)

end replies

lemma fireTimeout_ended {timer : ActionTimer} {call : ℕ}
    (h : s.timers.find? (·.call == call) = some timer) :
    Ended s (call, timer.extra) .timedOut (s.fireTimeout call) := by
  simp only [ChatActions.fireTimeout, h]
  exact ⟨rfl, rfl, rfl, rfl⟩

/-! ## What holds in every run -/

namespace ActionRun

/-- The calls are numbered, have extras with their numbers, and only they end, each once. -/
structure Consistent (r : ActionRun) : Prop where
  numbered : ∀ call ∈ r.calls, call.1 ≤ r.actions.chatActionRequestId
  nodup : (r.calls.map Prod.fst).Nodup
  own : ∀ call ∈ r.calls, ∃ extraPrefix, call.2 = .action extraPrefix call.1
  ended : ∀ ending ∈ r.endings, ending.1 ∈ r.calls.map Prod.fst
  once : (r.endings.map Prod.fst).Nodup

lemma mem_waiting {call : ℕ × ActionExtra} :
    call ∈ r.waiting ↔ call ∈ r.calls ∧ call.1 ∉ r.endings.map Prod.fst := by
  simp only [waiting, List.mem_filter, Bool.not_eq_true', List.any_eq_false, beq_iff_eq, List.mem_map,
    not_exists, not_and]

/-- What ends a call that waits. -/
lemma waiting_of_ends {e : ActionEvent} {number : ℕ} {ending : Ending} (h : r.ends e = some (number, ending)) :
    ∃ extra, (number, extra) ∈ r.waiting := by
  cases e with
  | reply extra reply =>
      cases extra with
      | none => cases h
      | some extra =>
          rcases Option.map_eq_some_iff.mp h with ⟨call, hfind, heq⟩
          obtain ⟨rfl, -⟩ := Prod.mk.inj heq
          exact ⟨call.2, List.mem_of_find?_eq_some hfind⟩
  | timeout called =>
      rcases Option.map_eq_some_iff.mp h with ⟨call, hfind, heq⟩
      obtain ⟨rfl, -⟩ := Prod.mk.inj heq
      exact ⟨call.2, List.mem_of_find?_eq_some hfind⟩
  | _ => cases h

lemma ends_of_called {e : ActionEvent} {extraPrefix : ActionPrefix} (h : e.called = some extraPrefix) :
    r.ends e = none := by
  cases e <;> first | rfl | cases h

lemma made_of_called {e : ActionEvent} {extraPrefix : ActionPrefix} (h : e.called = some extraPrefix) :
    r.made e = [(r.actions.chatActionRequestId + 1,
      .action extraPrefix (r.actions.chatActionRequestId + 1))] := by
  rw [made, h]
  rfl

lemma made_of_not_called {e : ActionEvent} (h : e.called = none) : r.made e = [] := by
  rw [made, h]
  rfl

lemma takeCompleter_requestId (extra : ActionExtra) (result : ActionResult) :
    (s.takeCompleter extra result).chatActionRequestId = s.chatActionRequestId := by
  rw [ChatActions.takeCompleter]
  split
  · rfl
  · rfl

lemma failChatAction_requestId (extra : ActionExtra) (message : String) :
    (s.failChatAction extra message).chatActionRequestId = s.chatActionRequestId := by
  simp only [ChatActions.failChatAction]
  split_ifs
  · exact takeCompleter_requestId extra _
  · exact takeCompleter_requestId extra _

lemma handleReply_requestId (extra : ActionExtra) (reply : ActionReply) :
    (s.handleReply extra reply).chatActionRequestId = s.chatActionRequestId := by
  cases reply with
  | chat chatId =>
      simp only [ChatActions.handleReply, ChatActions.handleChatResponse]
      split_ifs
      · exact takeCompleter_requestId extra _
      · rfl
  | createdBasicGroupChat chatId => exact takeCompleter_requestId extra _
  | chatJoinResultSuccess chatId => exact takeCompleter_requestId extra _
  | chatJoinResultRequestSent => exact failChatAction_requestId extra _
  | chatJoinResultGuardBotApprovalRequired botUserId queryId => rfl
  | chatJoinResultDeclined => exact failChatAction_requestId extra _
  | error message =>
      simp only [ChatActions.handleReply, ChatActions.handleError]
      split_ifs
      · exact failChatAction_requestId extra _
      · rfl

lemma step_requestId {e : ActionEvent} (h : e.called = none) :
    (s.step P e).chatActionRequestId = s.chatActionRequestId := by
  cases e with
  | reply extra reply =>
      cases extra with
      | none => rfl
      | some extra => exact handleReply_requestId extra reply
  | timeout call =>
      simp only [ChatActions.step, ChatActions.fireTimeout]
      split
      · rfl
      · rfl
  | _ => cases h

lemma step_consistent (h : r.Consistent) (e : ActionEvent) : (r.step P e).Consistent := by
  rcases hcalled : e.called with _ | extraPrefix
  · have hcalls : (r.step P e).calls = r.calls := by
      rw [step, made_of_not_called hcalled, List.append_nil]
    have hid : (r.step P e).actions.chatActionRequestId = r.actions.chatActionRequestId :=
      step_requestId hcalled
    have hendings : (r.step P e).endings = r.endings ++ (r.ends e).toList := rfl
    rcases hends : r.ends e with _ | ⟨number, ending⟩
    · rw [hends, Option.toList_none, List.append_nil] at hendings
      exact ⟨by rw [hcalls, hid]; exact h.numbered, hcalls ▸ h.nodup, hcalls ▸ h.own,
        by rw [hendings, hcalls]; exact h.ended, hendings ▸ h.once⟩
    · rcases waiting_of_ends hends with ⟨extra, hwaiting⟩
      rcases mem_waiting.mp hwaiting with ⟨hcall, hnot⟩
      rw [hends, Option.toList_some] at hendings
      refine ⟨by rw [hcalls, hid]; exact h.numbered, hcalls ▸ h.nodup, hcalls ▸ h.own, ?_, ?_⟩
      · rw [hendings, hcalls, List.forall_mem_append]
        refine ⟨h.ended, fun ended hended => ?_⟩
        rw [List.mem_singleton.mp hended]
        exact List.mem_map_of_mem hcall
      · rw [hendings, List.map_append]
        exact List.Nodup.append h.once (List.nodup_singleton _) (by simpa using hnot)
  · have hcalls : (r.step P e).calls = r.calls ++ [(r.actions.chatActionRequestId + 1,
        .action extraPrefix (r.actions.chatActionRequestId + 1))] := by
      rw [step, made_of_called hcalled]
    have hid : (r.step P e).actions.chatActionRequestId = r.actions.chatActionRequestId + 1 :=
      (step_called hcalled).requestId
    have hendings : (r.step P e).endings = r.endings := by
      rw [step, ends_of_called hcalled, Option.toList_none, List.append_nil]
    have hfresh : r.actions.chatActionRequestId + 1 ∉ r.calls.map Prod.fst := by
      intro hmem
      rcases List.mem_map.mp hmem with ⟨call, hcall, heq⟩
      have hle := h.numbered call hcall
      omega
    refine ⟨?_, ?_, ?_, ?_, hendings ▸ h.once⟩
    · rw [hcalls, hid, List.forall_mem_append]
      refine ⟨fun call hcall => Nat.le_succ_of_le (h.numbered call hcall), fun call hcall => ?_⟩
      rw [List.mem_singleton.mp hcall]
    · rw [hcalls, List.map_append]
      exact List.Nodup.append h.nodup (List.nodup_singleton _) (by simpa using hfresh)
    · rw [hcalls, List.forall_mem_append]
      refine ⟨h.own, fun call hcall => ?_⟩
      rw [List.mem_singleton.mp hcall]
      exact ⟨extraPrefix, rfl⟩
    · rw [hendings, hcalls, List.map_append]
      exact fun ending hending => List.mem_append_left _ (h.ended ending hending)

lemma consistent_of_reachable {ok : ActionRun → ActionEvent → Prop} (h : Reachable (step P) ok {} r) :
    r.Consistent := by
  refine h.invariant ?_ fun r e hr _ => step_consistent hr e
  exact ⟨List.forall_mem_nil _, List.nodup_nil, List.forall_mem_nil _, List.forall_mem_nil _, List.nodup_nil⟩

/-! ## When the futures complete rightly -/

/-- Two calls that wait are the same if they have the same number or the same extra. -/
lemma waiting_extra_iff (h : r.Consistent) {call call' : ℕ × ActionExtra} (hcall : call ∈ r.waiting)
    (hcall' : call' ∈ r.waiting) : call'.2 = call.2 ↔ call'.1 = call.1 := by
  have hmem := (mem_waiting.mp hcall).1
  have hmem' := (mem_waiting.mp hcall').1
  constructor
  · intro heq
    rcases h.own call hmem with ⟨extraPrefix, hextra⟩
    rcases h.own call' hmem' with ⟨extraPrefix', hextra'⟩
    rw [hextra, hextra'] at heq
    exact (ActionExtra.action.inj heq).2
  · intro heq
    rw [List.inj_on_of_nodup_map h.nodup hmem' hmem heq]

/-- After a call has ended the others wait. -/
lemma waiting_step_of_ends {e : ActionEvent} {number : ℕ} {ending : Ending}
    (h : r.ends e = some (number, ending)) : (r.step P e).waiting = r.waiting.filter (·.1 != number) := by
  have hcalled : e.called = none := by
    by_contra hsome
    rcases Option.ne_none_iff_exists'.mp hsome with ⟨extraPrefix, hcalled⟩
    rw [ends_of_called hcalled] at h
    cases h
  rw [waiting, step, made_of_not_called hcalled, h, List.append_nil, waiting, List.filter_filter]
  refine List.filter_congr fun call _ => ?_
  simp [bne, Bool.and_comm, Bool.beq_comm]

/-- The end of a call that completes it rightly keeps everything right. -/
lemma faithful_of_ended (hr : r.Consistent) (h : r.Faithful) {e : ActionEvent} {call : ℕ × ActionExtra}
    {ending : Ending} {result : ActionResult} (hcall : call ∈ r.waiting)
    (hends : r.ends e = some (call.1, ending)) (hresult : ending.result = some result)
    (hended : Ended r.actions call result (r.actions.step P e)) : (r.step P e).Faithful := by
  have hwaiting := waiting_step_of_ends (P := P) hends
  have hendings : (r.step P e).endings = r.endings ++ [(call.1, ending)] := by
    rw [step, hends, Option.toList_some]
  have hresults : (r.step P e).actions.completions.map
        (fun completion => (completion.1, some completion.2)) =
      (r.step P e).endings.map fun ending => (ending.1, ending.2.result) := by
    rw [hendings, step, hended.completions, List.map_append, List.map_append, h.results]
    simp [hresult]
  have honce : (r.step P e).actions.completions.map Prod.fst = (r.step P e).endings.map Prod.fst := by
    simpa [Function.comp_def] using congrArg (List.map Prod.fst) hresults
  refine ⟨honce ▸ (step_consistent hr e).once, hresults, ?_, ?_⟩
  · rw [hwaiting, step, hended.completers, h.table, without, List.filter_map]
    refine congrArg _ (List.filter_congr fun other hother => ?_)
    have hiff := waiting_extra_iff hr hcall hother
    simp [bne, hiff]
  · rw [hwaiting, ← h.timers, step, hended.timers, List.filter_map]
    rfl

lemma faithful_of_idle (h : r.Faithful) {e : ActionEvent} (hcalled : e.called = none) (hends : r.ends e = none)
    (hidle : Idle r.actions (r.actions.step P e)) : (r.step P e).Faithful := by
  have hwaiting : (r.step P e).waiting = r.waiting := by
    simp only [waiting, step, made_of_not_called hcalled, hends, List.append_nil, Option.toList_none]
  refine ⟨?_, ?_, ?_, ?_⟩
  · rw [step, hidle.completions]
    exact h.once
  · simp only [step, hidle.completions, hends, Option.toList_none, List.append_nil]
    exact h.results
  · rw [hwaiting, step, hidle.completers]
    exact h.table
  · rw [hwaiting, step, hidle.timers]
    exact h.timers

lemma faithful_of_called (hr : r.Consistent) (h : r.Faithful) {e : ActionEvent} {extraPrefix : ActionPrefix}
    (hcalled : e.called = some extraPrefix) : (r.step P e).Faithful := by
  have hnew : Called r.actions extraPrefix (r.actions.step P e) := step_called hcalled
  rcases hnew.timers with ⟨error, htimers⟩
  have hfresh : r.actions.chatActionRequestId + 1 ∉ r.calls.map Prod.fst := by
    intro hmem
    rcases List.mem_map.mp hmem with ⟨call, hcall, heq⟩
    have hle := hr.numbered call hcall
    omega
  have hwaiting : (r.step P e).waiting = r.waiting ++ [(r.actions.chatActionRequestId + 1,
      .action extraPrefix (r.actions.chatActionRequestId + 1))] := by
    simp only [waiting, step, made_of_called hcalled, ends_of_called hcalled, List.append_nil,
      Option.toList_none, List.filter_append]
    congr 1
    refine List.filter_eq_self.mpr fun call hcall => ?_
    rw [List.mem_singleton.mp hcall, Bool.not_eq_true', List.any_eq_false]
    intro ending hending
    simp only [beq_iff_eq]
    exact fun heq => hfresh (heq ▸ hr.ended ending hending)
  refine ⟨?_, ?_, ?_, ?_⟩
  · rw [step, hnew.completions]
    exact h.once
  · simp only [step, hnew.completions, ends_of_called hcalled, Option.toList_none, List.append_nil]
    exact h.results
  · rw [hwaiting, step, hnew.completers, h.table, without_of_lookup_none, List.map_append]
    · rfl
    · refine List.find?_eq_none.mpr fun completer hcompleter => ?_
      rcases List.mem_map.mp hcompleter with ⟨call, hcall, rfl⟩
      have hmem := (mem_waiting.mp hcall).1
      rcases hr.own call hmem with ⟨ownPrefix, hown⟩
      simp only [Prod.fst_swap, beq_iff_eq, hown]
      intro heq
      exact hfresh ((ActionExtra.action.inj heq).2 ▸ List.mem_map_of_mem hmem)
  · rw [hwaiting, step, htimers, List.map_append, h.timers]
    rfl

/-- What the table has for an extra is the call that waits for it. -/
lemma lookup_completers (h : r.Faithful) (extra : ActionExtra) :
    lookup Prod.fst extra r.actions.chatActionCompleters =
      (r.waiting.find? (·.2 == extra)).map Prod.swap := by
  rw [h.table, lookup, List.find?_map]
  rfl

lemma reply_faithful_iff (hr : r.Consistent) (h : r.Faithful) (extra : ActionExtra) (reply : ActionReply) :
    (r.step P (.reply (some extra) reply)).Faithful ↔ r.Handled (.reply (some extra) reply) := by
  have hlookup := lookup_completers h extra
  rcases hfind : r.waiting.find? (·.2 == extra) with _ | call
  · rw [hfind, Option.map_none] at hlookup
    refine iff_of_true (faithful_of_idle h rfl ?_ (handleReply_idle hlookup)) ?_
    · rw [ends, hfind, Option.map_none]
    · have hnone : extra ∉ r.waiting.map Prod.snd := by
        intro hmem
        rcases List.mem_map.mp hmem with ⟨call, hcall, rfl⟩
        exact List.find?_eq_none.mp hfind call hcall (beq_self_eq_true _)
      cases reply <;> first | exact trivial | exact hnone
  · have hcall := List.mem_of_find?_eq_some hfind
    obtain rfl : call.2 = extra := by simpa using List.find?_some hfind
    rw [hfind, Option.map_some] at hlookup
    have hends : r.ends (.reply (some call.2) reply) = some (call.1, .reply reply) := by
      rw [ends, hfind, Option.map_some]
    rcases hresult : reply.result with _ | result
    · have hreply : ∃ botUserId queryId, reply = .chatJoinResultGuardBotApprovalRequired botUserId queryId := by
        cases reply <;> first | exact ⟨_, _, rfl⟩ | cases hresult
      rcases hreply with ⟨botUserId, queryId, rfl⟩
      refine iff_of_false (fun hafter => ?_) fun hhandled => hhandled (List.mem_map_of_mem hcall)
      have hresults := hafter.results
      have hlast : (call.1, (none : Option ActionResult)) ∈
          (r.step P (.reply (some call.2) (.chatJoinResultGuardBotApprovalRequired botUserId queryId))).endings.map
            fun ending => (ending.1, ending.2.result) := by
        rw [step, hends, List.map_append]
        exact List.mem_append_right _ List.mem_cons_self
      rw [← hresults] at hlast
      rcases List.mem_map.mp hlast with ⟨completion, -, heq⟩
      exact absurd (Prod.mk.inj heq).2 (Option.some_ne_none _)
    · have haction : call.2.isChatAction := by
        rcases hr.own call (mem_waiting.mp hcall).1 with ⟨extraPrefix, hextra⟩
        rw [hextra]
        rfl
      refine iff_of_true (faithful_of_ended hr h hcall hends hresult
        (handleReply_ended haction hlookup hresult)) ?_
      cases reply <;> first | exact trivial | cases hresult

lemma timeout_faithful (hr : r.Consistent) (h : r.Faithful) (number : ℕ) :
    (r.step P (.timeout number)).Faithful := by
  have hfinds : (r.actions.timers.find? (·.call == number)).map (fun timer => (timer.call, timer.extra)) =
      r.waiting.find? (·.1 == number) := by
    rw [← h.timers, List.find?_map]
    rfl
  rcases htimer : r.actions.timers.find? (·.call == number) with _ | timer
  · rw [htimer, Option.map_none] at hfinds
    refine faithful_of_idle h rfl ?_ ?_
    · rw [ends, ← hfinds, Option.map_none]
    · simp only [ChatActions.step, ChatActions.fireTimeout, htimer]
      exact ⟨rfl, rfl, rfl, rfl⟩
  · rw [htimer, Option.map_some] at hfinds
    obtain rfl : timer.call = number := by simpa using List.find?_some htimer
    have hends : r.ends (.timeout timer.call) = some (timer.call, .timeout) := by
      rw [ends, ← hfinds, Option.map_some]
    exact faithful_of_ended hr h (List.mem_of_find?_eq_some hfinds.symm) hends rfl (fireTimeout_ended htimer)

lemma step_faithful_iff (hr : r.Consistent) (h : r.Faithful) (e : ActionEvent) :
    (r.step P e).Faithful ↔ r.Handled e := by
  rcases hcalled : e.called with _ | extraPrefix
  · cases e with
    | reply extra reply =>
        cases extra with
        | none => exact iff_of_true (faithful_of_idle h rfl rfl ⟨rfl, rfl, rfl, rfl⟩) trivial
        | some extra => exact reply_faithful_iff hr h extra reply
    | timeout number => exact iff_of_true (timeout_faithful hr h number) trivial
    | _ => cases hcalled
  · refine iff_of_true (faithful_of_called hr h hcalled) ?_
    cases e <;> first | exact trivial | cases hcalled

/-- **Every future completes once, with what has happened first to its call**, and the table has the calls that
wait, in every state of every run in which no call is told to be approved by a bot; and wherever it is so, a step
keeps it so exactly if it does not tell one. -/
theorem calls_complete (P : Platform) :
    (∀ r, Reachable (step P) Handled {} r → r.Faithful) ∧
    ∀ r e, Reachable (step P) (fun _ _ => True) {} r → r.Faithful → ((r.step P e).Faithful ↔ r.Handled e) := by
  constructor
  · intro r h
    have hstart : ({} : ActionRun).Consistent := @consistent_of_reachable P {} Handled .start
    have hinv : r.Consistent ∧ r.Faithful := by
      refine h.invariant (I := fun r => r.Consistent ∧ r.Faithful) ⟨hstart, List.nodup_nil, rfl, rfl, rfl⟩ ?_
      exact fun r e hr he => ⟨step_consistent hr.1 e, (step_faithful_iff hr.1 hr.2 e).mpr he⟩
    exact hinv.2
  · exact fun r e hr h => step_faithful_iff (consistent_of_reachable hr) h e

/-- Two calls, of which the first times out and the second is answered twice. -/
def twoCalls : List ActionEvent :=
  [.joinChat 7, .createPrivateChat 8, .timeout 1, .reply (some (.action .createPrivateChat 2)) (.chat 9),
    .reply (some (.action .createPrivateChat 2)) (.chat 9),
    .reply (some (.action .joinChat 1)) (.chatJoinResultSuccess 7)]

theorem calls_complete_two :
    (twoCalls.foldl (step .plain) {}).actions.completions = [(1, .timedOut), (2, .value 9)] ∧
      (twoCalls.foldl (step .plain) {}).Faithful := by
  refine ⟨by decide, (calls_complete .plain).1 _ (Reachable.start.run ?_)⟩
  exact ⟨trivial, trivial, trivial, trivial, trivial, trivial, trivial⟩

/-- **A call that is answered goes on waiting**, until it times out: nothing handles the reply that a bot has to
approve. -/
theorem unhandled_reply_ignored :
    ∃ r, Reachable (step .plain) (fun _ _ => True) {} r ∧ ¬r.Faithful ∧
      r.endings = [(1, .reply (.chatJoinResultGuardBotApprovalRequired 5 6))] ∧
      r.actions.completions = [(1, .timedOut)] := by
  have hrun : Reachable (step .plain) (fun _ _ => True) {}
      ([.joinChatByInviteLink "link",
        .reply (some (.action .joinInvite 1)) (.chatJoinResultGuardBotApprovalRequired 5 6),
        .timeout 1].foldl (step .plain) {}) :=
    Reachable.start.run ⟨trivial, trivial, trivial, trivial⟩
  refine ⟨_, hrun, fun hright => ?_, by decide, by decide⟩
  exact absurd hright.results (by decide)

end ActionRun

end RioGram.Chats
