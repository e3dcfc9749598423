import RioGram.Chats.Changes
import RioGram.Core.Reachable

/-!
# Loading the history of a chat that has been opened

`Opening` is the manager after `openChat` together with the requests for pages of the history that this
has caused, and `Opening.answer` is TDLib's answer to one of those that are outstanding.  Opening a chat
asks for a page of what is stored locally and for one of what the server has, and each page that brings
something new asks for the next one of its kind.

* `requests_bounded` bounds the requests and says that the loading ends, and `retries_unbounded` that an
  error for which both pages are asked for again is not counted.
* `history_loaded` says when the loading stops too early, and `history_missing` is a run in which it does.
-/

namespace RioGram.Chats

open Keyed Reaching

/-! ## Requests and answers -/

structure PageRequest where
  fromMessageId : ℤ
  onlyLocal : Bool
deriving DecidableEq

/-- The requests for pages of the chat's history. -/
def pageRequests (chatId : ℤ) (sent : List Request) : List PageRequest :=
  sent.filterMap fun
    | .getChatHistory requested fromMessageId onlyLocal =>
        if requested = chatId then some ⟨fromMessageId, onlyLocal⟩ else none
    | _ => none

inductive Answer where
  | page (messages : List (Option RawMessage))
  | error (message : Option String)

/-- What the manager gets for an answer to a request. -/
def Answer.toUpdate (chatId : ℤ) (onlyLocal : Bool) (answer : Answer) : Update :=
  let extra : Extra := if onlyLocal then .getChatHistoryLocal chatId else .getChatHistory chatId
  match answer with
  | .page messages => .messages { extra := some extra, messages }
  | .error message => .error (some extra) message

structure Opening where
  manager : Manager
  /-- All requests for pages since the chat was opened. -/
  requests : List PageRequest
  /-- Those that are not answered. -/
  outstanding : List PageRequest

namespace Opening

/-- A chat has just been opened. -/
def start (m : Manager) (chatId : ℤ) : Opening :=
  let requests := pageRequests chatId ((m.openChat chatId).sent.drop m.sent.length)
  { manager := m.openChat chatId, requests, outstanding := requests }

/-- TDLib answers one of the requests that are outstanding. -/
def answer (P : Platform) (chatId : ℤ) (o : Opening) (reply : ℕ × Answer) : Opening :=
  match o.outstanding[reply.1]? with
  | none => o
  | some request =>
      let manager := o.manager.handleUpdate P (reply.2.toUpdate chatId request.onlyLocal)
      let requests := pageRequests chatId (manager.sent.drop o.manager.sent.length)
      { manager
        requests := o.requests ++ requests
        outstanding := o.outstanding.eraseIdx reply.1 ++ requests }

end Opening

/-! ## One page -/

variable {P : Platform} {m : Manager} {chatId : ℤ}

/-- The messages of a page, as they are merged. -/
def Manager.parsedPage (P : Platform) (m : Manager) (raws : List (Option RawMessage)) :
    List ChatMessage :=
  P.sortById.run (m.parseMessages P raws)

/-- How many of the messages of a page are new. -/
def Manager.addedBy (P : Platform) (m : Manager) (raws : List (Option RawMessage)) : ℕ :=
  (m.mergeHistoryMessages P (m.parsedPage P raws)).2

/-- Whether the next page is asked for. -/
def Manager.continuesAfter (P : Platform) (m : Manager) (onlyLocal : Bool)
    (raws : List (Option RawMessage)) : Bool :=
  (m.showPage P (m.parsedPage P raws) !onlyLocal).shouldContinueHistoryLoad (m.addedBy P raws)

/-- What a page of the open chat does, `m'` being the manager after it. -/
structure PageHandled (P : Platform) (chatId : ℤ) (onlyLocal : Bool) (raws : List (Option RawMessage))
    (m m' : Manager) : Prop where
  same : ShowsSame (m.mergeHistoryMessages P (m.parsedPage P raws)).1 m'
  settings : m'.settings = m.settings
  target : m'.historyTargetCount = m.historyTargetCount
  pages : m'.historyPagesFetched = m.historyPagesFetched + 1
  loading : m'.isLoadingMessages → m.isLoadingMessages ∧ onlyLocal
  requests : pageRequests chatId (m'.sent.drop m.sent.length) =
    if m.continuesAfter P onlyLocal raws then
      [⟨(m.showPage P (m.parsedPage P raws) !onlyLocal).oldestId, onlyLocal⟩]
    else []

section Fields

variable (P) (m) (batch : List ChatMessage) (ends : Bool)

lemma showPage_fields :
    (m.showPage P batch ends).sent = m.sent ∧ (m.showPage P batch ends).settings = m.settings ∧
      (m.showPage P batch ends).historyTargetCount = m.historyTargetCount ∧
      (m.showPage P batch ends).historyPagesFetched = m.historyPagesFetched + 1 := by
  simp only [Manager.showPage, Manager.endLoadingIf]
  split_ifs
  · exact ⟨rfl, rfl, rfl, rfl⟩
  · exact ⟨rfl, rfl, rfl, rfl⟩

lemma showPage_loading :
    (m.showPage P batch ends).isLoadingMessages → m.isLoadingMessages ∧ ends = false := by
  simp only [Manager.showPage, Manager.endLoadingIf]
  split_ifs with hends
  · exact fun h => absurd h Bool.false_ne_true
  · intro hloading
    have hsame : m.isLoadingMessages = true := hloading
    simp_all [Manager.countPage]

lemma finishHistory_fields (chatId : ℤ) :
    (m.finishHistory chatId).settings = m.settings ∧
      (m.finishHistory chatId).historyTargetCount = m.historyTargetCount ∧
      (m.finishHistory chatId).historyPagesFetched = m.historyPagesFetched ∧
      (m.finishHistory chatId).isLoadingMessages = false ∧
      pageRequests chatId ((m.finishHistory chatId).sent.drop m.sent.length) = [] := by
  have hdrop : m.sent.drop m.sent.length = [] := List.drop_length
  simp only [Manager.finishHistory, Manager.markMessagesRead]
  split_ifs
  · exact ⟨rfl, rfl, rfl, rfl, by simp [Manager.endLoading, hdrop, pageRequests]⟩
  · exact ⟨rfl, rfl, rfl, rfl, by simp [Manager.endLoading, hdrop, pageRequests]⟩
  · exact ⟨rfl, rfl, rfl, rfl, by simp [Manager.endLoading, Manager.send, pageRequests]⟩

end Fields

lemma requestChatHistory_eq (htopic : m.activeForumTopicId = none) (onlyLocal : Bool)
    (fromMessageId : ℤ) :
    m.requestChatHistory chatId onlyLocal fromMessageId =
      m.send (.getChatHistory chatId fromMessageId onlyLocal) := by
  simp [Manager.requestChatHistory, htopic]

lemma handleChatHistory_handled (hopen : m.activeChatId = some chatId)
    (htopic : m.activeForumTopicId = none) (onlyLocal : Bool) (raws : List (Option RawMessage)) :
    PageHandled P chatId onlyLocal raws m (m.handleChatHistory P chatId onlyLocal raws) := by
  have hsame := m.handleChatHistory_same P hopen onlyLocal raws
  have hshown := m.showPage_same P (m.parsedPage P raws) (!onlyLocal)
  rcases showPage_fields P m (m.parsedPage P raws) (!onlyLocal) with
    ⟨hsent, hsettings, htarget, hpages⟩
  have hloading := showPage_loading P m (m.parsedPage P raws) (!onlyLocal)
  have hresult : m.handleChatHistory P chatId onlyLocal raws =
      if m.continuesAfter P onlyLocal raws then
        (m.showPage P (m.parsedPage P raws) !onlyLocal).requestChatHistory chatId onlyLocal
          (m.showPage P (m.parsedPage P raws) !onlyLocal).oldestId
      else if onlyLocal then m.showPage P (m.parsedPage P raws) !onlyLocal
      else (m.showPage P (m.parsedPage P raws) !onlyLocal).finishHistory chatId := by
    simp only [Manager.handleChatHistory, hopen, ne_eq, not_true, if_false]
    rfl
  rw [hresult] at hsame ⊢
  by_cases hcontinues : m.continuesAfter P onlyLocal raws
  · rw [if_pos hcontinues] at hsame ⊢
    rw [requestChatHistory_eq (hshown.topic.trans htopic)] at hsame ⊢
    refine ⟨hsame, hsettings, htarget, hpages, fun h => ?_, ?_⟩
    · simpa using hloading h
    · rw [if_pos hcontinues]
      simp [Manager.send, hsent, pageRequests]
  · rw [if_neg hcontinues] at hsame ⊢
    cases onlyLocal with
    | true =>
        refine ⟨hsame, hsettings, htarget, hpages, fun h => ?_, ?_⟩
        · simpa using hloading h
        · rw [if_neg hcontinues, if_pos rfl, hsent, List.drop_length]
          rfl
    | false =>
        rcases finishHistory_fields (m.showPage P (m.parsedPage P raws) true) chatId with
          ⟨hsettings', htarget', hpages', hloading', hrequests⟩
        refine ⟨hsame, hsettings'.trans hsettings, htarget'.trans htarget, hpages'.trans hpages, ?_, ?_⟩
        · intro h
          rw [if_neg Bool.false_ne_true] at h
          exact absurd (hloading'.symm.trans h) Bool.false_ne_true
        · rw [if_neg hcontinues]
          exact hsent ▸ hrequests

/-! ## One answer -/

/-- The error for which the chat is opened and both pages are asked for again. -/
def Answer.isRetried : Answer → Bool
  | .page _ => false
  | .error message => Manager.isChatNotOpen (message.getD "")

lemma handleHistoryError_retried (hopen : m.activeChatId = some chatId)
    (htopic : m.activeForumTopicId = none) {message : Option String}
    (h : Manager.isChatNotOpen (message.getD "")) :
    m.handleHistoryError chatId message =
      ((m.send (.openChat chatId none)).send (.getChatHistory chatId 0 true)).send
        (.getChatHistory chatId 0 false) := by
  simp [Manager.handleHistoryError, hopen, h, Manager.requestChatHistory, Manager.send, htopic]

lemma handleHistoryError_failed (hopen : m.activeChatId = some chatId) {message : Option String}
    (h : ¬Manager.isChatNotOpen (message.getD "")) :
    m.handleHistoryError chatId message =
      m.failLoading (message.getD "Не удалось загрузить сообщения") := by
  simp [Manager.handleHistoryError, hopen, h]

lemma handleUpdate_page (raws : List (Option RawMessage)) (onlyLocal : Bool) :
    m.handleUpdate P ((Answer.page raws).toUpdate chatId onlyLocal) =
      m.handleChatHistory P chatId onlyLocal raws := by
  cases onlyLocal
  · rfl
  · rfl

lemma handleUpdate_error (message : Option String) (onlyLocal : Bool) :
    m.handleUpdate P ((Answer.error message).toUpdate chatId onlyLocal) =
      m.handleHistoryError chatId message := by
  cases onlyLocal
  · rfl
  · rfl

namespace Opening

variable {o : Opening}

/-- The chat is open, and no topic. -/
structure IsOpen (chatId : ℤ) (o : Opening) : Prop where
  chat : o.manager.activeChatId = some chatId
  topic : o.manager.activeForumTopicId = none

lemma start_requests (m : Manager) (chatId : ℤ) :
    (start m chatId).requests = [⟨0, true⟩, ⟨0, false⟩] := by
  have hsent : (m.openChat chatId).sent = m.sent ++
      [.openChat chatId (some (.openChat chatId)), .getChatHistory chatId 0 true,
        .getChatHistory chatId 0 false] := by
    simp [Manager.openChat, Manager.startLoading, Manager.requestChatHistory, Manager.send]
  simp [start, hsent, pageRequests]

lemma start_isOpen (m : Manager) (chatId : ℤ) : (start m chatId).IsOpen chatId := by
  constructor
  · simp [start, Manager.openChat, Manager.startLoading, Manager.requestChatHistory, Manager.send]
  · simp [start, Manager.openChat, Manager.startLoading, Manager.requestChatHistory, Manager.send]

/-- One of the requests is no longer outstanding, and others are. -/
structure Takes (o o' : Opening) (index : ℕ) (answered : PageRequest) (asked : List PageRequest) :
    Prop where
  answered : o.outstanding[index]? = some answered
  requests : o'.requests = o.requests ++ asked
  outstanding : o'.outstanding = o.outstanding.eraseIdx index ++ asked

/-- What an answer can do. -/
inductive Answered (P : Platform) (chatId : ℤ) (o : Opening) (reply : ℕ × Answer) (o' : Opening) : Prop
  | nothing (hanswered : o.outstanding[reply.1]? = none) (hsame : o' = o)
  | page (answered : PageRequest) (raws : List (Option RawMessage)) (hreply : reply.2 = .page raws)
      (hpage : PageHandled P chatId answered.onlyLocal raws o.manager o'.manager)
      (htakes : Takes o o' reply.1 answered
        (pageRequests chatId (o'.manager.sent.drop o.manager.sent.length)))
  | retried (answered : PageRequest) (hreply : reply.2.isRetried)
      (hmanager : o'.manager = ((o.manager.send (.openChat chatId none)).send
        (.getChatHistory chatId 0 true)).send (.getChatHistory chatId 0 false))
      (htakes : Takes o o' reply.1 answered [⟨0, true⟩, ⟨0, false⟩])
  | failed (answered : PageRequest) (message : String) (hreply : ∀ raws, reply.2 ≠ .page raws)
      (hretried : ¬reply.2.isRetried) (hmanager : o'.manager = o.manager.failLoading message)
      (htakes : Takes o o' reply.1 answered [])

lemma answer_takes {reply : ℕ × Answer} {answered : PageRequest}
    (hanswered : o.outstanding[reply.1]? = some answered) :
    (o.answer P chatId reply).manager =
        o.manager.handleUpdate P (reply.2.toUpdate chatId answered.onlyLocal) ∧
      Takes o (o.answer P chatId reply) reply.1 answered (pageRequests chatId
        ((o.answer P chatId reply).manager.sent.drop o.manager.sent.length)) := by
  simp only [answer, hanswered]
  exact ⟨trivial, hanswered, rfl, rfl⟩

/-- An answer does one of these. -/
lemma answer_answered (h : o.IsOpen chatId) (reply : ℕ × Answer) :
    Answered P chatId o reply (o.answer P chatId reply) := by
  cases hanswered : o.outstanding[reply.1]? with
  | none => exact .nothing hanswered (by simp [answer, hanswered])
  | some answered =>
      rcases @answer_takes P chatId o _ _ hanswered with ⟨hmanager, htakes⟩
      rcases reply with ⟨index, raws | message⟩
      · have hpage := handleChatHistory_handled (P := P) h.chat h.topic answered.onlyLocal raws
        rw [handleUpdate_page] at hmanager
        rw [← hmanager] at hpage
        exact .page answered raws rfl hpage htakes
      · rw [handleUpdate_error] at hmanager
        by_cases hretried : Manager.isChatNotOpen (message.getD "")
        · rw [handleHistoryError_retried h.chat h.topic hretried] at hmanager
          refine .retried answered hretried hmanager ?_
          rw [hmanager] at htakes
          simpa [Manager.send, pageRequests] using htakes
        · rw [handleHistoryError_failed h.chat hretried] at hmanager
          refine .failed answered _ (fun raws => Answer.noConfusion) hretried hmanager ?_
          rw [hmanager] at htakes
          simpa [Manager.failLoading, pageRequests] using htakes

lemma answer_isOpen (h : o.IsOpen chatId) (reply : ℕ × Answer) :
    (o.answer P chatId reply).IsOpen chatId := by
  cases answer_answered (P := P) h reply with
  | nothing _ hsame =>
      rw [hsame]
      exact h
  | page answered raws _ hpage _ => exact ⟨hpage.same.chat.trans h.chat, hpage.same.topic.trans h.topic⟩
  | retried answered _ hmanager _ => exact ⟨hmanager ▸ h.chat, hmanager ▸ h.topic⟩
  | failed answered message _ _ hmanager _ => exact ⟨hmanager ▸ h.chat, hmanager ▸ h.topic⟩

/-! ## The requests are bounded and the loading ends -/

/-- While the messages are loading, a page from the server is outstanding. -/
def Ends (o : Opening) : Prop :=
  o.manager.isLoadingMessages → ∃ request ∈ o.outstanding, request.onlyLocal = false

/-- Each request but the first two goes with a page, and the last page asks for nothing. -/
structure Bounded (o : Opening) : Prop where
  pages : o.requests.length ≤ 2 + o.manager.historyPagesFetched
  max : o.requests.length ≤ 2 + historyMaxPages

/-- A request stays outstanding when another one is answered. -/
lemma Takes.mem_outstanding {o' : Opening} {index : ℕ} {answered request : PageRequest}
    {asked : List PageRequest} (htakes : Takes o o' index answered asked)
    (h : request ∈ o.outstanding) (hne : request ≠ answered) : request ∈ o'.outstanding := by
  rcases List.mem_iff_getElem?.mp h with ⟨other, hother⟩
  rw [htakes.outstanding, List.mem_append, List.mem_eraseIdx_iff_getElem?]
  refine .inl ⟨other, ?_, hother⟩
  rintro rfl
  exact hne (Option.some_inj.mp (hother.symm.trans htakes.answered))

lemma continuesAfter_pages {onlyLocal : Bool} {raws : List (Option RawMessage)}
    (h : m.continuesAfter P onlyLocal raws) : m.historyPagesFetched + 1 < historyMaxPages := by
  simp only [Manager.continuesAfter, Manager.shouldContinueHistoryLoad, Bool.and_eq_true,
    decide_eq_true_eq, (showPage_fields P m (m.parsedPage P raws) (!onlyLocal)).2.2.2] at h
  exact h.1.2

lemma answer_ends (hopen : o.IsOpen chatId) (h : o.Ends) (reply : ℕ × Answer) :
    (o.answer P chatId reply).Ends := by
  intro hloading
  cases answer_answered (P := P) hopen reply with
  | nothing _ hsame =>
      rw [hsame] at hloading ⊢
      exact h hloading
  | page answered raws _ hpage htakes =>
      rcases hpage.loading hloading with ⟨hbefore, hlocal⟩
      rcases h hbefore with ⟨request, hmem, hremote⟩
      refine ⟨request, htakes.mem_outstanding hmem ?_, hremote⟩
      rintro rfl
      exact absurd (hremote.symm.trans hlocal) Bool.false_ne_true
  | retried answered _ _ htakes =>
      refine ⟨⟨0, false⟩, ?_, rfl⟩
      rw [htakes.outstanding]
      simp
  | failed answered message _ _ hmanager _ =>
      rw [hmanager] at hloading
      exact absurd hloading Bool.false_ne_true

lemma answer_bounded (hopen : o.IsOpen chatId) (h : o.Bounded) {reply : ℕ × Answer}
    (hretried : ¬reply.2.isRetried) : (o.answer P chatId reply).Bounded := by
  have hbefore := h.pages
  have hmax := h.max
  cases answer_answered (P := P) hopen reply with
  | nothing _ hsame =>
      rw [hsame]
      exact h
  | page answered raws _ hpage htakes =>
      have hpages := hpage.pages
      have hrequests := htakes.requests
      rw [hpage.requests] at hrequests
      by_cases hcontinues : o.manager.continuesAfter P answered.onlyLocal raws
      · have hroom := continuesAfter_pages hcontinues
        rw [if_pos hcontinues] at hrequests
        constructor
        · rw [hrequests, List.length_append, List.length_singleton]
          omega
        · rw [hrequests, List.length_append, List.length_singleton]
          omega
      · rw [if_neg hcontinues, List.append_nil] at hrequests
        constructor
        · rw [hrequests]
          omega
        · rw [hrequests]
          exact hmax
  | retried answered hreply _ _ => exact absurd hreply hretried
  | failed answered message _ _ hmanager htakes =>
      have hrequests := htakes.requests
      rw [List.append_nil] at hrequests
      constructor
      · rw [hrequests, hmanager]
        exact hbefore
      · rw [hrequests]
        exact hmax

/-- **The history of a chat that is opened is asked for in boundedly many pages**, if TDLib answers none of
the requests with an error that is taken for a chat that is not open.  Whatever it answers, the loading
has ended once all requests are answered. -/
theorem requests_bounded (P : Platform) (m : Manager) (chatId : ℤ) :
    (∀ o, Reachable (answer P chatId) (fun _ reply => ¬reply.2.isRetried) (start m chatId) o →
      o.requests.length ≤ 2 + historyMaxPages) ∧
    ∀ o, Reachable (answer P chatId) (fun _ _ => True) (start m chatId) o →
      o.outstanding = [] → o.manager.isLoadingMessages = false := by
  constructor
  · intro o h
    have hstart : (start m chatId).Bounded := by
      constructor
      · rw [start_requests]
        exact Nat.le_add_right 2 _
      · rw [start_requests]
        exact Nat.le_add_right 2 _
    have hinv : o.IsOpen chatId ∧ o.Bounded := by
      refine h.invariant (I := fun o => o.IsOpen chatId ∧ o.Bounded)
        ⟨start_isOpen m chatId, hstart⟩ ?_
      intro o reply ho hretried
      exact ⟨answer_isOpen ho.1 reply, answer_bounded ho.1 ho.2 hretried⟩
    exact hinv.2.max
  · intro o h hanswered
    have hinv : o.IsOpen chatId ∧ o.Ends := by
      refine h.invariant (I := fun o => o.IsOpen chatId ∧ o.Ends) ⟨start_isOpen m chatId, ?_⟩ ?_
      · intro _
        refine ⟨⟨0, false⟩, ?_, rfl⟩
        rw [show (start m chatId).outstanding = [⟨0, true⟩, ⟨0, false⟩] from start_requests m chatId]
        simp
      · intro o reply ho _
        exact ⟨answer_isOpen ho.1 reply, answer_ends ho.1 ho.2 reply⟩
    rw [← Bool.not_eq_true]
    intro hloading
    rcases hinv.2 hloading with ⟨request, hmem, -⟩
    simp [hanswered] at hmem

/-- A page of one message, and then an error. -/
def pageAndError : List (ℕ × Answer) :=
  [(1, .page [some (RawMessage.text 5 1 "hello")]), (0, .error (some "Timeout"))]

theorem requests_bounded_error :
    (pageAndError.foldl (answer .plain 1) (start {} 1)).requests.length ≤ 2 + historyMaxPages ∧
      (([(0, .error none), (0, .error none)] : List (ℕ × Answer)).foldl (answer .plain 1)
        (start {} 1)).manager.isLoadingMessages = false := by
  constructor
  · refine (requests_bounded .plain {} 1).1 _ (Reachable.start.run ⟨?_, ?_, trivial⟩)
    · decide
    · decide +kernel
  · refine (requests_bounded .plain {} 1).2 _ (Reachable.start.run ⟨trivial, trivial, trivial⟩) ?_
    decide +kernel

/-- The requests after one more error that is retried. -/
lemma answer_retried (hopen : o.IsOpen chatId) {request : PageRequest} {rest : List PageRequest}
    (houtstanding : o.outstanding = request :: rest) {message : String}
    (h : Manager.isChatNotOpen ((some message).getD "")) :
    (o.answer P chatId (0, .error (some message))).requests =
        o.requests ++ [⟨0, true⟩, ⟨0, false⟩] ∧
      (o.answer P chatId (0, .error (some message))).outstanding = rest ++ [⟨0, true⟩, ⟨0, false⟩] := by
  cases answer_answered (P := P) hopen (0, .error (some message)) with
  | nothing hanswered _ => simp [houtstanding] at hanswered
  | page answered raws hreply _ _ => cases hreply
  | retried answered _ _ htakes => exact ⟨htakes.requests, by rw [htakes.outstanding, houtstanding]; rfl⟩
  | failed answered _ _ hretried _ _ => exact absurd h hretried

/-- **There is no bound**: every error that says that the chat is not open has both pages asked for again,
and is not counted as a page. -/
theorem retries_unbounded :
    ¬∃ bound, ∀ o, Reachable (answer .plain 1) (fun _ _ => True) (start {} 1) o →
      o.requests.length ≤ bound := by
  rintro ⟨bound, hbound⟩
  have hmessage : Manager.isChatNotOpen "Chat is not open" := by decide +kernel
  have hmany : ∀ n, ∃ o, Reachable (answer .plain 1) (fun _ _ => True) (start {} 1) o ∧
      o.IsOpen 1 ∧ o.outstanding ≠ [] ∧ n < o.requests.length := by
    intro n
    induction n with
    | zero => exact ⟨_, .start, start_isOpen {} 1, by decide, by decide⟩
    | succ n ih =>
        rcases ih with ⟨o, hreach, hopen, hnonempty, hlength⟩
        rcases List.exists_cons_of_ne_nil hnonempty with ⟨request, rest, houtstanding⟩
        have hnext := answer_retried (P := .plain) hopen houtstanding hmessage
        refine ⟨_, hreach.next (e := (0, .error (some "Chat is not open"))) trivial,
          answer_isOpen hopen _, ?_, ?_⟩
        · simp [hnext.2]
        · rw [hnext.1, List.length_append]
          exact Nat.lt_add_right 1 (Nat.succ_lt_succ hlength)
  rcases hmany bound with ⟨o, hreach, -, -, hlength⟩
  exact absurd (hbound o hreach) (Nat.not_le.mpr hlength)

end Opening

/-! ## The server -/

/-- Whether a message with this id is not shown. -/
def Manager.blocks (m : Manager) (id : ℤ) : Bool :=
  m.settings.shouldBlockAds && AdBlockFilter.isSponsored id

/-- What there is of a chat on the server, and what of it is stored locally. -/
structure Server (chatId : ℤ) where
  history : List RawMessage
  cache : List RawMessage
  ofChat : ∀ message ∈ history, message.chatId = chatId
  distinct : (history.map (·.id)).Nodup
  cached : cache ⊆ history

def Server.source (server : Server chatId) (onlyLocal : Bool) : List RawMessage :=
  if onlyLocal then server.cache else server.history

/-- A page has messages up to the one that is asked for, 0 standing for the newest, and some if there are
older ones. -/
structure Server.Serves (server : Server chatId) (request : PageRequest)
    (page : List (Option RawMessage)) : Prop where
  upTo : ∀ raw ∈ page, ∃ message ∈ server.source request.onlyLocal,
    raw = some message ∧ (request.fromMessageId = 0 ∨ message.id ≤ request.fromMessageId)
  nonempty : (∃ message ∈ server.source request.onlyLocal,
    request.fromMessageId = 0 ∨ message.id < request.fromMessageId) → page ≠ []

namespace Opening

variable (server : Server chatId) (o : Opening)

/-- The reply is a page that the server gives for one of the requests that are outstanding. -/
def Served (reply : ℕ × Answer) : Prop :=
  ∃ request page, o.outstanding[reply.1]? = some request ∧ reply.2 = .page page ∧
    server.Serves request page

/-- Every message that is not blocked is in the list. -/
def Complete : Prop :=
  ∀ raw ∈ server.history, ¬o.manager.blocks raw.id → raw.id ∈ o.manager.messages.map (·.id)

/-- If nothing is outstanding, there are as many messages as should be loaded, or all of them, or no more
pages may be asked for. -/
def Loaded : Prop :=
  o.outstanding = [] →
    o.manager.historyTargetCount ≤ o.manager.messages.length ∨ o.Complete server ∨
      historyMaxPages ≤ o.manager.historyPagesFetched

/-- The answer to the last request that is outstanding brings a message that is not blocked and not in the
list, unless nothing more is to be loaded. -/
def BringsOn (reply : ℕ × Answer) : Prop :=
  o.outstanding.length ≠ 1 ∨
    (∃ page raw, reply.2 = .page page ∧ some raw ∈ page ∧ ¬o.manager.blocks raw.id ∧
      raw.id ∉ o.manager.messages.map (·.id)) ∨
    o.manager.historyTargetCount ≤ o.manager.messages.length ∨ o.Complete server ∨
    historyMaxPages ≤ o.manager.historyPagesFetched + 1

end Opening

/-! ## What a page brings -/

lemma mem_shownOf {batch : List ChatMessage} {message : ChatMessage} :
    message ∈ m.shownOf batch ↔ message ∈ batch ∧ ¬m.blocks message.id := by
  rw [Manager.shownOf, Manager.blocks]
  by_cases hads : m.settings.shouldBlockAds
  · simp [hads, AdBlockFilter.filterMessages, AdBlockFilter.isSponsoredMessage]
  · simp [hads]

lemma addedBy_pos {raws : List (Option RawMessage)} :
    0 < m.addedBy P raws ↔
      ∃ raw, some raw ∈ raws ∧ ¬m.blocks raw.id ∧ raw.id ∉ m.messages.map (·.id) := by
  have hadded : m.addedBy P raws = (merge ChatMessage.id (m.shownOf (m.parsedPage P raws)) m.messages).2 :=
    rfl
  rw [hadded, merge_added_pos]
  have hparsed : ∀ message, message ∈ m.parsedPage P raws ↔
      ∃ raw, some raw ∈ raws ∧ m.parseMessage P raw = message := by
    intro message
    rw [Manager.parsedPage, (P.sortById.perm _).mem_iff, Manager.parseMessages, List.mem_map]
    simp
  constructor
  · rintro ⟨message, hmessage, hnew⟩
    rcases mem_shownOf.mp hmessage with ⟨hpage, hblocks⟩
    rcases (hparsed message).mp hpage with ⟨raw, hraw, rfl⟩
    exact ⟨raw, hraw, hblocks, hnew⟩
  · rintro ⟨raw, hraw, hblocks, hnew⟩
    exact ⟨m.parseMessage P raw, mem_shownOf.mpr ⟨(hparsed _).mpr ⟨raw, hraw, rfl⟩, hblocks⟩, hnew⟩

/-- What is merged has the messages from before, and as many more as are new. -/
lemma merged_messages (raws : List (Option RawMessage)) :
    ((m.mergeHistoryMessages P (m.parsedPage P raws)).1.messages.length =
        m.messages.length + m.addedBy P raws) ∧
      (∀ id ∈ m.messages.map (·.id),
        id ∈ (m.mergeHistoryMessages P (m.parsedPage P raws)).1.messages.map (·.id)) ∧
      (m.addedBy P raws = 0 →
        (m.mergeHistoryMessages P (m.parsedPage P raws)).1.messages.map (·.id) =
          m.messages.map (·.id)) := by
  have hlength := @length_merge _ _ _ ChatMessage.id (m.shownOf (m.parsedPage P raws)) m.messages
  have hsame := @map_merge_of_added _ _ _ ChatMessage.id (m.shownOf (m.parsedPage P raws)) m.messages
  have hmem := fun k => @mem_map_merge _ _ _ ChatMessage.id (m.shownOf (m.parsedPage P raws)) m.messages k
  simp only [Manager.addedBy, Manager.mergeHistoryMessages, Manager.setMessages]
  split_ifs with hadded
  · refine ⟨(P.sortById.perm _).length_eq.trans hlength, ?_, fun hzero => absurd hzero hadded.ne'⟩
    intro id hid
    exact ((P.sortById.perm _).map _).mem_iff.mpr ((hmem id).mpr (.inl hid))
  · exact ⟨hlength, fun id hid => (hmem id).mpr (.inl hid), hsame⟩

lemma PageHandled.messages {onlyLocal : Bool} {raws : List (Option RawMessage)} {m' : Manager}
    (h : PageHandled P chatId onlyLocal raws m m') :
    m'.messages.length = m.messages.length + m.addedBy P raws ∧
      (∀ id ∈ m.messages.map (·.id), id ∈ m'.messages.map (·.id)) ∧
      (m.addedBy P raws = 0 → m'.messages.map (·.id) = m.messages.map (·.id)) := by
  rw [h.same.messages]
  exact merged_messages raws

/-- When the next page is asked for. -/
lemma continuesAfter_iff (hopen : m.activeChatId = some chatId) (onlyLocal : Bool)
    (raws : List (Option RawMessage)) :
    m.continuesAfter P onlyLocal raws ↔
      0 < m.addedBy P raws ∧ m.messages.length + m.addedBy P raws < m.historyTargetCount ∧
        m.historyPagesFetched + 1 < historyMaxPages := by
  have hshown := m.showPage_same P (m.parsedPage P raws) (!onlyLocal)
  rcases showPage_fields P m (m.parsedPage P raws) (!onlyLocal) with ⟨-, -, htarget, hpages⟩
  have hlength := (merged_messages (P := P) (m := m) raws).1
  have hchat : (m.showPage P (m.parsedPage P raws) !onlyLocal).activeChatId = some chatId :=
    hshown.chat.trans hopen
  simp only [Manager.continuesAfter, Manager.shouldContinueHistoryLoad, hchat, hpages, htarget,
    hshown.messages, hlength, Bool.and_eq_true, decide_eq_true_eq, bne_iff_ne, Option.isSome_some]
  constructor
  · rintro ⟨⟨⟨-, hlt⟩, hmax⟩, hadded⟩
    exact ⟨hadded, hlt, hmax⟩
  · rintro ⟨hadded, hlt, hmax⟩
    refine ⟨⟨⟨⟨trivial, ?_⟩, hlt⟩, hmax⟩, hadded⟩
    intro hnil
    rw [hnil, List.length_nil] at hlength
    omega

/-! ## When the loading stops -/

namespace Opening

variable {server : Server chatId} {o : Opening}

/-- A page that answers a request is handled. -/
lemma answer_page (hopen : o.IsOpen chatId) {index : ℕ} {request : PageRequest}
    (hrequest : o.outstanding[index]? = some request) (page : List (Option RawMessage)) :
    ∃ answered : PageRequest,
      PageHandled P chatId answered.onlyLocal page o.manager
        (o.answer P chatId (index, .page page)).manager ∧
      Takes o (o.answer P chatId (index, .page page)) index answered (pageRequests chatId
        ((o.answer P chatId (index, .page page)).manager.sent.drop o.manager.sent.length)) := by
  cases answer_answered (P := P) hopen (index, .page page) with
  | nothing hanswered _ => exact absurd (hanswered.symm.trans hrequest) (Option.some_ne_none _).symm
  | page answered raws hreply hpage htakes =>
      cases hreply
      exact ⟨answered, hpage, htakes⟩
  | retried _ hreply _ _ => exact absurd hreply Bool.false_ne_true
  | failed _ _ hreply _ _ _ => exact absurd rfl (hreply page)

/-- Nothing stays outstanding exactly if the last request is answered and the next page is not asked for. -/
lemma Takes.outstanding_eq_nil {o' : Opening} {index : ℕ} {answered : PageRequest}
    {page : List (Option RawMessage)}
    (hpage : PageHandled P chatId answered.onlyLocal page o.manager o'.manager)
    (htakes : Takes o o' index answered
      (pageRequests chatId (o'.manager.sent.drop o.manager.sent.length))) :
    o'.outstanding = [] ↔
      o.outstanding.length = 1 ∧ ¬o.manager.continuesAfter P answered.onlyLocal page := by
  have hindex : index < o.outstanding.length := (List.getElem?_eq_some_iff.mp htakes.answered).1
  rw [htakes.outstanding, hpage.requests, List.append_eq_nil_iff, ← List.length_eq_zero_iff,
    List.length_eraseIdx_of_lt hindex]
  split_ifs with hcontinues
  · simp [hcontinues]
  · simp only [hcontinues, and_true, Bool.false_eq_true, not_false_eq_true]
    omega

/-- **One answer**: it leaves the chat loaded as it should be exactly if it brings the loading on. -/
lemma answer_loaded_iff (hopen : o.IsOpen chatId) {reply : ℕ × Answer} (hserved : o.Served server reply) :
    (o.answer P chatId reply).Loaded server ↔ o.BringsOn server reply := by
  rcases hserved with ⟨request, page, hrequest, hreply, -⟩
  rcases reply with ⟨index, answer⟩
  obtain rfl : answer = .page page := hreply
  rcases answer_page (P := P) hopen hrequest page with ⟨answered, hpage, htakes⟩
  generalize (o.answer P chatId (index, .page page)) = o' at *
  have hlast := htakes.outstanding_eq_nil hpage
  rcases hpage.messages with ⟨hlength, hgrow, hkept⟩
  have hblocks : ∀ id, o'.manager.blocks id = o.manager.blocks id := by
    intro id
    rw [Manager.blocks, Manager.blocks, hpage.settings]
  have hnew : (∃ page' raw, (index, Answer.page page).2 = .page page' ∧ some raw ∈ page' ∧
      ¬o.manager.blocks raw.id ∧ raw.id ∉ o.manager.messages.map (·.id)) ↔
        0 < o.manager.addedBy P page := by
    rw [addedBy_pos]
    constructor
    · rintro ⟨_, raw, ⟨⟩, hraw⟩
      exact ⟨raw, hraw⟩
    · rintro ⟨raw, hraw⟩
      exact ⟨page, raw, rfl, hraw⟩
  rw [Loaded, BringsOn, hlast, hnew, hpage.target, hpage.pages, continuesAfter_iff hopen.chat]
  constructor
  · intro hloaded
    by_cases hone : o.outstanding.length = 1
    · right
      by_cases hadded : 0 < o.manager.addedBy P page
      · exact .inl hadded
      · right
        have hzero : o.manager.addedBy P page = 0 := by omega
        rcases hloaded ⟨hone, fun h => hadded h.1⟩ with htarget | hcomplete | hmax
        · left
          omega
        · right
          left
          intro raw hraw hshown
          rw [← hkept hzero]
          exact hcomplete raw hraw (by rwa [hblocks])
        · exact .inr (.inr hmax)
    · exact .inl hone
  · rintro hbrings ⟨hone, hstops⟩
    rcases hbrings with hmore | hadded | htarget | hcomplete | hmax
    · exact absurd hone hmore
    · by_cases htarget : o.manager.messages.length + o.manager.addedBy P page < o.manager.historyTargetCount
      · right
        right
        by_contra hmax
        exact hstops ⟨hadded, htarget, by omega⟩
      · left
        omega
    · left
      omega
    · right
      left
      intro raw hraw hshown
      exact hgrow _ (hcomplete raw hraw (by rwa [← hblocks]))
    · exact .inr (.inr hmax)

/-- **The history of a chat that is opened is loaded** as far as it should be, once nothing is outstanding, in
every state of every run in which each answer brings the loading on; and in every run whatsoever, each
answer leaves it so exactly if it does. -/
theorem history_loaded (P : Platform) (m : Manager) (chatId : ℤ) (server : Server chatId) :
    (∀ o, Reachable (answer P chatId) (fun o reply => o.Served server reply ∧ o.BringsOn server reply)
        (start m chatId) o → o.Loaded server) ∧
    ∀ o reply, Reachable (answer P chatId) (fun o reply => o.Served server reply) (start m chatId) o →
      o.Served server reply →
        ((o.answer P chatId reply).Loaded server ↔ o.BringsOn server reply) := by
  constructor
  · intro o h
    have hinv : o.IsOpen chatId ∧ o.Loaded server := by
      refine h.invariant (I := fun o => o.IsOpen chatId ∧ o.Loaded server)
        ⟨start_isOpen m chatId, ?_⟩ ?_
      · intro hnil
        rw [show (start m chatId).outstanding = [⟨0, true⟩, ⟨0, false⟩] from start_requests m chatId]
          at hnil
        cases hnil
      · intro o reply ho hok
        exact ⟨answer_isOpen ho.1 reply, (answer_loaded_iff ho.1 hok.1).mpr hok.2⟩
    exact hinv.2
  · intro o reply h hserved
    have hopen : o.IsOpen chatId :=
      h.invariant (start_isOpen m chatId) fun o reply ho _ => answer_isOpen ho reply
    exact answer_loaded_iff hopen hserved

/-- Three messages, of which the last is stored. -/
def threeMessages : Server 1 where
  history := [.text 3 1 "c", .text 2 1 "b", .text 1 1 "a"]
  cache := [.text 3 1 "c"]
  ofChat := by decide
  distinct := by decide
  cached := by decide

/-- The server gives all three at once, and then nothing. -/
def allAtOnce : List (ℕ × Answer) :=
  [(1, .page [some (.text 3 1 "c"), some (.text 2 1 "b"), some (.text 1 1 "a")]),
    (0, .page [some (.text 3 1 "c")]), (0, .page [])]

/-- What is stored comes first, nothing more is stored, and then the server gives the same message. -/
def sameMessage : List (ℕ × Answer) :=
  [(0, .page [some (.text 3 1 "c")]), (1, .page []), (0, .page [some (.text 3 1 "c")])]

theorem history_loaded_three :
    (allAtOnce.foldl (answer .plain 1) (start {} 1)).Loaded threeMessages := by
  refine (history_loaded .plain {} 1 threeMessages).1 _
    (Reachable.start.run ⟨⟨⟨_, _, rfl, rfl, ?_, ?_⟩, ?_⟩, ⟨⟨_, _, rfl, rfl, ?_, ?_⟩, ?_⟩,
      ⟨⟨_, _, rfl, rfl, ?_, ?_⟩, ?_⟩, trivial⟩)
  · decide
  · decide
  · exact .inl (by decide)
  · decide
  · decide
  · exact .inl (by decide)
  · decide
  · decide
  · refine .inr (.inr (.inr (.inl ?_)))
    rw [Complete]
    decide

/-- **The loading stops with one of three messages**: the server's page brings nothing new. -/
theorem history_missing :
    ∃ o, Reachable (answer .plain 1) (fun o reply => o.Served threeMessages reply) (start {} 1) o ∧
      ¬o.Loaded threeMessages := by
  refine ⟨sameMessage.foldl (answer .plain 1) (start {} 1),
    Reachable.start.run ⟨⟨_, _, rfl, rfl, ?_, ?_⟩, ⟨_, _, rfl, rfl, ?_, ?_⟩, ⟨_, _, rfl, rfl, ?_, ?_⟩,
      trivial⟩, ?_⟩
  · decide
  · decide
  · decide
  · decide
  · decide
  · decide
  · intro hloaded
    rcases hloaded rfl with htarget | hcomplete | hmax
    · exact absurd htarget (by decide)
    · exact absurd (hcomplete (.text 1 1 "a") (by decide) (by decide)) (by decide)
    · exact absurd hmax (by decide)

end Opening

end RioGram.Chats
