import RioGram.Chats.Manager
import RioGram.Core.Reachable
import RioGram.Core.Rounds
import Mathlib.Data.List.Infix

/-!
# Searching for somebody to write to

The search for a new chat sends up to three requests when the user has stopped typing and gathers what they
bring in one list.  `NewChatRun` is the search with the requests that are not answered, the answers so far
and the number of the search that the user is waiting for.

* `results_of_latest` says when the list is that of the last query, and when it shows that it is loading.
* `results_of_earlier` is a run in which the list has chats of an earlier query.
-/

namespace RioGram.Chats

open Asking Reaching

/-! ## The name that is searched for -/

/-- What is used of a `Uri`, which `Uri.tryParse` makes of a text. -/
structure LinkUri where
  host : String
  pathSegments : List String

def isValidUsername (value : String) : Bool :=
  4 ≤ value.length ∧ value.length ≤ 32 ∧ value.toList.all fun c => c.isAlphanum || c == '_'

/-- `PublicChatLinkParser.parseUsername`. -/
def parseUsername (P : Platform) (tryParse : String → Option LinkUri) (query : String) : Option String :=
  let trimmed := P.trim query
  if trimmed = "" then none
  else
    let link := (tryParse (if "http".toList <+: trimmed.toList then trimmed else "https://" ++ trimmed)).filter
      fun uri => "t.me".toList <:+: uri.host.toList ∨ "telegram.me".toList <:+: uri.host.toList
    match link with
    | some uri =>
        let segments := uri.pathSegments.filter (· ≠ "")
        match segments.head?, segments.getLast? with
        | some first, some username =>
            if first = "joinchat" ∨ "+".toList <+: first.toList then none
            else if isValidUsername username then some username else none
        | _, _ => none
    | none =>
        let value := if "@".toList <+: trimmed.toList then String.ofList (trimmed.toList.drop 1) else trimmed
        if isValidUsername value then some value else none

/-! ## The search -/

inductive NewChatCommand where
  | searchChats (query : String) (limit requestId : ℕ)
  | searchChatsOnServer (query : String) (limit requestId : ℕ)
  | searchPublicChat (username : String) (requestId : ℕ)
  | getChat (chatId : ℤ)
deriving DecidableEq

/-- The fields of the manager that the search has to do with; of the chats, which ones are known. -/
structure NewChatSearch where
  newChatSearchIds : List ℤ := []
  newChatSearchPublicIds : List ℤ := []
  isNewChatSearchLoading : Bool := false
  /-- The query that the running timer is for. -/
  newChatSearchDebounce : Option String := none
  newChatSearchRequestId : ℕ := 0
  pendingNewChatSearchRequests : ℕ := 0
  isKnown : ℤ → Bool := fun _ => false
  sent : List NewChatCommand := []

namespace NewChatSearch

variable (P : Platform) (tryParse : String → Option LinkUri) (s : NewChatSearch)

def clearNewChatSearch : NewChatSearch :=
  { s with
    newChatSearchDebounce := none
    newChatSearchIds := []
    newChatSearchPublicIds := []
    isNewChatSearchLoading := false
    pendingNewChatSearchRequests := 0 }

def searchForNewChat (query : String) : NewChatSearch :=
  let trimmed := P.trim query
  if trimmed = "" then s.clearNewChatSearch
  else { s with isNewChatSearchLoading := true, newChatSearchDebounce := some trimmed }

/-- What the timer runs for a query. -/
def performNewChatSearch (trimmed : String) : NewChatSearch :=
  let requestId := s.newChatSearchRequestId + 1
  let publicSend := (parseUsername P tryParse trimmed).map fun username => .searchPublicChat username requestId
  { s with
    newChatSearchDebounce := none
    newChatSearchRequestId := requestId
    pendingNewChatSearchRequests := 2 + publicSend.toList.length
    sent := s.sent ++ [.searchChats trimmed 20 requestId, .searchChatsOnServer trimmed 20 requestId] ++
      publicSend.toList }

def completeNewChatSearchRequest : NewChatSearch :=
  if s.pendingNewChatSearchRequests = 0 then s
  else
    let pending := s.pendingNewChatSearchRequests - 1
    { s with
      pendingNewChatSearchRequests := pending
      isNewChatSearchLoading := if pending = 0 then false else s.isNewChatSearchLoading }

/-- The chats are added that are not there. -/
def addIds (chatIds : List ℤ) : NewChatSearch :=
  { s with newChatSearchIds := (s.newChatSearchIds ++ chatIds).eraseDups }

/-- `_handleNewChatSearch`, for what is stored locally and for what the server finds. -/
def handleNewChatSearch (requestId : ℕ) (chatIds : List ℤ) : NewChatSearch :=
  if requestId ≠ s.newChatSearchRequestId then s
  else
    let s := s.addIds chatIds
    ({ s with sent := s.sent ++ (chatIds.filter (!s.isKnown ·)).map .getChat } :
      NewChatSearch).completeNewChatSearchRequest

/-- What `_handleChatResponse` does with the chat that has the username. -/
def handlePublicChat (requestId : ℕ) (chatId : ℤ) : NewChatSearch :=
  let s := s.addIds [chatId]
  let s : NewChatSearch :=
    { s with newChatSearchPublicIds := (s.newChatSearchPublicIds ++ [chatId]).eraseDups }
  if requestId = s.newChatSearchRequestId then s.completeNewChatSearchRequest else s

def handleNewChatError (requestId : ℕ) : NewChatSearch :=
  if requestId = s.newChatSearchRequestId then s.completeNewChatSearchRequest else s

end NewChatSearch

/-! ## Runs -/

/-- The requests of a search; their extras are `newChatSearchLocal_<id>`, `newChatSearch_<id>` and
`newChatPublic_<id>`. -/
inductive NewChatTarget where
  | localChats | server | publicChat
deriving DecidableEq

inductive NewChatAnswer where
  | localChats (chatIds : List ℤ)
  | server (chatIds : List ℤ)
  | publicChat (chatId : ℤ)
  | error (target : NewChatTarget)
deriving DecidableEq

def NewChatAnswer.target : NewChatAnswer → NewChatTarget
  | .localChats _ => .localChats
  | .server _ => .server
  | .publicChat _ => .publicChat
  | .error target => target

/-- The chats that an answer brings. -/
def NewChatAnswer.chatIds : NewChatAnswer → List ℤ
  | .localChats chatIds => chatIds
  | .server chatIds => chatIds
  | .publicChat chatId => [chatId]
  | .error _ => []

def NewChatAnswer.isPublicChat : NewChatAnswer → Bool
  | .publicChat _ => true
  | _ => false

def NewChatSearch.handleAnswer (s : NewChatSearch) (requestId : ℕ) : NewChatAnswer → NewChatSearch
  | .localChats chatIds => s.handleNewChatSearch requestId chatIds
  | .server chatIds => s.handleNewChatSearch requestId chatIds
  | .publicChat chatId => s.handlePublicChat requestId chatId
  | .error _ => s.handleNewChatError requestId

inductive NewChatEvent where
  | searchForNewChat (query : String)
  | clearNewChatSearch
  | debounce
  /-- Other handlers learn about chats. -/
  | learn (isKnown : ℤ → Bool)
  | answer (requestId : ℕ) (answer : NewChatAnswer)

structure NewChatRun where
  search : NewChatSearch := {}
  rounds : Rounds NewChatTarget := {}
  answers : List (ℕ × NewChatAnswer) := []
  /-- The number of the last query's requests, once they are sent and as long as it is not cleared. -/
  current : Option ℕ := none

namespace NewChatRun

variable (P : Platform) (tryParse : String → Option LinkUri)

/-- The requests that are sent for a query. -/
def targets (trimmed : String) : List NewChatTarget :=
  [.localChats, .server] ++ ((parseUsername P tryParse trimmed).map fun _ => .publicChat).toList

def step (r : NewChatRun) : NewChatEvent → NewChatRun
  | .searchForNewChat query => { r with search := r.search.searchForNewChat P query, current := none }
  | .clearNewChatSearch => { r with search := r.search.clearNewChatSearch, current := none }
  | .debounce =>
      match r.search.newChatSearchDebounce with
      | none => r
      | some trimmed =>
          { r with
            search := r.search.performNewChatSearch P tryParse trimmed
            rounds := r.rounds.ask (targets P tryParse trimmed)
            current := some (r.rounds.latest + 1) }
  | .learn isKnown => { r with search := { r.search with isKnown } }
  | .answer requestId answer =>
      { r with
        search := r.search.handleAnswer requestId answer
        rounds := r.rounds.answer (requestId, answer.target)
        answers := r.answers ++ [(requestId, answer)] }

/-- TDLib answers requests that were sent, each once. -/
def Served (r : NewChatRun) : NewChatEvent → Prop
  | .answer requestId answer => (requestId, answer.target) ∈ r.rounds.outstanding
  | _ => True

instance (r : NewChatRun) : DecidablePred r.Served
  | .answer _ _ => inferInstanceAs (Decidable (_ ∈ _))
  | .searchForNewChat _ | .clearNewChatSearch | .debounce | .learn _ => inferInstanceAs (Decidable True)

/-- A request of the last query is not answered. -/
def Waits (r : NewChatRun) : Prop := ∃ request ∈ r.rounds.outstanding, r.current = some request.1

/-- A chat that a request of the last query has brought. -/
def Brought (r : NewChatRun) (chatId : ℤ) : Prop :=
  ∃ answered ∈ r.answers, r.current = some answered.1 ∧ chatId ∈ answered.2.chatIds

/-- Once everything is answered the list is what the last query's requests have brought, and until then it is
shown as loading. -/
structure Faithful (r : NewChatRun) : Prop where
  results : r.search.newChatSearchDebounce = none → ¬r.Waits →
    ∀ chatId, chatId ∈ r.search.newChatSearchIds ↔ r.Brought chatId
  loading : r.search.isNewChatSearchLoading ↔ r.search.newChatSearchDebounce.isSome ∨ r.Waits

/-- A search is sent with an empty list.  Once it is sent, the chat with the username is that of this search.
While the user types, an answer to the last search that was sent is not the last one that is waited for, and
after the list has been cleared it brings nothing, and no chat with a username comes. -/
def InTime (r : NewChatRun) : NewChatEvent → Prop
  | .debounce => r.search.newChatSearchDebounce.isSome → r.search.newChatSearchIds = []
  | .answer requestId answer =>
      match r.current, r.search.newChatSearchDebounce with
      | some _, _ => requestId ≠ r.search.newChatSearchRequestId → ¬answer.isPublicChat
      | none, some _ =>
          requestId = r.search.newChatSearchRequestId → r.search.pendingNewChatSearchRequests ≠ 1
      | none, none =>
          requestId = r.search.newChatSearchRequestId ∨ answer.isPublicChat → answer.chatIds = []
  | _ => True

end NewChatRun

/-! ## What an answer does -/

structure NewChatTaken (s : NewChatSearch) (requestId : ℕ) (answer : NewChatAnswer)
    (s' : NewChatSearch) : Prop where
  debounce : s'.newChatSearchDebounce = s.newChatSearchDebounce
  latest : s'.newChatSearchRequestId = s.newChatSearchRequestId
  pending : s'.pendingNewChatSearchRequests =
    if requestId = s.newChatSearchRequestId then s.pendingNewChatSearchRequests - 1
    else s.pendingNewChatSearchRequests
  loading : s'.isNewChatSearchLoading ↔ s.isNewChatSearchLoading ∧
    ¬(requestId = s.newChatSearchRequestId ∧ s.pendingNewChatSearchRequests = 1)
  ids : ∀ chatId, chatId ∈ s'.newChatSearchIds ↔ chatId ∈ s.newChatSearchIds ∨
    (requestId = s.newChatSearchRequestId ∨ answer.isPublicChat) ∧ chatId ∈ answer.chatIds

section answers

variable {s : NewChatSearch}

@[simp] lemma completeNewChatSearchRequest_pending :
    s.completeNewChatSearchRequest.pendingNewChatSearchRequests =
      s.pendingNewChatSearchRequests - 1 := by
  rw [NewChatSearch.completeNewChatSearchRequest]
  split_ifs with hpending
  · rw [hpending]
  · rfl

@[simp] lemma completeNewChatSearchRequest_loading :
    s.completeNewChatSearchRequest.isNewChatSearchLoading ↔
      s.isNewChatSearchLoading ∧ s.pendingNewChatSearchRequests ≠ 1 := by
  rw [NewChatSearch.completeNewChatSearchRequest]
  split_ifs with hpending
  · simp [hpending]
  · have hone : s.pendingNewChatSearchRequests - 1 = 0 ↔ s.pendingNewChatSearchRequests = 1 := by
      omega
    simp only [hone]
    split_ifs with h <;> simp [h]

/-- The rest of the search does not change when an answer is counted. -/
lemma completeNewChatSearchRequest_frame :
    s.completeNewChatSearchRequest.newChatSearchDebounce = s.newChatSearchDebounce ∧
    s.completeNewChatSearchRequest.newChatSearchRequestId = s.newChatSearchRequestId ∧
    s.completeNewChatSearchRequest.newChatSearchIds = s.newChatSearchIds := by
  rw [NewChatSearch.completeNewChatSearchRequest]
  split_ifs
  · exact ⟨rfl, rfl, rfl⟩
  · exact ⟨rfl, rfl, rfl⟩

/-- A search that is like `s` but for chats that are added, after an answer to the last search. -/
lemma taken_of_added {added : NewChatSearch} {answer : NewChatAnswer}
    (hdebounce : added.newChatSearchDebounce = s.newChatSearchDebounce)
    (hrequestId : added.newChatSearchRequestId = s.newChatSearchRequestId)
    (hpending : added.pendingNewChatSearchRequests = s.pendingNewChatSearchRequests)
    (hloading : added.isNewChatSearchLoading = s.isNewChatSearchLoading)
    (hids : ∀ chatId, chatId ∈ added.newChatSearchIds ↔
      chatId ∈ s.newChatSearchIds ∨ chatId ∈ answer.chatIds) :
    NewChatTaken s s.newChatSearchRequestId answer added.completeNewChatSearchRequest := by
  rcases completeNewChatSearchRequest_frame (s := added) with ⟨hframe, hframeId, hframeIds⟩
  refine ⟨hframe.trans hdebounce, hframeId.trans hrequestId, ?_, ?_, ?_⟩
  · rw [completeNewChatSearchRequest_pending, hpending, if_pos rfl]
  · rw [completeNewChatSearchRequest_loading, hloading, hpending]
    simp
  · intro chatId
    rw [hframeIds, hids]
    simp

lemma handleNewChatSearch_taken {requestId : ℕ} {answer : NewChatAnswer}
    (hpublic : ¬answer.isPublicChat) :
    NewChatTaken s requestId answer (s.handleNewChatSearch requestId answer.chatIds) := by
  rw [NewChatSearch.handleNewChatSearch]
  split_ifs with hlatest
  · exact ⟨rfl, rfl, (if_neg hlatest).symm, by simp [hlatest], by simp [hlatest, hpublic]⟩
  · rw [not_not] at hlatest
    subst hlatest
    exact taken_of_added rfl rfl rfl rfl fun chatId => by simp [NewChatSearch.addIds]

lemma handleAnswer_newChatTaken (requestId : ℕ) (answer : NewChatAnswer) :
    NewChatTaken s requestId answer (s.handleAnswer requestId answer) := by
  cases answer with
  | localChats chatIds =>
      exact @handleNewChatSearch_taken s requestId (.localChats chatIds) Bool.false_ne_true
  | server chatIds => exact @handleNewChatSearch_taken s requestId (.server chatIds) Bool.false_ne_true
  | publicChat chatId =>
      simp only [NewChatSearch.handleAnswer, NewChatSearch.handlePublicChat]
      split_ifs with hlatest
      · rw [show requestId = s.newChatSearchRequestId from hlatest]
        exact taken_of_added rfl rfl rfl rfl fun id => by
          simp [NewChatSearch.addIds, NewChatAnswer.chatIds]
      · have hne : requestId ≠ s.newChatSearchRequestId := hlatest
        refine ⟨rfl, rfl, (if_neg hne).symm, by simp [NewChatSearch.addIds, hne], fun id => ?_⟩
        simp [NewChatSearch.addIds, NewChatAnswer.chatIds, NewChatAnswer.isPublicChat]
  | error target =>
      simp only [NewChatSearch.handleAnswer, NewChatSearch.handleNewChatError]
      split_ifs with hlatest
      · subst hlatest
        exact taken_of_added rfl rfl rfl rfl fun id => by simp [NewChatAnswer.chatIds]
      · exact ⟨rfl, rfl, (if_neg hlatest).symm, by simp [hlatest], by simp [NewChatAnswer.chatIds]⟩

end answers

/-! ## What holds in every run -/

namespace NewChatRun

variable {P : Platform} {tryParse : String → Option LinkUri} {r : NewChatRun}

/-- The counter is that of the requests that are not answered, once they are sent. -/
structure Consistent (r : NewChatRun) : Prop where
  numbered : r.rounds.Numbered
  latest : r.search.newChatSearchRequestId = r.rounds.latest
  answered : ∀ answer ∈ r.answers, answer.1 ≤ r.rounds.latest
  typing : r.search.newChatSearchDebounce.isSome → r.current = none ∧ r.search.isNewChatSearchLoading
  cleared : r.search.newChatSearchDebounce = none → r.current = none →
    r.search.newChatSearchIds = [] ∧ ¬r.search.isNewChatSearchLoading ∧
      r.search.pendingNewChatSearchRequests = 0
  current : ∀ {number}, r.current = some number → number = r.rounds.latest
  counted : r.current.isSome → r.search.pendingNewChatSearchRequests = r.rounds.due ∧
    (r.search.isNewChatSearchLoading ↔ 0 < r.rounds.due) ∧
      ∀ chatId, chatId ∈ r.search.newChatSearchIds ↔ r.Brought chatId

lemma Consistent.waits_iff (h : r.Consistent) : r.Waits ↔ r.current.isSome ∧ 0 < r.rounds.due := by
  rw [Rounds.due, List.countP_pos_iff]
  constructor
  · rintro ⟨request, hmem, hcurrent⟩
    exact ⟨by rw [hcurrent]; rfl, request, hmem, beq_iff_eq.mpr (h.current hcurrent)⟩
  · rintro ⟨hcurrent, request, hmem, hlatest⟩
    rcases Option.isSome_iff_exists.mp hcurrent with ⟨number, hnumber⟩
    exact ⟨request, hmem, by rw [hnumber, h.current hnumber, beq_iff_eq.mp hlatest]⟩

lemma Consistent.faithful (h : r.Consistent) : r.Faithful := by
  constructor
  · intro hdebounce hwaits chatId
    cases hcurrent : r.current with
    | none =>
        rw [(h.cleared hdebounce hcurrent).1]
        simp [Brought, hcurrent]
    | some number => exact (h.counted (by rw [hcurrent]; rfl)).2.2 chatId
  · rw [h.waits_iff]
    cases hcurrent : r.current with
    | none =>
        cases hdebounce : r.search.newChatSearchDebounce with
        | none => simp [(h.cleared hdebounce hcurrent).2.1]
        | some trimmed => simp [(h.typing (by rw [hdebounce]; rfl)).2]
    | some number =>
        have hdebounce : ¬r.search.newChatSearchDebounce.isSome := fun hd => by
          rw [(h.typing hd).1] at hcurrent
          cases hcurrent
        simp [hdebounce, (h.counted (by rw [hcurrent]; rfl)).2.1]

lemma start_consistent : ({} : NewChatRun).Consistent := by
  refine ⟨?_, rfl, ?_, fun hd => absurd hd Bool.false_ne_true, fun _ _ => ⟨rfl, Bool.false_ne_true, rfl⟩,
    fun hcurrent => absurd hcurrent (Option.some_ne_none _).symm,
    fun hcurrent => absurd hcurrent Bool.false_ne_true⟩
  · intro request hmem
    cases hmem
  · intro answer hmem
    cases hmem

lemma clear_consistent (h : r.Consistent) : (r.step P tryParse .clearNewChatSearch).Consistent :=
  ⟨h.numbered, h.latest, h.answered, fun hd => absurd hd Bool.false_ne_true,
    fun _ _ => ⟨rfl, Bool.false_ne_true, rfl⟩, fun hcurrent => absurd hcurrent (Option.some_ne_none _).symm,
    fun hcurrent => absurd hcurrent Bool.false_ne_true⟩

lemma debounce_consistent (h : r.Consistent) (hin : r.InTime .debounce) :
    (r.step P tryParse .debounce).Consistent := by
  simp only [step]
  split
  case h_1 => exact h
  case h_2 trimmed hdebounce =>
    have hsome : r.search.newChatSearchDebounce.isSome := by rw [hdebounce]; rfl
    have hdue := Rounds.due_ask h.numbered (targets P tryParse trimmed)
    have hlength : (targets P tryParse trimmed).length =
        2 + ((parseUsername P tryParse trimmed).map fun username =>
          NewChatCommand.searchPublicChat username (r.search.newChatSearchRequestId + 1)).toList.length := by
      cases husername : parseUsername P tryParse trimmed <;> simp [targets, husername]
    refine ⟨h.numbered.ask _, congrArg (· + 1) h.latest, fun answer hmem =>
      Nat.le_succ_of_le (h.answered answer hmem), fun hd => absurd hd Bool.false_ne_true,
      fun _ hcurrent => absurd hcurrent (Option.some_ne_none _),
      fun hcurrent => (Option.some.inj hcurrent).symm, fun _ => ⟨?_, ?_, fun chatId => ?_⟩⟩
    · rw [hdue, hlength]
      rfl
    · rw [hdue, hlength]
      exact iff_of_true (h.typing hsome).2 (by omega)
    -- the list is empty, and nothing has come of the new search
    · change chatId ∈ r.search.newChatSearchIds ↔ _
      rw [hin hsome]
      refine iff_of_false (List.not_mem_nil) ?_
      rintro ⟨answered, hmem, hnumber, -⟩
      have hnew : r.rounds.latest + 1 = answered.1 := Option.some.inj hnumber
      exact absurd (h.answered answered hmem) (by omega)

lemma answer_consistent (h : r.Consistent) {requestId : ℕ} {answer : NewChatAnswer}
    (hserved : r.Served (.answer requestId answer)) (hin : r.InTime (.answer requestId answer)) :
    (r.step P tryParse (.answer requestId answer)).Consistent := by
  have htaken := handleAnswer_newChatTaken (s := r.search) requestId answer
  have hdue := Rounds.due_answer hserved
  simp only [InTime] at hin
  rw [← h.latest] at hdue
  refine ⟨h.numbered.answer _, htaken.latest.trans h.latest, ?_, ?_, ?_, h.current, ?_⟩
  · intro answered hmem
    rcases List.mem_append.mp hmem with hold | hnew
    · exact h.answered answered hold
    · rw [List.mem_singleton.mp hnew]
      exact h.numbered _ hserved
  · simp only [step, htaken.debounce, htaken.loading]
    intro hdebounce
    rcases h.typing hdebounce with ⟨hcurrent, hloading⟩
    rcases Option.isSome_iff_exists.mp hdebounce with ⟨trimmed, htrimmed⟩
    simp only [hcurrent, htrimmed] at hin
    exact ⟨hcurrent, hloading, fun hlast => hin hlast.1 hlast.2⟩
  · simp only [step, htaken.debounce, htaken.loading, htaken.pending]
    intro hdebounce hcurrent
    rcases h.cleared hdebounce hcurrent with ⟨hids, hloading, hpending⟩
    simp only [hcurrent, hdebounce] at hin
    refine ⟨List.eq_nil_iff_forall_not_mem.mpr fun chatId hmem => ?_, fun hload => hloading hload.1, ?_⟩
    · rcases (htaken.ids chatId).mp hmem with hold | ⟨hbrings, hnew⟩
      · rw [hids] at hold
        cases hold
      · rw [hin hbrings] at hnew
        cases hnew
    · rw [hpending]
      split_ifs <;> rfl
  · simp only [step, htaken.loading, htaken.pending]
    intro hsome
    rcases Option.isSome_iff_exists.mp hsome with ⟨number, hcurrent⟩
    rcases h.counted hsome with ⟨hpending, hloading, hids⟩
    have hnumber : number = r.search.newChatSearchRequestId := (h.current hcurrent).trans h.latest.symm
    simp only [hcurrent] at hin
    refine ⟨?_, ?_, fun chatId => ?_⟩
    · rw [hdue, hpending]
    · rw [hdue, hloading, hpending]
      by_cases hlatest : requestId = r.search.newChatSearchRequestId
      · simp only [hlatest, if_true, true_and]
        omega
      · simp [hlatest]
    · rw [htaken.ids, hids]
      by_cases hlatest : requestId = r.search.newChatSearchRequestId
      · simp [Brought, hcurrent, hnumber, hlatest, or_and_right, exists_or]
      · simp [Brought, hcurrent, hnumber, hlatest, hin hlatest, Ne.symm hlatest, or_and_right, exists_or]

lemma step_consistent (h : r.Consistent) (e : NewChatEvent) (hserved : r.Served e) (hin : r.InTime e) :
    (r.step P tryParse e).Consistent := by
  cases e with
  | searchForNewChat query =>
      simp only [step, NewChatSearch.searchForNewChat]
      split_ifs with hquery
      · exact @clear_consistent P tryParse r h
      · exact ⟨h.numbered, h.latest, h.answered, fun _ => ⟨rfl, rfl⟩,
          fun hdebounce => absurd hdebounce (Option.some_ne_none _),
          fun hcurrent => absurd hcurrent (Option.some_ne_none _).symm,
          fun hcurrent => absurd hcurrent Bool.false_ne_true⟩
  | clearNewChatSearch => exact clear_consistent h
  | debounce => exact debounce_consistent h hin
  | learn isKnown =>
      exact ⟨h.numbered, h.latest, h.answered, h.typing, h.cleared, h.current, h.counted⟩
  | answer requestId answer => exact answer_consistent h hserved hin

/-- **The list is what the last query has brought**, in every state of every run in which the answers come
in time. -/
theorem results_of_latest (P : Platform) (tryParse : String → Option LinkUri) (r : NewChatRun)
    (h : Reachable (step P tryParse) (fun r e => r.Served e ∧ r.InTime e) {} r) : r.Faithful := by
  have hconsistent : r.Consistent := by
    refine h.invariant (I := Consistent) start_consistent ?_
    intro r e hr he
    exact step_consistent hr e he.1 he.2
  exact hconsistent.faithful

/-- A search for a name, which finds the chat that has it and another one. -/
def searchForName : List NewChatEvent :=
  [.searchForNewChat "somebody", .debounce, .answer 1 (.publicChat 7), .answer 1 (.localChats []),
    .answer 1 (.server [5, 7])]

/-- The run of `searchForName` shows the two chats. -/
theorem results_of_name : (searchForName.foldl (step .plain fun _ => none) {}).Faithful := by
  refine results_of_latest .plain (fun _ => none) _ (Reachable.start.run
    ⟨⟨trivial, trivial⟩, ⟨trivial, ?_⟩, ⟨?_, ?_⟩, ⟨?_, ?_⟩, ⟨?_, ?_⟩, trivial⟩)
  · exact fun _ => rfl
  · decide +kernel
  · exact fun hlate => absurd rfl hlate
  · decide +kernel
  · exact fun hlate => absurd rfl hlate
  · decide +kernel
  · exact fun hlate => absurd rfl hlate

/-- A search for `a`, which finds a chat, and then one for `b`, which finds none. -/
def searchForTwoNames : List NewChatEvent :=
  [.searchForNewChat "a", .debounce, .answer 1 (.localChats [7]), .answer 1 (.server []),
    .searchForNewChat "b", .debounce, .answer 2 (.localChats []), .answer 2 (.server [])]

/-- **A chat of an earlier query stays in the list** when the list is not cleared in between. -/
theorem results_of_earlier :
    ∃ r, Reachable (step .plain fun _ => none) Served {} r ∧ r.current = some 2 ∧ ¬r.Waits ∧
      r.search.newChatSearchIds = [7] ∧ ¬r.Faithful := by
  have hreach : Reachable (step .plain fun _ => none) Served {}
      (searchForTwoNames.foldl (step .plain fun _ => none) {}) :=
    Reachable.start.run ⟨trivial, trivial, by decide +kernel, by decide +kernel, trivial, trivial,
      by decide +kernel, by decide +kernel, trivial⟩
  generalize hr : searchForTwoNames.foldl (step .plain fun _ => none) {} = r at hreach
  have hcurrent : r.current = some 2 := by rw [← hr]; decide +kernel
  have houtstanding : r.rounds.outstanding = [] := by rw [← hr]; decide +kernel
  have hids : r.search.newChatSearchIds = [7] := by rw [← hr]; decide +kernel
  have hdebounce : r.search.newChatSearchDebounce = none := by rw [← hr]; decide +kernel
  have hanswers : ∀ answered ∈ r.answers, r.current = some answered.1 → 7 ∉ answered.2.chatIds := by
    rw [← hr]
    decide +kernel
  have hwaits : ¬r.Waits := by
    rintro ⟨request, hmem, -⟩
    rw [houtstanding] at hmem
    cases hmem
  refine ⟨r, hreach, hcurrent, hwaits, hids, fun h => ?_⟩
  have hbrought := (h.results hdebounce hwaits 7).mp (by rw [hids]; exact List.mem_singleton_self 7)
  rcases hbrought with ⟨answered, hmem, hnumber, hbrings⟩
  exact hanswers answered hmem hnumber hbrings

end NewChatRun

end RioGram.Chats
