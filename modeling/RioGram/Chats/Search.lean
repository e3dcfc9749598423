import RioGram.Chats.Manager
import RioGram.Core.Reachable
import RioGram.Core.Rounds

/-!
# Searching the list of chats

A search waits until the user has stopped typing (`searchDebounce`) and is then sent as two requests, for
chats and for messages, which carry the number of the search.  `SearchRun` is the search together with the
requests that TDLib has not answered and with its answers so far.

* `search_faithful` says when what is shown belongs to the last search, and when it shows that it is loading.
* `cleared_search_shown` is a run in which it does not.
-/

namespace RioGram.Chats

open Asking Reaching

/-! ## The search -/

/-- What of a message that is found is kept. -/
structure FoundMessage where
  chatId : ℤ
  messageId : ℤ
  preview : String
  date : ℤ
deriving DecidableEq

structure SearchMessageHit extends FoundMessage where
  chatTitle : Option String := none
deriving DecidableEq

inductive SearchCommand where
  | searchChats (query : String) (limit requestId : ℕ)
  | searchMessages (query offset : String) (limit : ℕ) (minDate maxDate : ℤ) (requestId : ℕ)
  | getChat (chatId : ℤ)
deriving DecidableEq

/-- The fields of the manager that the search has to do with; of the chats that are known, the titles. -/
structure ChatSearch where
  searchQuery : String := ""
  searchChatIds : List ℤ := []
  searchMessages : List SearchMessageHit := []
  isSearchLoading : Bool := false
  searchError : Option String := none
  /-- Whether the timer runs. -/
  searchDebounce : Bool := false
  searchRequestId : ℕ := 0
  pendingSearchRequests : ℕ := 0
  chatTitles : ℤ → Option String := fun _ => none
  sent : List SearchCommand := []

/-- `parseFoundMessages`. -/
def parseFoundMessages (found : List FoundMessage) : List SearchMessageHit :=
  (found.map fun message => ({ toFoundMessage := message } : SearchMessageHit)).filter fun hit =>
    hit.chatId != 0 && hit.messageId != 0

namespace ChatSearch

variable (P : Platform) (s : ChatSearch)

def clearSearchResults : ChatSearch :=
  { s with
    searchChatIds := []
    searchMessages := []
    isSearchLoading := false
    searchError := none
    pendingSearchRequests := 0 }

def setSearchQuery (query : String) : ChatSearch :=
  let s := { s with searchQuery := P.trim query, searchDebounce := false }
  if s.searchQuery = "" then s.clearSearchResults
  else { s with isSearchLoading := true, searchError := none, searchDebounce := true }

def clearSearch : ChatSearch :=
  ({ s with searchDebounce := false, searchQuery := "" } : ChatSearch).clearSearchResults

/-- What the timer runs. -/
def performSearch : ChatSearch :=
  let requestId := s.searchRequestId + 1
  { s with
    searchDebounce := false
    searchRequestId := requestId
    pendingSearchRequests := 2
    isSearchLoading := true
    searchError := none
    sent := s.sent ++ [.searchChats s.searchQuery 20 requestId,
      .searchMessages s.searchQuery "" 20 0 0 requestId] }

def completeSearchRequest : ChatSearch :=
  let pending := min (s.pendingSearchRequests - 1) 2
  { s with
    pendingSearchRequests := pending
    isSearchLoading := if pending = 0 then false else s.isSearchLoading }

/-- The chats that nothing is known of are asked for. -/
def requestChats (chatIds : List ℤ) : ChatSearch :=
  { s with sent := s.sent ++ (chatIds.filter (s.chatTitles · == none)).map .getChat }

def handleSearchChats (requestId : ℕ) (chatIds : List ℤ) : ChatSearch :=
  if requestId ≠ s.searchRequestId then s
  else (({ s with searchChatIds := chatIds } : ChatSearch).requestChats chatIds).completeSearchRequest

def handleFoundMessages (requestId : ℕ) (found : List FoundMessage) : ChatSearch :=
  if requestId ≠ s.searchRequestId then s
  else
    let hits := parseFoundMessages found
    let shown := hits.map fun hit => { hit with chatTitle := s.chatTitles hit.chatId }
    (({ s with searchMessages := shown } : ChatSearch).requestChats
      (hits.map (·.chatId))).completeSearchRequest

def handleSearchError (requestId : ℕ) (message : Option String) : ChatSearch :=
  if requestId ≠ s.searchRequestId then s
  else
    ({ s with searchError := some (message.getD "Ошибка поиска") } : ChatSearch).completeSearchRequest

end ChatSearch

/-! ## Runs -/

/-- The two requests of a search; their extras are `searchChats_<id>` and `searchMessages_<id>`. -/
inductive SearchTarget where
  | chats | messages
deriving DecidableEq

inductive SearchAnswer where
  | chats (chatIds : List ℤ)
  | messages (found : List FoundMessage)
  | error (target : SearchTarget) (message : Option String)
deriving DecidableEq

def SearchAnswer.target : SearchAnswer → SearchTarget
  | .chats _ => .chats
  | .messages _ => .messages
  | .error target _ => target

def ChatSearch.handleAnswer (s : ChatSearch) (requestId : ℕ) : SearchAnswer → ChatSearch
  | .chats chatIds => s.handleSearchChats requestId chatIds
  | .messages found => s.handleFoundMessages requestId found
  | .error _ message => s.handleSearchError requestId message

inductive SearchEvent where
  | setSearchQuery (query : String)
  | clearSearch
  | debounce
  /-- Other handlers learn about chats. -/
  | learn (chatTitles : ℤ → Option String)
  | answer (requestId : ℕ) (answer : SearchAnswer)

structure SearchRun where
  search : ChatSearch := {}
  rounds : Rounds SearchTarget := {}
  answers : List (ℕ × SearchAnswer) := []

namespace SearchRun

def step (P : Platform) (r : SearchRun) : SearchEvent → SearchRun
  | .setSearchQuery query => { r with search := r.search.setSearchQuery P query }
  | .clearSearch => { r with search := r.search.clearSearch }
  | .debounce =>
      if r.search.searchDebounce then
        { r with search := r.search.performSearch, rounds := r.rounds.ask [.chats, .messages] }
      else r
  | .learn chatTitles => { r with search := { r.search with chatTitles } }
  | .answer requestId answer =>
      { search := r.search.handleAnswer requestId answer
        rounds := r.rounds.answer (requestId, answer.target)
        answers := r.answers ++ [(requestId, answer)] }

/-- TDLib answers requests that were sent, each once. -/
def Served (r : SearchRun) : SearchEvent → Prop
  | .answer requestId answer => (requestId, answer.target) ∈ r.rounds.outstanding
  | _ => True

instance (r : SearchRun) : DecidablePred r.Served
  | .answer _ _ => inferInstanceAs (Decidable (_ ∈ _))
  | .setSearchQuery _ | .clearSearch | .debounce | .learn _ => inferInstanceAs (Decidable True)

/-- What is shown belongs to the last search that was sent, nothing is shown without a query, and the search
is shown as loading until its answers are there. -/
structure Faithful (r : SearchRun) : Prop where
  empty : r.search.searchQuery = "" → r.search.searchChatIds = [] ∧ r.search.searchMessages = []
  chats : r.search.searchChatIds ≠ [] →
    (r.rounds.latest, .chats r.search.searchChatIds) ∈ r.answers
  messages : r.search.searchMessages ≠ [] → ∃ found, (r.rounds.latest, .messages found) ∈ r.answers ∧
    r.search.searchMessages.map (·.toFoundMessage) = (parseFoundMessages found).map (·.toFoundMessage)
  loading : r.search.isSearchLoading ↔
    r.search.searchQuery ≠ "" ∧ (r.search.searchDebounce ∨ 0 < r.rounds.due)

end SearchRun

/-- An answer that brings nothing to show. -/
def SearchAnswer.isEmpty : SearchAnswer → Bool
  | .chats chatIds => chatIds == []
  | .messages found => parseFoundMessages found == []
  | .error _ _ => true

/-- A search is sent with nothing shown; an answer to the last search brings nothing if the query has been
cleared, and while the user types it is not the last one that is waited for. -/
def SearchRun.InTime (r : SearchRun) : SearchEvent → Prop
  | .debounce =>
      r.search.searchDebounce → r.search.searchChatIds = [] ∧ r.search.searchMessages = []
  | .answer requestId answer =>
      requestId = r.search.searchRequestId →
        (r.search.searchQuery = "" → answer.isEmpty) ∧
        (r.search.searchDebounce → 1 < r.search.pendingSearchRequests)
  | _ => True

/-! ## What an answer does -/

/-- The chats that are shown after an answer to the last search. -/
def SearchAnswer.chatIds (s : ChatSearch) : SearchAnswer → List ℤ
  | .chats chatIds => chatIds
  | _ => s.searchChatIds

/-- The messages that are shown after an answer to the last search, without the titles. -/
def SearchAnswer.found (s : ChatSearch) : SearchAnswer → List FoundMessage
  | .messages found => (parseFoundMessages found).map (·.toFoundMessage)
  | _ => s.searchMessages.map (·.toFoundMessage)

/-- What an answer to the last search does. -/
structure Taken (s : ChatSearch) (answer : SearchAnswer) (s' : ChatSearch) : Prop where
  query : s'.searchQuery = s.searchQuery
  debounce : s'.searchDebounce = s.searchDebounce
  requestId : s'.searchRequestId = s.searchRequestId
  pending : s'.pendingSearchRequests = min (s.pendingSearchRequests - 1) 2
  loading : s'.isSearchLoading ↔ s.isSearchLoading ∧ s'.pendingSearchRequests ≠ 0
  chatIds : s'.searchChatIds = answer.chatIds s
  found : s'.searchMessages.map (·.toFoundMessage) = answer.found s

variable {P : Platform} {s : ChatSearch} {r : SearchRun}

lemma completeSearchRequest_loading :
    s.completeSearchRequest.isSearchLoading ↔
      s.isSearchLoading ∧ s.completeSearchRequest.pendingSearchRequests ≠ 0 := by
  simp only [ChatSearch.completeSearchRequest]
  split_ifs with hpending
  · simp [hpending]
  · simp [hpending]

lemma handleAnswer_late {requestId : ℕ} (h : requestId ≠ s.searchRequestId) (answer : SearchAnswer) :
    s.handleAnswer requestId answer = s := by
  cases answer with
  | chats chatIds => exact if_pos h
  | messages found => exact if_pos h
  | error target message => exact if_pos h

lemma handleAnswer_taken (answer : SearchAnswer) :
    Taken s answer (s.handleAnswer s.searchRequestId answer) := by
  cases answer with
  | chats chatIds =>
      simp only [ChatSearch.handleAnswer, ChatSearch.handleSearchChats, ne_eq, not_true, if_false]
      exact ⟨rfl, rfl, rfl, rfl, completeSearchRequest_loading, rfl, rfl⟩
  | messages found =>
      simp only [ChatSearch.handleAnswer, ChatSearch.handleFoundMessages, ne_eq, not_true, if_false]
      refine ⟨rfl, rfl, rfl, rfl, completeSearchRequest_loading, rfl, ?_⟩
      simp [ChatSearch.completeSearchRequest, ChatSearch.requestChats, SearchAnswer.found,
        Function.comp_def]
  | error target message =>
      simp only [ChatSearch.handleAnswer, ChatSearch.handleSearchError, ne_eq, not_true, if_false]
      exact ⟨rfl, rfl, rfl, rfl, completeSearchRequest_loading, rfl, rfl⟩

/-! ## What holds in every run -/

namespace SearchRun

/-- The counter is that of the requests of the last search that are not answered, except while the user
types and after the query has been cleared. -/
structure Consistent (r : SearchRun) : Prop where
  numbered : r.rounds.Numbered
  latest : r.search.searchRequestId = r.rounds.latest
  answered : ∀ answer ∈ r.answers, answer.1 ≤ r.rounds.latest
  typing : r.search.searchDebounce → r.search.searchQuery ≠ ""
  idle : r.search.searchQuery = "" → ¬r.search.isSearchLoading
  pending : r.search.pendingSearchRequests ≤ 2
  counted : r.search.searchQuery ≠ "" → ¬r.search.searchDebounce →
    r.search.pendingSearchRequests = r.rounds.due ∧ (r.search.isSearchLoading ↔ 0 < r.rounds.due)

lemma answer_consistent (h : r.Consistent) {requestId : ℕ} {answer : SearchAnswer}
    (hserved : r.Served (.answer requestId answer)) :
    (r.step P (.answer requestId answer)).Consistent := by
  have hanswered : ∀ answered ∈ r.answers ++ [(requestId, answer)], answered.1 ≤ r.rounds.latest := by
    intro answered hmem
    rcases List.mem_append.mp hmem with hold | hnew
    · exact h.answered answered hold
    · rw [List.mem_singleton.mp hnew]
      exact h.numbered _ hserved
  have hdue := Rounds.due_answer hserved
  by_cases hlatest : requestId = r.search.searchRequestId
  · subst hlatest
    have htaken : Taken r.search answer (r.search.handleAnswer r.search.searchRequestId answer) :=
      handleAnswer_taken answer
    rw [if_pos h.latest] at hdue
    refine ⟨h.numbered.answer _, htaken.requestId.trans h.latest, hanswered, ?_, ?_, ?_, ?_⟩
    · simp only [step, htaken.debounce, htaken.query]
      exact h.typing
    · simp only [step, htaken.query, htaken.loading]
      exact fun hquery hloading => h.idle hquery hloading.1
    · simp only [step, htaken.pending]
      exact Nat.min_le_right _ _
    · simp only [step, htaken.query, htaken.debounce, htaken.loading, htaken.pending]
      intro hquery hdebounce
      rcases h.counted hquery hdebounce with ⟨hpending, hloading⟩
      have hle := h.pending
      rw [hdue, hloading, hpending]
      constructor
      · omega
      · omega
  · rw [if_neg (fun heq => hlatest (heq.trans h.latest.symm))] at hdue
    refine ⟨h.numbered.answer _, ?_, hanswered, ?_, ?_, ?_, ?_⟩
    · simp only [step, handleAnswer_late hlatest]
      exact h.latest
    · simp only [step, handleAnswer_late hlatest]
      exact h.typing
    · simp only [step, handleAnswer_late hlatest]
      exact h.idle
    · simp only [step, handleAnswer_late hlatest]
      exact h.pending
    · simp only [step, handleAnswer_late hlatest, hdue]
      exact h.counted

lemma step_consistent (h : r.Consistent) (e : SearchEvent) (hserved : r.Served e) :
    (r.step P e).Consistent := by
  cases e with
  | setSearchQuery query =>
      simp only [step, ChatSearch.setSearchQuery]
      split_ifs with hquery
      · exact ⟨h.numbered, h.latest, h.answered, fun hd => absurd hd Bool.false_ne_true,
          fun _ => Bool.false_ne_true, Nat.zero_le _, fun hne => absurd hquery hne⟩
      · exact ⟨h.numbered, h.latest, h.answered, fun _ => hquery, fun hempty => absurd hempty hquery,
          h.pending, fun _ hd => absurd rfl hd⟩
  | clearSearch =>
      exact ⟨h.numbered, h.latest, h.answered, fun hd => absurd hd Bool.false_ne_true,
        fun _ => Bool.false_ne_true, Nat.zero_le _, fun hne => absurd rfl hne⟩
  | debounce =>
      simp only [step]
      split_ifs with hdebounce
      · have hdue := Rounds.due_ask h.numbered [SearchTarget.chats, SearchTarget.messages]
        refine ⟨h.numbered.ask _, congrArg (· + 1) h.latest, ?_, fun hd => absurd hd Bool.false_ne_true,
          fun hempty => absurd hempty (h.typing hdebounce), le_refl 2, fun _ _ => ?_⟩
        · exact fun answer hmem => Nat.le_succ_of_le (h.answered answer hmem)
        · rw [hdue]
          exact ⟨rfl, iff_of_true rfl (by decide)⟩
      · exact h
  | learn chatTitles => exact ⟨h.numbered, h.latest, h.answered, h.typing, h.idle, h.pending, h.counted⟩
  | answer requestId answer => exact answer_consistent h hserved

lemma consistent_of_reachable (h : Reachable (step P) Served {} r) : r.Consistent := by
  refine h.invariant ?_ fun r e hr he => step_consistent hr e he
  refine ⟨?_, rfl, ?_, ?_, ?_, Nat.zero_le _, ?_⟩
  · intro request hmem
    cases hmem
  · intro answer hmem
    cases hmem
  · exact fun hd => absurd hd Bool.false_ne_true
  · exact fun _ => Bool.false_ne_true
  · exact fun hne => absurd rfl hne

/-! ## When what is shown is right -/

/-- A search that is sent shows nothing of an earlier one exactly if nothing is shown. -/
lemma debounce_faithful_iff (hr : r.Consistent) (h : r.Faithful) :
    (r.step P .debounce).Faithful ↔ r.InTime .debounce := by
  simp only [step, InTime]
  split_ifs with hdebounce
  · have hnew : ∀ answer : SearchAnswer, (r.rounds.latest + 1, answer) ∉ r.answers := by
      intro answer hmem
      exact absurd (hr.answered _ hmem) (Nat.not_succ_le_self _)
    have hdue := Rounds.due_ask hr.numbered [SearchTarget.chats, SearchTarget.messages]
    constructor
    · rintro ⟨-, hchats, hmessages, -⟩ -
      constructor
      · by_contra hne
        exact hnew _ (hchats hne)
      · by_contra hne
        rcases hmessages hne with ⟨found, hmem, -⟩
        exact hnew _ hmem
    · intro hnothing
      rcases hnothing hdebounce with ⟨hchats, hmessages⟩
      refine ⟨fun _ => ⟨hchats, hmessages⟩, fun hne => absurd hchats hne,
        fun hne => absurd hmessages hne, ?_⟩
      refine iff_of_true rfl ⟨hr.typing hdebounce, .inr ?_⟩
      rw [hdue]
      decide
  · exact iff_of_true h fun hd => absurd hd hdebounce

/-- What an answer brings is an answer, and what was shown before is one. -/
lemma answer_shown (h : r.Faithful) (answer : SearchAnswer) :
    (answer.chatIds r.search ≠ [] → (r.rounds.latest, .chats (answer.chatIds r.search)) ∈
      r.answers ++ [(r.rounds.latest, answer)]) ∧
    (answer.found r.search ≠ [] → ∃ found, (r.rounds.latest, .messages found) ∈
        r.answers ++ [(r.rounds.latest, answer)] ∧
      answer.found r.search = (parseFoundMessages found).map (·.toFoundMessage)) := by
  have hmessages : r.search.searchMessages.map (·.toFoundMessage) ≠ [] → ∃ found,
      (r.rounds.latest, .messages found) ∈ r.answers ++ [(r.rounds.latest, answer)] ∧
        r.search.searchMessages.map (·.toFoundMessage) =
          (parseFoundMessages found).map (·.toFoundMessage) := by
    intro hne
    rcases h.messages (fun hnil => hne (by rw [hnil]; rfl)) with ⟨found, hmem, hfound⟩
    exact ⟨found, List.mem_append_left _ hmem, hfound⟩
  have hchats : r.search.searchChatIds ≠ [] → (r.rounds.latest, .chats r.search.searchChatIds) ∈
      r.answers ++ [(r.rounds.latest, answer)] :=
    fun hne => List.mem_append_left _ (h.chats hne)
  cases answer with
  | chats chatIds => exact ⟨fun _ => by simp [SearchAnswer.chatIds], hmessages⟩
  | messages found => exact ⟨hchats, fun _ => ⟨found, by simp, rfl⟩⟩
  | error target message => exact ⟨hchats, hmessages⟩

/-- With nothing shown before, an answer that brings nothing is one after which nothing is shown. -/
lemma answer_isEmpty_iff (hchats : s.searchChatIds = []) (hmessages : s.searchMessages = [])
    (answer : SearchAnswer) :
    answer.isEmpty ↔ answer.chatIds s = [] ∧ answer.found s = [] := by
  cases answer with
  | chats chatIds => simp [SearchAnswer.isEmpty, SearchAnswer.chatIds, SearchAnswer.found, hmessages]
  | messages found => simp [SearchAnswer.isEmpty, SearchAnswer.chatIds, SearchAnswer.found, hchats]
  | error target message =>
      simp [SearchAnswer.isEmpty, SearchAnswer.chatIds, SearchAnswer.found, hchats, hmessages]

/-- The loading is shown rightly after an answer to the last search, except perhaps while the user types. -/
lemma answer_loading_iff (hr : r.Consistent) (h : r.Faithful) {answer : SearchAnswer}
    {s' : ChatSearch} (htaken : Taken r.search answer s') :
    (s'.isSearchLoading ↔
        r.search.searchQuery ≠ "" ∧ (r.search.searchDebounce ∨ 0 < r.rounds.due - 1)) ↔
      (r.search.searchDebounce → 1 < r.search.pendingSearchRequests) := by
  rw [htaken.loading, htaken.pending]
  have hle := hr.pending
  by_cases hquery : r.search.searchQuery = ""
  · have hloading := hr.idle hquery
    have hdebounce : ¬r.search.searchDebounce := fun hd => hr.typing hd hquery
    simp [hquery, hloading, hdebounce]
  · by_cases hdebounce : r.search.searchDebounce
    · have hloading : r.search.isSearchLoading := h.loading.mpr ⟨hquery, .inl hdebounce⟩
      simp only [hloading, hquery, hdebounce, true_or, and_true, true_and, not_false_eq_true, iff_true,
        forall_const, ne_eq]
      omega
    · rcases hr.counted hquery hdebounce with ⟨hpending, hloading⟩
      rw [hloading, hpending]
      simp only [hquery, hdebounce, not_false_eq_true, ne_eq, true_and, Bool.false_eq_true, false_or,
        false_imp_iff, iff_true]
      omega

lemma answer_faithful_iff (hr : r.Consistent) (h : r.Faithful) {requestId : ℕ} {answer : SearchAnswer}
    (hserved : r.Served (.answer requestId answer)) :
    (r.step P (.answer requestId answer)).Faithful ↔ r.InTime (.answer requestId answer) := by
  have hdue := Rounds.due_answer hserved
  simp only [InTime]
  by_cases hlatest : requestId = r.search.searchRequestId
  · obtain rfl : requestId = r.rounds.latest := hlatest.trans hr.latest
    have htaken : Taken r.search answer (r.search.handleAnswer r.rounds.latest answer) :=
      hr.latest ▸ handleAnswer_taken answer
    rcases answer_shown h answer with ⟨hchats, hmessages⟩
    have hloading := answer_loading_iff hr h htaken
    rw [forall_prop_of_true hlatest, ← hloading]
    simp only [step]
    generalize r.search.handleAnswer r.rounds.latest answer = s' at htaken
    have hnil : s'.searchMessages = [] ↔ answer.found r.search = [] := by
      rw [← htaken.found, List.map_eq_nil_iff]
    rw [if_pos rfl] at hdue
    constructor
    · rintro ⟨hempty, -, -, hafter⟩
      simp only [htaken.query, htaken.debounce, htaken.chatIds, hnil, hdue] at hempty hafter
      refine ⟨fun hquery => ?_, hafter⟩
      rcases h.empty hquery with ⟨hnoChats, hnoMessages⟩
      exact (answer_isEmpty_iff hnoChats hnoMessages answer).mpr (hempty hquery)
    · rintro ⟨hempty, hafter⟩
      constructor
      · simp only [htaken.query, htaken.chatIds, hnil]
        intro hquery
        rcases h.empty hquery with ⟨hnoChats, hnoMessages⟩
        exact (answer_isEmpty_iff hnoChats hnoMessages answer).mp (hempty hquery)
      · simp only [htaken.chatIds]
        exact hchats
      · simp only [ne_eq, hnil, htaken.found]
        exact hmessages
      · simp only [htaken.query, htaken.debounce, hdue]
        exact hafter
  · rw [if_neg (fun heq => hlatest (heq.trans hr.latest.symm))] at hdue
    refine iff_of_true ?_ fun heq => absurd heq hlatest
    constructor
    · simp only [step, handleAnswer_late hlatest]
      exact h.empty
    · simp only [step, handleAnswer_late hlatest]
      exact fun hne => List.mem_append_left _ (h.chats hne)
    · simp only [step, handleAnswer_late hlatest]
      intro hne
      rcases h.messages hne with ⟨found, hmem, hfound⟩
      exact ⟨found, List.mem_append_left _ hmem, hfound⟩
    · simp only [step, handleAnswer_late hlatest, hdue]
      exact h.loading

lemma step_faithful_iff (hr : r.Consistent) (h : r.Faithful) (e : SearchEvent) (hserved : r.Served e) :
    (r.step P e).Faithful ↔ r.InTime e := by
  cases e with
  | setSearchQuery query =>
      refine iff_of_true ?_ trivial
      simp only [step, ChatSearch.setSearchQuery]
      split_ifs with hquery
      · exact ⟨fun _ => ⟨rfl, rfl⟩, fun hne => absurd rfl hne, fun hne => absurd rfl hne,
          iff_of_false Bool.false_ne_true fun hloading => hloading.1 hquery⟩
      · exact ⟨fun hempty => absurd hempty hquery, h.chats, h.messages,
          iff_of_true rfl ⟨hquery, .inl rfl⟩⟩
  | clearSearch =>
      refine iff_of_true ?_ trivial
      exact ⟨fun _ => ⟨rfl, rfl⟩, fun hne => absurd rfl hne, fun hne => absurd rfl hne,
        iff_of_false Bool.false_ne_true fun hloading => hloading.1 rfl⟩
  | debounce => exact debounce_faithful_iff hr h
  | learn chatTitles => exact iff_of_true ⟨h.empty, h.chats, h.messages, h.loading⟩ trivial
  | answer requestId answer => exact answer_faithful_iff hr h hserved

/-- **The search shows what it was asked for last, and that it is loading**, in every state of every run in
which the answers come in time; and wherever it does, a step keeps it so exactly if it is in time. -/
theorem search_faithful (P : Platform) :
    (∀ r, Reachable (step P) (fun r e => r.Served e ∧ r.InTime e) {} r → r.Faithful) ∧
    ∀ r e, Reachable (step P) Served {} r → r.Faithful → r.Served e →
      ((r.step P e).Faithful ↔ r.InTime e) := by
  constructor
  · intro r h
    have hinv : r.Consistent ∧ r.Faithful := by
      refine h.invariant (I := fun r => r.Consistent ∧ r.Faithful) ⟨@consistent_of_reachable P _ .start, ?_⟩ ?_
      · exact ⟨fun _ => ⟨rfl, rfl⟩, fun hne => absurd rfl hne, fun hne => absurd rfl hne,
          iff_of_false Bool.false_ne_true fun hloading => hloading.1 rfl⟩
      · intro r e hr he
        exact ⟨step_consistent hr.1 e he.1, (step_faithful_iff hr.1 hr.2 e he.1).mpr he.2⟩
    exact hinv.2
  · intro r e h hfaithful hserved
    exact step_faithful_iff (consistent_of_reachable h) hfaithful e hserved

/-- A search for `a`, which finds a chat. -/
def searchForChat : List SearchEvent :=
  [.setSearchQuery "a", .debounce, .answer 1 (.chats [7]), .answer 1 (.messages [])]

theorem search_faithful_chat : (searchForChat.foldl (step .plain) {}).Faithful := by
  refine (search_faithful .plain).1 _ (Reachable.start.run ⟨⟨trivial, trivial⟩, ⟨trivial, ?_⟩,
    ⟨?_, ?_⟩, ⟨?_, ?_⟩, trivial⟩)
  · exact fun _ => ⟨rfl, rfl⟩
  · decide
  · exact fun _ => ⟨fun hquery => absurd hquery (by decide), fun hd => absurd hd (by decide)⟩
  · decide
  · exact fun _ => ⟨fun hquery => absurd hquery (by decide), fun hd => absurd hd (by decide)⟩

/-- **Results are shown without a query**: the search has been cleared before its answer came. -/
theorem cleared_search_shown :
    ∃ r, Reachable (step .plain) Served {} r ∧ r.search.searchQuery = "" ∧ r.search.searchChatIds = [7] ∧
      ¬r.Faithful := by
  have hreach : Reachable (step .plain) Served {}
      ([.setSearchQuery "a", .debounce, .clearSearch, .answer 1 (.chats [7])].foldl (step .plain) {}) :=
    Reachable.start.run ⟨trivial, trivial, trivial, by decide, trivial⟩
  refine ⟨_, hreach, rfl, rfl, ?_⟩
  intro h
  exact absurd (h.empty rfl).1 (by decide)

end SearchRun

end RioGram.Chats
