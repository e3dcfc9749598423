import RioGram.Search.Manager

/-!
# What the search manager asks for

`SearchManager.asks` are the requests that are sent when something happens.  The user and the timers ask for
results, an answer only for the titles of the chats that are found (`asks_update`).
-/

namespace RioGram.Search

open Chats

/-- The requests ask for titles only. -/
def AreTitles (requests : List (SearchRequest × SearchExtra)) : Prop :=
  ∀ request ∈ requests, ∃ chatId, request = (.getChat chatId, .searchTitle chatId)

lemma areTitles_nil : AreTitles [] := fun _ h => absurd h List.not_mem_nil

lemma AreTitles.filterMap_eq_nil {α : Type*} {requests : List (SearchRequest × SearchExtra)}
    (h : AreTitles requests) {read : SearchRequest × SearchExtra → Option α}
    (hread : ∀ chatId, read (.getChat chatId, .searchTitle chatId) = none) :
    requests.filterMap read = [] := by
  rw [List.filterMap_eq_nil_iff]
  intro request hrequest
  rcases h request hrequest with ⟨chatId, rfl⟩
  exact hread chatId

namespace SearchManager

variable (P : Platform) (tryParse : String → Option LinkUri) (s : SearchManager)

/-- The requests that are sent when something happens. -/
def asks (e : SearchManagerEvent) : List (SearchRequest × SearchExtra) :=
  (s.step P tryParse e).sent.drop s.sent.length

variable {P tryParse s} {e : SearchManagerEvent}

lemma asks_eq {requests : List (SearchRequest × SearchExtra)}
    (h : (s.step P tryParse e).sent = s.sent ++ requests) : s.asks P tryParse e = requests := by
  rw [asks, h, List.drop_left]

lemma asks_of_sent_eq (h : (s.step P tryParse e).sent = s.sent) : s.asks P tryParse e = [] :=
  asks_eq (by rw [h, List.append_nil])

/-! ## The user and the timers -/

lemma asks_globalDebounce (h : s.global.globalDebounce) :
    s.asks P tryParse .globalDebounce =
      (s.globalRequests P tryParse).map fun request =>
        (request.1, .global request.2 (s.global.globalRequestId + 1)) := by
  refine asks_eq ?_
  simp only [step, fireGlobalDebounce, h, if_true]
  rfl

lemma asks_globalDebounce_of_idle (h : s.global.globalDebounce = false) :
    s.asks P tryParse .globalDebounce = [] := by
  refine asks_of_sent_eq ?_
  simp only [step, fireGlobalDebounce, h, Bool.false_eq_true, if_false]

lemma asks_setGlobalFilter_of_same {filter : SearchMessageFilterKind}
    (h : s.global.globalFilter = filter ∨ s.global.globalQuery = "") :
    s.asks P tryParse (.setGlobalFilter filter) = [] := by
  refine asks_of_sent_eq ?_
  simp only [step, setGlobalFilter]
  rcases h with h | h
  · rw [if_pos h]
  · split_ifs
    · rfl
    · rfl

lemma asks_setGlobalFilter {filter : SearchMessageFilterKind} (hfilter : s.global.globalFilter ≠ filter)
    (hquery : s.global.globalQuery ≠ "") :
    s.asks P tryParse (.setGlobalFilter filter) =
      (({ s with global := { s.global with globalFilter := filter } } : SearchManager).globalRequests P
        tryParse).map fun request => (request.1, .global request.2 (s.global.globalRequestId + 1)) := by
  refine asks_eq ?_
  simp only [step, setGlobalFilter, hfilter, hquery, if_false]
  rfl

/-- More may be asked for of the messages that are found everywhere. -/
def canLoadMoreGlobal (s : SearchManager) : Bool :=
  s.global.globalHasMoreMessages && !s.global.globalIsLoading && !s.global.globalIsLoadingMore &&
    s.global.globalMessagesOffset != ""

lemma loadMoreGlobalMessages_of_not (h : s.canLoadMoreGlobal = false) : s.loadMoreGlobalMessages = s := by
  have hguard : (!s.global.globalHasMoreMessages || s.global.globalIsLoading || s.global.globalIsLoadingMore ||
      s.global.globalMessagesOffset == "") = !s.canLoadMoreGlobal := by
    simp [canLoadMoreGlobal, bne]
  rw [loadMoreGlobalMessages, hguard, h]
  rfl

lemma loadMoreGlobalMessages_of_can (h : s.canLoadMoreGlobal) :
    s.loadMoreGlobalMessages =
      ({ s with global := { s.global with
          globalIsLoadingMore := true
          globalRequestId := s.global.globalRequestId + 1 } } : SearchManager).send
        [(.searchMessages s.global.globalQuery s.global.globalMessagesOffset 20 s.global.globalFilter 0 0,
          .global .messagesMore (s.global.globalRequestId + 1))] := by
  have hguard : (!s.global.globalHasMoreMessages || s.global.globalIsLoading || s.global.globalIsLoadingMore ||
      s.global.globalMessagesOffset == "") = !s.canLoadMoreGlobal := by
    simp [canLoadMoreGlobal, bne]
  rw [loadMoreGlobalMessages, hguard, h]
  rfl

lemma asks_loadMoreGlobalMessages_of_not (h : s.canLoadMoreGlobal = false) :
    s.asks P tryParse .loadMoreGlobalMessages = [] :=
  asks_of_sent_eq (congrArg sent (loadMoreGlobalMessages_of_not h))

lemma asks_loadMoreGlobalMessages (h : s.canLoadMoreGlobal) :
    s.asks P tryParse .loadMoreGlobalMessages =
      [(.searchMessages s.global.globalQuery s.global.globalMessagesOffset 20 s.global.globalFilter 0 0,
        .global .messagesMore (s.global.globalRequestId + 1))] :=
  asks_eq (congrArg sent (loadMoreGlobalMessages_of_can h))

lemma asks_newChatDebounce {trimmed : String} (h : s.newChat.newChatDebounce = some trimmed) :
    s.asks P tryParse .newChatDebounce =
      (newChatRequests P tryParse trimmed).map fun request =>
        (request.1, .newChat request.2 (s.newChat.newChatRequestId + 1)) := by
  refine asks_eq ?_
  simp only [step, fireNewChatDebounce, h]
  rfl

lemma asks_newChatDebounce_of_idle (h : s.newChat.newChatDebounce = none) :
    s.asks P tryParse .newChatDebounce = [] := by
  refine asks_of_sent_eq ?_
  simp only [step, fireNewChatDebounce, h]

lemma asks_setGlobalQuery (query : String) : s.asks P tryParse (.setGlobalQuery query) = [] := by
  refine asks_of_sent_eq ?_
  simp only [step, setGlobalQuery]
  split_ifs <;> rfl

lemma asks_searchForNewChat (query : String) : s.asks P tryParse (.searchForNewChat query) = [] := by
  refine asks_of_sent_eq ?_
  simp only [step, searchForNewChat]
  split_ifs <;> rfl

lemma setChatSearchQuery_sent (chatId : ℤ) (query : String) (forumTopicId : Option ℤ)
    (filter : Option SearchMessageFilterKind) :
    (s.setChatSearchQuery P chatId query forumTopicId filter).sent = s.sent := by
  rw [setChatSearchQuery]
  split_ifs <;> rfl

lemma asks_setChatSearchFilter (filter : SearchMessageFilterKind) :
    s.asks P tryParse (.setChatSearchFilter filter) = [] := by
  refine asks_of_sent_eq ?_
  simp only [step, setChatSearchFilter]
  split
  · rfl
  · split_ifs
    · rfl
    · exact setChatSearchQuery_sent _ _ _ _

/-- The requests ask for pages of the search in a chat. -/
def AreChatPages (requests : List (SearchRequest × SearchExtra)) : Prop :=
  ∀ request ∈ requests, ∃ requestId, request.2 = .chatSearch requestId ∨ request.2 = .chatSearchMore requestId

lemma AreChatPages.filterMap_eq_nil {α : Type*} {requests : List (SearchRequest × SearchExtra)}
    (h : AreChatPages requests) {read : SearchRequest × SearchExtra → Option α}
    (hread : ∀ request requestId, read (request, .chatSearch requestId) = none ∧
      read (request, .chatSearchMore requestId) = none) :
    requests.filterMap read = [] := by
  rw [List.filterMap_eq_nil_iff]
  rintro ⟨request, extra⟩ hrequest
  rcases h _ hrequest with ⟨requestId, rfl | rfl⟩
  · exact (hread request requestId).1
  · exact (hread request requestId).2

lemma requestChatMessageSearch_sends (s : SearchManager) (reset : Bool) :
    ∃ pages, AreChatPages pages ∧ (s.requestChatMessageSearch reset).sent = s.sent ++ pages := by
  rw [requestChatMessageSearch.eq_def]
  split
  · exact ⟨[], fun _ h => absurd h List.not_mem_nil, (List.append_nil _).symm⟩
  · refine ⟨_, ?_, rfl⟩
    intro request hrequest
    rw [List.mem_singleton.mp hrequest]
    cases reset with
    | false => exact ⟨_, .inr rfl⟩
    | true => exact ⟨_, .inl rfl⟩

/-- The other searches stay as they are. -/
lemma requestChatMessageSearch_others (s : SearchManager) (reset : Bool) :
    (s.requestChatMessageSearch reset).global = s.global ∧ (s.requestChatMessageSearch reset).newChat = s.newChat := by
  rw [requestChatMessageSearch.eq_def]
  split <;> exact ⟨rfl, rfl⟩

lemma asks_loadMoreChatMessages : AreChatPages (s.asks P tryParse .loadMoreChatMessages) := by
  have hsends : ∃ pages, AreChatPages pages ∧ s.loadMoreChatMessages.sent = s.sent ++ pages := by
    rw [loadMoreChatMessages.eq_def]
    dsimp only
    split_ifs
    · exact ⟨[], fun _ h => absurd h List.not_mem_nil, (List.append_nil _).symm⟩
    · exact requestChatMessageSearch_sends _ false
  rcases hsends with ⟨pages, hpages, hsent⟩
  have hasks : s.asks P tryParse .loadMoreChatMessages = pages := asks_eq hsent
  rw [hasks]
  exact hpages

lemma asks_chatSearchDebounce : AreChatPages (s.asks P tryParse .chatSearchDebounce) := by
  have hsends : ∃ pages, AreChatPages pages ∧ s.fireChatSearchDebounce.sent = s.sent ++ pages := by
    rw [fireChatSearchDebounce.eq_def]
    split_ifs
    · exact requestChatMessageSearch_sends _ true
    · exact ⟨[], fun _ h => absurd h List.not_mem_nil, (List.append_nil _).symm⟩
  rcases hsends with ⟨pages, hpages, hsent⟩
  have hasks : s.asks P tryParse .chatSearchDebounce = pages := asks_eq hsent
  rw [hasks]
  exact hpages

/-! ## Answers -/

lemma ensureChatTitles_sent (s : SearchManager) (chatIds : List ℤ) :
    ∃ titles, AreTitles titles ∧ (s.ensureChatTitles chatIds).sent = s.sent ++ titles := by
  refine ⟨_, ?_, rfl⟩
  intro request hrequest
  rcases List.mem_map.mp hrequest with ⟨chatId, -, rfl⟩
  exact ⟨chatId, rfl⟩

/-- What only titles are asked for by. -/
def SendsTitles (s t : SearchManager) : Prop := ∃ titles, AreTitles titles ∧ t.sent = s.sent ++ titles

lemma SendsTitles.of_sent_eq {t : SearchManager} (h : t.sent = s.sent) : s.SendsTitles t :=
  ⟨[], areTitles_nil, by rw [h, List.append_nil]⟩

lemma handlePublicChats_sends (requestId : ℕ) (chatIds : List ℤ) :
    s.SendsTitles (s.handlePublicChats requestId chatIds) := by
  rw [handlePublicChats]
  split_ifs
  · exact .of_sent_eq rfl
  · exact ensureChatTitles_sent (s.addPublicChats chatIds) chatIds

lemma handleNewChats_sends (requestId : ℕ) (chatIds : List ℤ) (isPublic : Bool) :
    s.SendsTitles (s.handleNewChats requestId chatIds isPublic) := by
  rw [handleNewChats]
  split_ifs
  · exact .of_sent_eq rfl
  · exact ensureChatTitles_sent (s.addNewChats chatIds isPublic) chatIds

lemma handleChats_sends (extra : SearchExtra) (chatIds : List ℤ) :
    s.SendsTitles (s.handleChats extra chatIds) := by
  rw [handleChats.eq_def]
  split
  · split_ifs
    · exact .of_sent_eq rfl
    · exact ensureChatTitles_sent (s.setGlobalChatIds _) _
  · exact handlePublicChats_sends _ _
  · exact handlePublicChats_sends _ _
  · exact handleNewChats_sends _ _ _
  · exact handleNewChats_sends _ _ _
  · exact handleNewChats_sends _ _ _
  · exact handleNewChats_sends _ _ _
  · exact .of_sent_eq rfl

lemma handleSponsoredChats_sent (extra : SearchExtra) (chatIds : List ℤ) :
    (s.handleSponsoredChats extra chatIds).sent = s.sent := by
  rw [handleSponsoredChats.eq_def]
  split
  · split_ifs <;> rfl
  · rfl

lemma handleFoundMessages_sends (extra : SearchExtra) (found : List FoundMessage) (nextOffset : String) :
    s.SendsTitles (s.handleFoundMessages extra found nextOffset) := by
  rw [handleFoundMessages.eq_def]
  split
  · split_ifs
    · exact .of_sent_eq rfl
    · exact ensureChatTitles_sent _ ((parseFoundMessages found).map (·.chatId))
  · split_ifs
    · exact .of_sent_eq rfl
    · exact ensureChatTitles_sent _ ((parseFoundMessages found).map (·.chatId))
  · exact .of_sent_eq rfl

lemma handleFoundChatMessages_sent (extra : SearchExtra) (found : List ChatHit) (next totalCount : ℤ) :
    (s.handleFoundChatMessages extra found next totalCount).sent = s.sent := by
  rw [handleFoundChatMessages.eq_def]
  split
  · rfl
  · split <;> rfl

lemma handleChat_sent (extra : Option SearchExtra) (chatId : ℤ) (title : String) :
    (s.handleChat extra chatId title).sent = s.sent := by
  rw [handleChat.eq_def, refreshMessageTitles]
  dsimp only
  split
  · split_ifs <;> rfl
  · split_ifs <;> rfl
  · rfl

lemma handleUser_sent (extra : SearchExtra) (hit : SearchUserHit) :
    (s.handleUser extra hit).sent = s.sent := by
  rw [handleUser.eq_def]
  split
  · rw [handleGlobalUser]
    split_ifs <;> rfl
  · rw [handleGlobalUser]
    split_ifs <;> rfl
  · rw [handleNewChatUser]
    split_ifs <;> rfl
  · rw [handleNewChatUser]
    split_ifs <;> rfl
  · rfl

lemma handleError_sent (extra : SearchExtra) (message : Option String) :
    (s.handleError extra message).sent = s.sent := by
  cases extra with
  | global target requestId =>
      simp only [handleError]
      split_ifs <;> rfl
  | newChat target requestId =>
      simp only [handleError]
      split_ifs <;> rfl
  | _ => rfl

lemma handleUpdate_sends (update : SearchUpdate) : s.SendsTitles (s.handleUpdate update) := by
  cases update with
  | chat extra chatId title => exact .of_sent_eq (handleChat_sent extra chatId title)
  | chats extra chatIds =>
      cases extra with
      | none => exact .of_sent_eq rfl
      | some extra => exact handleChats_sends extra chatIds
  | sponsoredChats extra chatIds =>
      cases extra with
      | none => exact .of_sent_eq rfl
      | some extra => exact .of_sent_eq (handleSponsoredChats_sent extra chatIds)
  | foundMessages extra found nextOffset =>
      cases extra with
      | none => exact .of_sent_eq rfl
      | some extra => exact handleFoundMessages_sends extra found nextOffset
  | foundChatMessages extra found next totalCount =>
      cases extra with
      | none => exact .of_sent_eq rfl
      | some extra => exact .of_sent_eq (handleFoundChatMessages_sent extra found next totalCount)
  | user extra hit =>
      cases extra with
      | none => exact .of_sent_eq rfl
      | some extra => exact .of_sent_eq (handleUser_sent extra hit)
  | error extra message =>
      cases extra with
      | none => exact .of_sent_eq rfl
      | some extra => exact .of_sent_eq (handleError_sent extra message)

/-- An answer asks for titles only. -/
theorem asks_update (update : SearchUpdate) : AreTitles (s.asks P tryParse (.update update)) := by
  rcases handleUpdate_sends (s := s) update with ⟨titles, htitles, hsent⟩
  have hasks : s.asks P tryParse (.update update) = titles := asks_eq hsent
  rw [hasks]
  exact htitles

end SearchManager

end RioGram.Search
