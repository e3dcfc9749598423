import RioGram.Search.GlobalResults

/-!
# Two managers at one stream

`ChatManager` has searches of its own, for the list of chats and for a new chat, beside those of `SearchManager`.
Both listen to all updates, both number their requests from one on, and the extras of their requests begin alike.

`SharedRun` are the searches of both with the requests of either that are not answered; an answer comes with the
manager that has asked for it and is handled by both.

* `replies_isolated` says when no answer to the one changes a search of the other.
* `reply_taken` is an answer to the one that the other shows.
-/

namespace RioGram.Search

open Chats Reaching TdlibSearchParser

/-! ## What the chat manager does with an update -/

/-- The title of a chat is learnt. -/
def learnTitle (titles : ℤ → Option String) (chatId : ℤ) (title : String) : ℤ → Option String :=
  fun i => if i = chatId then some title else titles i

/-- The searches of the chat manager. -/
structure ChatSearches where
  search : ChatSearch := {}
  newChat : NewChatSearch := {}

/-- What `_handleChats`, `_handleFoundMessages`, `_handleChatResponse` and `_handleError` do for the search in the
list of chats. -/
def searchUpdate (s : ChatSearch) : SearchUpdate → ChatSearch
  | .chats (some (.global .chats requestId)) ids => s.handleSearchChats requestId ids
  | .foundMessages (some (.global .messages requestId)) found _ => s.handleFoundMessages requestId found
  | .chat _ chatId title => { s with chatTitles := learnTitle s.chatTitles chatId title }
  | .error (some (.global .chats requestId)) message => s.handleSearchError requestId message
  | .error (some (.global .messages requestId)) message => s.handleSearchError requestId message
  | _ => s

/-- What they do for the search for a new chat. -/
def newChatUpdate (s : NewChatSearch) : SearchUpdate → NewChatSearch
  | .chats (some (.newChat .searchLocal requestId)) ids => s.handleNewChatSearch requestId ids
  | .chats (some (.newChat .search requestId)) ids => s.handleNewChatSearch requestId ids
  | .chat (some (.newChat .publicChat requestId)) chatId _ =>
      let s := s.handlePublicChat requestId chatId
      { s with isKnown := fun i => i == chatId || s.isKnown i }
  | .chat _ chatId _ => { s with isKnown := fun i => i == chatId || s.isKnown i }
  | .error (some (.newChat .searchLocal requestId)) _ => s.handleNewChatError requestId
  | .error (some (.newChat .search requestId)) _ => s.handleNewChatError requestId
  | .error (some (.newChat .publicChat requestId)) _ => s.handleNewChatError requestId
  | _ => s

namespace ChatSearches

variable (P : Platform) (tryParse : String → Option LinkUri) (s : ChatSearches)

def handleUpdate (update : SearchUpdate) : ChatSearches where
  search := searchUpdate s.search update
  newChat := newChatUpdate s.newChat update

/-- What the user does with the chat manager, and its timers. -/
inductive Action where
  | setSearchQuery (query : String)
  | clearSearch
  | searchDebounce
  | searchForNewChat (query : String)
  | clearNewChatSearch
  | newChatSearchDebounce

def act : Action → ChatSearches
  | .setSearchQuery query => { s with search := s.search.setSearchQuery P query }
  | .clearSearch => { s with search := s.search.clearSearch }
  | .searchDebounce => if s.search.searchDebounce then { s with search := s.search.performSearch } else s
  | .searchForNewChat query => { s with newChat := s.newChat.searchForNewChat P query }
  | .clearNewChatSearch => { s with newChat := s.newChat.clearNewChatSearch }
  | .newChatSearchDebounce =>
      match s.newChat.newChatSearchDebounce with
      | none => s
      | some trimmed => { s with newChat := s.newChat.performNewChatSearch P tryParse trimmed }

/-- The extra of a request in the list of chats; titles are asked for without one. -/
def searchExtra : SearchCommand → Option SearchExtra
  | .searchChats _ _ requestId => some (.global .chats requestId)
  | .searchMessages _ _ _ _ _ requestId => some (.global .messages requestId)
  | .getChat _ => none

/-- The extra of a request for a new chat. -/
def newChatExtra : NewChatCommand → Option SearchExtra
  | .searchChats _ _ requestId => some (.newChat .searchLocal requestId)
  | .searchChatsOnServer _ _ requestId => some (.newChat .search requestId)
  | .searchPublicChat _ requestId => some (.newChat .publicChat requestId)
  | .getChat _ => none

/-- The extras of the requests that an action sends. -/
def asks (action : Action) : List SearchExtra :=
  (((s.act P tryParse action).search.sent.drop s.search.sent.length).filterMap searchExtra) ++
    (((s.act P tryParse action).newChat.sent.drop s.newChat.sent.length).filterMap newChatExtra)

end ChatSearches

/-! ## Runs of both -/

inductive Owner where
  | chatManager | searchManager
deriving DecidableEq

def SearchManagerEvent.isUpdate : SearchManagerEvent → Bool
  | .update _ => true
  | _ => false

inductive SharedEvent where
  | chatManager (action : ChatSearches.Action)
  | searchManager (e : SearchManagerEvent) (haction : e.isUpdate = false)
  /-- An answer to a request of one of them, which both hear. -/
  | reply (owner : Owner) (update : SearchUpdate)

def SearchUpdate.extra : SearchUpdate → Option SearchExtra
  | .chats extra _ => extra
  | .sponsoredChats extra _ => extra
  | .foundMessages extra _ _ => extra
  | .foundChatMessages extra _ _ _ => extra
  | .chat extra _ _ => extra
  | .user extra _ => extra
  | .error extra _ => extra

/-- Both managers, and the requests of either that are not answered. -/
structure SharedRun where
  chats : ChatSearches := {}
  manager : SearchManager := {}
  requests : List (Owner × SearchExtra) := []

namespace SharedRun

variable (P : Platform) (tryParse : String → Option LinkUri) (r : SharedRun)

def step : SharedEvent → SharedRun
  | .chatManager action =>
      { r with
        chats := r.chats.act P tryParse action
        requests := r.requests ++ (r.chats.asks P tryParse action).map (.chatManager, ·) }
  | .searchManager e _ =>
      { r with
        manager := r.manager.step P tryParse e
        requests := r.requests ++ (r.manager.asks P tryParse e).map fun request => (.searchManager, request.2) }
  | .reply owner update =>
      { chats := r.chats.handleUpdate update
        manager := r.manager.step P tryParse (.update update)
        requests := (update.extra.elim r.requests fun extra => r.requests.erase (owner, extra)) ++
          (r.manager.asks P tryParse (.update update)).map fun request => (.searchManager, request.2) }

/-- TDLib answers requests that were sent, each once.  The chat manager asks for chats without an extra and for
other things at any time. -/
def Served : SharedEvent → Prop
  | .reply owner update =>
      match update.extra with
      | none => owner = .chatManager
      | some (.other _) => owner = .chatManager
      | some extra => (owner, extra) ∈ r.requests
  | _ => True

end SharedRun

/-! ## Isolation -/

/-- What is found, whether it is loading and the error stay as they are. -/
structure SameSearch (s s' : ChatSearch) : Prop where
  chatIds : s'.searchChatIds = s.searchChatIds
  messages : s'.searchMessages = s.searchMessages
  loading : s'.isSearchLoading = s.isSearchLoading
  error : s'.searchError = s.searchError

structure SameNewChatSearch (s s' : NewChatSearch) : Prop where
  ids : s'.newChatSearchIds = s.newChatSearchIds
  publicIds : s'.newChatSearchPublicIds = s.newChatSearchPublicIds
  loading : s'.isNewChatSearchLoading = s.isNewChatSearchLoading

/-- All stays as it is but the number of answers that are waited for. -/
def SameGlobal (s s' : GlobalSearch) : Prop :=
  s' = { s with pendingGlobalRequests := s'.pendingGlobalRequests }

def SameNewChats (s s' : NewChats) : Prop :=
  s' = { s with pendingNewChatRequests := s'.pendingNewChatRequests }

structure SameManager (s s' : SearchManager) : Prop where
  global : SameGlobal s.global s'.global
  newChat : SameNewChats s.newChat s'.newChat
  inChat : s'.inChat = s.inChat

/-- The searches of the manager that has not asked stay as they are. -/
def SharedRun.Isolated (r : SharedRun) : SharedEvent → Prop
  | .reply .searchManager update =>
      SameSearch r.chats.search (searchUpdate r.chats.search update) ∧
        SameNewChatSearch r.chats.newChat (newChatUpdate r.chats.newChat update)
  | .reply .chatManager update => SameManager r.manager (r.manager.handleUpdate update)
  | _ => True

/-- One answer does not end the loading. -/
def SearchGoesOn (s : ChatSearch) : Prop := s.isSearchLoading → 1 < s.pendingSearchRequests

def NewChatGoesOn (s : NewChatSearch) : Prop := s.isNewChatSearchLoading → s.pendingNewChatSearchRequests ≠ 1

/-- The answer has another number than the search, or it brings what is shown and does not end the loading. -/
def SearchApart (s : ChatSearch) : SearchUpdate → Prop
  | .chats (some (.global .chats requestId)) ids =>
      requestId = s.searchRequestId → ids = s.searchChatIds ∧ SearchGoesOn s
  | .foundMessages (some (.global .messages requestId)) found _ =>
      requestId = s.searchRequestId →
        entitled s.chatTitles (parseFoundMessages found) = s.searchMessages ∧ SearchGoesOn s
  | .error (some (.global .chats requestId)) message | .error (some (.global .messages requestId)) message =>
      requestId = s.searchRequestId → s.searchError = some (message.getD "Ошибка поиска") ∧ SearchGoesOn s
  | _ => True

/-- The answer has another number than the search, or it brings what is there and does not end the loading; and a
chat with a username is there. -/
def NewChatApart (s : NewChatSearch) : SearchUpdate → Prop
  | .chats (some (.newChat .searchLocal requestId)) ids | .chats (some (.newChat .search requestId)) ids =>
      requestId = s.newChatSearchRequestId →
        (∀ chatId ∈ ids, chatId ∈ s.newChatSearchIds) ∧ NewChatGoesOn s
  | .chat (some (.newChat .publicChat requestId)) chatId _ =>
      chatId ∈ s.newChatSearchIds ∧ chatId ∈ s.newChatSearchPublicIds ∧
        (requestId = s.newChatSearchRequestId → NewChatGoesOn s)
  | .error (some (.newChat .searchLocal requestId)) _ | .error (some (.newChat .search requestId)) _
  | .error (some (.newChat .publicChat requestId)) _ =>
      requestId = s.newChatSearchRequestId → NewChatGoesOn s
  | _ => True

def GlobalSearch.GoesOn (s : GlobalSearch) : Prop := s.globalIsLoading → 1 < s.pendingGlobalRequests

def NewChats.GoesOn (s : NewChats) : Prop := s.newChatIsLoading → 1 < s.pendingNewChatRequests

/-- The hits of the chat have its title. -/
def SearchManager.Titled (s : SearchManager) (chatId : ℤ) (title : String) : Prop :=
  (∀ hit ∈ s.global.globalMessages, hit.chatId = chatId → hit.chatTitle = some title) ∧
    (s.inChat.chatSearchChatId = some chatId →
      (∀ hit ∈ s.inChat.chatSearchState.results, hit.chatTitle = some title) ∧ s.inChat.chatSearchState.error = none)

/-- The answer has another number than the search, or it brings what is shown and does not end the loading; and a
chat has the title that its hits have. -/
def ManagerApart (s : SearchManager) : SearchUpdate → Prop
  | .chats (some (.global .chats requestId)) ids =>
      requestId = s.global.globalRequestId →
        s.filterSearchChatIds (parseChatIds ids) = s.global.globalChatIds ∧ s.global.GoesOn
  | .foundMessages (some (.global .messages requestId)) found nextOffset =>
      requestId = s.global.globalRequestId →
        (entitled s.chatTitles (parseFoundMessages found) = s.global.globalMessages ∧
          nextOffset = s.global.globalMessagesOffset ∧ s.global.globalHasMoreMessages = (nextOffset != "")) ∧
        s.global.GoesOn
  | .chats (some (.newChat .searchLocal requestId)) ids | .chats (some (.newChat .search requestId)) ids =>
      requestId = s.newChat.newChatRequestId →
        (∀ chatId ∈ parseChatIds ids, chatId ∈ s.newChat.newChatSearchIds) ∧ s.newChat.GoesOn
  | .chat (some (.newChat .publicChat requestId)) chatId title =>
      s.Titled chatId title ∧ (requestId = s.newChat.newChatRequestId →
        (chatId ∈ s.newChat.newChatSearchIds ∧ chatId ∈ s.newChat.newChatSearchPublicIds) ∧ s.newChat.GoesOn)
  | .chat _ chatId title => s.Titled chatId title
  | .error (some (.global .chats requestId)) message | .error (some (.global .messages requestId)) message =>
      requestId = s.global.globalRequestId →
        s.global.globalError = some (message.getD "Ошибка поиска") ∧ s.global.globalIsLoading = false
  | .error (some (.newChat _ requestId)) _ => requestId = s.newChat.newChatRequestId → s.newChat.GoesOn
  | _ => True

/-- An answer to the one manager is none to the other. -/
def SharedRun.Apart (r : SharedRun) : SharedEvent → Prop
  | .reply .searchManager update => SearchApart r.chats.search update ∧ NewChatApart r.chats.newChat update
  | .reply .chatManager update => ManagerApart r.manager update
  | _ => True

/-! ### The chat manager -/

section ChatManager

variable {s : ChatSearch} {n : NewChatSearch}

lemma sameSearch_refl (s : ChatSearch) : SameSearch s s := ⟨rfl, rfl, rfl, rfl⟩

lemma sameSearch_complete_iff {t : ChatSearch} (hloading : t.isSearchLoading = s.isSearchLoading)
    (hpending : t.pendingSearchRequests = s.pendingSearchRequests) :
    SameSearch s t.completeSearchRequest ↔
      (t.searchChatIds = s.searchChatIds ∧ t.searchMessages = s.searchMessages ∧ t.searchError = s.searchError) ∧
        SearchGoesOn s := by
  have hloads : t.completeSearchRequest.isSearchLoading =
      if min (s.pendingSearchRequests - 1) 2 = 0 then false else s.isSearchLoading := by
    rw [← hpending, ← hloading]
    rfl
  have hkeeps : t.completeSearchRequest.isSearchLoading = s.isSearchLoading ↔ SearchGoesOn s := by
    rw [hloads, SearchGoesOn]
    cases s.isSearchLoading with
    | false => simp
    | true =>
        simp only [forall_const]
        split_ifs with hzero
        · simp only [false_iff]
          omega
        · simp only [true_iff]
          omega
  rw [← hkeeps]
  exact ⟨fun h => ⟨⟨h.chatIds, h.messages, h.error⟩, h.loading⟩, fun h => ⟨h.1.1, h.1.2.1, h.2, h.1.2.2⟩⟩

lemma handleSearchChats_same_iff (requestId : ℕ) (ids : List ℤ) :
    SameSearch s (s.handleSearchChats requestId ids) ↔
      (requestId = s.searchRequestId → ids = s.searchChatIds ∧ SearchGoesOn s) := by
  rw [ChatSearch.handleSearchChats]
  split_ifs with hne
  · exact iff_of_true (sameSearch_refl s) fun heq => absurd heq hne
  · rw [forall_prop_of_true (not_not.mp hne)]
    refine (sameSearch_complete_iff (by rfl) (by rfl)).trans (and_congr_left' ?_)
    exact ⟨fun h => h.1, fun h => ⟨h, rfl, rfl⟩⟩

lemma handleFoundMessages_same_iff (requestId : ℕ) (found : List FoundMessage) :
    SameSearch s (s.handleFoundMessages requestId found) ↔
      (requestId = s.searchRequestId →
        entitled s.chatTitles (parseFoundMessages found) = s.searchMessages ∧ SearchGoesOn s) := by
  rw [ChatSearch.handleFoundMessages]
  split_ifs with hne
  · exact iff_of_true (sameSearch_refl s) fun heq => absurd heq hne
  · rw [forall_prop_of_true (not_not.mp hne)]
    refine (sameSearch_complete_iff (by rfl) (by rfl)).trans (and_congr_left' ?_)
    exact ⟨fun h => h.2.1, fun h => ⟨rfl, h, rfl⟩⟩

lemma handleSearchError_same_iff (requestId : ℕ) (message : Option String) :
    SameSearch s (s.handleSearchError requestId message) ↔
      (requestId = s.searchRequestId →
        s.searchError = some (message.getD "Ошибка поиска") ∧ SearchGoesOn s) := by
  rw [ChatSearch.handleSearchError]
  split_ifs with hne
  · exact iff_of_true (sameSearch_refl s) fun heq => absurd heq hne
  · rw [forall_prop_of_true (not_not.mp hne)]
    refine (sameSearch_complete_iff (by rfl) (by rfl)).trans (and_congr_left' ?_)
    exact ⟨fun h => h.2.2.symm, fun h => ⟨rfl, rfl, h.symm⟩⟩

/-- The search in the list of chats stays as it is exactly if the update is none for it. -/
lemma searchUpdate_same_iff (s : ChatSearch) (update : SearchUpdate) :
    SameSearch s (searchUpdate s update) ↔ SearchApart s update := by
  cases update with
  | chats extra ids =>
      rcases extra with _ | (⟨target, requestId⟩ | _)
      · exact iff_of_true (sameSearch_refl s) trivial
      · cases target with
        | chats => exact handleSearchChats_same_iff requestId ids
        | _ => exact iff_of_true (sameSearch_refl s) trivial
      all_goals exact iff_of_true (sameSearch_refl s) trivial
  | foundMessages extra found nextOffset =>
      rcases extra with _ | (⟨target, requestId⟩ | _)
      · exact iff_of_true (sameSearch_refl s) trivial
      · cases target with
        | messages => exact handleFoundMessages_same_iff requestId found
        | _ => exact iff_of_true (sameSearch_refl s) trivial
      all_goals exact iff_of_true (sameSearch_refl s) trivial
  | error extra message =>
      rcases extra with _ | (⟨target, requestId⟩ | _)
      · exact iff_of_true (sameSearch_refl s) trivial
      · cases target with
        | chats => exact handleSearchError_same_iff requestId message
        | messages => exact handleSearchError_same_iff requestId message
        | _ => exact iff_of_true (sameSearch_refl s) trivial
      all_goals exact iff_of_true (sameSearch_refl s) trivial
  | chat extra chatId title => exact iff_of_true ⟨rfl, rfl, rfl, rfl⟩ trivial
  | _ => exact iff_of_true (sameSearch_refl s) trivial

/-- No chat is there twice. -/
def DistinctNewChats (n : NewChatSearch) : Prop := n.newChatSearchIds.Nodup ∧ n.newChatSearchPublicIds.Nodup

lemma sameNewChatSearch_refl (n : NewChatSearch) : SameNewChatSearch n n := ⟨rfl, rfl, rfl⟩

lemma sameNewChatSearch_complete_iff {t : NewChatSearch}
    (hloading : t.isNewChatSearchLoading = n.isNewChatSearchLoading)
    (hpending : t.pendingNewChatSearchRequests = n.pendingNewChatSearchRequests) :
    SameNewChatSearch n t.completeNewChatSearchRequest ↔
      (t.newChatSearchIds = n.newChatSearchIds ∧ t.newChatSearchPublicIds = n.newChatSearchPublicIds) ∧
        NewChatGoesOn n := by
  have hkeeps : t.completeNewChatSearchRequest.isNewChatSearchLoading = n.isNewChatSearchLoading ↔
      NewChatGoesOn n := by
    rw [Bool.eq_iff_iff, completeNewChatSearchRequest_loading, hloading, hpending, NewChatGoesOn]
    exact and_iff_left_iff_imp
  rw [← hkeeps, NewChatSearch.completeNewChatSearchRequest]
  split_ifs
  · exact ⟨fun h => ⟨⟨h.ids, h.publicIds⟩, h.loading⟩, fun h => ⟨h.1.1, h.1.2, h.2⟩⟩
  · exact ⟨fun h => ⟨⟨h.ids, h.publicIds⟩, h.loading⟩, fun h => ⟨h.1.1, h.1.2, h.2⟩⟩

lemma handleNewChatSearch_same_iff (hn : DistinctNewChats n) (requestId : ℕ) (ids : List ℤ) :
    SameNewChatSearch n (n.handleNewChatSearch requestId ids) ↔
      (requestId = n.newChatSearchRequestId →
        (∀ chatId ∈ ids, chatId ∈ n.newChatSearchIds) ∧ NewChatGoesOn n) := by
  rw [NewChatSearch.handleNewChatSearch]
  split_ifs with hne
  · exact iff_of_true (sameNewChatSearch_refl n) fun heq => absurd heq hne
  · rw [forall_prop_of_true (not_not.mp hne), ← Merging.eraseDups_append_eq_iff hn.1]
    refine (sameNewChatSearch_complete_iff (by rfl) (by rfl)).trans (and_congr_left' ?_)
    exact ⟨fun h => h.1, fun h => ⟨h, rfl⟩⟩

lemma handlePublicChat_same_iff (hn : DistinctNewChats n) (requestId : ℕ) (chatId : ℤ) :
    SameNewChatSearch n (n.handlePublicChat requestId chatId) ↔
      chatId ∈ n.newChatSearchIds ∧ chatId ∈ n.newChatSearchPublicIds ∧
        (requestId = n.newChatSearchRequestId → NewChatGoesOn n) := by
  have hids : (n.newChatSearchIds ++ [chatId]).eraseDups = n.newChatSearchIds ↔ chatId ∈ n.newChatSearchIds := by
    rw [Merging.eraseDups_append_eq_iff hn.1]
    exact List.forall_mem_singleton
  have hpublic : (n.newChatSearchPublicIds ++ [chatId]).eraseDups = n.newChatSearchPublicIds ↔
      chatId ∈ n.newChatSearchPublicIds := by
    rw [Merging.eraseDups_append_eq_iff hn.2]
    exact List.forall_mem_singleton
  simp only [NewChatSearch.handlePublicChat]
  split_ifs with heq
  · have hlatest : requestId = n.newChatSearchRequestId := heq
    rw [forall_prop_of_true hlatest, ← hids, ← hpublic, ← and_assoc]
    exact sameNewChatSearch_complete_iff (by rfl) (by rfl)
  · rw [← hids, ← hpublic]
    exact ⟨fun h => ⟨h.ids, h.publicIds, fun h' => absurd h' heq⟩, fun h => ⟨h.1, h.2.1, rfl⟩⟩

lemma handleNewChatError_same_iff (requestId : ℕ) :
    SameNewChatSearch n (n.handleNewChatError requestId) ↔
      (requestId = n.newChatSearchRequestId → NewChatGoesOn n) := by
  rw [NewChatSearch.handleNewChatError]
  split_ifs with heq
  · rw [forall_prop_of_true heq]
    refine (sameNewChatSearch_complete_iff (by rfl) (by rfl)).trans ?_
    exact ⟨fun h => h.2, fun h => ⟨⟨rfl, rfl⟩, h⟩⟩
  · exact iff_of_true (sameNewChatSearch_refl n) fun h => absurd h heq

/-- The search for a new chat stays as it is exactly if the update is none for it. -/
lemma newChatUpdate_same_iff (hn : DistinctNewChats n) (update : SearchUpdate) :
    SameNewChatSearch n (newChatUpdate n update) ↔ NewChatApart n update := by
  cases update with
  | chats extra ids =>
      rcases extra with _ | (_ | ⟨target, requestId⟩ | _)
      · exact iff_of_true (sameNewChatSearch_refl n) trivial
      · exact iff_of_true (sameNewChatSearch_refl n) trivial
      · cases target with
        | searchLocal => exact handleNewChatSearch_same_iff hn requestId ids
        | search => exact handleNewChatSearch_same_iff hn requestId ids
        | _ => exact iff_of_true (sameNewChatSearch_refl n) trivial
      all_goals exact iff_of_true (sameNewChatSearch_refl n) trivial
  | chat extra chatId title =>
      have hlearns : SameNewChatSearch n { n with isKnown := fun i => i == chatId || n.isKnown i } :=
        ⟨rfl, rfl, rfl⟩
      rcases extra with _ | (_ | ⟨target, requestId⟩ | _)
      · exact iff_of_true hlearns trivial
      · exact iff_of_true hlearns trivial
      · cases target with
        | publicChat =>
            refine Iff.trans ?_ (handlePublicChat_same_iff hn requestId chatId)
            exact ⟨fun h => ⟨h.ids, h.publicIds, h.loading⟩, fun h => ⟨h.ids, h.publicIds, h.loading⟩⟩
        | _ => exact iff_of_true hlearns trivial
      all_goals exact iff_of_true hlearns trivial
  | error extra message =>
      rcases extra with _ | (_ | ⟨target, requestId⟩ | _)
      · exact iff_of_true (sameNewChatSearch_refl n) trivial
      · exact iff_of_true (sameNewChatSearch_refl n) trivial
      · cases target with
        | searchLocal => exact handleNewChatError_same_iff requestId
        | search => exact handleNewChatError_same_iff requestId
        | publicChat => exact handleNewChatError_same_iff requestId
        | _ => exact iff_of_true (sameNewChatSearch_refl n) trivial
      all_goals exact iff_of_true (sameNewChatSearch_refl n) trivial
  | _ => exact iff_of_true (sameNewChatSearch_refl n) trivial

end ChatManager

/-! ### The search manager -/

section Manager

variable {s : SearchManager}

/-- The prefixes that the chat manager has, too, and others that are not for searches. -/
def isChatManagers : SearchExtra → Bool
  | .global .chats _ | .global .messages _ | .newChat .searchLocal _ | .newChat .search _
  | .newChat .publicChat _ | .other _ => true
  | _ => false

def DistinctChats (s : NewChats) : Prop := s.newChatSearchIds.Nodup ∧ s.newChatSearchPublicIds.Nodup

lemma sameNewChats_of_eq {t : SearchManager} (h : t.newChat = s.newChat) : SameNewChats s.newChat t.newChat := by
  rw [h]
  rfl

/-- One answer less of those that are waited for. -/
lemma loading_kept_iff (loading : Bool) (pending : ℕ) :
    (if 0 < min (pending - 1) 20 then loading else false) = loading ↔ (loading → 1 < pending) := by
  cases loading with
  | false => simp
  | true =>
      simp only [forall_const]
      split_ifs with hpos
      · simp only [true_iff]
        omega
      · simp only [false_iff]
        omega

lemma sameManager_refl (s : SearchManager) : SameManager s s := ⟨rfl, rfl, rfl⟩

lemma global_complete_iff {t : SearchManager} (hnewChat : t.newChat = s.newChat) (hinChat : t.inChat = s.inChat)
    (hloading : t.global.globalIsLoading = s.global.globalIsLoading)
    (hpending : t.global.pendingGlobalRequests = s.global.pendingGlobalRequests) :
    SameManager s (t.completeGlobalRequest false) ↔ t.global = s.global ∧ s.global.GoesOn := by
  have hglobal : (t.completeGlobalRequest false).global =
      { t.global with
        pendingGlobalRequests := min (s.global.pendingGlobalRequests - 1) 20
        globalIsLoading := if 0 < min (s.global.pendingGlobalRequests - 1) 20 then s.global.globalIsLoading
          else false } := by
    rw [← hpending, ← hloading]
    by_cases hpos : 0 < min (t.global.pendingGlobalRequests - 1) 20
    · simp [SearchManager.completeGlobalRequest, hpos]
    · simp [SearchManager.completeGlobalRequest, hpos]
  have hkeeps := loading_kept_iff s.global.globalIsLoading s.global.pendingGlobalRequests
  constructor
  · intro h
    have hsame := h.global
    rw [hglobal, SameGlobal] at hsame
    refine ⟨?_, hkeeps.mp (congrArg GlobalSearch.globalIsLoading hsame)⟩
    have hback := congrArg (fun search : GlobalSearch => { search with
      pendingGlobalRequests := s.global.pendingGlobalRequests
      globalIsLoading := s.global.globalIsLoading }) hsame
    rw [← hpending, ← hloading] at hback
    exact hback.trans (by rw [hpending, hloading])
  · rintro ⟨hsame, hgoes⟩
    refine ⟨?_, sameNewChats_of_eq hnewChat, hinChat⟩
    rw [hglobal, hsame, hkeeps.mpr hgoes, SameGlobal]

lemma newChat_complete_iff {t : SearchManager}
    (hloading : t.newChat.newChatIsLoading = s.newChat.newChatIsLoading)
    (hpending : t.newChat.pendingNewChatRequests = s.newChat.pendingNewChatRequests) :
    SameNewChats s.newChat t.completeNewChatRequest.newChat ↔ t.newChat = s.newChat ∧ s.newChat.GoesOn := by
  have hnewChat : t.completeNewChatRequest.newChat =
      { t.newChat with
        pendingNewChatRequests := min (s.newChat.pendingNewChatRequests - 1) 20
        newChatIsLoading := if 0 < min (s.newChat.pendingNewChatRequests - 1) 20 then s.newChat.newChatIsLoading
          else false } := by
    rw [← hpending, ← hloading]
    rfl
  have hkeeps := loading_kept_iff s.newChat.newChatIsLoading s.newChat.pendingNewChatRequests
  constructor
  · intro hsame
    rw [hnewChat, SameNewChats] at hsame
    refine ⟨?_, hkeeps.mp (congrArg NewChats.newChatIsLoading hsame)⟩
    have hback := congrArg (fun search : NewChats => { search with
      pendingNewChatRequests := s.newChat.pendingNewChatRequests
      newChatIsLoading := s.newChat.newChatIsLoading }) hsame
    rw [← hpending, ← hloading] at hback
    exact hback.trans (by rw [hpending, hloading])
  · rintro ⟨hsame, hgoes⟩
    rw [hnewChat, hsame, hkeeps.mpr hgoes, SameNewChats]

lemma chats_same_iff (requestId : ℕ) (ids : List ℤ) :
    SameManager s (s.handleChats (.global .chats requestId) ids) ↔
      (requestId = s.global.globalRequestId →
        s.filterSearchChatIds (parseChatIds ids) = s.global.globalChatIds ∧ s.global.GoesOn) := by
  simp only [SearchManager.handleChats]
  split_ifs with hne
  · exact iff_of_true (sameManager_refl s) fun heq => absurd heq hne
  · rw [forall_prop_of_true (not_not.mp hne)]
    refine (global_complete_iff (by rfl) (by rfl) (by rfl) (by rfl)).trans (and_congr_left' ⟨fun h => ?_, fun h => ?_⟩)
    · exact congrArg GlobalSearch.globalChatIds h
    · have hglobal : ((s.setGlobalChatIds (parseChatIds ids)).ensureChatTitles (parseChatIds ids)).global =
          { s.global with globalChatIds := s.filterSearchChatIds (parseChatIds ids) } := rfl
      rw [hglobal, h]

lemma messages_same_iff (requestId : ℕ) (found : List FoundMessage) (nextOffset : String) :
    SameManager s (s.handleFoundMessages (.global .messages requestId) found nextOffset) ↔
      (requestId = s.global.globalRequestId →
        (entitled s.chatTitles (parseFoundMessages found) = s.global.globalMessages ∧
          nextOffset = s.global.globalMessagesOffset ∧ s.global.globalHasMoreMessages = (nextOffset != "")) ∧
        s.global.GoesOn) := by
  simp only [SearchManager.handleFoundMessages]
  split_ifs with hne
  · exact iff_of_true (sameManager_refl s) fun heq => absurd heq hne
  · rw [forall_prop_of_true (not_not.mp hne)]
    have hglobal : (s.applyGlobalMessages found nextOffset false).global =
        { s.global with
          globalMessagesOffset := nextOffset
          globalHasMoreMessages := nextOffset != ""
          globalMessages := entitled s.chatTitles (parseFoundMessages found) } := rfl
    refine (global_complete_iff (by rfl) (by rfl) (by rfl) (by rfl)).trans (and_congr_left' ⟨fun h => ?_, ?_⟩)
    · exact ⟨congrArg GlobalSearch.globalMessages h, congrArg GlobalSearch.globalMessagesOffset h,
        (congrArg GlobalSearch.globalHasMoreMessages h).symm⟩
    · rintro ⟨hmessages, hoffset, hmore⟩
      rw [hglobal, hmessages, ← hmore, hoffset]

lemma newChats_same_iff (hs : DistinctChats s.newChat) (requestId : ℕ) (chatIds : List ℤ) :
    SameManager s (s.handleNewChats requestId chatIds false) ↔
      (requestId = s.newChat.newChatRequestId →
        (∀ chatId ∈ chatIds, chatId ∈ s.newChat.newChatSearchIds) ∧ s.newChat.GoesOn) := by
  rw [SearchManager.handleNewChats]
  split_ifs with hne
  · exact iff_of_true (sameManager_refl s) fun heq => absurd heq hne
  · rw [forall_prop_of_true (not_not.mp hne), ← Merging.eraseDups_append_eq_iff hs.1]
    have hnewChat : ((s.addNewChats chatIds false).ensureChatTitles chatIds).newChat =
        { s.newChat with newChatSearchIds := (s.newChat.newChatSearchIds ++ chatIds).eraseDups } := rfl
    have hiff := newChat_complete_iff (s := s) (t := (s.addNewChats chatIds false).ensureChatTitles chatIds)
      rfl rfl
    constructor
    · intro h
      have hsame := hiff.mp h.newChat
      exact ⟨congrArg NewChats.newChatSearchIds hsame.1, hsame.2⟩
    · intro h
      exact ⟨rfl, hiff.mpr ⟨by rw [hnewChat, h.1], h.2⟩, rfl⟩

lemma withTitle_eq_iff {hit : SearchMessageHit} {title : String} :
    { hit with chatTitle := some title } = hit ↔ hit.chatTitle = some title := by
  constructor
  · exact fun h => (congrArg SearchMessageHit.chatTitle h).symm
  · intro h
    rw [← h]

/-- Titles are made anew for nothing if they are there. -/
lemma refresh_same_iff {t : SearchManager} (hglobal : t.global = s.global) (hinChat : t.inChat = s.inChat)
    (chatId : ℤ) (title : String) :
    SameManager s (t.refreshMessageTitles chatId title) ↔
      s.Titled chatId title ∧ SameNewChats s.newChat t.newChat := by
  have hmessages : SameGlobal s.global (t.refreshMessageTitles chatId title).global ↔
      ∀ hit ∈ s.global.globalMessages, hit.chatId = chatId → hit.chatTitle = some title := by
    have hfields : (t.refreshMessageTitles chatId title).global =
        { s.global with globalMessages := s.global.globalMessages.map fun hit =>
            if hit.chatId = chatId then { hit with chatTitle := some title } else hit } := by
      rw [← hglobal]
      rfl
    have hmap : (s.global.globalMessages.map fun hit =>
        if hit.chatId = chatId then { hit with chatTitle := some title } else hit) = s.global.globalMessages ↔
          ∀ hit ∈ s.global.globalMessages, hit.chatId = chatId → hit.chatTitle = some title := by
      rw [Merging.map_eq_self_iff]
      refine forall₂_congr fun hit _ => ?_
      split_ifs with hchat
      · rw [withTitle_eq_iff, forall_prop_of_true hchat]
      · exact iff_of_true rfl fun h => absurd h hchat
    rw [← hmap, hfields, SameGlobal]
    exact ⟨fun h => congrArg GlobalSearch.globalMessages h, fun h => by rw [h]⟩
  have hresults : (t.refreshMessageTitles chatId title).inChat = s.inChat ↔
      (s.inChat.chatSearchChatId = some chatId → (∀ hit ∈ s.inChat.chatSearchState.results,
        hit.chatTitle = some title) ∧ s.inChat.chatSearchState.error = none) := by
    by_cases hchat : s.inChat.chatSearchChatId = some chatId
    · have hfields : (t.refreshMessageTitles chatId title).inChat =
          { s.inChat with chatSearchState := { s.inChat.chatSearchState with
              results := s.inChat.chatSearchState.results.map fun hit => { hit with chatTitle := some title }
              error := none } } := by
        simp only [SearchManager.refreshMessageTitles, hinChat, hchat, if_true]
      have hmap : (s.inChat.chatSearchState.results.map fun hit => { hit with chatTitle := some title }) =
          s.inChat.chatSearchState.results ↔
            ∀ hit ∈ s.inChat.chatSearchState.results, hit.chatTitle = some title := by
        rw [Merging.map_eq_self_iff]
        exact forall₂_congr fun hit _ => withTitle_eq_iff
      rw [forall_prop_of_true hchat, ← hmap, hfields]
      constructor
      · intro h
        have hstate := congrArg ChatMessageSearch.chatSearchState h
        exact ⟨congrArg ChatMessageSearchState.results hstate,
          (congrArg ChatMessageSearchState.error hstate).symm⟩
      · rintro ⟨hsame, herror⟩
        rw [hsame, ← herror]
    · have hfields : (t.refreshMessageTitles chatId title).inChat = s.inChat := by
        simp only [SearchManager.refreshMessageTitles, hinChat, hchat, if_false]
      exact iff_of_true hfields fun h => absurd h hchat
  rw [SearchManager.Titled, ← hmessages, ← hresults]
  exact ⟨fun h => ⟨⟨h.global, h.inChat⟩, h.newChat⟩, fun h => ⟨h.1.1, h.2, h.1.2⟩⟩

/-- A chat with a username, or another one. -/
lemma chat_same_iff (hs : DistinctChats s.newChat) (extra : Option SearchExtra)
    (hextra : ∀ requestId, extra ≠ some (.global .publicChat requestId)) (chatId : ℤ) (title : String) :
    SameManager s (s.handleChat extra chatId title) ↔ ManagerApart s (.chat extra chatId title) := by
  have hother : ∀ t : SearchManager, t.global = s.global → t.inChat = s.inChat → t.newChat = s.newChat →
      (SameManager s (t.refreshMessageTitles chatId title) ↔ s.Titled chatId title) := by
    intro t hglobal hinChat hnewChat
    rw [refresh_same_iff hglobal hinChat, and_iff_left (sameNewChats_of_eq hnewChat)]
  rcases extra with _ | (⟨target, requestId⟩ | ⟨target, requestId⟩ | _)
  · exact hother _ rfl rfl rfl
  · cases target with
    | publicChat => exact absurd rfl (hextra requestId)
    | _ => exact hother _ rfl rfl rfl
  · cases target with
    | publicChat =>
        simp only [SearchManager.handleChat, ManagerApart]
        split_ifs with heq
        · rw [refresh_same_iff (by rfl) (by rfl), forall_prop_of_true heq,
            ← List.forall_mem_singleton (p := (· ∈ s.newChat.newChatSearchIds)),
            ← List.forall_mem_singleton (p := (· ∈ s.newChat.newChatSearchPublicIds)),
            ← Merging.eraseDups_append_eq_iff hs.1, ← Merging.eraseDups_append_eq_iff hs.2]
          refine and_congr_right' ((newChat_complete_iff (by rfl) (by rfl)).trans (and_congr_left' ⟨fun h => ?_, ?_⟩))
          · exact ⟨congrArg NewChats.newChatSearchIds h, congrArg NewChats.newChatSearchPublicIds h⟩
          · rintro ⟨hids, hpublic⟩
            have hfields : s.newChat = { s.newChat with
                newChatSearchIds := (s.newChat.newChatSearchIds ++ [chatId]).eraseDups
                newChatSearchPublicIds := (s.newChat.newChatSearchPublicIds ++ [chatId]).eraseDups } := by
              rw [hids, hpublic]
            exact hfields.symm
        · rw [hother _ (by rfl) (by rfl) (by rfl)]
          exact ⟨fun h => ⟨h, fun h' => absurd h' heq⟩, fun h => h.1⟩
    | _ => exact hother _ rfl rfl rfl
  all_goals exact hother _ rfl rfl rfl

lemma error_same_iff (requestId : ℕ) {target : GlobalTarget} (htarget : target = .chats ∨ target = .messages)
    (message : Option String) :
    SameManager s (s.handleError (.global target requestId) message) ↔
      (requestId = s.global.globalRequestId →
        s.global.globalError = some (message.getD "Ошибка поиска") ∧ s.global.globalIsLoading = false) := by
  have hguard : SearchManager.globalRequestIdFromExtra target requestId ≠ some s.global.globalRequestId ↔
      requestId ≠ s.global.globalRequestId := by
    rcases htarget with rfl | rfl <;> simp [SearchManager.globalRequestIdFromExtra]
  have hmore : target ≠ .messagesMore := by
    rcases htarget with rfl | rfl <;> simp
  simp only [SearchManager.handleError, hguard, hmore, if_false]
  split_ifs with hne
  · exact iff_of_true (sameManager_refl s) fun heq => absurd heq hne
  · rw [forall_prop_of_true (not_not.mp hne)]
    constructor
    · intro h
      exact ⟨(congrArg GlobalSearch.globalError h.global).symm,
        (congrArg GlobalSearch.globalIsLoading h.global).symm⟩
    · rintro ⟨herror, hload⟩
      refine ⟨?_, rfl, rfl⟩
      have hfields : s.global = { s.global with
          globalError := some (message.getD "Ошибка поиска"), globalIsLoading := false } := by
        rw [← herror, ← hload]
      exact hfields.symm

lemma newChat_error_same_iff (target : NewChatsTarget) (requestId : ℕ) (message : Option String) :
    SameManager s (s.handleError (.newChat target requestId) message) ↔
      (requestId = s.newChat.newChatRequestId → s.newChat.GoesOn) := by
  simp only [SearchManager.handleError]
  split_ifs with hne
  · exact iff_of_true (sameManager_refl s) fun heq => absurd heq hne
  · rw [forall_prop_of_true (not_not.mp hne)]
    have hiff := newChat_complete_iff (s := s) (t := s) rfl rfl
    exact ⟨fun h => (hiff.mp h.newChat).2, fun h => ⟨rfl, hiff.mpr ⟨rfl, h⟩, rfl⟩⟩

/-- The search manager stays as it is exactly if the update is none for it. -/
lemma handleUpdate_same_iff (hs : DistinctChats s.newChat) (update : SearchUpdate)
    (hextra : ∀ extra, update.extra = some extra → isChatManagers extra) :
    SameManager s (s.handleUpdate update) ↔ ManagerApart s update := by
  have hsame : SameManager s s := sameManager_refl s
  cases update with
  | chats extra ids =>
      rcases extra with _ | (⟨target, requestId⟩ | ⟨target, requestId⟩ | _)
      · exact iff_of_true hsame trivial
      · cases target with
        | chats => exact chats_same_iff requestId ids
        | messages => exact iff_of_true hsame trivial
        | _ => cases hextra _ rfl
      · cases target with
        | searchLocal => exact newChats_same_iff hs requestId _
        | search => exact newChats_same_iff hs requestId _
        | publicChat => exact iff_of_true hsame trivial
        | _ => cases hextra _ rfl
      all_goals exact iff_of_true hsame trivial
  | sponsoredChats extra ids =>
      rcases extra with _ | (⟨target, requestId⟩ | _)
      · exact iff_of_true hsame trivial
      · cases target with
        | sponsoredChats => cases hextra _ rfl
        | _ => exact iff_of_true hsame trivial
      all_goals exact iff_of_true hsame trivial
  | foundMessages extra found nextOffset =>
      rcases extra with _ | (⟨target, requestId⟩ | _)
      · exact iff_of_true hsame trivial
      · cases target with
        | messages => exact messages_same_iff requestId found nextOffset
        | messagesMore => cases hextra _ rfl
        | _ => exact iff_of_true hsame trivial
      all_goals exact iff_of_true hsame trivial
  | foundChatMessages extra found next totalCount =>
      refine iff_of_true ?_ trivial
      cases extra with
      | none => exact hsame
      | some extra =>
          rw [SearchManager.handleUpdate, SearchManager.handleFoundChatMessages.eq_def]
          split
          · exact hsame
          · split
            · cases hextra _ rfl
            · cases hextra _ rfl
            · exact hsame
  | chat extra chatId title =>
      refine chat_same_iff hs extra (fun requestId heq => ?_) chatId title
      rw [heq] at hextra
      cases hextra _ rfl
  | user extra hit =>
      rcases extra with _ | (⟨target, requestId⟩ | ⟨target, requestId⟩ | _)
      · exact iff_of_true hsame trivial
      · cases target with
        | userPhone => cases hextra _ rfl
        | userToken => cases hextra _ rfl
        | _ => exact iff_of_true hsame trivial
      · cases target with
        | phone => cases hextra _ rfl
        | token => cases hextra _ rfl
        | _ => exact iff_of_true hsame trivial
      all_goals exact iff_of_true hsame trivial
  | error extra message =>
      rcases extra with _ | (⟨target, requestId⟩ | ⟨target, requestId⟩ | _)
      · exact iff_of_true hsame trivial
      · cases target with
        | chats => exact error_same_iff requestId (.inl rfl) message
        | messages => exact error_same_iff requestId (.inr rfl) message
        | _ => cases hextra _ rfl
      · exact newChat_error_same_iff target requestId message
      · cases hextra _ rfl
      · cases hextra _ rfl
      all_goals exact iff_of_true hsame trivial

end Manager

/-! ### Runs -/

section distinct

variable {P : Platform} {tryParse : String → Option LinkUri} {s : ChatSearches} {m : SearchManager}

lemma act_distinct (h : DistinctNewChats s.newChat) (action : ChatSearches.Action) :
    DistinctNewChats (s.act P tryParse action).newChat := by
  cases action with
  | searchDebounce =>
      simp only [ChatSearches.act]
      split_ifs
      · exact h
      · exact h
  | searchForNewChat query =>
      simp only [ChatSearches.act, NewChatSearch.searchForNewChat]
      split_ifs
      · exact ⟨List.nodup_nil, List.nodup_nil⟩
      · exact h
  | clearNewChatSearch => exact ⟨List.nodup_nil, List.nodup_nil⟩
  | newChatSearchDebounce =>
      simp only [ChatSearches.act]
      split
      · exact h
      · exact h
  | _ => exact h

lemma complete_distinct {n : NewChatSearch} (h : DistinctNewChats n) :
    DistinctNewChats n.completeNewChatSearchRequest := by
  rw [NewChatSearch.completeNewChatSearchRequest]
  split_ifs
  · exact h
  · exact h

lemma handleNewChatSearch_distinct {n : NewChatSearch} (h : DistinctNewChats n) (requestId : ℕ) (ids : List ℤ) :
    DistinctNewChats (n.handleNewChatSearch requestId ids) := by
  rw [NewChatSearch.handleNewChatSearch]
  split_ifs
  · exact h
  · exact complete_distinct ⟨Merging.nodup_eraseDups _, h.2⟩

lemma handlePublicChat_distinct (n : NewChatSearch) (requestId : ℕ) (chatId : ℤ) :
    DistinctNewChats (n.handlePublicChat requestId chatId) := by
  simp only [NewChatSearch.handlePublicChat]
  split_ifs
  · exact complete_distinct ⟨Merging.nodup_eraseDups _, Merging.nodup_eraseDups _⟩
  · exact ⟨Merging.nodup_eraseDups _, Merging.nodup_eraseDups _⟩

lemma handleNewChatError_distinct {n : NewChatSearch} (h : DistinctNewChats n) (requestId : ℕ) :
    DistinctNewChats (n.handleNewChatError requestId) := by
  rw [NewChatSearch.handleNewChatError]
  split_ifs
  · exact complete_distinct h
  · exact h

lemma newChatUpdate_distinct {n : NewChatSearch} (h : DistinctNewChats n) (update : SearchUpdate) :
    DistinctNewChats (newChatUpdate n update) := by
  rw [newChatUpdate.eq_def]
  split
  · exact handleNewChatSearch_distinct h _ _
  · exact handleNewChatSearch_distinct h _ _
  · exact handlePublicChat_distinct n _ _
  · exact h
  · exact handleNewChatError_distinct h _
  · exact handleNewChatError_distinct h _
  · exact handleNewChatError_distinct h _
  · exact h

lemma handlePublicChats_distinct (h : DistinctChats m.newChat) (requestId : ℕ) (chatIds : List ℤ) :
    DistinctChats (m.handlePublicChats requestId chatIds).newChat := by
  rw [SearchManager.handlePublicChats]
  split_ifs
  · exact h
  · exact ⟨h.1, Merging.nodup_eraseDups _⟩

lemma addNewChats_distinct (h : DistinctChats m.newChat) (chatIds : List ℤ) (isPublic : Bool) :
    DistinctChats (m.addNewChats chatIds isPublic).newChat := by
  refine ⟨Merging.nodup_eraseDups _, ?_⟩
  cases isPublic with
  | false => exact h.2
  | true => exact Merging.nodup_eraseDups _

lemma handleNewChats_distinct (h : DistinctChats m.newChat) (requestId : ℕ) (chatIds : List ℤ) (isPublic : Bool) :
    DistinctChats (m.handleNewChats requestId chatIds isPublic).newChat := by
  rw [SearchManager.handleNewChats]
  split_ifs
  · exact h
  · exact addNewChats_distinct h chatIds isPublic

lemma handleChats_distinct (h : DistinctChats m.newChat) (extra : SearchExtra) (ids : List ℤ) :
    DistinctChats (m.handleChats extra ids).newChat := by
  simp only [SearchManager.handleChats]
  split
  · split_ifs
    · exact h
    · exact h
  · exact handlePublicChats_distinct h _ _
  · exact handlePublicChats_distinct h _ _
  · exact handleNewChats_distinct h _ _ _
  · exact handleNewChats_distinct h _ _ _
  · exact handleNewChats_distinct h _ _ _
  · exact handleNewChats_distinct h _ _ _
  · exact h

lemma handleChat_distinct (h : DistinctChats m.newChat) (extra : Option SearchExtra) (chatId : ℤ) (title : String) :
    DistinctChats (m.handleChat extra chatId title).newChat := by
  simp only [SearchManager.handleChat, SearchManager.refreshMessageTitles]
  split
  · split_ifs
    · exact addNewChats_distinct (m := { m with chatTitles := _ }) h [chatId] true
    · exact h
  · split_ifs
    · exact ⟨h.1, Merging.nodup_eraseDups _⟩
    · exact h
  · exact h

lemma handleError_distinct (h : DistinctChats m.newChat) (extra : SearchExtra) (message : Option String) :
    DistinctChats (m.handleError extra message).newChat := by
  cases extra with
  | global target requestId =>
      simp only [SearchManager.handleError]
      split_ifs <;> exact h
  | newChat target requestId =>
      simp only [SearchManager.handleError]
      split_ifs <;> exact h
  | _ => exact h

lemma handleUser_distinct (h : DistinctChats m.newChat) (extra : SearchExtra) (hit : SearchUserHit) :
    DistinctChats (m.handleUser extra hit).newChat := by
  have hglobal : ∀ requestId, DistinctChats (m.handleGlobalUser requestId hit).newChat := by
    intro requestId
    rw [SearchManager.handleGlobalUser]
    split_ifs <;> exact h
  have hnewChat : ∀ requestId, DistinctChats (m.handleNewChatUser requestId hit).newChat := by
    intro requestId
    rw [SearchManager.handleNewChatUser]
    split_ifs <;> exact h
  rw [SearchManager.handleUser.eq_def]
  split
  · exact hglobal _
  · exact hglobal _
  · exact hnewChat _
  · exact hnewChat _
  · exact h

lemma handleUpdate_distinct (h : DistinctChats m.newChat) (update : SearchUpdate) :
    DistinctChats (m.handleUpdate update).newChat := by
  rw [SearchManager.handleUpdate.eq_def]
  split
  · exact handleChats_distinct h _ _
  · rw [SearchManager.handleSponsoredChats.eq_def]
    split
    · split_ifs <;> exact h
    · exact h
  · rw [SearchManager.handleFoundMessages.eq_def]
    split
    · split_ifs <;> exact h
    · split_ifs <;> exact h
    · exact h
  · rw [SearchManager.handleFoundChatMessages.eq_def]
    split
    · exact h
    · split <;> exact h
  · exact handleChat_distinct h _ _ _
  · exact handleUser_distinct h _ _
  · exact handleError_distinct h _ _
  · exact h

/-- No chat is listed twice for somebody to write to. -/
lemma step_distinct (h : DistinctChats m.newChat) (e : SearchManagerEvent) :
    DistinctChats (m.step P tryParse e).newChat := by
  cases e with
  | setGlobalQuery query =>
      simp only [SearchManager.step, SearchManager.setGlobalQuery]
      split_ifs <;> exact h
  | setGlobalFilter filter =>
      simp only [SearchManager.step, SearchManager.setGlobalFilter]
      split_ifs <;> exact h
  | globalDebounce =>
      simp only [SearchManager.step, SearchManager.fireGlobalDebounce]
      split_ifs <;> exact h
  | loadMoreGlobalMessages =>
      simp only [SearchManager.step, SearchManager.loadMoreGlobalMessages]
      split_ifs <;> exact h
  | searchForNewChat query =>
      simp only [SearchManager.step, SearchManager.searchForNewChat]
      split_ifs
      · exact ⟨List.nodup_nil, List.nodup_nil⟩
      · exact h
  | clearNewChatSearch => exact ⟨List.nodup_nil, List.nodup_nil⟩
  | newChatDebounce =>
      simp only [SearchManager.step, SearchManager.fireNewChatDebounce]
      split
      · exact h
      · exact ⟨List.nodup_nil, List.nodup_nil⟩
  | setChatSearchQuery chatId query forumTopicId filter =>
      simp only [SearchManager.step, SearchManager.setChatSearchQuery]
      split_ifs <;> exact h
  | setChatSearchFilter filter =>
      simp only [SearchManager.step, SearchManager.setChatSearchFilter, SearchManager.setChatSearchQuery]
      split
      · exact h
      · split_ifs <;> exact h
  | loadMoreChatMessages =>
      simp only [SearchManager.step, SearchManager.loadMoreChatMessages]
      split_ifs
      · exact h
      · rw [(SearchManager.requestChatMessageSearch_others _ _).2]
        exact h
  | chatSearchDebounce =>
      simp only [SearchManager.step, SearchManager.fireChatSearchDebounce]
      split_ifs
      · rw [(SearchManager.requestChatMessageSearch_others _ _).2]
        exact h
      · exact h
  | update update => exact handleUpdate_distinct h update
  | _ => exact h

end distinct

lemma asks_isChatManagers {P : Platform} {tryParse : String → Option LinkUri} {s : ChatSearches}
    {action : ChatSearches.Action} {extra : SearchExtra} (h : extra ∈ s.asks P tryParse action) :
    isChatManagers extra := by
  rw [ChatSearches.asks, List.mem_append, List.mem_filterMap, List.mem_filterMap] at h
  rcases h with ⟨command, -, hcommand⟩ | ⟨command, -, hcommand⟩
  · cases command with
    | getChat chatId => cases hcommand
    | _ =>
        cases hcommand
        rfl
  · cases command with
    | getChat chatId => cases hcommand
    | _ =>
        cases hcommand
        rfl

namespace SharedRun

variable {P : Platform} {tryParse : String → Option LinkUri} {r : SharedRun}

/-- What holds in every run. -/
structure Consistent (r : SharedRun) : Prop where
  chats : DistinctNewChats r.chats.newChat
  manager : DistinctChats r.manager.newChat
  requests : ∀ extra, (.chatManager, extra) ∈ r.requests → isChatManagers extra

lemma start_consistent : ({} : SharedRun).Consistent where
  chats := ⟨List.nodup_nil, List.nodup_nil⟩
  manager := ⟨List.nodup_nil, List.nodup_nil⟩
  requests _ h := absurd h List.not_mem_nil

lemma step_consistent (h : r.Consistent) (e : SharedEvent) : (r.step P tryParse e).Consistent := by
  cases e with
  | chatManager action =>
      refine ⟨act_distinct h.chats action, h.manager, fun extra hextra => ?_⟩
      rcases List.mem_append.mp hextra with hold | hnew
      · exact h.requests extra hold
      · rcases List.mem_map.mp hnew with ⟨asked, hasked, heq⟩
        cases heq
        exact asks_isChatManagers hasked
  | searchManager e haction =>
      refine ⟨h.chats, step_distinct h.manager e, fun extra hextra => ?_⟩
      rcases List.mem_append.mp hextra with hold | hnew
      · exact h.requests extra hold
      · rcases List.mem_map.mp hnew with ⟨asked, -, heq⟩
        cases heq
  | reply owner update =>
      refine ⟨newChatUpdate_distinct h.chats update, handleUpdate_distinct h.manager update, fun extra hextra => ?_⟩
      rcases List.mem_append.mp hextra with hold | hnew
      · refine h.requests extra ?_
        cases hupdate : update.extra with
        | none =>
            rw [hupdate] at hold
            exact hold
        | some answered =>
            rw [hupdate] at hold
            exact List.mem_of_mem_erase hold
      · rcases List.mem_map.mp hnew with ⟨asked, -, heq⟩
        cases heq

lemma consistent_of_reachable (h : Reachable (step P tryParse) Served {} r) : r.Consistent :=
  h.invariant start_consistent fun _ e hr _ => step_consistent hr e

/-- An answer leaves the searches of the other manager as they are exactly if it is none to the other. -/
lemma isolated_iff_apart (h : r.Consistent) (e : SharedEvent) (hserved : r.Served e) :
    r.Isolated e ↔ r.Apart e := by
  cases e with
  | reply owner update =>
      cases owner with
      | searchManager =>
          exact and_congr (searchUpdate_same_iff r.chats.search update) (newChatUpdate_same_iff h.chats update)
      | chatManager =>
          refine handleUpdate_same_iff h.manager update fun extra hextra => ?_
          simp only [Served, hextra] at hserved
          cases extra with
          | other text => rfl
          | _ => exact h.requests _ hserved
  | _ => exact Iff.rfl

/-- **No answer to the one manager changes a search of the other** in a run exactly if every answer is none to the
other: it has another number than the search that is like it, or it brings what is there. -/
theorem replies_isolated (P : Platform) (tryParse : String → Option LinkUri) (es : List SharedEvent)
    (hserved : Meets (step P tryParse) Served {} es) :
    Meets (step P tryParse) Isolated {} es ↔ Meets (step P tryParse) Apart {} es :=
  Reachable.start.meets_iff hserved fun _ e hs he => isolated_iff_apart (consistent_of_reachable hs) e he

/-- Both search, and the chat manager has searched once more. -/
def searchedTwice : List SharedEvent :=
  [.chatManager (.setSearchQuery "a"), .chatManager .searchDebounce, .chatManager (.setSearchQuery "ab"),
    .chatManager .searchDebounce, .searchManager (.setGlobalQuery "b c") rfl, .searchManager .globalDebounce rfl,
    .reply .chatManager (.chats (some (.global .chats 2)) [4]),
    .reply .searchManager (.chats (some (.global .chats 1)) [5])]

theorem replies_isolated_twice :
    (searchedTwice.foldl (step .plain fun _ => none) {}).chats.search.searchChatIds = [4] ∧
      (searchedTwice.foldl (step .plain fun _ => none) {}).manager.global.globalChatIds = [5] ∧
      Meets (step .plain fun _ => none) Isolated {} searchedTwice := by
  refine ⟨by decide, by decide, (replies_isolated .plain (fun _ => none) searchedTwice ?_).mpr ?_⟩
  · exact ⟨trivial, trivial, trivial, trivial, trivial, trivial,
      show (Owner.chatManager, SearchExtra.global .chats 2) ∈ _ by decide,
      show (Owner.searchManager, SearchExtra.global .chats 1) ∈ _ by decide, trivial⟩
  · exact ⟨trivial, trivial, trivial, trivial, trivial, trivial, fun h => absurd h (by decide),
      ⟨fun h => absurd h (by decide), trivial⟩, trivial⟩

/-- Both search once. -/
def searchedBoth : List SharedEvent :=
  [.chatManager (.setSearchQuery "a"), .chatManager .searchDebounce, .searchManager (.setGlobalQuery "b c") rfl,
    .searchManager .globalDebounce rfl, .reply .searchManager (.chats (some (.global .chats 1)) [5])]

/-- **The chats that the search manager has asked for are shown in the list of chats**, where another query is
searched for. -/
theorem reply_taken :
    Meets (step .plain fun _ => none) Served {} searchedBoth ∧
      (searchedBoth.foldl (step .plain fun _ => none) {}).chats.search.searchQuery = "a" ∧
      (searchedBoth.foldl (step .plain fun _ => none) {}).chats.search.searchChatIds = [5] ∧
      ¬Meets (step .plain fun _ => none) Isolated {} searchedBoth := by
  have hasked : (Owner.searchManager, SearchExtra.global .chats 1) ∈
      ((searchedBoth.take 4).foldl (step .plain fun _ => none) {}).requests := by decide
  refine ⟨⟨trivial, trivial, trivial, trivial, hasked, trivial⟩, by decide, by decide, ?_⟩
  rintro ⟨-, -, -, -, ⟨hsame, -⟩, -⟩
  exact absurd hsame.chatIds (by decide)

end SharedRun

end RioGram.Search
