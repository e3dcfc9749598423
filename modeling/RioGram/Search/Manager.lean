import Mathlib.Algebra.GroupWithZero.Nat
import RioGram.Chats.NewChatSearch
import RioGram.Chats.Search

/-!
# The search manager

`SearchManager` searches for chats, messages and users everywhere (`GlobalSearch`), for somebody to write to
(`NewChats`) and for messages of one chat (`ChatMessageSearch`).  Every request has an extra with a prefix and a
number, and the handlers pick what a reply is about by its type and its extra.

The functions here are those of the source; the fields of a timer say whether it runs, and `sent` is not of the
source: the requests with their extras, in their order.  Dates are in seconds.
-/

namespace RioGram.Search

open Chats

/-! ## Requests and replies -/

inductive SearchMessageFilterKind where
  | all | media | links | files | audio | voice
deriving DecidableEq

structure SearchUserHit where
  userId : ℤ
  displayName : String
  username : Option String := none
  isBot : Bool := false
deriving DecidableEq

/-- The requests of a global search.  Their extras are `searchChats_`, `searchMessages_`, `searchMessagesMore_`,
`searchPublicChatsChannel_`, `searchPublicChatsBot_`, `searchPublicChat_`, `searchSponsoredChats_`,
`searchUserPhone_` and `searchUserToken_` with the number. -/
inductive GlobalTarget where
  | chats | messages | messagesMore | publicChatsChannel | publicChatsBot | publicChat | sponsoredChats
  | userPhone | userToken
deriving DecidableEq

/-- The requests of a search for a new chat.  Their extras are `newChatSearchLocal_`, `newChatSearch_`,
`newChatPublicChatsChannel_`, `newChatPublicChatsBot_`, `newChatPublic_`, `newChatPhone_` and `newChatToken_` with
the number. -/
inductive NewChatsTarget where
  | searchLocal | search | publicChatsChannel | publicChatsBot | publicChat | phone | token
deriving DecidableEq

inductive SearchExtra where
  | global (target : GlobalTarget) (requestId : ℕ)
  | newChat (target : NewChatsTarget) (requestId : ℕ)
  | chatSearch (requestId : ℕ)
  | chatSearchMore (requestId : ℕ)
  | searchTitle (chatId : ℤ)
  | other (text : String)
deriving DecidableEq

inductive ChatTypeFilter where
  | channel | bot
deriving DecidableEq

inductive SearchRequest where
  | searchChats (query : String) (limit : ℕ)
  | searchChatsOnServer (query : String) (limit : ℕ)
  | searchMessages (query offset : String) (limit : ℕ) (filter : SearchMessageFilterKind) (minDate maxDate : ℤ)
  | searchPublicChats (query : String) (typeFilter : ChatTypeFilter)
  | getSearchSponsoredChats (query : String)
  | searchPublicChat (username : String)
  | searchUserByPhoneNumber (phoneNumber : String) (onlyLocal : Bool)
  | searchUserByToken (token : String)
  | searchChatMessages (chatId : ℤ) (query : String) (fromMessageId offset : ℤ) (limit : ℕ)
      (filter : SearchMessageFilterKind) (forumTopicId : Option ℤ)
  | getChat (chatId : ℤ)
deriving DecidableEq

/-- What of a message that is found in a chat is read. -/
structure ChatHit where
  messageId : ℤ
  preview : String
  date : ℤ
deriving DecidableEq

/-- The updates that the manager handles. -/
inductive SearchUpdate where
  | chats (extra : Option SearchExtra) (chatIds : List ℤ)
  | sponsoredChats (extra : Option SearchExtra) (chatIds : List ℤ)
  | foundMessages (extra : Option SearchExtra) (found : List FoundMessage) (nextOffset : String)
  | foundChatMessages (extra : Option SearchExtra) (found : List ChatHit) (nextFromMessageId totalCount : ℤ)
  | chat (extra : Option SearchExtra) (chatId : ℤ) (title : String)
  | user (extra : Option SearchExtra) (hit : SearchUserHit)
  | error (extra : Option SearchExtra) (message : Option String)

namespace TdlibSearchParser

/-- `parseFoundChatMessages`: every hit gets the chat that is given. -/
def parseFoundChatMessages (found : List ChatHit) (chatId : ℤ) (chatTitle : Option String) :
    List SearchMessageHit :=
  (found.map fun message =>
    { chatId, messageId := message.messageId, preview := message.preview, date := message.date, chatTitle }).filter
    fun hit : SearchMessageHit => hit.messageId != 0

/-- `parseChatIds`. -/
def parseChatIds (chatIds : List ℤ) : List ℤ := chatIds.filter (0 < ·)

/-- `parsePhoneNumber`. -/
def parsePhoneNumber (P : Platform) (query : String) : Option String :=
  let trimmed := (P.trim query).toList.filter fun c => c != ' ' && c != '-'
  if trimmed = [] then none
  else
    let normalized := if "+".toList <+: trimmed then trimmed else '+' :: trimmed
    let digits := normalized.drop 1
    if digits.all Char.isDigit ∧ 10 ≤ digits.length ∧ digits.length ≤ 15 then some (String.ofList normalized)
    else none

/-- The length of a text in units of UTF-16. -/
def lengthOf (text : String) : ℕ := (text.toList.map fun c => if c.toNat < 0x10000 then 1 else 2).sum

/-- `parseInviteToken`. -/
def parseInviteToken (P : Platform) (tryParse : String → Option LinkUri) (query : String) : Option String :=
  let trimmed := P.trim query
  if trimmed = "" then none
  else
    let link := (tryParse (if "http".toList <+: trimmed.toList then trimmed else "https://" ++ trimmed)).filter
      fun uri => "t.me".toList <:+: uri.host.toList ∨ "telegram.me".toList <:+: uri.host.toList
    let rest := if "+".toList <+: trimmed.toList ∧ 8 < lengthOf trimmed then
        some (String.ofList (trimmed.toList.drop 1))
      else none
    match link.map fun uri => uri.pathSegments.filter (· ≠ "") with
    | none => rest
    | some [] => none
    | some (first :: segments) =>
        if first = "joinchat" ∧ segments ≠ [] then segments.head?
        else if "+".toList <+: first.toList then some (String.ofList (first.toList.drop 1))
        else rest

end TdlibSearchParser

/-! ## The state -/

structure GlobalSearch where
  globalQuery : String := ""
  globalFilter : SearchMessageFilterKind := .all
  globalChatIds : List ℤ := []
  globalMessages : List SearchMessageHit := []
  publicChatIds : List ℤ := []
  sponsoredSearchChatIds : List ℤ := []
  globalUserHit : Option SearchUserHit := none
  globalMessagesOffset : String := ""
  globalHasMoreMessages : Bool := false
  globalIsLoading : Bool := false
  globalIsLoadingMore : Bool := false
  globalError : Option String := none
  globalRequestId : ℕ := 0
  pendingGlobalRequests : ℕ := 0
  globalDebounce : Bool := false

structure NewChats where
  newChatSearchIds : List ℤ := []
  newChatSearchPublicIds : List ℤ := []
  newChatUserHit : Option SearchUserHit := none
  newChatIsLoading : Bool := false
  newChatRequestId : ℕ := 0
  pendingNewChatRequests : ℕ := 0
  /-- The query that the running timer is for. -/
  newChatDebounce : Option String := none

structure ChatMessageSearchState where
  query : String := ""
  filter : SearchMessageFilterKind := .all
  results : List SearchMessageHit := []
  isLoading : Bool := false
  isLoadingMore : Bool := false
  hasMore : Bool := false
  error : Option String := none
  totalCount : ℤ := 0

structure ChatMessageSearch where
  chatSearchChatId : Option ℤ := none
  chatSearchForumTopicId : Option ℤ := none
  chatSearchState : ChatMessageSearchState := {}
  chatSearchRequestId : ℕ := 0
  chatSearchNextFromMessageId : ℤ := 0
  chatSearchDebounce : Bool := false

/-- The manager; `shouldBlockAds` is a setting of `SecurityPrivacyManager`. -/
structure SearchManager where
  shouldBlockAds : Bool := false
  global : GlobalSearch := {}
  newChat : NewChats := {}
  inChat : ChatMessageSearch := {}
  chatTitles : ℤ → Option String := fun _ => none
  sent : List (SearchRequest × SearchExtra) := []

namespace SearchManager

variable (P : Platform) (tryParse : String → Option LinkUri) (s : SearchManager)

def send (requests : List (SearchRequest × SearchExtra)) : SearchManager :=
  { s with sent := s.sent ++ requests }

/-- The titles that are not known are asked for. -/
def ensureChatTitles (chatIds : List ℤ) : SearchManager :=
  s.send ((chatIds.filter fun chatId => (s.chatTitles chatId).isNone).map fun chatId =>
    (.getChat chatId, .searchTitle chatId))

/-! ## Searching everywhere -/

def clearGlobalResults : SearchManager :=
  { s with global := { s.global with
      globalChatIds := []
      globalMessages := []
      publicChatIds := []
      sponsoredSearchChatIds := []
      globalUserHit := none
      globalMessagesOffset := ""
      globalHasMoreMessages := false
      globalIsLoading := false
      globalIsLoadingMore := false
      globalError := none
      pendingGlobalRequests := 0 } }

def setGlobalQuery (query : String) : SearchManager :=
  let s : SearchManager := { s with global := { s.global with globalQuery := P.trim query, globalDebounce := false } }
  if s.global.globalQuery = "" then s.clearGlobalResults
  else
    { s with global := { s.global with globalIsLoading := true, globalError := none, globalDebounce := true } }

/-- The requests of a search, with what their extras stand for. -/
def globalRequests : List (SearchRequest × GlobalTarget) :=
  let query := s.global.globalQuery
  [(.searchChats query 20, .chats),
    (.searchMessages query "" 20 s.global.globalFilter 0 0, .messages),
    (.searchPublicChats query .channel, .publicChatsChannel),
    (.searchPublicChats query .bot, .publicChatsBot)] ++
  (if s.shouldBlockAds then [(.getSearchSponsoredChats query, .sponsoredChats)] else []) ++
  ((parseUsername P tryParse query).map fun username => (.searchPublicChat username, .publicChat)).toList ++
  ((TdlibSearchParser.parsePhoneNumber P query).map fun phone =>
    (.searchUserByPhoneNumber phone false, .userPhone)).toList ++
  ((TdlibSearchParser.parseInviteToken P tryParse query).map fun token =>
    (.searchUserByToken token, .userToken)).toList

def performGlobalSearch : SearchManager :=
  let requestId := s.global.globalRequestId + 1
  let requests := s.globalRequests P tryParse
  ({ s with global := { s.global with
      globalRequestId := requestId
      globalChatIds := []
      globalMessages := []
      publicChatIds := []
      sponsoredSearchChatIds := []
      globalUserHit := none
      globalMessagesOffset := ""
      globalHasMoreMessages := false
      globalIsLoading := true
      globalError := none
      pendingGlobalRequests := requests.length } } : SearchManager).send
    (requests.map fun request => (request.1, .global request.2 requestId))

def setGlobalFilter (filter : SearchMessageFilterKind) : SearchManager :=
  if s.global.globalFilter = filter then s
  else
    let s : SearchManager := { s with global := { s.global with globalFilter := filter } }
    if s.global.globalQuery = "" then s else s.performGlobalSearch P tryParse

def clearGlobalSearch : SearchManager :=
  ({ s with global := { s.global with globalDebounce := false, globalQuery := "" } } :
    SearchManager).clearGlobalResults

/-- The timer of the query. -/
def fireGlobalDebounce : SearchManager :=
  if s.global.globalDebounce then
    ({ s with global := { s.global with globalDebounce := false } } : SearchManager).performGlobalSearch P tryParse
  else s

def loadMoreGlobalMessages : SearchManager :=
  if !s.global.globalHasMoreMessages || s.global.globalIsLoading || s.global.globalIsLoadingMore ||
      s.global.globalMessagesOffset == "" then s
  else
    let requestId := s.global.globalRequestId + 1
    ({ s with global := { s.global with globalIsLoadingMore := true, globalRequestId := requestId } } :
      SearchManager).send
      [(.searchMessages s.global.globalQuery s.global.globalMessagesOffset 20 s.global.globalFilter 0 0,
        .global .messagesMore requestId)]

def filterSearchChatIds (chatIds : List ℤ) : List ℤ :=
  if s.shouldBlockAds then chatIds.filter (!s.global.sponsoredSearchChatIds.contains ·) else chatIds

/-- `_completeGlobalRequest`; an error ends the loading whatever is still asked for. -/
def completeGlobalRequest (forceFinish : Bool) : SearchManager :=
  let pending := if forceFinish then s.global.pendingGlobalRequests
    else min (s.global.pendingGlobalRequests - 1) 20
  { s with global := { s.global with
      pendingGlobalRequests := pending
      globalIsLoading := if !forceFinish && decide (0 < pending) then s.global.globalIsLoading else false } }

def applyGlobalMessages (found : List FoundMessage) (nextOffset : String) (append : Bool) : SearchManager :=
  let hits := parseFoundMessages found
  let enriched := hits.map fun hit => { hit with chatTitle := s.chatTitles hit.chatId }
  ({ s with global := { s.global with
      globalMessagesOffset := nextOffset
      globalHasMoreMessages := nextOffset != ""
      globalMessages := if append then s.global.globalMessages ++ enriched else enriched } } :
    SearchManager).ensureChatTitles (hits.map (·.chatId))

/-! ## Searching for somebody to write to -/

def clearNewChatSearch : SearchManager :=
  { s with newChat := { s.newChat with
      newChatDebounce := none
      newChatSearchIds := []
      newChatSearchPublicIds := []
      newChatUserHit := none
      newChatIsLoading := false
      pendingNewChatRequests := 0 } }

def searchForNewChat (query : String) : SearchManager :=
  let trimmed := P.trim query
  if trimmed = "" then s.clearNewChatSearch
  else
    { s with newChat := { s.newChat with
        newChatUserHit := none
        newChatIsLoading := true
        newChatDebounce := some trimmed } }

def newChatRequests (trimmed : String) : List (SearchRequest × NewChatsTarget) :=
  [(.searchChats trimmed 20, .searchLocal),
    (.searchChatsOnServer trimmed 20, .search),
    (.searchPublicChats trimmed .channel, .publicChatsChannel),
    (.searchPublicChats trimmed .bot, .publicChatsBot)] ++
  ((parseUsername P tryParse trimmed).map fun username => (.searchPublicChat username, .publicChat)).toList ++
  ((TdlibSearchParser.parsePhoneNumber P trimmed).map fun phone =>
    (.searchUserByPhoneNumber phone false, .phone)).toList ++
  ((TdlibSearchParser.parseInviteToken P tryParse trimmed).map fun token =>
    (.searchUserByToken token, .token)).toList

/-- The timer of the query. -/
def fireNewChatDebounce : SearchManager :=
  match s.newChat.newChatDebounce with
  | none => s
  | some trimmed =>
      let requestId := s.newChat.newChatRequestId + 1
      let requests := newChatRequests P tryParse trimmed
      ({ s with newChat := { s.newChat with
          newChatDebounce := none
          newChatRequestId := requestId
          newChatSearchIds := []
          newChatSearchPublicIds := []
          pendingNewChatRequests := requests.length } } : SearchManager).send
        (requests.map fun request => (request.1, .newChat request.2 requestId))

def completeNewChatRequest : SearchManager :=
  let pending := min (s.newChat.pendingNewChatRequests - 1) 20
  { s with newChat := { s.newChat with
      pendingNewChatRequests := pending
      newChatIsLoading := if 0 < pending then s.newChat.newChatIsLoading else false } }

/-- Chats are added that are not there, and to those that are public if they are. -/
def addNewChats (chatIds : List ℤ) (isPublic : Bool) : SearchManager :=
  { s with newChat := { s.newChat with
      newChatSearchIds := (s.newChat.newChatSearchIds ++ chatIds).eraseDups
      newChatSearchPublicIds := if isPublic then (s.newChat.newChatSearchPublicIds ++ chatIds).eraseDups
        else s.newChat.newChatSearchPublicIds } }

/-! ## Searching in a chat -/

def setChatSearchQuery (chatId : ℤ) (query : String) (forumTopicId : Option ℤ)
    (filter : Option SearchMessageFilterKind) : SearchManager :=
  let trimmed := P.trim query
  let state := s.inChat.chatSearchState
  let inChat : ChatMessageSearch := { s.inChat with
    chatSearchChatId := some chatId
    chatSearchForumTopicId := forumTopicId
    chatSearchDebounce := false }
  if trimmed = "" then { s with inChat := { inChat with chatSearchState := {} } }
  else
    { s with inChat := { inChat with
        chatSearchState :=
          { state with
            query := trimmed
            filter := filter.getD state.filter
            isLoading := true
            error := none
            results := []
            hasMore := false }
        chatSearchDebounce := true } }

def setChatSearchFilter (filter : SearchMessageFilterKind) : SearchManager :=
  let state := s.inChat.chatSearchState
  let keep : SearchManager :=
    { s with inChat := { s.inChat with chatSearchState := { state with filter, error := none } } }
  match s.inChat.chatSearchChatId with
  | none => keep
  | some chatId =>
      if state.query = "" then keep
      else s.setChatSearchQuery P chatId state.query s.inChat.chatSearchForumTopicId (some filter)

def requestChatMessageSearch (reset : Bool) : SearchManager :=
  match s.inChat.chatSearchChatId with
  | none => s
  | some chatId =>
      let requestId := s.inChat.chatSearchRequestId + 1
      let state := s.inChat.chatSearchState
      ({ s with inChat := { s.inChat with chatSearchRequestId := requestId } } : SearchManager).send
        [(.searchChatMessages chatId state.query (if reset then 0 else s.inChat.chatSearchNextFromMessageId) 0 30
            state.filter s.inChat.chatSearchForumTopicId,
          if reset then .chatSearch requestId else .chatSearchMore requestId)]

/-- The timer of the query. -/
def fireChatSearchDebounce : SearchManager :=
  if s.inChat.chatSearchDebounce then
    ({ s with inChat := { s.inChat with chatSearchDebounce := false, chatSearchNextFromMessageId := 0 } } :
      SearchManager).requestChatMessageSearch true
  else s

def loadMoreChatMessages : SearchManager :=
  let state := s.inChat.chatSearchState
  if s.inChat.chatSearchChatId.isNone || !state.hasMore || state.isLoading || state.isLoadingMore then s
  else
    ({ s with inChat := { s.inChat with
        chatSearchState := { state with isLoadingMore := true, error := none } } } :
      SearchManager).requestChatMessageSearch false

def clearChatSearch : SearchManager :=
  { s with inChat := { s.inChat with
      chatSearchDebounce := false
      chatSearchChatId := none
      chatSearchForumTopicId := none
      chatSearchNextFromMessageId := 0
      chatSearchState := {} } }

/-! ## Replies -/

def setGlobalChatIds (chatIds : List ℤ) : SearchManager :=
  { s with global := { s.global with globalChatIds := s.filterSearchChatIds chatIds } }

/-- Public chats are added to those of the search and to those that may be joined. -/
def addPublicChats (chatIds : List ℤ) : SearchManager :=
  { s with
    global := { s.global with
      publicChatIds := s.filterSearchChatIds (s.global.publicChatIds ++ chatIds).eraseDups }
    newChat := { s.newChat with
      newChatSearchPublicIds := (s.newChat.newChatSearchPublicIds ++ chatIds).eraseDups } }

def handlePublicChats (requestId : ℕ) (chatIds : List ℤ) : SearchManager :=
  if requestId ≠ s.global.globalRequestId then s
  else ((s.addPublicChats chatIds).ensureChatTitles chatIds).completeGlobalRequest false

def handleNewChats (requestId : ℕ) (chatIds : List ℤ) (isPublic : Bool) : SearchManager :=
  if requestId ≠ s.newChat.newChatRequestId then s
  else ((s.addNewChats chatIds isPublic).ensureChatTitles chatIds).completeNewChatRequest

def handleChats (extra : SearchExtra) (ids : List ℤ) : SearchManager :=
  let chatIds := TdlibSearchParser.parseChatIds ids
  match extra with
  | .global .chats requestId =>
      if requestId ≠ s.global.globalRequestId then s
      else ((s.setGlobalChatIds chatIds).ensureChatTitles chatIds).completeGlobalRequest false
  | .global .publicChatsChannel requestId => s.handlePublicChats requestId chatIds
  | .global .publicChatsBot requestId => s.handlePublicChats requestId chatIds
  | .newChat .searchLocal requestId => s.handleNewChats requestId chatIds false
  | .newChat .search requestId => s.handleNewChats requestId chatIds false
  | .newChat .publicChatsChannel requestId => s.handleNewChats requestId chatIds true
  | .newChat .publicChatsBot requestId => s.handleNewChats requestId chatIds true
  | _ => s

def handleSponsoredChats (extra : SearchExtra) (chatIds : List ℤ) : SearchManager :=
  match extra with
  | .global .sponsoredChats requestId =>
      if requestId ≠ s.global.globalRequestId then s
      else
        ({ s with global := { s.global with
            sponsoredSearchChatIds := (s.global.sponsoredSearchChatIds ++ chatIds).eraseDups } } :
          SearchManager).completeGlobalRequest false
  | _ => s

def handleFoundMessages (extra : SearchExtra) (found : List FoundMessage) (nextOffset : String) : SearchManager :=
  match extra with
  | .global .messages requestId =>
      if requestId ≠ s.global.globalRequestId then s
      else (s.applyGlobalMessages found nextOffset false).completeGlobalRequest false
  | .global .messagesMore requestId =>
      if requestId ≠ s.global.globalRequestId then s
      else
        let s := s.applyGlobalMessages found nextOffset true
        { s with global := { s.global with globalIsLoadingMore := false } }
  | _ => s

/-- A page of the search in a chat is shown. -/
def applyChatMessages (chatId : ℤ) (append : Bool) (found : List ChatHit) (nextFromMessageId totalCount : ℤ) :
    SearchManager :=
  let hits := TdlibSearchParser.parseFoundChatMessages found chatId (s.chatTitles chatId)
  let state := s.inChat.chatSearchState
  { s with inChat := { s.inChat with
      chatSearchNextFromMessageId := nextFromMessageId
      chatSearchState :=
        { state with
          results := if append then state.results ++ hits else hits
          isLoading := false
          isLoadingMore := false
          hasMore := nextFromMessageId != 0
          error := none
          totalCount } } }

def handleFoundChatMessages (extra : SearchExtra) (found : List ChatHit)
    (nextFromMessageId totalCount : ℤ) : SearchManager :=
  match s.inChat.chatSearchChatId with
  | none => s
  | some chatId =>
      match extra with
      | .chatSearch _ => s.applyChatMessages chatId false found nextFromMessageId totalCount
      | .chatSearchMore _ => s.applyChatMessages chatId true found nextFromMessageId totalCount
      | _ => s

def refreshMessageTitles (chatId : ℤ) (title : String) : SearchManager :=
  let state := s.inChat.chatSearchState
  { s with
    global := { s.global with
      globalMessages := s.global.globalMessages.map fun hit =>
        if hit.chatId = chatId then { hit with chatTitle := some title } else hit }
    inChat :=
      if s.inChat.chatSearchChatId = some chatId then
        { s.inChat with
          chatSearchState :=
            { state with
              results := state.results.map fun hit => { hit with chatTitle := some title }
              error := none } }
      else s.inChat }

def handleChat (extra : Option SearchExtra) (chatId : ℤ) (title : String) : SearchManager :=
  let s : SearchManager := { s with chatTitles := fun i => if i = chatId then some title else s.chatTitles i }
  let found := match extra with
    | some (.newChat .publicChat requestId) =>
        if requestId = s.newChat.newChatRequestId then (s.addNewChats [chatId] true).completeNewChatRequest else s
    | some (.global .publicChat requestId) =>
        if requestId = s.global.globalRequestId then (s.addPublicChats [chatId]).completeGlobalRequest false else s
    | _ => s
  found.refreshMessageTitles chatId title

def handleGlobalUser (requestId : ℕ) (hit : SearchUserHit) : SearchManager :=
  if requestId ≠ s.global.globalRequestId then s
  else
    ({ s with global := { s.global with globalUserHit := some hit } } :
      SearchManager).completeGlobalRequest false

def handleNewChatUser (requestId : ℕ) (hit : SearchUserHit) : SearchManager :=
  if requestId ≠ s.newChat.newChatRequestId then s
  else ({ s with newChat := { s.newChat with newChatUserHit := some hit } } : SearchManager).completeNewChatRequest

def handleUser (extra : SearchExtra) (hit : SearchUserHit) : SearchManager :=
  match extra with
  | .global .userPhone requestId => s.handleGlobalUser requestId hit
  | .global .userToken requestId => s.handleGlobalUser requestId hit
  | .newChat .phone requestId => s.handleNewChatUser requestId hit
  | .newChat .token requestId => s.handleNewChatUser requestId hit
  | _ => s

/-- `_globalRequestIdFromExtra`, whose list of prefixes lacks `searchSponsoredChats_`. -/
def globalRequestIdFromExtra (target : GlobalTarget) (requestId : ℕ) : Option ℕ :=
  if target = .sponsoredChats then none else some requestId

def handleError (extra : SearchExtra) (message : Option String) : SearchManager :=
  let message := message.getD "Ошибка поиска"
  match extra with
  | .global target requestId =>
      if globalRequestIdFromExtra target requestId ≠ some s.global.globalRequestId then s
      else
        let s : SearchManager := { s with global := { s.global with globalError := some message } }
        if target = .messagesMore then { s with global := { s.global with globalIsLoadingMore := false } }
        else s.completeGlobalRequest true
  | .newChat _ requestId =>
      if requestId ≠ s.newChat.newChatRequestId then s else s.completeNewChatRequest
  | .chatSearch _ | .chatSearchMore _ =>
      { s with inChat := { s.inChat with
          chatSearchState :=
            { s.inChat.chatSearchState with isLoading := false, isLoadingMore := false, error := some message } } }
  | _ => s

def handleUpdate : SearchUpdate → SearchManager
  | .chats (some extra) chatIds => s.handleChats extra chatIds
  | .sponsoredChats (some extra) chatIds => s.handleSponsoredChats extra chatIds
  | .foundMessages (some extra) found nextOffset => s.handleFoundMessages extra found nextOffset
  | .foundChatMessages (some extra) found nextFromMessageId totalCount =>
      s.handleFoundChatMessages extra found nextFromMessageId totalCount
  | .chat extra chatId title => s.handleChat extra chatId title
  | .user (some extra) hit => s.handleUser extra hit
  | .error (some extra) message => s.handleError extra message
  | _ => s

end SearchManager

/-! ## All that happens -/

inductive SearchManagerEvent where
  | setGlobalQuery (query : String)
  | setGlobalFilter (filter : SearchMessageFilterKind)
  | clearGlobalSearch
  | loadMoreGlobalMessages
  | globalDebounce
  | searchForNewChat (query : String)
  | clearNewChatSearch
  | newChatDebounce
  | setChatSearchQuery (chatId : ℤ) (query : String) (forumTopicId : Option ℤ)
      (filter : Option SearchMessageFilterKind)
  | setChatSearchFilter (filter : SearchMessageFilterKind)
  | loadMoreChatMessages
  | clearChatSearch
  | chatSearchDebounce
  | changeBlockAds (shouldBlockAds : Bool)
  | update (update : SearchUpdate)

def SearchManager.step (P : Platform) (tryParse : String → Option LinkUri) (s : SearchManager) :
    SearchManagerEvent → SearchManager
  | .setGlobalQuery query => s.setGlobalQuery P query
  | .setGlobalFilter filter => s.setGlobalFilter P tryParse filter
  | .clearGlobalSearch => s.clearGlobalSearch
  | .loadMoreGlobalMessages => s.loadMoreGlobalMessages
  | .globalDebounce => s.fireGlobalDebounce P tryParse
  | .searchForNewChat query => s.searchForNewChat P query
  | .clearNewChatSearch => s.clearNewChatSearch
  | .newChatDebounce => s.fireNewChatDebounce P tryParse
  | .setChatSearchQuery chatId query forumTopicId filter => s.setChatSearchQuery P chatId query forumTopicId filter
  | .setChatSearchFilter filter => s.setChatSearchFilter P filter
  | .loadMoreChatMessages => s.loadMoreChatMessages
  | .clearChatSearch => s.clearChatSearch
  | .chatSearchDebounce => s.fireChatSearchDebounce
  | .changeBlockAds shouldBlockAds => { s with shouldBlockAds }
  | .update update => s.handleUpdate update

end RioGram.Search
