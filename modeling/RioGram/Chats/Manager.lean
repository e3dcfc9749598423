import RioGram.Chats.Models
import RioGram.Core.Keyed

/-!
# The state of the chat manager

`Manager` has the fields of `ChatManager` that have to do with the open chat and with what the list of
chats shows, and the functions here are those that write them.  Listeners, timers that only end an
indication, downloads, requests for users, the store of recalled messages and the messages of a comment
thread (a list of its own) have no effect on these fields and are left out.

The last two fields are not of the source: the requests that were sent and the notifications that were
shown, in their order.
-/

namespace RioGram.Chats

open Keyed

/-- What the manager uses: sorting and trimming of Dart, and `parseServiceContent`, which makes the text
of a service message out of its JSON, its sender and the names of users and chats. -/
structure Platform where
  sortById : Sorting ChatMessage.id
  sortByDate : Sorting ChatMessage.date
  trim : String → String
  parseServiceContent :
    (userName chatTitle : ℤ → String) → Option Sender → String → Option MessageContent

/-- Lists sorted by insertion, and no service messages. -/
def Platform.plain : Platform where
  sortById := .insertion _
  sortByDate := .insertion _
  trim := id
  parseServiceContent _ _ _ _ := none

/-- What `NotificationSettingsManager` decides. -/
structure NotificationSettings where
  shouldNotify : ℤ → ChatKind → Bool
  notificationBody : ℤ → ChatKind → String → String

/-- The settings of the other managers that the manager looks up. -/
structure Settings where
  shouldBlockAds : Bool := false
  isAntiRecallEnabled : Bool := false
  shouldHideReadReceipts : Bool := false
  notificationSettings : Option NotificationSettings := none

structure Notification where
  chatId : ℤ
  title : String
  body : String
deriving DecidableEq

def historyPageLimit : ℕ := 50

def historyMaxPages : ℕ := 20

structure Manager where
  settings : Settings := {}
  chatsById : ℤ → Option ChatSummary := fun _ => none
  botUsers : ℤ → Option Bool := fun _ => none
  userDisplayNames : ℤ → Option String := fun _ => none
  messages : List ChatMessage := []
  myUserId : Option ℤ := none
  activeChatId : Option ℤ := none
  activeForumTopicId : Option ℤ := none
  isLoadingMessages : Bool := false
  messagesError : Option String := none
  /-- The chat that the running timer is for. -/
  messagesLoadTimeout : Option ℤ := none
  historyTargetCount : ℕ := historyPageLimit
  historyPagesFetched : ℕ := 0
  lastReadOutboxMessageId : ℤ → Option ℤ := fun _ => none
  sent : List Request := []
  notifications : List Notification := []

/-- The chat whose history a reply shows, and whether it is what is stored locally. -/
def MessagesReply.historyOf (reply : MessagesReply) : Option (ℤ × Bool) :=
  match reply.extra with
  | some (.getChatHistoryLocal chatId) => some (reply.chatId.getD chatId, true)
  | some (.getChatHistory chatId) => some (reply.chatId.getD chatId, false)
  | _ => reply.chatId.map fun chatId => (chatId, false)

namespace Manager

variable (P : Platform) (m : Manager)

def send (request : Request) : Manager := { m with sent := m.sent ++ [request] }

def setChat (chatId : ℤ) (chat : ChatSummary) : Manager :=
  { m with chatsById := fun i => if i = chatId then some chat else m.chatsById i }

def setMessages (messages : List ChatMessage) : Manager := { m with messages }

/-! ## Reading messages -/

def lastReadOutboxForActiveChat : ℤ :=
  match m.activeChatId with
  | none => 0
  | some chatId => (m.lastReadOutboxMessageId chatId).getD 0

def userName (userId : ℤ) : String := (m.userDisplayNames userId).getD ""

def chatTitle (chatId : ℤ) : String := ((m.chatsById chatId).map (·.title)).getD ""

def resolveUser (userId : ℤ) : String :=
  if userId = 0 ∨ P.trim (m.userName userId) = "" then "участник" else P.trim (m.userName userId)

def resolveChat (chatId : ℤ) : String :=
  if chatId = 0 ∨ P.trim (m.chatTitle chatId) = "" then "чат" else P.trim (m.chatTitle chatId)

def parseSenderDisplayName : Option Sender → Option String
  | none => none
  | some (.user userId) => some (m.resolveUser P userId)
  | some (.chat chatId) => some (m.resolveChat P chatId)

def parseSenderUserId : Option Sender → Option ℤ
  | some (.user userId) => some userId
  | _ => none

def parseSenderChatId : Option Sender → Option ℤ
  | some (.chat chatId) => some chatId
  | _ => none

def parseServiceContent (senderId : Option Sender) (json : String) : Option MessageContent :=
  P.parseServiceContent m.userName m.chatTitle senderId json

def parseDeliveryStatus (raw : RawMessage) (lastReadOutboxMessageId : ℤ) :
    Option MessageDeliveryStatus :=
  if raw.isOutgoing then
    match raw.sendingState with
    | some .pending => some .sending
    | some .failed => some .failed
    | some (.other _) => some .sent
    | none =>
        if 0 < raw.id ∧ 0 < lastReadOutboxMessageId ∧ raw.id ≤ lastReadOutboxMessageId then some .read
        else some .delivered
  else none

/-- `_parseMessage`, with `_enrichGroupMessage`. -/
def parseMessage (raw : RawMessage) : ChatMessage where
  id := raw.id
  chatId := raw.chatId
  topicId := raw.topicId
  content := (m.parseServiceContent P raw.senderId raw.content.json).getD
    (raw.content.read raw.isOutgoing)
  date := raw.date
  isOutgoing := raw.isOutgoing
  senderName := if raw.isOutgoing then none else m.parseSenderDisplayName P raw.senderId
  senderUserId := parseSenderUserId raw.senderId
  senderChatId := parseSenderChatId raw.senderId
  mediaFileId := raw.content.mediaFileId
  coverFileId := raw.content.coverFileId
  editDate := if 0 < raw.editDate then some raw.editDate else none
  deliveryStatus := parseDeliveryStatus raw m.lastReadOutboxForActiveChat
  interactionInfo := raw.interactionInfo
  reactions := raw.reactions

def parseMessages (messages : List (Option RawMessage)) : List ChatMessage :=
  (messages.filterMap id).map (m.parseMessage P)

def messageMatchesActiveForumTopic (raw : RawMessage) : Bool :=
  match m.activeForumTopicId with
  | none => true
  | some activeTopicId => raw.topicId == some (.forum activeTopicId)

/-! ## History -/

def requestChatHistory (chatId : ℤ) (onlyLocal : Bool) (fromMessageId : ℤ) : Manager :=
  if m.activeForumTopicId.isSome then m
  else m.send (.getChatHistory chatId fromMessageId onlyLocal)

def requestForumTopicHistory (chatId forumTopicId fromMessageId : ℤ) : Manager :=
  m.send (.getForumTopicHistory chatId forumTopicId fromMessageId)

def markMessagesRead (chatId : ℤ) (messages : List ChatMessage) : Manager :=
  let ids := (messages.map (·.id)).filter (0 < ·)
  if m.settings.shouldHideReadReceipts ∨ ids = [] then m else m.send (.viewMessages chatId ids)

/-- The messages that are shown of a batch. -/
def shownOf (batch : List ChatMessage) : List ChatMessage :=
  if m.settings.shouldBlockAds then AdBlockFilter.filterMessages batch else batch

/-- `_mergeHistoryMessages`; the number is that of the new messages. -/
def mergeHistoryMessages (batch : List ChatMessage) : Manager × ℕ :=
  let merged := merge ChatMessage.id (m.shownOf batch) m.messages
  (m.setMessages (if 0 < merged.2 then P.sortById.run merged.1 else merged.1), merged.2)

def shouldContinueHistoryLoad (added : ℕ) : Bool :=
  m.activeChatId.isSome && m.messages != [] && m.messages.length < m.historyTargetCount &&
    m.historyPagesFetched < historyMaxPages && 0 < added

def countPage : Manager := { m with historyPagesFetched := m.historyPagesFetched + 1 }

def endLoading : Manager := { m with isLoadingMessages := false, messagesError := none }

def endLoadingIf (condition : Bool) : Manager := if condition then m.endLoading else m

/-- The end of a chain of pages. -/
def finishHistory (chatId : ℤ) : Manager :=
  let m := ({ m with messagesLoadTimeout := none } : Manager).endLoading
  if m.messages = [] then m else m.markMessagesRead chatId m.messages

/-- The id that the next page starts from. -/
def oldestId : ℤ := (m.messages.head?.map (·.id)).getD 0

/-- A page is merged and counted, and the indication ends with the first messages or, for some pages,
in any case. -/
def showPage (batch : List ChatMessage) (ends : Bool) : Manager :=
  let m := (m.mergeHistoryMessages P batch).1.countPage
  m.endLoadingIf (m.isLoadingMessages && (m.messages != [] || ends))

/-- What `_handleMessages` does with a page of a chat's history. -/
def handleChatHistory (chatId : ℤ) (isLocal : Bool) (messages : List (Option RawMessage)) : Manager :=
  if m.activeChatId ≠ some chatId then m
  else
    let parsed := P.sortById.run (m.parseMessages P messages)
    let added := (m.mergeHistoryMessages P parsed).2
    let m := m.showPage P parsed (!isLocal)
    if m.shouldContinueHistoryLoad added then m.requestChatHistory chatId isLocal m.oldestId
    else if isLocal then m
    else m.finishHistory chatId

def handleForumTopicHistory (chatId forumTopicId : ℤ) (messages : List (Option RawMessage)) : Manager :=
  if m.activeChatId ≠ some chatId ∨ m.activeForumTopicId ≠ some forumTopicId then m
  else
    let matching := messages.filter fun raw => raw.any m.messageMatchesActiveForumTopic
    let parsed := P.sortById.run (m.parseMessages P matching)
    let added := (m.mergeHistoryMessages P parsed).2
    let m := m.showPage P parsed false
    if m.shouldContinueHistoryLoad added then
      m.requestForumTopicHistory chatId forumTopicId m.oldestId
    else m.finishHistory chatId

def handleMessages (reply : MessagesReply) : Manager :=
  match reply.extra with
  | some (.messageThreadHistory _) => m
  | some (.forumTopicHistory chatId forumTopicId) =>
      m.handleForumTopicHistory P chatId forumTopicId reply.messages
  | _ =>
      match reply.historyOf with
      | none => m
      | some (chatId, isLocal) => m.handleChatHistory P chatId isLocal reply.messages

end Manager

end RioGram.Chats
