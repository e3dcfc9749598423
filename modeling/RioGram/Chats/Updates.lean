import RioGram.Chats.Manager
import Mathlib.Data.List.Infix

/-!
# What updates and the user do to the chat manager

One function for each handler of `ChatManager`, `handleUpdate` that picks the handler of an update, the
actions of the user, and `step`, which is either.

`updateMessage` is what the handlers of an edit, of new content, of reactions and of the interaction
info share: the message of the open chat with the id is changed in its place.
-/

namespace RioGram.Chats

open Keyed

namespace Manager

variable (P : Platform) (m : Manager)

/-! ## Single messages -/

def insertMessage (message : ChatMessage) : Manager :=
  if m.activeChatId ≠ some message.chatId then m
  else if m.settings.shouldBlockAds && AdBlockFilter.isSponsoredMessage message then m
  else
    let messages :=
      if m.messages.any (·.id == message.id) then
        modifyFirst (·.id == message.id) (fun _ => message) m.messages
      else P.sortByDate.run (m.messages ++ [message])
    { m with messages, isLoadingMessages := false }

/-- What `_replaceMessage` takes for the message that is being sent. -/
def isPendingFor (message item : ChatMessage) : Bool := item.isOutgoing && message.id < item.id

def replaceMessage (message : ChatMessage) : Manager :=
  if m.activeChatId ≠ some message.chatId then m
  else if m.messages.any (isPendingFor message) then
    m.setMessages (modifyFirst (isPendingFor message) (fun _ => message) m.messages)
  else m.insertMessage P message

def updateChatPreview (message : ChatMessage) : Manager :=
  match m.chatsById message.chatId with
  | none => m.send (.getChat message.chatId)
  | some chat =>
      let showsSender := chat.showsGroupSenderPrefix && !message.isOutgoing
      let clearsSender := chat.showsGroupSenderPrefix && message.isOutgoing
      m.setChat message.chatId { chat with
        lastMessage := some message.content.preview
        lastMessageDate := some message.date
        lastMessageIsOutgoing := message.isOutgoing
        lastMessageDeliveryStatus := message.deliveryStatus <|> chat.lastMessageDeliveryStatus
        lastMessageSenderName := if clearsSender then none
          else if showsSender then message.senderName <|> chat.lastMessageSenderName
          else chat.lastMessageSenderName
        lastMessageSenderUserId := if clearsSender then none
          else if showsSender then message.senderUserId <|> chat.lastMessageSenderUserId
          else chat.lastMessageSenderUserId
        lastMessageSenderChatId := if clearsSender then none
          else if showsSender then message.senderChatId <|> chat.lastMessageSenderChatId
          else chat.lastMessageSenderChatId
        unreadCount := if m.activeChatId = some message.chatId then 0 else chat.unreadCount + 1 }

def shouldNotify (chatId : ℤ) : Bool :=
  let chat := m.chatsById chatId
  match m.settings.notificationSettings with
  | some settings => settings.shouldNotify chatId ((chat.map (·.kind)).getD .privateChat)
  | none => !(chat.map (·.isMuted)).getD false

def notificationBody (chatId : ℤ) (preview : String) : String :=
  match m.settings.notificationSettings with
  | some settings =>
      settings.notificationBody chatId (((m.chatsById chatId).map (·.kind)).getD .privateChat) preview
  | none => preview

def showMessageNotification (message : ChatMessage) : Manager :=
  if m.shouldNotify message.chatId then
    let notification : Notification :=
      { chatId := message.chatId
        title := ((m.chatsById message.chatId).map (·.title)).getD "Новое сообщение"
        body := m.notificationBody message.chatId message.content.preview }
    { m with notifications := m.notifications ++ [notification] }
  else m

def handleSingleMessage (raw : RawMessage) : Manager := m.insertMessage P (m.parseMessage P raw)

def handleNewMessage (raw : RawMessage) : Manager :=
  if !m.messageMatchesActiveForumTopic raw then m
  else
    let message := m.parseMessage P raw
    let m := (m.insertMessage P message).updateChatPreview message
    if m.activeChatId ≠ some message.chatId then m.showMessageNotification message else m

def handleSendSucceeded (oldMessageId : Option ℤ) (raw : RawMessage) : Manager :=
  let message := m.parseMessage P raw
  match oldMessageId with
  | none => m.replaceMessage P message
  | some oldMessageId =>
      if oldMessageId ≠ message.id ∧ m.messages.any (·.id == oldMessageId) then
        m.setMessages (modifyFirst (·.id == oldMessageId) (fun _ => message) m.messages)
      else m.replaceMessage P message

/-! ## Changes of a message -/

/-- The message of the open chat that has the id is changed. -/
def updateMessage (chatId messageId : Option ℤ) (f : ChatMessage → ChatMessage) : Manager :=
  if chatId ≠ m.activeChatId then m
  else
    match messageId with
    | none => m
    | some messageId => m.setMessages (modifyFirst (·.id == messageId) f m.messages)

def handleMessageEdited (chatId messageId : Option ℤ) (editDate : ℤ) : Manager :=
  m.updateMessage chatId messageId fun message =>
    { message with editDate := if 0 < editDate then some editDate else message.editDate }

def handleMessageContent (chatId messageId : Option ℤ) (newContent : Option RawContent) : Manager :=
  match newContent with
  | none => m
  | some newContent =>
      m.updateMessage chatId messageId fun current =>
        { current with
          content := newContent.read current.isOutgoing
          mediaFileId := newContent.mediaFileId <|> current.mediaFileId
          coverFileId := newContent.coverFileId <|> current.coverFileId }

def handleMessageReactions (chatId messageId : Option ℤ) (reactions : List MessageReactionSummary) :
    Manager :=
  m.updateMessage chatId messageId fun message => { message with reactions }

def handleMessageInteractionInfo (chatId messageId : Option ℤ) (info : MessageInteractionInfo) :
    Manager :=
  m.updateMessage chatId messageId fun message => { message with interactionInfo := info }

/-- A deleted message that is still shown. -/
def markDeleted (preview : String) (message : ChatMessage) : ChatMessage :=
  { message with isDeleted := true, content := { kind := .text, preview } }

def handleDeleteMessages (chatId : Option ℤ) (ids : List ℤ) (isPermanent : Bool) : Manager :=
  if chatId ≠ m.activeChatId then m
  else if isPermanent && m.settings.isAntiRecallEnabled then
    m.setMessages <| ids.foldl
      (fun messages id =>
        modifyFirst (·.id == id) (markDeleted "Сообщение удалено отправителем") messages)
      m.messages
  else if isPermanent then m.setMessages (m.messages.filter fun message => !ids.contains message.id)
  else
    m.setMessages <| m.messages.map fun message =>
      if ids.contains message.id then markDeleted "Сообщение удалено" message else message

/-! ## Files -/

/-- What a file says of a message that has it as its media or as its cover. -/
def updateFileOf (file : RawFile) (message : ChatMessage) : ChatMessage :=
  let hasLocalPath := file.isDownloadingCompleted && file.localPath.any (· ≠ "")
  if message.mediaFileId = some file.id then
    { message with
      fileTransfer := if file.transfer.isActive then some file.transfer else none
      localFilePath := if hasLocalPath then file.localPath else message.localFilePath
      content := if hasLocalPath then
          { kind := message.content.kind
            preview := message.content.preview
            caption := message.content.caption
            formattedCaption := message.content.formattedCaption
            localPath := file.localPath
            fileName := message.content.fileName }
        else message.content }
  else if message.coverFileId = some file.id then
    if hasLocalPath then { message with coverLocalPath := file.localPath }
    else if file.transfer.isActive then { message with fileTransfer := some file.transfer }
    else { message with fileTransfer := none }
  else message

def handleFileUpdate (file : RawFile) : Manager :=
  m.setMessages (m.messages.map (updateFileOf file))

def clearFileTransferOnMessages (fileId : ℤ) : Manager :=
  m.setMessages <| m.messages.map fun message =>
    if message.mediaFileId = some fileId ∨ message.coverFileId = some fileId then
      { message with fileTransfer := none }
    else message

/-- `cancelUploadFile` and `cancelDownloadFile`. -/
def cancelFile (fileId : ℤ) : Manager :=
  (m.send (.cancelFile fileId)).clearFileTransferOnMessages fileId

def deleteMessageFromCache (message : ChatMessage) : Manager :=
  if message.mediaFileId = none then m
  else
    m.setMessages <| modifyFirst (·.id == message.id)
      (fun current =>
        { current with
          content :=
            { kind := current.content.kind
              preview := current.content.preview
              caption := current.content.caption
              formattedCaption := current.content.formattedCaption
              fileName := current.content.fileName } })
      m.messages

/-! ## Users -/

def resolvePrivateChatKind (userId : ℤ) : ChatKind :=
  if m.myUserId = some userId then .savedMessages
  else if m.botUsers userId = some true then .bot
  else .privateChat

def senderIdFromMessage (message : ChatMessage) : Option Sender :=
  match message.senderUserId, message.senderChatId with
  | some userId, _ => some (.user userId)
  | none, some chatId => some (.chat chatId)
  | none, none => none

/-- The text of a service message about the user is made anew. -/
def refreshServiceContent (userId : ℤ) (message : ChatMessage) : ChatMessage :=
  match message.content.serviceContentRaw with
  | none => message
  | some raw =>
      if message.content.serviceUserIds.contains userId then
        match m.parseServiceContent P (senderIdFromMessage message) raw with
        | some content =>
            if content.preview ≠ message.content.preview then { message with content } else message
        | none => message
      else message

def refreshMessageForUser (userId : ℤ) (name : String) (message : ChatMessage) : ChatMessage :=
  m.refreshServiceContent P userId
    (if message.senderUserId = some userId then { message with senderName := some name } else message)

def refreshMessagesForUser (userId : ℤ) : Manager :=
  match m.userDisplayNames userId with
  | none => m
  | some name => m.setMessages (m.messages.map (m.refreshMessageForUser P userId name))

def refreshChatsForUser (userId : ℤ) : Manager :=
  match m.userDisplayNames userId with
  | none => m
  | some name =>
      { m with chatsById := fun chatId => (m.chatsById chatId).map fun chat =>
          if chat.lastMessageSenderUserId = some userId then
            { chat with lastMessageSenderName := some name }
          else chat }

def refreshPrivateChatKinds (userId : ℤ) : Manager :=
  { m with chatsById := fun chatId => (m.chatsById chatId).map fun chat =>
      if chat.privateUserId = some userId then { chat with kind := m.resolvePrivateChatKind userId }
      else chat }

def setDisplayName (userId : ℤ) (name : String) : Manager :=
  { m with userDisplayNames := fun i => if i = userId then some name else m.userDisplayNames i }

def setBotUser (userId : ℤ) (isBot : Bool) : Manager :=
  { m with botUsers := fun i => if i = userId then some isBot else m.botUsers i }

def handleUser (user : RawUser) : Manager :=
  let m :=
    if user.displayName ≠ "" then
      ((m.setDisplayName user.id user.displayName).refreshMessagesForUser P user.id).refreshChatsForUser
        user.id
    else m
  let m := if user.isSelf then { m with myUserId := some user.id } else m
  if m.botUsers user.id ≠ some user.isBot then
    (m.setBotUser user.id user.isBot).refreshPrivateChatKinds user.id
  else m

/-! ## Chats -/

structure LastMessageMeta where
  preview : Option String := none
  date : Option ℤ := none
  isOutgoing : Bool := false
  deliveryStatus : Option MessageDeliveryStatus := none
  senderUserId : Option ℤ := none
  senderChatId : Option ℤ := none

def parseLastMessageMeta (lastMessage : Option RawMessage) (lastReadOutboxMessageId : ℤ) :
    LastMessageMeta :=
  match lastMessage with
  | none => {}
  | some last =>
      { preview := some (last.content.read false).preview
        date := some last.date
        isOutgoing := last.isOutgoing
        deliveryStatus := parseDeliveryStatus last lastReadOutboxMessageId
        senderUserId := if last.isOutgoing then none else parseSenderUserId last.senderId
        senderChatId := if last.isOutgoing then none else parseSenderChatId last.senderId }

/-- The kind of a chat and the user that it is with. -/
def parseChatType : Option RawChatType → ChatKind × Option ℤ
  | some .basicGroup => (.group, none)
  | some (.supergroup isChannel) => (if isChannel then .channel else .group, none)
  | some (.secret userId) => (.secret, userId)
  | some (.privateUser (some userId)) => (m.resolvePrivateChatKind userId, some userId)
  | some (.privateUser none) | some (.other _) | none => (.privateChat, none)

def parseChat (raw : RawChat) : ChatSummary :=
  let last := parseLastMessageMeta raw.lastMessage raw.lastReadOutboxMessageId
  let (kind, privateUserId) := m.parseChatType raw.type
  let showsSender := kind == .group || kind == .channel
  { id := raw.id
    title := raw.title
    lastMessage := last.preview
    lastMessageDate := last.date
    lastMessageIsOutgoing := last.isOutgoing
    lastMessageDeliveryStatus := last.deliveryStatus
    lastMessageSenderUserId := if showsSender then last.senderUserId else none
    lastMessageSenderChatId := if showsSender then last.senderChatId else none
    unreadCount := raw.unreadCount
    kind
    isMuted := raw.isMuted
    privateUserId }

def resolveLastMessageSenderName : (senderUserId senderChatId : Option ℤ) → Option String
  | some userId, _ =>
      match m.userDisplayNames userId with
      | some name => if name ≠ "" then some name else some (m.resolveUser P userId)
      | none => some (m.resolveUser P userId)
  | none, some chatId => some (m.resolveChat P chatId)
  | none, none => none

def enrichChatSummarySender (summary : ChatSummary) : ChatSummary :=
  if !summary.showsGroupSenderPrefix || summary.lastMessageIsOutgoing then summary
  else
    match m.resolveLastMessageSenderName P summary.lastMessageSenderUserId
        summary.lastMessageSenderChatId with
    | none => summary
    | some name => if name = "" then summary else { summary with lastMessageSenderName := some name }

/-- Some of what is known of a chat already is kept. -/
def mergeChat (summary : ChatSummary) : Option ChatSummary → ChatSummary
  | none => summary
  | some existing =>
      let shown := if summary.lastMessage.isSome then summary else existing
      { existing with
        title := summary.title
        lastMessage := summary.lastMessage <|> existing.lastMessage
        lastMessageDate := summary.lastMessageDate <|> existing.lastMessageDate
        lastMessageIsOutgoing := shown.lastMessageIsOutgoing
        lastMessageDeliveryStatus :=
          shown.lastMessageDeliveryStatus <|> existing.lastMessageDeliveryStatus
        lastMessageSenderName := shown.lastMessageSenderName <|> existing.lastMessageSenderName
        lastMessageSenderUserId := shown.lastMessageSenderUserId <|> existing.lastMessageSenderUserId
        lastMessageSenderChatId := shown.lastMessageSenderChatId <|> existing.lastMessageSenderChatId
        unreadCount := summary.unreadCount
        kind := summary.kind
        isMuted := summary.isMuted
        privateUserId := summary.privateUserId <|> existing.privateUserId }

/-- A chat is kept, with the name of the sender filled in before and after. -/
def upsertChat (summary : ChatSummary) : Manager :=
  let summary := m.enrichChatSummarySender P summary
  let chat := mergeChat summary (m.chatsById summary.id)
  let m := m.setChat summary.id chat
  m.setChat summary.id (m.enrichChatSummarySender P chat)

def handleChat (raw : RawChat) : Manager := m.upsertChat P (m.parseChat raw)

/-- The chat, if it is known, is changed. -/
def updateChat (chatId : Option ℤ) (f : ChatSummary → ChatSummary) : Manager :=
  match chatId with
  | none => m
  | some chatId =>
      match m.chatsById chatId with
      | none => m
      | some chat => m.setChat chatId (f chat)

def showLastMessage (lastMessage : Option RawMessage) (lastReadOutboxMessageId : ℤ)
    (chat : ChatSummary) : ChatSummary :=
  match lastMessage with
  | none =>
      { chat with
        lastMessageSenderName := none
        lastMessageSenderUserId := none
        lastMessageSenderChatId := none }
  | some _ =>
      let last := parseLastMessageMeta lastMessage lastReadOutboxMessageId
      let showsSender := chat.showsGroupSenderPrefix && !last.isOutgoing
      let senderUserId := if showsSender then last.senderUserId else none
      let senderChatId := if showsSender then last.senderChatId else none
      { chat with
        lastMessage := last.preview <|> chat.lastMessage
        lastMessageDate := last.date <|> chat.lastMessageDate
        lastMessageIsOutgoing := last.isOutgoing
        lastMessageDeliveryStatus := last.deliveryStatus <|> chat.lastMessageDeliveryStatus
        lastMessageSenderName :=
          m.resolveLastMessageSenderName P senderUserId senderChatId <|> chat.lastMessageSenderName
        lastMessageSenderUserId := senderUserId <|> chat.lastMessageSenderUserId
        lastMessageSenderChatId := senderChatId <|> chat.lastMessageSenderChatId }

def handleChatLastMessage (chatId : Option ℤ) (lastMessage : Option RawMessage) : Manager :=
  match chatId with
  | none => m
  | some chatId =>
      match m.chatsById chatId with
      | none => m.send (.getChat chatId)
      | some chat =>
          m.setChat chatId
            (m.showLastMessage P lastMessage ((m.lastReadOutboxMessageId chatId).getD 0) chat)

def handleUpdateChatNotificationSettings (chatId : Option ℤ) (isMuted : Option Bool) : Manager :=
  m.updateChat chatId fun chat => { chat with isMuted := isMuted.getD chat.isMuted }

def handleUpdateChatReadInbox (chatId unreadCount : Option ℤ) : Manager :=
  m.updateChat chatId fun chat => { chat with unreadCount := unreadCount.getD chat.unreadCount }

/-- Whether an outgoing message that has got this far counts as read or as delivered. -/
def isSettled (status : Option MessageDeliveryStatus) : Bool :=
  status != some .sending && status != some .failed

def refreshDeliveryStatus (lastRead : ℤ) (message : ChatMessage) : ChatMessage :=
  if message.isOutgoing && isSettled message.deliveryStatus then
    { message with
      deliveryStatus := if 0 < message.id ∧ message.id ≤ lastRead then some .read else some .delivered }
  else message

def refreshDeliveryStatuses : Manager :=
  match m.activeChatId with
  | none => m
  | some chatId =>
      m.setMessages
        (m.messages.map (refreshDeliveryStatus ((m.lastReadOutboxMessageId chatId).getD 0)))

def setLastReadOutbox (chatId lastReadOutboxMessageId : ℤ) : Manager :=
  { m with lastReadOutboxMessageId := fun i =>
      if i = chatId then some lastReadOutboxMessageId else m.lastReadOutboxMessageId i }

def handleUpdateChatReadOutbox (chatId lastReadOutboxMessageId : Option ℤ) : Manager :=
  match chatId with
  | none => m
  | some chatId =>
      let m := (m.setLastReadOutbox chatId (lastReadOutboxMessageId.getD 0)).updateChat (some chatId)
        fun chat =>
          if chat.lastMessageIsOutgoing && chat.lastMessageDeliveryStatus.isSome &&
              isSettled chat.lastMessageDeliveryStatus then
            { chat with lastMessageDeliveryStatus := some .read }
          else chat
      if m.activeChatId = some chatId then m.refreshDeliveryStatuses else m

/-! ## Errors -/

def failLoading (error : String) : Manager :=
  { m with messagesLoadTimeout := none, isLoadingMessages := false, messagesError := some error }

/-- `message.contains('chat') && message.contains('open')` in lower case. -/
def isChatNotOpen (message : String) : Bool :=
  "chat".toList <:+: message.toLower.toList ∧ "open".toList <:+: message.toLower.toList

/-- The error of a page of the history, which is asked for again if the chat was not open. -/
def handleHistoryError (chatId : ℤ) (message : Option String) : Manager :=
  if m.activeChatId ≠ some chatId then m
  else if isChatNotOpen (message.getD "") then
    ((m.send (.openChat chatId none)).requestChatHistory chatId true 0).requestChatHistory chatId false 0
  else m.failLoading (message.getD "Не удалось загрузить сообщения")

def handleError (extra : Option Extra) (message : Option String) : Manager :=
  match extra with
  | some (.getChatHistory chatId) => m.handleHistoryError chatId message
  | some (.getChatHistoryLocal chatId) => m.handleHistoryError chatId message
  | some (.openChat chatId) =>
      if m.activeChatId ≠ some chatId then m
      else m.failLoading (message.getD "Не удалось открыть чат")
  | some (.forumTopicHistory chatId forumTopicId) =>
      if m.activeChatId = some chatId ∧ m.activeForumTopicId = some forumTopicId then
        m.failLoading (message.getD "Не удалось загрузить тему")
      else m
  | _ => m

/-! ## All updates -/

def handleUpdate : Update → Manager
  | .user user => m.handleUser P user
  | .newChat chat => m.handleChat P chat
  | .chat chat => m.handleChat P chat
  | .chatLastMessage chatId lastMessage => m.handleChatLastMessage P chatId lastMessage
  | .chatNotificationSettings chatId isMuted => m.handleUpdateChatNotificationSettings chatId isMuted
  | .chatReadInbox chatId unreadCount => m.handleUpdateChatReadInbox chatId unreadCount
  | .chatReadOutbox chatId lastRead => m.handleUpdateChatReadOutbox chatId lastRead
  | .messages reply => m.handleMessages P reply
  | .message message => m.handleSingleMessage P message
  | .newMessage message => m.handleNewMessage P message
  | .messageSendSucceeded oldMessageId message => m.handleSendSucceeded P oldMessageId message
  | .messageEdited chatId messageId editDate => m.handleMessageEdited chatId messageId editDate
  | .messageContent chatId messageId newContent => m.handleMessageContent chatId messageId newContent
  | .messageReactions chatId messageId reactions => m.handleMessageReactions chatId messageId reactions
  | .messageInteractionInfo chatId messageId info => m.handleMessageInteractionInfo chatId messageId info
  | .deleteMessages chatId ids isPermanent => m.handleDeleteMessages chatId ids isPermanent
  | .file file => m.handleFileUpdate file
  | .error extra message => m.handleError extra message
  | .other _ => m

/-! ## The user -/

/-- The chat, or a topic of it, is shown with nothing loaded. -/
def startLoading (chatId : ℤ) (forumTopicId : Option ℤ) : Manager :=
  { m with
    activeChatId := some chatId
    activeForumTopicId := forumTopicId
    messages := []
    messagesError := none
    isLoadingMessages := true
    historyTargetCount := historyPageLimit
    historyPagesFetched := 0
    messagesLoadTimeout := some chatId }

def openChat (chatId : ℤ) : Manager :=
  (((m.startLoading chatId none).send (.openChat chatId (some (.openChat chatId)))).requestChatHistory
    chatId true 0).requestChatHistory chatId false 0

def openChatAtMessage (chatId messageId : ℤ) : Manager :=
  (m.openChat chatId).send (.viewMessages chatId [messageId])

def openForumTopic (chatId forumTopicId : ℤ) : Manager :=
  ((m.startLoading chatId (some forumTopicId)).send
    (.openChat chatId (some (.openChat chatId)))).requestForumTopicHistory chatId forumTopicId 0

def clearForumTopicSelection : Manager := { m with activeForumTopicId := none }

def closeChat : Manager :=
  let m := match m.activeChatId with
    | none => m
    | some chatId => m.send (.closeChat chatId)
  { m with activeChatId := none, activeForumTopicId := none, messages := [] }

/-- The timer of `_startMessagesLoadTimeout`. -/
def fireMessagesLoadTimeout : Manager :=
  match m.messagesLoadTimeout with
  | none => m
  | some chatId =>
      if m.activeChatId = some chatId ∧ m.isLoadingMessages then
        m.failLoading "Таймаут загрузки сообщений"
      else { m with messagesLoadTimeout := none }

end Manager

/-- What happens to the manager.  The requests of the user that change nothing here, such as sending and
deleting messages, are only sent. -/
inductive Event where
  | openChat (chatId : ℤ)
  | openChatAtMessage (chatId messageId : ℤ)
  | openForumTopic (chatId forumTopicId : ℤ)
  | clearForumTopicSelection
  | closeChat
  | request (type : String)
  | cancelFile (fileId : ℤ)
  | deleteMessageFromCache (message : ChatMessage)
  | changeSettings (settings : Settings)
  | messagesLoadTimeout
  | update (update : Update)

def Manager.step (P : Platform) (m : Manager) : Event → Manager
  | .openChat chatId => m.openChat chatId
  | .openChatAtMessage chatId messageId => m.openChatAtMessage chatId messageId
  | .openForumTopic chatId forumTopicId => m.openForumTopic chatId forumTopicId
  | .clearForumTopicSelection => m.clearForumTopicSelection
  | .closeChat => m.closeChat
  | .request type => m.send (.other type)
  | .cancelFile fileId => m.cancelFile fileId
  | .deleteMessageFromCache message => m.deleteMessageFromCache message
  | .changeSettings settings => { m with settings }
  | .messagesLoadTimeout => m.fireMessagesLoadTimeout
  | .update update => m.handleUpdate P update

end RioGram.Chats
