import Mathlib.Algebra.Group.Int.Defs
import Mathlib.Data.List.Basic

/-!
# Chats and messages as the app knows them

What the chat manager keeps of a chat (`ChatSummary`) and of a message (`ChatMessage`), the objects of
TDLib that it reads (`Raw...`), the requests it sends and the updates it gets.

Fields that no function of the manager below looks at, or only for downloads, are left out: of a message
the reply, the forward, the keyboard and what may be done with it, of a chat its photo, positions and
draft.  Dates are in seconds.  The texts of the extras are `getChatHistory_<chat>`,
`getChatHistoryLocal_<chat>`, `forumTopicHistory_<chat>_<topic>`, `messageThreadHistory_<...>` and
`openChat_<chat>`.
-/

namespace RioGram.Chats

/-! ## Messages -/

inductive MessageKind where
  | text | photo | video | videoNote | voice | audio | document | sticker | animation | poll | service
  | call | location | liveLocation | venue | unsupported
deriving DecidableEq

inductive ChatKind where
  | privateChat | group | channel | bot | secret | savedMessages
deriving DecidableEq

inductive MessageDeliveryStatus where
  | sending | sent | delivered | read | failed
deriving DecidableEq

/-- The content of a message, with the text of its caption with entities; of a service message also its JSON
and the users that it is about. -/
structure MessageContent where
  kind : MessageKind
  preview : String
  caption : Option String := none
  formattedCaption : Option String := none
  localPath : Option String := none
  fileName : Option String := none
  serviceContentRaw : Option String := none
  serviceUserIds : List ℤ := []
deriving DecidableEq

/-- The `sender_id` of a message. -/
inductive Sender where
  | user (userId : ℤ)
  | chat (chatId : ℤ)
deriving DecidableEq

/-- The `topic_id` of a message. -/
inductive MessageTopic where
  | forum (forumTopicId : ℤ)
  | other (type : String)
deriving DecidableEq

inductive MessageSendingState where
  | pending | failed | other (type : String)
deriving DecidableEq

structure MessageInteractionInfo where
  viewCount : ℤ := 0
  forwardCount : ℤ := 0
  replyCount : ℤ := 0
deriving DecidableEq

structure MessageReactionSummary where
  emoji : String
  count : ℤ
  isChosen : Bool := false
deriving DecidableEq

structure FileTransferState where
  fileId : ℤ
  transferredBytes : ℤ
  totalBytes : ℤ
  isUpload : Bool
  isActive : Bool
  isCompleted : Bool := false
deriving DecidableEq

/-- The `content` of a message of TDLib: its JSON, and what `MessageContent.fromTdlib` makes of it, which
depends on whether the message is outgoing. -/
structure RawContent where
  json : String := ""
  asIncoming : MessageContent
  asOutgoing : MessageContent
  mediaFileId : Option ℤ := none
  coverFileId : Option ℤ := none
deriving DecidableEq

def RawContent.read (content : RawContent) (isOutgoing : Bool) : MessageContent :=
  if isOutgoing then content.asOutgoing else content.asIncoming

/-- A `message` of TDLib. -/
structure RawMessage where
  id : ℤ
  chatId : ℤ
  topicId : Option MessageTopic := none
  senderId : Option Sender := none
  isOutgoing : Bool := false
  sendingState : Option MessageSendingState := none
  date : ℤ := 0
  editDate : ℤ := 0
  content : RawContent
  interactionInfo : MessageInteractionInfo := {}
  reactions : List MessageReactionSummary := []
deriving DecidableEq

/-- An incoming message with a text. -/
def RawMessage.text (id chatId : ℤ) (text : String) : RawMessage where
  id
  chatId
  content := { asIncoming := { kind := .text, preview := text }
               asOutgoing := { kind := .text, preview := text } }

/-- A message of the manager.  The topic is not a field of the source: it records that of the message
of TDLib. -/
structure ChatMessage where
  id : ℤ
  chatId : ℤ
  topicId : Option MessageTopic := none
  content : MessageContent
  date : ℤ
  isOutgoing : Bool
  senderName : Option String := none
  senderUserId : Option ℤ := none
  senderChatId : Option ℤ := none
  localFilePath : Option String := none
  mediaFileId : Option ℤ := none
  coverFileId : Option ℤ := none
  coverLocalPath : Option String := none
  editDate : Option ℤ := none
  isDeleted : Bool := false
  deliveryStatus : Option MessageDeliveryStatus := none
  interactionInfo : MessageInteractionInfo := {}
  reactions : List MessageReactionSummary := []
  fileTransfer : Option FileTransferState := none
deriving DecidableEq

namespace AdBlockFilter

/-- `int32.max << 20`. -/
def maxServerMessageId : ℤ := 2147483647 * 2 ^ 20

/-- `1 << 51`. -/
def maxSponsoredMessageId : ℤ := 2 ^ 51

def isSponsored (id : ℤ) : Bool :=
  maxServerMessageId < id && id ≤ maxSponsoredMessageId && id % 8 == 2

def isSponsoredMessage (message : ChatMessage) : Bool := isSponsored message.id

def filterMessages (messages : List ChatMessage) : List ChatMessage :=
  messages.filter (!isSponsoredMessage ·)

end AdBlockFilter

/-! ## Chats -/

/-- The `type` of a chat. -/
inductive RawChatType where
  | basicGroup
  | supergroup (isChannel : Bool)
  | secret (userId : Option ℤ)
  | privateUser (userId : Option ℤ)
  | other (type : String)
deriving DecidableEq

/-- A `chat` of TDLib; `isMuted` is what `isChatMuted` makes of its notification settings. -/
structure RawChat where
  id : ℤ
  title : String
  type : Option RawChatType := none
  lastMessage : Option RawMessage := none
  lastReadOutboxMessageId : ℤ := 0
  unreadCount : ℤ := 0
  isMuted : Bool := false
deriving DecidableEq

structure ChatSummary where
  id : ℤ
  title : String
  lastMessage : Option String := none
  lastMessageDate : Option ℤ := none
  lastMessageIsOutgoing : Bool := false
  lastMessageDeliveryStatus : Option MessageDeliveryStatus := none
  lastMessageSenderName : Option String := none
  lastMessageSenderUserId : Option ℤ := none
  lastMessageSenderChatId : Option ℤ := none
  unreadCount : ℤ := 0
  kind : ChatKind := .privateChat
  isMuted : Bool := false
  privateUserId : Option ℤ := none
deriving DecidableEq

def ChatSummary.showsGroupSenderPrefix (chat : ChatSummary) : Bool :=
  chat.kind == .group || chat.kind == .channel

/-- A `user` of TDLib; `displayName` is made of its names. -/
structure RawUser where
  id : ℤ
  displayName : String
  isSelf : Bool := false
  isBot : Bool := false
deriving DecidableEq

/-- A `file` of TDLib. -/
structure RawFile where
  id : ℤ
  localPath : Option String := none
  isDownloadingCompleted : Bool := false
  transfer : FileTransferState
deriving DecidableEq

/-! ## Requests and updates -/

inductive Extra where
  | openChat (chatId : ℤ)
  | getChatHistory (chatId : ℤ)
  | getChatHistoryLocal (chatId : ℤ)
  | forumTopicHistory (chatId forumTopicId : ℤ)
  | messageThreadHistory (text : String)
  | other (text : String)
deriving DecidableEq

/-- What the manager sends to TDLib; the limit of a page is `_historyPageLimit`. -/
inductive Request where
  | openChat (chatId : ℤ) (extra : Option Extra)
  | closeChat (chatId : ℤ)
  | getChatHistory (chatId fromMessageId : ℤ) (onlyLocal : Bool)
  | getForumTopicHistory (chatId forumTopicId fromMessageId : ℤ)
  | viewMessages (chatId : ℤ) (messageIds : List ℤ)
  | getChat (chatId : ℤ)
  | cancelFile (fileId : ℤ)
  | other (type : String)
deriving DecidableEq

/-- A `messages` object: TDLib may have nothing to show for some of them. -/
structure MessagesReply where
  extra : Option Extra
  chatId : Option ℤ := none
  messages : List (Option RawMessage)
deriving DecidableEq

inductive Update where
  | user (user : RawUser)
  | newChat (chat : RawChat)
  | chat (chat : RawChat)
  | chatLastMessage (chatId : Option ℤ) (lastMessage : Option RawMessage)
  | chatNotificationSettings (chatId : Option ℤ) (isMuted : Option Bool)
  | chatReadInbox (chatId unreadCount : Option ℤ)
  | chatReadOutbox (chatId lastReadOutboxMessageId : Option ℤ)
  | messages (reply : MessagesReply)
  | message (message : RawMessage)
  | newMessage (message : RawMessage)
  | messageSendSucceeded (oldMessageId : Option ℤ) (message : RawMessage)
  | messageEdited (chatId messageId : Option ℤ) (editDate : ℤ)
  | messageContent (chatId messageId : Option ℤ) (newContent : Option RawContent)
  | messageReactions (chatId messageId : Option ℤ) (reactions : List MessageReactionSummary)
  | messageInteractionInfo (chatId messageId : Option ℤ) (info : MessageInteractionInfo)
  | deleteMessages (chatId : Option ℤ) (messageIds : List ℤ) (isPermanent : Bool)
  | file (file : RawFile)
  | error (extra : Option Extra) (message : Option String)
  | other (type : String)
deriving DecidableEq

end RioGram.Chats
