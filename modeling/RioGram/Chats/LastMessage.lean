import RioGram.Chats.Updates
import RioGram.Core.Overlay

/-!
# The last message that a chat shows

`updateChatLastMessage` computes what a chat shows of its last message from that message alone, but `copyWith`
takes a value that is missing for one that stays, and the handler asks for the sender to be cleared only when
there is no message.

* `Manager.lastShownOf` is what a message makes a chat show, and a chat that is new does (`lastShown_parseChat`).
* `lastShown_replaced_iff`: after an update a chat shows that exactly if it had no value where the message has
  none.
-/

namespace RioGram.Chats

open PartialMap

/-- What a chat shows of its last message. -/
structure LastShown where
  preview : Option String
  date : Option ℤ
  isOutgoing : Bool
  deliveryStatus : Option MessageDeliveryStatus
  senderUserId : Option ℤ
  senderChatId : Option ℤ
  senderName : Option String
deriving DecidableEq

def ChatSummary.lastShown (chat : ChatSummary) : LastShown where
  preview := chat.lastMessage
  date := chat.lastMessageDate
  isOutgoing := chat.lastMessageIsOutgoing
  deliveryStatus := chat.lastMessageDeliveryStatus
  senderUserId := chat.lastMessageSenderUserId
  senderChatId := chat.lastMessageSenderChatId
  senderName := chat.lastMessageSenderName

/-- The sender of a message that a chat shows: only groups and channels do, and only of an incoming one. -/
def ChatSummary.shownSender (chat : ChatSummary) (last : RawMessage) : Option Sender :=
  if chat.showsGroupSenderPrefix && !last.isOutgoing then last.senderId else none

/-- Where the message has no value, the chat has none from before. -/
structure ChatSummary.NothingStays (chat : ChatSummary) (last : RawMessage) : Prop where
  deliveryStatus : last.isOutgoing = false → chat.lastMessageDeliveryStatus = none
  senderUserId : Manager.parseSenderUserId (chat.shownSender last) = none → chat.lastMessageSenderUserId = none
  senderChatId : Manager.parseSenderChatId (chat.shownSender last) = none → chat.lastMessageSenderChatId = none
  senderName : chat.shownSender last = none → chat.lastMessageSenderName = none

namespace Manager

variable (P : Platform) (m : Manager)

/-- What the message makes the chat show, with the sender only in a chat that shows it. -/
def lastShownOf (chat : ChatSummary) (last : RawMessage) (lastReadOutboxMessageId : ℤ) : LastShown :=
  let computed := parseLastMessageMeta (some last) lastReadOutboxMessageId
  let senderUserId := if chat.showsGroupSenderPrefix then computed.senderUserId else none
  let senderChatId := if chat.showsGroupSenderPrefix then computed.senderChatId else none
  { preview := computed.preview
    date := computed.date
    isOutgoing := computed.isOutgoing
    deliveryStatus := computed.deliveryStatus
    senderUserId
    senderChatId
    senderName := m.resolveLastMessageSenderName P senderUserId senderChatId }

end Manager

variable {P : Platform} {m : Manager} {chat : ChatSummary} {last : RawMessage}

/-! ## What a message makes a chat show -/

lemma parseDeliveryStatus_eq_none_iff {lastRead : ℤ} :
    Manager.parseDeliveryStatus last lastRead = none ↔ last.isOutgoing = false := by
  rw [Manager.parseDeliveryStatus.eq_def]
  cases last.isOutgoing with
  | false => simp
  | true =>
      simp only [if_true, Bool.true_eq_false, iff_false]
      split
      · simp
      · simp
      · simp
      · split_ifs <;> simp

lemma resolveUser_ne_empty (userId : ℤ) : m.resolveUser P userId ≠ "" := by
  rw [Manager.resolveUser]
  split_ifs with hnone
  · decide
  · exact fun hempty => hnone (.inr hempty)

lemma resolveChat_ne_empty (chatId : ℤ) : m.resolveChat P chatId ≠ "" := by
  rw [Manager.resolveChat]
  split_ifs with hnone
  · decide
  · exact fun hempty => hnone (.inr hempty)

/-- A sender has a name, and it is not empty. -/
lemma resolveLastMessageSenderName_ne_empty (senderUserId senderChatId : Option ℤ) :
    m.resolveLastMessageSenderName P senderUserId senderChatId ≠ some "" := by
  rcases senderUserId with _ | userId
  · rcases senderChatId with _ | chatId
    · simp [Manager.resolveLastMessageSenderName]
    · simpa [Manager.resolveLastMessageSenderName] using resolveChat_ne_empty chatId
  · simp only [Manager.resolveLastMessageSenderName]
    split
    · split_ifs with hname
      · simpa using hname
      · simpa using resolveUser_ne_empty userId
    · simpa using resolveUser_ne_empty userId

lemma resolveLastMessageSenderName_eq_none_iff (sender : Option Sender) :
    m.resolveLastMessageSenderName P (Manager.parseSenderUserId sender) (Manager.parseSenderChatId sender) = none ↔
      sender = none := by
  rcases sender with _ | userId | chatId
  · simp [Manager.resolveLastMessageSenderName, Manager.parseSenderUserId, Manager.parseSenderChatId]
  · simp only [Manager.resolveLastMessageSenderName, Manager.parseSenderUserId, reduceCtorEq, iff_false]
    split
    · split_ifs <;> simp
    · simp
  · simp [Manager.resolveLastMessageSenderName, Manager.parseSenderUserId, Manager.parseSenderChatId]

/-- The sender is that of an incoming message in a group or a channel. -/
lemma lastShownOf_eq (lastRead : ℤ) :
    m.lastShownOf P chat last lastRead =
      { preview := some (last.content.read false).preview
        date := some last.date
        isOutgoing := last.isOutgoing
        deliveryStatus := Manager.parseDeliveryStatus last lastRead
        senderUserId := Manager.parseSenderUserId (chat.shownSender last)
        senderChatId := Manager.parseSenderChatId (chat.shownSender last)
        senderName := m.resolveLastMessageSenderName P (Manager.parseSenderUserId (chat.shownSender last))
          (Manager.parseSenderChatId (chat.shownSender last)) } := by
  simp only [Manager.lastShownOf, Manager.parseLastMessageMeta, ChatSummary.shownSender]
  cases chat.showsGroupSenderPrefix <;> cases last.isOutgoing <;> rfl

/-- A chat that is new shows what its last message makes it show. -/
lemma lastShown_parseChat (raw : RawChat) (hlast : raw.lastMessage = some last) :
    (m.enrichChatSummarySender P (m.parseChat raw)).lastShown =
      m.lastShownOf P (m.parseChat raw) last raw.lastReadOutboxMessageId := by
  have hgroup : (m.parseChat raw).showsGroupSenderPrefix =
      ((m.parseChatType raw.type).1 == .group || (m.parseChatType raw.type).1 == .channel) := rfl
  have hname := @resolveLastMessageSenderName_ne_empty P m
  rw [Manager.enrichChatSummarySender, hgroup, Manager.lastShownOf, hgroup]
  simp only [Manager.parseChat, hlast, Manager.parseLastMessageMeta]
  cases hshows : (m.parseChatType raw.type).1 == .group || (m.parseChatType raw.type).1 == .channel with
  | false => simp [ChatSummary.lastShown, Manager.resolveLastMessageSenderName]
  | true =>
      cases hout : last.isOutgoing with
      | true => simp [ChatSummary.lastShown, Manager.resolveLastMessageSenderName]
      | false =>
          specialize hname (Manager.parseSenderUserId last.senderId) (Manager.parseSenderChatId last.senderId)
          simp only [Bool.false_eq_true, if_false, if_true, Bool.not_true, Bool.or_self] at hname ⊢
          split
          · rename_i hnone
            simp [ChatSummary.lastShown, hnone]
          · rename_i name hsome
            have hne : name ≠ "" := fun hempty => hname (hempty ▸ hsome)
            simp [ChatSummary.lastShown, hsome, hne]

/-! ## What an update leaves -/

/-- What the message has no value for stays as it was. -/
lemma lastShown_showLastMessage (lastRead : ℤ) :
    (m.showLastMessage P (some last) lastRead chat).lastShown =
      let computed := m.lastShownOf P chat last lastRead
      { computed with
        deliveryStatus := computed.deliveryStatus <|> chat.lastMessageDeliveryStatus
        senderUserId := computed.senderUserId <|> chat.lastMessageSenderUserId
        senderChatId := computed.senderChatId <|> chat.lastMessageSenderChatId
        senderName := computed.senderName <|> chat.lastMessageSenderName } := by
  rw [lastShownOf_eq, ChatSummary.shownSender]
  simp only [Manager.showLastMessage, Manager.parseLastMessageMeta, ChatSummary.lastShown]
  by_cases hshows : chat.showsGroupSenderPrefix && !last.isOutgoing
  · rcases Bool.and_eq_true_iff.mp hshows with ⟨hgroup, hincoming⟩
    rw [Bool.not_eq_true'] at hincoming
    simp [hgroup, hincoming]
  · simp [hshows, Manager.parseSenderUserId, Manager.parseSenderChatId]

lemma lastShown_showLastMessage_eq_iff (lastRead : ℤ) :
    (m.showLastMessage P (some last) lastRead chat).lastShown = m.lastShownOf P chat last lastRead ↔
      chat.NothingStays last := by
  rw [lastShown_showLastMessage, lastShownOf_eq]
  simp only [LastShown.mk.injEq, true_and, orElse_eq_left_iff, parseDeliveryStatus_eq_none_iff,
    resolveLastMessageSenderName_eq_none_iff]
  constructor
  · rintro ⟨hstatus, huser, hchat, hname⟩
    exact ⟨hstatus, huser, hchat, hname⟩
  · rintro ⟨hstatus, huser, hchat, hname⟩
    exact ⟨hstatus, huser, hchat, hname⟩

/-- **Nothing of the previous last message stays** exactly if the chat had no delivery status for an incoming
message, and no sender of a kind that the message does not have.  The text, the date and the direction are
always those of the message. -/
theorem lastShown_replaced_iff (P : Platform) (m : Manager) {chatId : ℤ} {chat : ChatSummary} (last : RawMessage)
    (hchat : m.chatsById chatId = some chat) :
    let computed := m.lastShownOf P chat last ((m.lastReadOutboxMessageId chatId).getD 0)
    ∃ after, (m.handleChatLastMessage P (some chatId) (some last)).chatsById chatId = some after ∧
      (after.lastMessage = computed.preview ∧ after.lastMessageDate = computed.date ∧
        after.lastMessageIsOutgoing = computed.isOutgoing) ∧
      (after.lastShown = computed ↔ chat.NothingStays last) := by
  intro computed
  refine ⟨m.showLastMessage P (some last) ((m.lastReadOutboxMessageId chatId).getD 0) chat, ?_, ?_, ?_⟩
  · simp [Manager.handleChatLastMessage, hchat, Manager.setChat]
  · exact ⟨rfl, rfl, rfl⟩
  · exact lastShown_showLastMessage_eq_iff _

/-- The last message of the chat is one of the user. -/
def chatSeven : ChatSummary :=
  { id := 7, title := "A", lastMessage := some "hi", lastMessageIsOutgoing := true,
    lastMessageDeliveryStatus := some .read }

/-- The last message of the group is one of a channel. -/
def groupEight : ChatSummary :=
  { id := 8, title := "B", kind := .group, lastMessage := some "news", lastMessageSenderChatId := some 30,
    lastMessageSenderName := some "C" }

def withLastMessages : Manager := (({} : Manager).setChat 7 chatSeven).setChat 8 groupEight

/-- Another channel writes in the group. -/
theorem lastShown_replaced_iff_channel :
    let last : RawMessage := { RawMessage.text 12 8 "more" with senderId := some (.chat 31) }
    ∃ after, (withLastMessages.handleChatLastMessage .plain (some 8) (some last)).chatsById 8 = some after ∧
      after.lastShown = withLastMessages.lastShownOf .plain groupEight last 0 := by
  intro last
  rcases @lastShown_replaced_iff .plain withLastMessages 8 groupEight last rfl with ⟨after, hafter, -, hiff⟩
  exact ⟨after, hafter, hiff.mpr ⟨fun _ => rfl, fun _ => rfl, (absurd · (by decide)), (absurd · (by decide))⟩⟩

/-- **An incoming message looks read**: the one before it was the user's own, and its state stays. -/
theorem deliveryStatus_stays :
    let last := RawMessage.text 12 7 "hello"
    ∃ after, (withLastMessages.handleChatLastMessage .plain (some 7) (some last)).chatsById 7 = some after ∧
      after.lastMessageIsOutgoing = false ∧ after.lastMessageDeliveryStatus = some .read ∧
      after.lastShown ≠ withLastMessages.lastShownOf .plain chatSeven last 0 :=
  ⟨_, rfl, by decide⟩

end RioGram.Chats
