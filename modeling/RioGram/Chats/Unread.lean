import RioGram.Chats.Changes
import RioGram.Core.Reachable

/-!
# Unread counters

TDLib reports the number of unread messages of a chat with the chat and when messages have been read.  In
between, the manager counts the new messages itself, and shows nothing as unread in the open chat.
`Watched` has, next to the manager, what should be shown: the value reported last and the incoming
messages since then that TDLib has not counted.

* `step_shownCount` is what a step does to the counters.
* `unread_as_reported` says when they are right, and `own_message_unread` is a run in which they are not.
-/

namespace RioGram.Chats

open Reaching

/-- The number of unread messages that is shown of a chat, if it is known. -/
def Manager.shownCount (m : Manager) (chatId : ℤ) : Option ℤ :=
  (m.chatsById chatId).map (·.unreadCount)

variable {P : Platform} {m m' m'' : Manager}

/-! ## Handlers that keep the counters -/

section KeepsChats

variable {β : Type} {g : ChatSummary → β}

/-- What `g` shows of the chats stays as it is. -/
def KeepsChats (g : ChatSummary → β) (m m' : Manager) : Prop :=
  ∀ chatId, (m'.chatsById chatId).map g = (m.chatsById chatId).map g

lemma KeepsChats.trans (h : KeepsChats g m m') (h' : KeepsChats g m' m'') : KeepsChats g m m'' :=
  fun chatId => (h' chatId).trans (h chatId)

/-- The chats stay as they are. -/
lemma keepsChats_of_chats (h : m'.chatsById = m.chatsById) : KeepsChats g m m' := by
  intro chatId
  rw [h]

namespace Manager

variable (P) (m)

lemma setChat_map (chatId : ℤ) (chat : ChatSummary) (i : ℤ) :
    ((m.setChat chatId chat).chatsById i).map g =
      if i = chatId then some (g chat) else (m.chatsById i).map g := by
  rw [setChat]
  split_ifs with h
  · simp [h]
  · simp [h]

lemma setChat_keepsChats {chatId : ℤ} {chat chat' : ChatSummary} (h : m.chatsById chatId = some chat)
    (hg : g chat' = g chat) : KeepsChats g m (m.setChat chatId chat') := by
  intro i
  rw [setChat_map]
  split_ifs with hi
  · rw [hi, h, hg]
    rfl
  · rfl

lemma updateChat_keepsChats (chatId : Option ℤ) {f : ChatSummary → ChatSummary}
    (hf : ∀ chat, g (f chat) = g chat) : KeepsChats g m (m.updateChat chatId f) := by
  rw [updateChat.eq_def]
  split
  · exact keepsChats_of_chats rfl
  · split
    · exact keepsChats_of_chats rfl
    · exact setChat_keepsChats m ‹_› (hf _)

lemma mapChats_keepsChats {f : ChatSummary → ChatSummary} (hf : ∀ chat, g (f chat) = g chat) :
    KeepsChats g m { m with chatsById := fun chatId => (m.chatsById chatId).map f } := by
  intro chatId
  simp [Function.comp_def, hf]

/-- A chat is changed if it is known. -/
lemma map_of_changes {chatId : ℤ} {shows : β → β}
    (hnone : m.chatsById chatId = none → m'.chatsById = m.chatsById)
    (hsome : ∀ chat, m.chatsById chatId = some chat → ∃ chat',
      m'.chatsById = (m.setChat chatId chat').chatsById ∧ g chat' = shows (g chat)) (i : ℤ) :
    (m'.chatsById i).map g =
      if i = chatId then ((m.chatsById i).map g).map shows else (m.chatsById i).map g := by
  cases hchat : m.chatsById chatId with
  | none =>
      rw [hnone hchat]
      split_ifs with hi
      · rw [hi, hchat]
        rfl
      · rfl
  | some chat =>
      rcases hsome chat hchat with ⟨chat', hchats, hshows⟩
      rw [hchats, setChat_map]
      split_ifs with hi
      · rw [hi, hchat, hshows]
        rfl
      · rfl

/-- What has nothing to do with names and kinds is kept when a user is reported. -/
lemma handleUser_keepsChats (user : RawUser)
    (hname : ∀ (chat : ChatSummary) (name : Option String),
      g { chat with lastMessageSenderName := name } = g chat)
    (hkind : ∀ (chat : ChatSummary) (kind : ChatKind), g { chat with kind } = g chat) :
    KeepsChats g m (m.handleUser P user) := by
  refine handleUser_of_parts P m (fun n => keepsChats_of_chats rfl) KeepsChats.trans user ?_ ?_ ?_ ?_ ?_ ?_
  · exact fun n => keepsChats_of_chats rfl
  · intro n
    rw [refreshMessagesForUser]
    split
    · exact keepsChats_of_chats rfl
    · exact keepsChats_of_chats rfl
  · intro n
    rw [refreshChatsForUser]
    split
    · exact keepsChats_of_chats rfl
    · refine mapChats_keepsChats n fun chat => ?_
      split_ifs
      · exact hname chat _
      · rfl
  · exact fun n => keepsChats_of_chats rfl
  · exact fun n => keepsChats_of_chats rfl
  · intro n
    refine mapChats_keepsChats n fun chat => ?_
    split_ifs
    · exact hkind chat _
    · rfl

end Manager

end KeepsChats

/-- The counters stay as they are. -/
def SameCounts (m m' : Manager) : Prop := ∀ chatId, m'.shownCount chatId = m.shownCount chatId

lemma SameCounts.trans (h : SameCounts m m') (h' : SameCounts m' m'') : SameCounts m m'' :=
  fun chatId => (h' chatId).trans (h chatId)

/-- The chats stay as they are. -/
lemma sameCounts_of_chats (h : m'.chatsById = m.chatsById) : SameCounts m m' := keepsChats_of_chats h

namespace Manager

variable (P) (m)

lemma setChat_shownCount (chatId : ℤ) (chat : ChatSummary) (i : ℤ) :
    (m.setChat chatId chat).shownCount i =
      if i = chatId then some chat.unreadCount else m.shownCount i :=
  setChat_map m chatId chat i

lemma setChat_sameCounts {chatId : ℤ} {chat chat' : ChatSummary} (h : m.chatsById chatId = some chat)
    (hcount : chat'.unreadCount = chat.unreadCount) : SameCounts m (m.setChat chatId chat') :=
  setChat_keepsChats m h hcount

lemma updateChat_sameCounts (chatId : Option ℤ) {f : ChatSummary → ChatSummary}
    (hf : ∀ chat, (f chat).unreadCount = chat.unreadCount) : SameCounts m (m.updateChat chatId f) :=
  updateChat_keepsChats m chatId hf

lemma handleUser_sameCounts (user : RawUser) : SameCounts m (m.handleUser P user) :=
  handleUser_keepsChats P m user (fun _ _ => rfl) fun _ _ => rfl

lemma handleChatLastMessage_sameCounts (chatId : Option ℤ) (lastMessage : Option RawMessage) :
    SameCounts m (m.handleChatLastMessage P chatId lastMessage) := by
  rw [handleChatLastMessage.eq_def]
  split
  · exact sameCounts_of_chats rfl
  · split
    · exact sameCounts_of_chats rfl
    · refine setChat_sameCounts m ‹_› ?_
      rw [showLastMessage.eq_def]
      split
      · rfl
      · rfl

lemma refreshDeliveryStatuses_sameCounts : SameCounts m m.refreshDeliveryStatuses := by
  rw [refreshDeliveryStatuses]
  split
  · exact sameCounts_of_chats rfl
  · exact sameCounts_of_chats rfl

lemma handleUpdateChatReadOutbox_sameCounts (chatId lastReadOutboxMessageId : Option ℤ) :
    SameCounts m (m.handleUpdateChatReadOutbox chatId lastReadOutboxMessageId) := by
  cases chatId with
  | none => exact sameCounts_of_chats rfl
  | some chatId =>
      have hset : SameCounts m (m.setLastReadOutbox chatId (lastReadOutboxMessageId.getD 0)) :=
        sameCounts_of_chats rfl
      have hread : ∀ chat : ChatSummary, (if chat.lastMessageIsOutgoing &&
          chat.lastMessageDeliveryStatus.isSome && isSettled chat.lastMessageDeliveryStatus then
            { chat with lastMessageDeliveryStatus := some .read } else chat).unreadCount =
          chat.unreadCount := by
        intro chat
        split_ifs
        · rfl
        · rfl
      have hchat := hset.trans (updateChat_sameCounts _ (some chatId) hread)
      simp only [handleUpdateChatReadOutbox]
      split_ifs
      · exact hchat.trans (refreshDeliveryStatuses_sameCounts _)
      · exact hchat

/-! ## Handlers that do not touch the chats -/

lemma insertMessage_chats (message : ChatMessage) :
    (m.insertMessage P message).chatsById = m.chatsById := by
  rw [insertMessage]
  split_ifs <;> rfl

lemma replaceMessage_chats (message : ChatMessage) :
    (m.replaceMessage P message).chatsById = m.chatsById := by
  rw [replaceMessage]
  split_ifs
  · rfl
  · rfl
  · exact insertMessage_chats P m message

lemma handleSendSucceeded_chats (oldMessageId : Option ℤ) (raw : RawMessage) :
    (m.handleSendSucceeded P oldMessageId raw).chatsById = m.chatsById := by
  simp only [handleSendSucceeded]
  split
  · exact replaceMessage_chats P m _
  · split_ifs
    · rfl
    · exact replaceMessage_chats P m _

lemma requestChatHistory_chats (chatId : ℤ) (onlyLocal : Bool) (fromMessageId : ℤ) :
    (m.requestChatHistory chatId onlyLocal fromMessageId).chatsById = m.chatsById := by
  rw [requestChatHistory]
  split_ifs
  · rfl
  · rfl

lemma finishHistory_chats (chatId : ℤ) : (m.finishHistory chatId).chatsById = m.chatsById := by
  simp only [finishHistory, markMessagesRead]
  split_ifs <;> rfl

lemma showPage_chats (batch : List ChatMessage) (ends : Bool) :
    (m.showPage P batch ends).chatsById = m.chatsById := by
  simp only [showPage, endLoadingIf]
  split_ifs
  · rfl
  · rfl

lemma handleChatHistory_chats (chatId : ℤ) (isLocal : Bool) (raws : List (Option RawMessage)) :
    (m.handleChatHistory P chatId isLocal raws).chatsById = m.chatsById := by
  simp only [handleChatHistory]
  split_ifs
  · rfl
  · exact (requestChatHistory_chats _ _ _ _).trans (showPage_chats P m _ _)
  · exact showPage_chats P m _ _
  · exact (finishHistory_chats _ _).trans (showPage_chats P m _ _)

lemma handleForumTopicHistory_chats (chatId forumTopicId : ℤ) (raws : List (Option RawMessage)) :
    (m.handleForumTopicHistory P chatId forumTopicId raws).chatsById = m.chatsById := by
  simp only [handleForumTopicHistory]
  split_ifs
  · rfl
  · exact showPage_chats P m _ _
  · exact (finishHistory_chats _ _).trans (showPage_chats P m _ _)

lemma handleMessages_chats (reply : MessagesReply) :
    (m.handleMessages P reply).chatsById = m.chatsById := by
  rw [handleMessages.eq_def]
  split
  · rfl
  · exact handleForumTopicHistory_chats P m _ _ _
  · split
    · rfl
    · exact handleChatHistory_chats P m _ _ _

lemma updateMessage_chats (chatId messageId : Option ℤ) (f : ChatMessage → ChatMessage) :
    (m.updateMessage chatId messageId f).chatsById = m.chatsById := by
  rw [updateMessage.eq_def]
  split_ifs
  · rfl
  · cases messageId with
    | none => rfl
    | some messageId => rfl

lemma handleDeleteMessages_chats (chatId : Option ℤ) (ids : List ℤ) (isPermanent : Bool) :
    (m.handleDeleteMessages chatId ids isPermanent).chatsById = m.chatsById := by
  rw [handleDeleteMessages]
  split_ifs <;> rfl

lemma handleHistoryError_chats (chatId : ℤ) (message : Option String) :
    (m.handleHistoryError chatId message).chatsById = m.chatsById := by
  rw [handleHistoryError]
  split_ifs
  · rfl
  · rw [requestChatHistory_chats, requestChatHistory_chats]
    rfl
  · rfl

lemma handleError_chats (extra : Option Extra) (message : Option String) :
    (m.handleError extra message).chatsById = m.chatsById := by
  rw [handleError.eq_def]
  split
  · exact handleHistoryError_chats m _ message
  · exact handleHistoryError_chats m _ message
  · split_ifs
    · rfl
    · rfl
  · split_ifs
    · rfl
    · rfl
  · rfl

lemma openChat_chats (chatId : ℤ) : (m.openChat chatId).chatsById = m.chatsById := by
  rw [openChat, requestChatHistory_chats, requestChatHistory_chats]
  rfl

lemma closeChat_chats : m.closeChat.chatsById = m.chatsById := by
  cases hopen : m.activeChatId with
  | none => simp [closeChat, hopen]
  | some chatId => simp [closeChat, hopen, send]

lemma deleteMessageFromCache_chats (message : ChatMessage) :
    (m.deleteMessageFromCache message).chatsById = m.chatsById := by
  rw [deleteMessageFromCache]
  split_ifs
  · rfl
  · rfl

lemma fireMessagesLoadTimeout_chats : m.fireMessagesLoadTimeout.chatsById = m.chatsById := by
  rw [fireMessagesLoadTimeout]
  split
  · rfl
  · split_ifs
    · rfl
    · rfl

/-! ## Handlers that change a counter -/

lemma handleChat_shownCount (raw : RawChat) (chatId : ℤ) :
    (m.handleChat P raw).shownCount chatId =
      if chatId = raw.id then some raw.unreadCount else m.shownCount chatId := by
  have henrich : ∀ (n : Manager) (summary : ChatSummary),
      (n.enrichChatSummarySender P summary).unreadCount = summary.unreadCount ∧
        (n.enrichChatSummarySender P summary).id = summary.id := by
    intro n summary
    rw [enrichChatSummarySender]
    split_ifs
    · exact ⟨rfl, rfl⟩
    · split
      · exact ⟨rfl, rfl⟩
      · split_ifs
        · exact ⟨rfl, rfl⟩
        · exact ⟨rfl, rfl⟩
  have hmerge : ∀ (summary : ChatSummary) (existing : Option ChatSummary),
      (mergeChat summary existing).unreadCount = summary.unreadCount := by
    intro summary existing
    cases existing with
    | none => rfl
    | some existing => rfl
  have hid : (m.parseChat raw).id = raw.id := rfl
  rw [handleChat, upsertChat]
  simp only [setChat_shownCount, (henrich _ _).1, (henrich _ _).2, hmerge, hid]
  by_cases hi : chatId = raw.id
  · rw [if_pos hi, if_pos hi]
    rfl
  · rw [if_neg hi, if_neg hi, if_neg hi]

lemma updateChatPreview_shownCount (message : ChatMessage) (chatId : ℤ) :
    (m.updateChatPreview message).shownCount chatId =
      if chatId = message.chatId then
        (m.shownCount chatId).map fun count => if m.activeChatId = some chatId then 0 else count + 1
      else m.shownCount chatId := by
  have hcount : (m.updateChatPreview message).shownCount chatId =
      if chatId = message.chatId then
        (m.shownCount chatId).map fun count => if m.activeChatId = some message.chatId then 0 else count + 1
      else m.shownCount chatId := by
    refine map_of_changes m (fun hnone => ?_) (fun chat hchat => ?_) chatId
    · rw [updateChatPreview, hnone]
      rfl
    · rw [updateChatPreview, hchat]
      exact ⟨_, rfl, rfl⟩
  rw [hcount]
  by_cases hi : chatId = message.chatId
  · rw [hi]
  · rw [if_neg hi, if_neg hi]

/-- Of the chats, a new message that is not dropped changes the preview. -/
lemma handleNewMessage_chats {raw : RawMessage} (hmatch : m.messageMatchesActiveForumTopic raw) :
    (m.handleNewMessage P raw).chatsById =
      ((m.insertMessage P (m.parseMessage P raw)).updateChatPreview (m.parseMessage P raw)).chatsById := by
  simp only [handleNewMessage, hmatch, Bool.not_true, Bool.false_eq_true, if_false]
  split_ifs
  · rw [showMessageNotification]
    split_ifs
    · rfl
    · rfl
  · rfl

lemma handleNewMessage_shownCount (raw : RawMessage) (chatId : ℤ) :
    (m.handleNewMessage P raw).shownCount chatId =
      if chatId = raw.chatId ∧ m.messageMatchesActiveForumTopic raw then
        (m.shownCount chatId).map fun count => if m.activeChatId = some chatId then 0 else count + 1
      else m.shownCount chatId := by
  by_cases hmatch : m.messageMatchesActiveForumTopic raw
  · have hinsert : ∀ i, (m.insertMessage P (m.parseMessage P raw)).shownCount i = m.shownCount i :=
      sameCounts_of_chats (insertMessage_chats P m _)
    have hpreview := updateChatPreview_shownCount (m.insertMessage P (m.parseMessage P raw))
      (m.parseMessage P raw) chatId
    rw [hinsert, insertMessage_chat, show (m.parseMessage P raw).chatId = raw.chatId from rfl]
      at hpreview
    rw [shownCount, handleNewMessage_chats P m hmatch]
    refine hpreview.trans ?_
    simp [hmatch]
  · rw [m.handleNewMessage_of_mismatch P hmatch]
    simp [hmatch]

/-! ## All steps -/

/-- The counter of a chat after an event. -/
def countAfter (m : Manager) (e : Event) (chatId : ℤ) : Option ℤ :=
  match e with
  | .update (.newChat chat) => if chatId = chat.id then some chat.unreadCount else m.shownCount chatId
  | .update (.chat chat) => if chatId = chat.id then some chat.unreadCount else m.shownCount chatId
  | .update (.chatReadInbox (some readId) (some unreadCount)) =>
      if chatId = readId then (m.shownCount chatId).map fun _ => unreadCount else m.shownCount chatId
  | .update (.newMessage raw) =>
      if chatId = raw.chatId ∧ m.messageMatchesActiveForumTopic raw then
        (m.shownCount chatId).map fun count => if m.activeChatId = some chatId then 0 else count + 1
      else m.shownCount chatId
  | _ => m.shownCount chatId

lemma handleUpdateChatReadInbox_shownCount (readId unreadCount : Option ℤ) (chatId : ℤ) :
    (m.handleUpdateChatReadInbox readId unreadCount).shownCount chatId =
      m.countAfter (.update (.chatReadInbox readId unreadCount)) chatId := by
  cases readId with
  | none => rfl
  | some readId =>
      cases unreadCount with
      | none => exact updateChat_sameCounts m (some readId) (fun _ => rfl) chatId
      | some unreadCount =>
          refine map_of_changes m (fun hnone => ?_) (fun chat hchat => ?_) chatId
          · simp only [handleUpdateChatReadInbox, updateChat, hnone]
          · simp only [handleUpdateChatReadInbox, updateChat, hchat]
            exact ⟨_, rfl, rfl⟩

lemma update_shownCount (update : Update) (chatId : ℤ) :
    (m.handleUpdate P update).shownCount chatId = m.countAfter (.update update) chatId := by
  cases update with
  | user user => exact handleUser_sameCounts P m user chatId
  | newChat chat => exact handleChat_shownCount P m chat chatId
  | chat chat => exact handleChat_shownCount P m chat chatId
  | chatLastMessage id last => exact handleChatLastMessage_sameCounts P m id last chatId
  | chatNotificationSettings id isMuted =>
      have hmuted : ∀ chat : ChatSummary,
          ({ chat with isMuted := isMuted.getD chat.isMuted } : ChatSummary).unreadCount =
            chat.unreadCount := fun _ => rfl
      exact updateChat_sameCounts m id hmuted chatId
  | chatReadInbox id unreadCount => exact handleUpdateChatReadInbox_shownCount m id unreadCount chatId
  | chatReadOutbox id lastRead => exact handleUpdateChatReadOutbox_sameCounts m id lastRead chatId
  | messages reply => exact sameCounts_of_chats (handleMessages_chats P m reply) chatId
  | message raw => exact sameCounts_of_chats (insertMessage_chats P m _) chatId
  | newMessage raw => exact handleNewMessage_shownCount P m raw chatId
  | messageSendSucceeded oldId raw =>
      exact sameCounts_of_chats (handleSendSucceeded_chats P m oldId raw) chatId
  | messageEdited id messageId editDate => exact sameCounts_of_chats (updateMessage_chats m _ _ _) chatId
  | messageContent id messageId newContent =>
      cases newContent with
      | none => rfl
      | some newContent => exact sameCounts_of_chats (updateMessage_chats m _ _ _) chatId
  | messageReactions id messageId reactions =>
      exact sameCounts_of_chats (updateMessage_chats m _ _ _) chatId
  | messageInteractionInfo id messageId info =>
      exact sameCounts_of_chats (updateMessage_chats m _ _ _) chatId
  | deleteMessages id ids isPermanent =>
      exact sameCounts_of_chats (handleDeleteMessages_chats m id ids isPermanent) chatId
  | file file => rfl
  | error extra message => exact sameCounts_of_chats (handleError_chats m extra message) chatId
  | other type => rfl

/-- **What a step does to the counters**, in every state and for every event. -/
theorem step_shownCount (e : Event) (chatId : ℤ) :
    (m.step P e).shownCount chatId = m.countAfter e chatId := by
  cases e with
  | openChat id => exact sameCounts_of_chats (openChat_chats m id) chatId
  | openChatAtMessage id messageId => exact sameCounts_of_chats (openChat_chats m id) chatId
  | openForumTopic id forumTopicId => rfl
  | clearForumTopicSelection => rfl
  | closeChat => exact sameCounts_of_chats (closeChat_chats m) chatId
  | request type => rfl
  | cancelFile fileId => rfl
  | deleteMessageFromCache message =>
      exact sameCounts_of_chats (deleteMessageFromCache_chats m message) chatId
  | changeSettings settings => rfl
  | messagesLoadTimeout => exact sameCounts_of_chats (fireMessagesLoadTimeout_chats m) chatId
  | update update => exact update_shownCount P m update chatId

end Manager

/-- The events that may change more of a chat than its counter, its sound, its kind and the name of a sender. -/
def Event.changesChat : Event → Bool
  | .update (.newChat _) | .update (.chat _) | .update (.chatLastMessage _ _) | .update (.chatReadOutbox _ _)
  | .update (.newMessage _) => true
  | _ => false

/-- The other events keep what `g` shows of the chats, if it reads none of these. -/
lemma Manager.step_keepsChats {β : Type} {g : ChatSummary → β} {e : Event} (he : e.changesChat = false)
    (hname : ∀ (chat : ChatSummary) (name : Option String), g { chat with lastMessageSenderName := name } = g chat)
    (hkind : ∀ (chat : ChatSummary) (kind : ChatKind), g { chat with kind } = g chat)
    (hmuted : ∀ (chat : ChatSummary) (isMuted : Bool), g { chat with isMuted } = g chat)
    (hcount : ∀ (chat : ChatSummary) (unreadCount : ℤ), g { chat with unreadCount } = g chat) :
    KeepsChats g m (m.step P e) := by
  cases e with
  | openChat id => exact keepsChats_of_chats (openChat_chats m id)
  | openChatAtMessage id messageId => exact keepsChats_of_chats (openChat_chats m id)
  | openForumTopic id forumTopicId => exact keepsChats_of_chats rfl
  | clearForumTopicSelection => exact keepsChats_of_chats rfl
  | closeChat => exact keepsChats_of_chats (closeChat_chats m)
  | request type => exact keepsChats_of_chats rfl
  | cancelFile fileId => exact keepsChats_of_chats rfl
  | deleteMessageFromCache message => exact keepsChats_of_chats (deleteMessageFromCache_chats m message)
  | changeSettings settings => exact keepsChats_of_chats rfl
  | messagesLoadTimeout => exact keepsChats_of_chats (fireMessagesLoadTimeout_chats m)
  | update update =>
      cases update with
      | user user => exact handleUser_keepsChats P m user hname hkind
      | newChat chat => cases he
      | chat chat => cases he
      | chatLastMessage chatId last => cases he
      | chatNotificationSettings chatId isMuted => exact updateChat_keepsChats m chatId fun chat => hmuted chat _
      | chatReadInbox chatId unreadCount => exact updateChat_keepsChats m chatId fun chat => hcount chat _
      | chatReadOutbox chatId lastRead => cases he
      | messages reply => exact keepsChats_of_chats (handleMessages_chats P m reply)
      | message raw => exact keepsChats_of_chats (insertMessage_chats P m _)
      | newMessage raw => cases he
      | messageSendSucceeded oldMessageId raw =>
          exact keepsChats_of_chats (handleSendSucceeded_chats P m oldMessageId raw)
      | messageEdited chatId messageId editDate =>
          exact keepsChats_of_chats (updateMessage_chats m chatId messageId _)
      | messageContent chatId messageId newContent =>
          cases newContent with
          | none => exact keepsChats_of_chats rfl
          | some newContent => exact keepsChats_of_chats (updateMessage_chats m chatId messageId _)
      | messageReactions chatId messageId reactions =>
          exact keepsChats_of_chats (updateMessage_chats m chatId messageId _)
      | messageInteractionInfo chatId messageId info =>
          exact keepsChats_of_chats (updateMessage_chats m chatId messageId _)
      | deleteMessages chatId ids isPermanent =>
          exact keepsChats_of_chats (handleDeleteMessages_chats m chatId ids isPermanent)
      | file file => exact keepsChats_of_chats rfl
      | error extra message => exact keepsChats_of_chats (handleError_chats m extra message)
      | other type => exact keepsChats_of_chats rfl

/-! ## What TDLib has reported -/

/-- An event, with whether TDLib has counted the new message that it is about before. -/
structure Observed where
  event : Event
  counted : Bool := false

/-- A new message that is to be counted: it is incoming and TDLib has not counted it. -/
def RawMessage.isUncounted (raw : RawMessage) (counted : Bool) : Bool := !raw.isOutgoing && !counted

structure Watched where
  manager : Manager
  /-- What TDLib has reported of each chat, and the messages since then that it has not counted. -/
  expected : ℤ → ℤ

def Watched.expect (w : Watched) (o : Observed) (chatId : ℤ) : ℤ :=
  match o.event with
  | .update (.newChat chat) => if chatId = chat.id then chat.unreadCount else w.expected chatId
  | .update (.chat chat) => if chatId = chat.id then chat.unreadCount else w.expected chatId
  | .update (.chatReadInbox (some readId) (some unreadCount)) =>
      if chatId = readId then unreadCount else w.expected chatId
  | .update (.newMessage raw) =>
      if chatId = raw.chatId ∧ raw.isUncounted o.counted then w.expected chatId + 1
      else w.expected chatId
  | _ => w.expected chatId

def Watched.next (P : Platform) (w : Watched) (o : Observed) : Watched :=
  ⟨w.manager.step P o.event, w.expect o⟩

/-- Every counter that is shown is as expected. -/
def Watched.Agrees (w : Watched) : Prop :=
  ∀ chatId count, w.manager.shownCount chatId = some count → count = w.expected chatId

/-- A new message of a known chat is counted as it should be: it is to be counted exactly if the manager
counts it, and in the open chat nothing is unread with it. -/
def Watched.CountsRight (w : Watched) (o : Observed) : Prop :=
  match o.event with
  | .update (.newMessage raw) =>
      ∀ count, w.manager.shownCount raw.chatId = some count →
        if w.manager.messageMatchesActiveForumTopic raw then
          if w.manager.activeChatId = some raw.chatId then
            count + (if raw.isUncounted o.counted then 1 else 0) = 0
          else raw.isUncounted o.counted
        else ¬raw.isUncounted o.counted
  | _ => True

variable {w : Watched}

lemma next_agrees_other (h : w.Agrees) {o : Observed}
    (hother : ∀ raw, o.event ≠ .update (.newMessage raw)) : (w.next P o).Agrees := by
  intro chatId count hcount
  rw [Watched.next, Manager.step_shownCount] at hcount
  simp only [Watched.next, Watched.expect]
  have hreport : ∀ (reported : ℤ) (id : ℤ), (if chatId = id then some reported
      else w.manager.shownCount chatId) = some count →
        count = if chatId = id then reported else w.expected chatId := by
    intro reported id hif
    split_ifs at hif ⊢
    · exact (Option.some_inj.mp hif).symm
    · exact h chatId count hif
  split
  · rename_i chat hevent
    rw [hevent] at hcount
    exact hreport chat.unreadCount chat.id hcount
  · rename_i chat hevent
    rw [hevent] at hcount
    exact hreport chat.unreadCount chat.id hcount
  · rename_i readId unreadCount hevent
    rw [hevent] at hcount
    simp only [Manager.countAfter] at hcount
    split_ifs at hcount ⊢
    · rcases Option.map_eq_some_iff.mp hcount with ⟨before, -, heq⟩
      exact heq.symm
    · exact h chatId count hcount
  · exact absurd ‹_› (hother _)
  · rename_i hnew hchat hread hmessage
    rw [Manager.countAfter.eq_def] at hcount
    split at hcount
    · exact absurd ‹_› (hnew _)
    · exact absurd ‹_› (hchat _)
    · exact absurd ‹_› (hread _ _)
    · exact absurd ‹_› (hmessage _)
    · exact h chatId count hcount

/-- A new message concerns only the counter of its chat. -/
lemma next_agrees_iff_chat (h : w.Agrees) (raw : RawMessage) (counted : Bool) :
    (w.next P ⟨.update (.newMessage raw), counted⟩).Agrees ↔ ∀ count,
      w.manager.countAfter (.update (.newMessage raw)) raw.chatId = some count →
        count = w.expected raw.chatId + (if raw.isUncounted counted then 1 else 0) := by
  constructor
  · intro hagrees count hcount
    have hnext := hagrees raw.chatId count (by rw [Watched.next, Manager.step_shownCount, hcount])
    rw [hnext]
    simp only [Watched.next, Watched.expect, true_and]
    split_ifs
    · rfl
    · exact (Int.add_zero _).symm
  · intro hchat chatId count hcount
    rw [Watched.next, Manager.step_shownCount] at hcount
    by_cases hi : chatId = raw.chatId
    · subst hi
      rw [hchat count hcount]
      simp only [Watched.next, Watched.expect, true_and]
      split_ifs
      · rfl
      · exact Int.add_zero _
    · simp only [Manager.countAfter, hi, false_and, if_false] at hcount
      simp only [Watched.next, Watched.expect, hi, false_and, if_false]
      exact h chatId count hcount

lemma next_agrees_newMessage (h : w.Agrees) (raw : RawMessage) (counted : Bool) :
    (w.next P ⟨.update (.newMessage raw), counted⟩).Agrees ↔
      w.CountsRight ⟨.update (.newMessage raw), counted⟩ := by
  rw [next_agrees_iff_chat h]
  simp only [Watched.CountsRight, Manager.countAfter, true_and]
  cases hshown : w.manager.shownCount raw.chatId with
  | none => simp
  | some before =>
      have hbefore : before = w.expected raw.chatId := h raw.chatId before hshown
      have hone : before + 1 ≠ before := by omega
      simp only [Option.map_some, ← hbefore]
      by_cases hmatch : w.manager.messageMatchesActiveForumTopic raw
      · by_cases hopen : w.manager.activeChatId = some raw.chatId
        · simp only [hmatch, hopen, if_true, Option.some_inj, forall_eq']
          exact eq_comm
        · simp only [hmatch, hopen, if_true, if_false, Option.some_inj, forall_eq']
          by_cases hcount : raw.isUncounted counted
          · simp [hcount]
          · simp [hcount, hone]
      · simp only [hmatch, if_false, Option.some_inj, forall_eq', Bool.false_eq_true]
        by_cases hcount : raw.isUncounted counted
        · simp [hcount, hone.symm]
        · simp [hcount]

lemma next_agrees_iff (P : Platform) (h : w.Agrees) (o : Observed) :
    (w.next P o).Agrees ↔ w.CountsRight o := by
  rcases o with ⟨event, counted⟩
  by_cases hmessage : ∃ raw, event = .update (.newMessage raw)
  · rcases hmessage with ⟨raw, rfl⟩
    exact next_agrees_newMessage h raw counted
  · have hother : ∀ raw, event ≠ .update (.newMessage raw) := fun raw hraw => hmessage ⟨raw, hraw⟩
    have hright : w.CountsRight ⟨event, counted⟩ := by
      rw [Watched.CountsRight.eq_def]
      split
      · exact absurd ‹_› (hother _)
      · exact trivial
    exact iff_of_true (next_agrees_other h hother) hright

/-- **The counters are what TDLib has reported and the incoming messages since then** in every state of every
run in which each new message is counted as it should be; and where they are, a step keeps them so exactly
if it does. -/
theorem unread_as_reported (P : Platform) :
    (∀ w, Reachable (Watched.next P) Watched.CountsRight ⟨{}, fun _ => 0⟩ w → w.Agrees) ∧
    ∀ (w : Watched) (o : Observed), w.Agrees → ((w.next P o).Agrees ↔ w.CountsRight o) := by
  refine ⟨fun w h => ?_, fun w o hw => next_agrees_iff P hw o⟩
  refine h.invariant (I := Watched.Agrees) ?_ ?_
  · intro chatId count hcount
    cases hcount
  · intro w o hw hok
    exact (next_agrees_iff P hw o).mpr hok

/-- A chat with two unread messages, and a message in it. -/
def oneMessage (raw : RawMessage) : List Observed :=
  [{ event := .update (.newChat { id := 1, title := "Chat", unreadCount := 2 }) },
    { event := .update (.newMessage raw) }]

theorem unread_as_reported_incoming :
    ((oneMessage (.text 5 1 "hello")).foldl (Watched.next .plain) ⟨{}, fun _ => 0⟩).Agrees := by
  refine (unread_as_reported .plain).1 _ (Reachable.start.run ⟨trivial, ?_, trivial⟩)
  intro count _
  rw [if_pos (by decide), if_neg (by decide)]
  rfl

/-- **The user's own message counts as unread**, when it was sent by another device. -/
theorem own_message_unread :
    ∃ w, Reachable (Watched.next .plain) (fun _ _ => True) ⟨{}, fun _ => 0⟩ w ∧
      w.manager.shownCount 1 = some 3 ∧ w.expected 1 = 2 :=
  ⟨(oneMessage { RawMessage.text 5 1 "hello" with isOutgoing := true }).foldl (Watched.next .plain)
    ⟨{}, fun _ => 0⟩, Reachable.start.run ⟨trivial, trivial, trivial⟩, rfl, rfl⟩

end RioGram.Chats
