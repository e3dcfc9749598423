import RioGram.Chats.Updates

/-!
# What a step can do to the messages that are shown

Most handlers leave every message where it is, and of what they change of it each thing is changed by few of
them: `SameAs g`, for what `g` reads of a message, with `Fixed g` for what only the handlers of files, of new
content and of what has been read may change.  Others take messages away (`KeepsAs g`), show nothing
(`Alters.opens`) or bring messages in, and for these there is a lemma each that says what the list becomes:

* `insertMessage_messages`, `replaceMessage_messages`, `handleSendSucceeded_messages` and
  `handleNewMessage_same` for single messages,
* `handleMessages_same` for a page of the history.

`step_alters` says that this is all a step can do, `step_delivers` and `step_change` what it does to how far
messages are delivered and to their places, and `step_shows` and `step_delivery` where the messages that are
shown come from.
-/

namespace RioGram.Chats

open Keyed

/-- What of a message stays the same for as long as it is shown. -/
structure Place where
  id : ℤ
  chatId : ℤ
  topicId : Option MessageTopic
  date : ℤ
  isOutgoing : Bool

def ChatMessage.place (message : ChatMessage) : Place :=
  ⟨message.id, message.chatId, message.topicId, message.date, message.isOutgoing⟩

/-- The open chat stays open and shows no message that it has not shown before. -/
structure Keeps (m m' : Manager) : Prop where
  chat : m'.activeChatId = m.activeChatId
  topic : m'.activeForumTopicId = m.activeForumTopicId
  places : (m'.messages.map ChatMessage.place).Sublist (m.messages.map ChatMessage.place)

variable {m m' m'' : Manager}

/-- Every message that is shown has been shown before. -/
lemma Keeps.exists_place (h : Keeps m m') {message : ChatMessage} (hmessage : message ∈ m'.messages) :
    ∃ before ∈ m.messages, before.place = message.place := by
  have hplace := h.places.subset (List.mem_map_of_mem hmessage)
  rcases List.mem_map.mp hplace with ⟨before, hbefore, heq⟩
  exact ⟨before, hbefore, heq⟩

/-- The open chat stays open and shows no message of which `g` has not been there before. -/
structure KeepsAs {β : Type} (g : ChatMessage → β) (m m' : Manager) : Prop where
  chat : m'.activeChatId = m.activeChatId
  topic : m'.activeForumTopicId = m.activeForumTopicId
  shown : (m'.messages.map g).Sublist (m.messages.map g)

/-- The open chat stays open and shows messages of which `g` is what it was. -/
structure SameAs {β : Type} (g : ChatMessage → β) (m m' : Manager) : Prop where
  chat : m'.activeChatId = m.activeChatId
  topic : m'.activeForumTopicId = m.activeForumTopicId
  shown : m'.messages.map g = m.messages.map g

/-- `g` reads nothing that a handler changes of a message, but for the handlers of files, of new content and of
what has been read. -/
structure Fixed {β : Type} (g : ChatMessage → β) : Prop where
  editDate : ∀ message editDate, g { message with editDate } = g message
  reactions : ∀ message reactions, g { message with reactions } = g message
  interactionInfo : ∀ message interactionInfo, g { message with interactionInfo } = g message
  senderName : ∀ message senderName, g { message with senderName } = g message
  content : ∀ message content, g { message with content } = g message
  isDeleted : ∀ message isDeleted, g { message with isDeleted } = g message

/-- What of a message stays the same until TDLib says how far its chat has been read. -/
def ChatMessage.delivery (message : ChatMessage) : Place × Option MessageDeliveryStatus :=
  (message.place, message.deliveryStatus)

lemma fixed_delivery : Fixed ChatMessage.delivery :=
  ⟨fun _ _ => rfl, fun _ _ => rfl, fun _ _ => rfl, fun _ _ => rfl, fun _ _ => rfl, fun _ _ => rfl⟩

section KeepsAs

variable {β : Type} {g : ChatMessage → β}

lemma KeepsAs.exists_before (h : KeepsAs g m m') {message : ChatMessage}
    (hmessage : message ∈ m'.messages) : ∃ before ∈ m.messages, g before = g message :=
  List.mem_map.mp (h.shown.subset (List.mem_map_of_mem hmessage))

lemma KeepsAs.keeps (h : KeepsAs ChatMessage.place m m') : Keeps m m' := ⟨h.chat, h.topic, h.shown⟩

lemma KeepsAs.keeps_of_delivery (h : KeepsAs ChatMessage.delivery m m') : Keeps m m' := by
  have hplaces (messages : List ChatMessage) :
      (messages.map ChatMessage.delivery).map Prod.fst = messages.map ChatMessage.place := by
    rw [List.map_map]
    rfl
  refine ⟨h.chat, h.topic, ?_⟩
  rw [← hplaces, ← hplaces]
  exact h.shown.map _

lemma SameAs.same (hchat : m'.activeChatId = m.activeChatId)
    (htopic : m'.activeForumTopicId = m.activeForumTopicId) (hmessages : m'.messages = m.messages) :
    SameAs g m m' :=
  ⟨hchat, htopic, congrArg (List.map g) hmessages⟩

lemma SameAs.trans (h : SameAs g m m') (h' : SameAs g m' m'') : SameAs g m m'' :=
  ⟨h'.chat.trans h.chat, h'.topic.trans h.topic, h'.shown.trans h.shown⟩

lemma SameAs.keepsAs (h : SameAs g m m') : KeepsAs g m m' := ⟨h.chat, h.topic, h.shown ▸ .refl _⟩

end KeepsAs

/-- The open chat stays open and shows the same messages. -/
structure ShowsSame (m m' : Manager) : Prop where
  chat : m'.activeChatId = m.activeChatId
  topic : m'.activeForumTopicId = m.activeForumTopicId
  messages : m'.messages = m.messages

lemma ShowsSame.trans (h : ShowsSame m m') (h' : ShowsSame m' m'') : ShowsSame m m'' :=
  ⟨h'.chat.trans h.chat, h'.topic.trans h.topic, h'.messages.trans h.messages⟩

section Lists

variable (m) {β : Type} {g : ChatMessage → β} {f : ChatMessage → ChatMessage}

lemma sameAs_map (hf : ∀ message, g (f message) = g message) :
    SameAs g m (m.setMessages (m.messages.map f)) := by
  refine ⟨rfl, rfl, ?_⟩
  simp only [Manager.setMessages, List.map_map]
  exact List.map_congr_left fun message _ => hf message

lemma sameAs_modifyFirst (p : ChatMessage → Bool) (hf : ∀ message, g (f message) = g message) :
    SameAs g m (m.setMessages (modifyFirst p f m.messages)) :=
  ⟨rfl, rfl, map_modifyFirst (fun message _ => hf message) m.messages⟩

lemma keepsAs_filter (p : ChatMessage → Bool) : KeepsAs g m (m.setMessages (m.messages.filter p)) :=
  ⟨rfl, rfl, List.filter_sublist.map _⟩

end Lists

namespace Manager

variable (P : Platform) (m : Manager) {β : Type} {g : ChatMessage → β}

/-! ## Handlers that keep the messages -/

lemma updateMessage_sameAs (chatId messageId : Option ℤ) {f : ChatMessage → ChatMessage}
    (hf : ∀ message, g (f message) = g message) : SameAs g m (m.updateMessage chatId messageId f) := by
  rw [updateMessage.eq_def]
  split_ifs
  · exact SameAs.same rfl rfl rfl
  · cases messageId with
    | none => exact SameAs.same rfl rfl rfl
    | some messageId => exact sameAs_modifyFirst m _ hf

lemma handleMessageContent_sameAs (chatId messageId : Option ℤ) (newContent : Option RawContent)
    (hg : ∀ message content mediaFileId coverFileId,
      g { message with content, mediaFileId, coverFileId } = g message) :
    SameAs g m (m.handleMessageContent chatId messageId newContent) := by
  cases newContent with
  | none => exact SameAs.same rfl rfl rfl
  | some newContent => exact updateMessage_sameAs m chatId messageId fun message => hg message _ _ _

lemma markDeleted_fixed (hg : Fixed g) (preview : String) (message : ChatMessage) :
    g (markDeleted preview message) = g message :=
  (hg.content _ _).trans (hg.isDeleted message true)

lemma markDeleted_sameAs (hg : Fixed g) (preview : String) (ids : List ℤ) :
    SameAs g m (m.setMessages (ids.foldl
      (fun messages id => modifyFirst (·.id == id) (markDeleted preview) messages) m.messages)) := by
  induction ids generalizing m with
  | nil => exact SameAs.same rfl rfl rfl
  | cons id ids ih =>
      have hfirst : SameAs g m
          (m.setMessages (modifyFirst (·.id == id) (markDeleted preview) m.messages)) :=
        sameAs_modifyFirst m _ (markDeleted_fixed hg preview)
      exact hfirst.trans (ih _)

/-- Messages are taken away only by a deletion that is final and of which nothing is kept. -/
lemma handleDeleteMessages_sameAs (hg : Fixed g) (chatId : Option ℤ) (ids : List ℤ) {isPermanent : Bool}
    (h : isPermanent → m.settings.isAntiRecallEnabled) :
    SameAs g m (m.handleDeleteMessages chatId ids isPermanent) := by
  rw [handleDeleteMessages]
  split_ifs with hchat hkeep hpermanent
  · exact SameAs.same rfl rfl rfl
  · exact markDeleted_sameAs m hg _ ids
  · exact absurd (h hpermanent) (by simpa [hpermanent] using hkeep)
  · refine sameAs_map m fun message => ?_
    split_ifs
    · exact markDeleted_fixed hg _ message
    · rfl

lemma handleDeleteMessages_keeps (hg : Fixed g) (chatId : Option ℤ) (ids : List ℤ) (isPermanent : Bool) :
    KeepsAs g m (m.handleDeleteMessages chatId ids isPermanent) := by
  by_cases h : isPermanent → m.settings.isAntiRecallEnabled
  · exact (handleDeleteMessages_sameAs m hg chatId ids h).keepsAs
  · rw [Classical.not_imp, Bool.not_eq_true] at h
    rw [handleDeleteMessages]
    by_cases hchat : chatId ≠ m.activeChatId
    · rw [if_pos hchat]
      exact (SameAs.same rfl rfl rfl).keepsAs
    · simp only [if_neg hchat, h.1, h.2, Bool.and_false, Bool.false_eq_true, if_false, if_true]
      exact keepsAs_filter m _

lemma handleFileUpdate_sameAs (file : RawFile) (hg : ∀ message, g (updateFileOf file message) = g message) :
    SameAs g m (m.handleFileUpdate file) :=
  sameAs_map m hg

lemma cancelFile_sameAs (fileId : ℤ) (hg : ∀ message, g { message with fileTransfer := none } = g message) :
    SameAs g m (m.cancelFile fileId) := by
  have hsend : SameAs g m (m.send (.cancelFile fileId)) := SameAs.same rfl rfl rfl
  refine hsend.trans (sameAs_map _ fun message => ?_)
  split_ifs
  · exact hg message
  · rfl

lemma deleteMessageFromCache_sameAs (hg : Fixed g) (message : ChatMessage) :
    SameAs g m (m.deleteMessageFromCache message) := by
  rw [deleteMessageFromCache]
  split_ifs
  · exact SameAs.same rfl rfl rfl
  · exact sameAs_modifyFirst m _ fun current => hg.content current _

lemma refreshServiceContent_fixed (hg : Fixed g) (userId : ℤ) (message : ChatMessage) :
    g (m.refreshServiceContent P userId message) = g message := by
  rw [refreshServiceContent.eq_def]
  split
  · rfl
  · split_ifs
    · split
      · split_ifs
        · exact hg.content message _
        · rfl
      · rfl
    · rfl

lemma refreshMessageForUser_fixed (hg : Fixed g) (userId : ℤ) (name : String) (message : ChatMessage) :
    g (m.refreshMessageForUser P userId name message) = g message := by
  rw [refreshMessageForUser, refreshServiceContent_fixed P m hg]
  split_ifs
  · exact hg.senderName message _
  · rfl

lemma refreshMessagesForUser_sameAs (hg : Fixed g) (userId : ℤ) :
    SameAs g m (m.refreshMessagesForUser P userId) := by
  rw [refreshMessagesForUser]
  split
  · exact SameAs.same rfl rfl rfl
  · exact sameAs_map m (m.refreshMessageForUser_fixed P hg userId _)

lemma refreshChatsForUser_sameAs (userId : ℤ) : SameAs g m (m.refreshChatsForUser userId) := by
  rw [refreshChatsForUser]
  split
  · exact SameAs.same rfl rfl rfl
  · exact SameAs.same rfl rfl rfl

/-- What each part of `handleUser` keeps is kept by it. -/
lemma handleUser_of_parts {R : Manager → Manager → Prop} (hrefl : ∀ n, R n n)
    (htrans : ∀ {n₁ n₂ n₃}, R n₁ n₂ → R n₂ n₃ → R n₁ n₃) (user : RawUser)
    (hname : ∀ n, R n (n.setDisplayName user.id user.displayName))
    (hmessages : ∀ n, R n (n.refreshMessagesForUser P user.id))
    (hchats : ∀ n, R n (n.refreshChatsForUser user.id))
    (hself : ∀ n : Manager, R n { n with myUserId := some user.id })
    (hbot : ∀ n, R n (n.setBotUser user.id user.isBot))
    (hkinds : ∀ n, R n (n.refreshPrivateChatKinds user.id)) :
    R m (m.handleUser P user) := by
  have hnamed : R m (if user.displayName ≠ "" then
      ((m.setDisplayName user.id user.displayName).refreshMessagesForUser P user.id).refreshChatsForUser
        user.id
      else m) := by
    split_ifs
    · exact htrans (htrans (hname m) (hmessages _)) (hchats _)
    · exact hrefl m
  have hmine : ∀ n : Manager, R n (if user.isSelf then { n with myUserId := some user.id } else n) := by
    intro n
    split_ifs
    · exact hself n
    · exact hrefl n
  have hkept : ∀ n : Manager, R n (if n.botUsers user.id ≠ some user.isBot then
      (n.setBotUser user.id user.isBot).refreshPrivateChatKinds user.id else n) := by
    intro n
    split_ifs
    · exact htrans (hbot n) (hkinds _)
    · exact hrefl n
  exact htrans (htrans hnamed (hmine _)) (hkept _)

lemma handleUser_sameAs (hg : Fixed g) (user : RawUser) : SameAs g m (m.handleUser P user) := by
  have hsame : ∀ n : Manager, SameAs g n n := fun n => SameAs.same rfl rfl rfl
  refine handleUser_of_parts P m hsame SameAs.trans user ?_ (refreshMessagesForUser_sameAs P · hg user.id)
    (refreshChatsForUser_sameAs · user.id) ?_ ?_ ?_
  · exact fun n => SameAs.same rfl rfl rfl
  · exact fun n => SameAs.same rfl rfl rfl
  · exact fun n => SameAs.same rfl rfl rfl
  · exact fun n => SameAs.same rfl rfl rfl

lemma updateChat_sameAs (chatId : Option ℤ) (f : ChatSummary → ChatSummary) :
    SameAs g m (m.updateChat chatId f) := by
  rw [updateChat.eq_def]
  split
  · exact SameAs.same rfl rfl rfl
  · split
    · exact SameAs.same rfl rfl rfl
    · exact SameAs.same rfl rfl rfl

lemma handleChat_sameAs (raw : RawChat) : SameAs g m (m.handleChat P raw) := .same rfl rfl rfl

lemma handleChatLastMessage_sameAs (chatId : Option ℤ) (lastMessage : Option RawMessage) :
    SameAs g m (m.handleChatLastMessage P chatId lastMessage) := by
  rw [handleChatLastMessage.eq_def]
  split
  · exact SameAs.same rfl rfl rfl
  · split
    · exact SameAs.same rfl rfl rfl
    · exact SameAs.same rfl rfl rfl

lemma refreshDeliveryStatuses_sameAs
    (hg : ∀ message deliveryStatus, g { message with deliveryStatus } = g message) :
    SameAs g m m.refreshDeliveryStatuses := by
  rw [refreshDeliveryStatuses]
  split
  · exact SameAs.same rfl rfl rfl
  · refine sameAs_map m fun message => ?_
    rw [refreshDeliveryStatus]
    split_ifs
    · exact hg message _
    · exact hg message _
    · rfl

lemma handleUpdateChatReadOutbox_sameAs (chatId lastReadOutboxMessageId : Option ℤ)
    (hg : ∀ message deliveryStatus, g { message with deliveryStatus } = g message) :
    SameAs g m (m.handleUpdateChatReadOutbox chatId lastReadOutboxMessageId) := by
  cases chatId with
  | none => exact SameAs.same rfl rfl rfl
  | some chatId =>
      have hset : SameAs g m (m.setLastReadOutbox chatId (lastReadOutboxMessageId.getD 0)) :=
        SameAs.same rfl rfl rfl
      simp only [handleUpdateChatReadOutbox]
      split_ifs
      · exact (hset.trans (updateChat_sameAs _ _ _)).trans (refreshDeliveryStatuses_sameAs _ hg)
      · exact hset.trans (updateChat_sameAs _ _ _)

lemma requestChatHistory_sameAs (chatId : ℤ) (onlyLocal : Bool) (fromMessageId : ℤ) :
    SameAs g m (m.requestChatHistory chatId onlyLocal fromMessageId) := by
  rw [requestChatHistory]
  split_ifs
  · exact SameAs.same rfl rfl rfl
  · exact SameAs.same rfl rfl rfl

lemma handleHistoryError_sameAs (chatId : ℤ) (message : Option String) :
    SameAs g m (m.handleHistoryError chatId message) := by
  rw [handleHistoryError]
  split_ifs
  · exact SameAs.same rfl rfl rfl
  · have hsend : SameAs g m (m.send (.openChat chatId none)) := SameAs.same rfl rfl rfl
    exact (hsend.trans (requestChatHistory_sameAs _ chatId true 0)).trans
      (requestChatHistory_sameAs _ chatId false 0)
  · exact SameAs.same rfl rfl rfl

lemma handleError_sameAs (extra : Option Extra) (message : Option String) :
    SameAs g m (m.handleError extra message) := by
  rw [handleError.eq_def]
  split
  · exact handleHistoryError_sameAs m _ message
  · exact handleHistoryError_sameAs m _ message
  · split_ifs
    · exact SameAs.same rfl rfl rfl
    · exact SameAs.same rfl rfl rfl
  · split_ifs
    · exact SameAs.same rfl rfl rfl
    · exact SameAs.same rfl rfl rfl
  · exact SameAs.same rfl rfl rfl

lemma fireMessagesLoadTimeout_sameAs : SameAs g m m.fireMessagesLoadTimeout := by
  rw [fireMessagesLoadTimeout]
  split
  · exact SameAs.same rfl rfl rfl
  · split_ifs
    · exact SameAs.same rfl rfl rfl
    · exact SameAs.same rfl rfl rfl

/-! ## Single messages -/

/-- Whether a message goes into the list: it is of the open chat and is not blocked. -/
def admits (message : ChatMessage) : Bool :=
  m.activeChatId == some message.chatId &&
    !(m.settings.shouldBlockAds && AdBlockFilter.isSponsoredMessage message)

/-- The list with the message in the place of the one with its id, or among the others by date. -/
def insertInto (message : ChatMessage) (messages : List ChatMessage) : List ChatMessage :=
  if messages.any (·.id == message.id) then
    modifyFirst (·.id == message.id) (fun _ => message) messages
  else P.sortByDate.run (messages ++ [message])

lemma insertMessage_messages (message : ChatMessage) :
    (m.insertMessage P message).messages =
      if m.admits message then insertInto P message m.messages else m.messages := by
  rw [insertMessage, admits]
  by_cases hchat : m.activeChatId = some message.chatId
  · by_cases hblocked : m.settings.shouldBlockAds && AdBlockFilter.isSponsoredMessage message
    · simp [hchat, hblocked]
    · simp [hchat, hblocked, insertInto]
  · simp [hchat]

lemma insertMessage_chat (message : ChatMessage) :
    (m.insertMessage P message).activeChatId = m.activeChatId := by
  rw [insertMessage]
  split_ifs <;> rfl

lemma insertMessage_topic (message : ChatMessage) :
    (m.insertMessage P message).activeForumTopicId = m.activeForumTopicId := by
  rw [insertMessage]
  split_ifs <;> rfl

lemma replaceMessage_messages (message : ChatMessage) :
    (m.replaceMessage P message).messages =
      if m.activeChatId = some message.chatId ∧ m.messages.any (isPendingFor message) then
        modifyFirst (isPendingFor message) (fun _ => message) m.messages
      else (m.insertMessage P message).messages := by
  rw [replaceMessage]
  by_cases hchat : m.activeChatId = some message.chatId
  · by_cases hpending : m.messages.any (isPendingFor message)
    · simp [hchat, hpending, setMessages]
    · simp [hchat, hpending]
  · simp [hchat, insertMessage]

/-- What an update about the message with `oldMessageId` finds. -/
def findsOld (oldMessageId : Option ℤ) (message : ChatMessage) : Bool :=
  oldMessageId.any fun oldMessageId =>
    oldMessageId != message.id && m.messages.any (·.id == oldMessageId)

lemma findsOld_iff {oldMessageId : Option ℤ} {message : ChatMessage} :
    m.findsOld oldMessageId message ↔
      ∃ old, oldMessageId = some old ∧ old ≠ message.id ∧ old ∈ m.messages.map (·.id) := by
  rw [findsOld, Option.any_eq_true]
  simp only [Bool.and_eq_true, bne_iff_ne, any_key]

lemma handleSendSucceeded_messages (oldMessageId : Option ℤ) (raw : RawMessage) :
    (m.handleSendSucceeded P oldMessageId raw).messages =
      if m.findsOld oldMessageId (m.parseMessage P raw) then
        modifyFirst (fun item => some item.id == oldMessageId) (fun _ => m.parseMessage P raw) m.messages
      else (m.replaceMessage P (m.parseMessage P raw)).messages := by
  cases oldMessageId with
  | none => simp [handleSendSucceeded, findsOld]
  | some old =>
      by_cases hold : old ≠ (m.parseMessage P raw).id ∧ m.messages.any (·.id == old)
      · have hfinds : m.findsOld (some old) (m.parseMessage P raw) := by
          simpa [findsOld] using hold
        rw [if_pos hfinds]
        simp [handleSendSucceeded, hold, setMessages]
      · have hfinds : ¬m.findsOld (some old) (m.parseMessage P raw) := by
          simpa [findsOld] using hold
        rw [if_neg hfinds]
        simp only [handleSendSucceeded, if_neg hold]

lemma replaceMessage_keeps_open (message : ChatMessage) :
    (m.replaceMessage P message).activeChatId = m.activeChatId ∧
      (m.replaceMessage P message).activeForumTopicId = m.activeForumTopicId := by
  rw [replaceMessage]
  split_ifs
  · exact ⟨rfl, rfl⟩
  · exact ⟨rfl, rfl⟩
  · exact ⟨insertMessage_chat P m message, insertMessage_topic P m message⟩

lemma handleSendSucceeded_keeps_open (oldMessageId : Option ℤ) (raw : RawMessage) :
    (m.handleSendSucceeded P oldMessageId raw).activeChatId = m.activeChatId ∧
      (m.handleSendSucceeded P oldMessageId raw).activeForumTopicId = m.activeForumTopicId := by
  simp only [handleSendSucceeded]
  split
  · exact replaceMessage_keeps_open P m _
  · split_ifs
    · exact ⟨rfl, rfl⟩
    · exact replaceMessage_keeps_open P m _

lemma updateChatPreview_same (message : ChatMessage) : ShowsSame m (m.updateChatPreview message) := by
  rw [updateChatPreview]
  split
  · exact ⟨rfl, rfl, rfl⟩
  · exact ⟨rfl, rfl, rfl⟩

lemma showMessageNotification_same (message : ChatMessage) :
    ShowsSame m (m.showMessageNotification message) := by
  rw [showMessageNotification]
  split_ifs
  · exact ⟨rfl, rfl, rfl⟩
  · exact ⟨rfl, rfl, rfl⟩

/-- A new message that is not dropped changes the list as any other message does. -/
lemma handleNewMessage_same {raw : RawMessage} (h : m.messageMatchesActiveForumTopic raw) :
    ShowsSame (m.insertMessage P (m.parseMessage P raw)) (m.handleNewMessage P raw) := by
  simp only [handleNewMessage, h, Bool.not_true, Bool.false_eq_true, if_false]
  split_ifs
  · exact (updateChatPreview_same _ _).trans (showMessageNotification_same _ _)
  · exact updateChatPreview_same _ _

lemma handleNewMessage_of_mismatch {raw : RawMessage} (h : ¬m.messageMatchesActiveForumTopic raw) :
    m.handleNewMessage P raw = m := by
  simp [handleNewMessage, h]

/-! ## Pages of the history -/

/-- What is read of a page: nothing unless it is of what is open, and of a topic only its messages. -/
def pageOf (reply : MessagesReply) : List (Option RawMessage) :=
  match reply.extra with
  | some (.messageThreadHistory _) => []
  | some (.forumTopicHistory chatId forumTopicId) =>
      if m.activeChatId = some chatId ∧ m.activeForumTopicId = some forumTopicId then
        reply.messages.filter fun raw => raw.any m.messageMatchesActiveForumTopic
      else []
  | _ =>
      match reply.historyOf with
      | none => []
      | some (chatId, _) => if m.activeChatId = some chatId then reply.messages else []

/-- The messages that a page adds or replaces. -/
def batchOf (raws : List (Option RawMessage)) : List ChatMessage :=
  m.shownOf (P.sortById.run (m.parseMessages P raws))

lemma endLoadingIf_same (condition : Bool) : ShowsSame m (m.endLoadingIf condition) := by
  rw [endLoadingIf]
  split_ifs
  · exact ⟨rfl, rfl, rfl⟩
  · exact ⟨rfl, rfl, rfl⟩

lemma requestChatHistory_same (chatId : ℤ) (onlyLocal : Bool) (fromMessageId : ℤ) :
    ShowsSame m (m.requestChatHistory chatId onlyLocal fromMessageId) := by
  rw [requestChatHistory]
  split_ifs
  · exact ⟨rfl, rfl, rfl⟩
  · exact ⟨rfl, rfl, rfl⟩

lemma markMessagesRead_same (chatId : ℤ) (messages : List ChatMessage) :
    ShowsSame m (m.markMessagesRead chatId messages) := by
  simp only [markMessagesRead]
  split_ifs
  · exact ⟨rfl, rfl, rfl⟩
  · exact ⟨rfl, rfl, rfl⟩

lemma finishHistory_same (chatId : ℤ) : ShowsSame m (m.finishHistory chatId) := by
  have hend : ShowsSame m ({ m with messagesLoadTimeout := none } : Manager).endLoading :=
    ⟨rfl, rfl, rfl⟩
  simp only [finishHistory]
  split_ifs
  · exact hend
  · exact hend.trans (markMessagesRead_same _ chatId _)

lemma showPage_same (batch : List ChatMessage) (ends : Bool) :
    ShowsSame (m.mergeHistoryMessages P batch).1 (m.showPage P batch ends) := by
  have hcount : ShowsSame (m.mergeHistoryMessages P batch).1
      (m.mergeHistoryMessages P batch).1.countPage := ⟨rfl, rfl, rfl⟩
  exact hcount.trans (endLoadingIf_same _ _)

lemma handleChatHistory_same {chatId : ℤ} (h : m.activeChatId = some chatId) (isLocal : Bool)
    (raws : List (Option RawMessage)) :
    ShowsSame (m.mergeHistoryMessages P (P.sortById.run (m.parseMessages P raws))).1
      (m.handleChatHistory P chatId isLocal raws) := by
  have hpage := m.showPage_same P (P.sortById.run (m.parseMessages P raws)) (!isLocal)
  simp only [handleChatHistory, h, ne_eq, not_true, if_false]
  split_ifs
  · exact hpage.trans (requestChatHistory_same _ chatId isLocal _)
  · exact hpage
  · exact hpage.trans (finishHistory_same _ chatId)

lemma handleForumTopicHistory_same {chatId forumTopicId : ℤ} (h : m.activeChatId = some chatId)
    (htopic : m.activeForumTopicId = some forumTopicId) (raws : List (Option RawMessage)) :
    ShowsSame
      (m.mergeHistoryMessages P (P.sortById.run (m.parseMessages P
        (raws.filter fun raw => raw.any m.messageMatchesActiveForumTopic)))).1
      (m.handleForumTopicHistory P chatId forumTopicId raws) := by
  have hpage := m.showPage_same P (P.sortById.run (m.parseMessages P
    (raws.filter fun raw => raw.any m.messageMatchesActiveForumTopic))) false
  simp only [handleForumTopicHistory, h, htopic, ne_eq, not_true, or_self, if_false]
  split_ifs
  · exact hpage.trans ⟨rfl, rfl, rfl⟩
  · exact hpage.trans (finishHistory_same _ chatId)

/-- Nothing is merged. -/
lemma mergeHistoryMessages_nil : (m.mergeHistoryMessages P (P.sortById.run [])).1 = m := by
  have hnil : P.sortById.run [] = [] := (P.sortById.perm []).eq_nil
  simp [mergeHistoryMessages, hnil, shownOf, AdBlockFilter.filterMessages, merge, setMessages]

/-- **A reply changes the list as a merge of its page does.** -/
theorem handleMessages_same (reply : MessagesReply) :
    ShowsSame
      (m.mergeHistoryMessages P (P.sortById.run (m.parseMessages P (m.pageOf reply)))).1
      (m.handleMessages P reply) := by
  have hnil : ShowsSame (m.mergeHistoryMessages P (P.sortById.run (m.parseMessages P []))).1 m := by
    rw [show m.parseMessages P [] = [] from rfl, mergeHistoryMessages_nil]
    exact ⟨rfl, rfl, rfl⟩
  rw [handleMessages.eq_def]
  split
  · rename_i text hextra
    rw [pageOf, hextra]
    exact hnil
  · rename_i chatId forumTopicId hextra
    simp only [pageOf, hextra]
    by_cases hopen : m.activeChatId = some chatId ∧ m.activeForumTopicId = some forumTopicId
    · rw [if_pos hopen]
      exact handleForumTopicHistory_same P m hopen.1 hopen.2 reply.messages
    · have hclosed : m.activeChatId ≠ some chatId ∨ m.activeForumTopicId ≠ some forumTopicId := by
        tauto
      rw [if_neg hopen]
      simp only [handleForumTopicHistory, if_pos hclosed]
      exact hnil
  · rename_i hthread htopic
    have hpage : m.pageOf reply = match reply.historyOf with
        | none => []
        | some (chatId, _) => if m.activeChatId = some chatId then reply.messages else [] := by
      rw [pageOf.eq_def]
      split
      · exact absurd ‹_› (hthread _)
      · exact absurd ‹_› (htopic _ _)
      · rfl
    rw [hpage]
    rcases reply.historyOf with _ | ⟨chatId, isLocal⟩
    · exact hnil
    · by_cases hopen : m.activeChatId = some chatId
      · simp only [if_pos hopen]
        exact handleChatHistory_same P m hopen isLocal reply.messages
      · simp only [handleChatHistory, if_neg hopen, if_pos hopen, ne_eq]
        exact hnil

/-- What is merged is what was shown and the batch. -/
lemma mem_mergeHistoryMessages {batch : List ChatMessage} {message : ChatMessage}
    (h : message ∈ (m.mergeHistoryMessages P batch).1.messages) :
    message ∈ m.messages ∨ message ∈ m.shownOf batch := by
  have hmem : message ∈ (merge ChatMessage.id (m.shownOf batch) m.messages).1 := by
    have hmessages : (m.mergeHistoryMessages P batch).1.messages =
        if 0 < (merge ChatMessage.id (m.shownOf batch) m.messages).2 then
          P.sortById.run (merge ChatMessage.id (m.shownOf batch) m.messages).1
        else (merge ChatMessage.id (m.shownOf batch) m.messages).1 := rfl
    rw [hmessages] at h
    split_ifs at h
    · exact (P.sortById.perm _).mem_iff.mp h
    · exact h
  exact mem_of_mem_merge hmem

/-- What a page shows are messages of the page. -/
lemma mem_batchOf {raws : List (Option RawMessage)} {message : ChatMessage}
    (h : message ∈ m.batchOf P raws) :
    ∃ raw, some raw ∈ raws ∧ m.parseMessage P raw = message := by
  have hparsed : message ∈ P.sortById.run (m.parseMessages P raws) := by
    rw [batchOf, shownOf] at h
    split_ifs at h
    · exact (List.mem_filter.mp h).1
    · exact h
  rcases List.mem_map.mp ((P.sortById.perm _).mem_iff.mp hparsed) with ⟨raw, hraw, heq⟩
  rcases List.mem_filterMap.mp hraw with ⟨read, hread, rfl⟩
  exact ⟨raw, hread, heq⟩

end Manager

/-! ## All steps -/

/-- What a step can do to the messages that are shown. -/
inductive Change (P : Platform) (m : Manager) : Event → Manager → Prop where
  | keeps {e : Event} {m' : Manager} (h : Keeps m m') : Change P m e m'
  | opens {e : Event} {m' : Manager} (h : m'.messages = []) : Change P m e m'
  | deselects : Change P m .clearForumTopicSelection m.clearForumTopicSelection
  | history (reply : MessagesReply) :
      Change P m (.update (.messages reply)) (m.handleMessages P reply)
  | single (raw : RawMessage) : Change P m (.update (.message raw)) (m.handleSingleMessage P raw)
  | arrival (raw : RawMessage) : Change P m (.update (.newMessage raw)) (m.handleNewMessage P raw)
  | success (oldMessageId : Option ℤ) (raw : RawMessage) :
      Change P m (.update (.messageSendSucceeded oldMessageId raw))
        (m.handleSendSucceeded P oldMessageId raw)

/-- What a step can do to the messages that are shown and to how far they are delivered. -/
inductive Delivers (P : Platform) (m : Manager) : Event → Manager → Prop where
  | keeps {e : Event} {m' : Manager} (h : KeepsAs ChatMessage.delivery m m') : Delivers P m e m'
  | opens {e : Event} {m' : Manager} (h : m'.messages = []) : Delivers P m e m'
  | deselects : Delivers P m .clearForumTopicSelection m.clearForumTopicSelection
  | history (reply : MessagesReply) :
      Delivers P m (.update (.messages reply)) (m.handleMessages P reply)
  | single (raw : RawMessage) : Delivers P m (.update (.message raw)) (m.handleSingleMessage P raw)
  | arrival (raw : RawMessage) : Delivers P m (.update (.newMessage raw)) (m.handleNewMessage P raw)
  | success (oldMessageId : Option ℤ) (raw : RawMessage) :
      Delivers P m (.update (.messageSendSucceeded oldMessageId raw))
        (m.handleSendSucceeded P oldMessageId raw)
  | reads (chatId lastRead : Option ℤ) :
      Delivers P m (.update (.chatReadOutbox chatId lastRead)) (m.handleUpdateChatReadOutbox chatId lastRead)

/-- The user opens a chat or a topic, or closes the chat. -/
def Event.clearsMessages : Event → Bool
  | .openChat _ | .openChatAtMessage _ _ | .openForumTopic _ _ | .closeChat => true
  | _ => false

/-- What a step can do to the messages that are shown and to what `g` reads of them. -/
inductive Alters {β : Type} (g : ChatMessage → β) (P : Platform) (m : Manager) : Event → Manager → Prop where
  | same {e : Event} {m' : Manager} (h : SameAs g m m') : Alters g P m e m'
  | opens {e : Event} {m' : Manager} (he : e.clearsMessages) (h : m'.messages = []) : Alters g P m e m'
  | deselects : Alters g P m .clearForumTopicSelection m.clearForumTopicSelection
  | history (reply : MessagesReply) :
      Alters g P m (.update (.messages reply)) (m.handleMessages P reply)
  | single (raw : RawMessage) : Alters g P m (.update (.message raw)) (m.handleSingleMessage P raw)
  | arrival (raw : RawMessage) : Alters g P m (.update (.newMessage raw)) (m.handleNewMessage P raw)
  | success (oldMessageId : Option ℤ) (raw : RawMessage) :
      Alters g P m (.update (.messageSendSucceeded oldMessageId raw))
        (m.handleSendSucceeded P oldMessageId raw)
  | deletes (chatId : Option ℤ) (ids : List ℤ) (isPermanent : Bool) :
      Alters g P m (.update (.deleteMessages chatId ids isPermanent))
        (m.handleDeleteMessages chatId ids isPermanent)
  | reads (chatId lastRead : Option ℤ) :
      Alters g P m (.update (.chatReadOutbox chatId lastRead)) (m.handleUpdateChatReadOutbox chatId lastRead)
  | changes (chatId messageId : Option ℤ) (newContent : Option RawContent) :
      Alters g P m (.update (.messageContent chatId messageId newContent))
        (m.handleMessageContent chatId messageId newContent)
  | transfers (file : RawFile) : Alters g P m (.update (.file file)) (m.handleFileUpdate file)
  | cancels (fileId : ℤ) : Alters g P m (.cancelFile fileId) (m.cancelFile fileId)

section Alters

variable {P : Platform}

lemma Alters.delivers {e : Event} (h : Alters ChatMessage.delivery P m e m') : Delivers P m e m' := by
  cases h with
  | same hsame => exact .keeps hsame.keepsAs
  | opens _ hnil => exact .opens hnil
  | deselects => exact .deselects
  | history reply => exact .history reply
  | single raw => exact .single raw
  | arrival raw => exact .arrival raw
  | success oldMessageId raw => exact .success oldMessageId raw
  | deletes chatId ids isPermanent =>
      exact .keeps (m.handleDeleteMessages_keeps fixed_delivery chatId ids isPermanent)
  | reads chatId lastRead => exact .reads chatId lastRead
  | changes chatId messageId newContent =>
      exact .keeps (m.handleMessageContent_sameAs chatId messageId newContent fun _ _ _ _ => rfl).keepsAs
  | transfers file =>
      refine .keeps (m.handleFileUpdate_sameAs file fun message => ?_).keepsAs
      simp only [Manager.updateFileOf]
      split_ifs <;> rfl
  | cancels fileId => exact .keeps (m.cancelFile_sameAs fileId fun _ => rfl).keepsAs

lemma Delivers.change {e : Event} (h : Delivers P m e m') : Change P m e m' := by
  cases h with
  | keeps hkeeps => exact .keeps hkeeps.keeps_of_delivery
  | opens hnil => exact .opens hnil
  | deselects => exact .deselects
  | history reply => exact .history reply
  | single raw => exact .single raw
  | arrival raw => exact .arrival raw
  | success oldMessageId raw => exact .success oldMessageId raw
  | reads chatId lastRead =>
      have hsame : SameAs ChatMessage.place m (m.handleUpdateChatReadOutbox chatId lastRead) :=
        m.handleUpdateChatReadOutbox_sameAs chatId lastRead fun _ _ => rfl
      exact .keeps hsame.keepsAs.keeps

end Alters

lemma update_alters {β : Type} {g : ChatMessage → β} (hg : Fixed g) (P : Platform) (m : Manager)
    (update : Update) : Alters g P m (.update update) (m.handleUpdate P update) := by
  cases update with
  | user user => exact .same (m.handleUser_sameAs P hg user)
  | newChat chat => exact .same (m.handleChat_sameAs P chat)
  | chat chat => exact .same (m.handleChat_sameAs P chat)
  | chatLastMessage chatId last => exact .same (m.handleChatLastMessage_sameAs P chatId last)
  | chatNotificationSettings chatId isMuted => exact .same (m.updateChat_sameAs chatId _)
  | chatReadInbox chatId unreadCount => exact .same (m.updateChat_sameAs chatId _)
  | chatReadOutbox chatId lastRead => exact .reads chatId lastRead
  | messages reply => exact .history reply
  | message raw => exact .single raw
  | newMessage raw => exact .arrival raw
  | messageSendSucceeded oldMessageId raw => exact .success oldMessageId raw
  | messageEdited chatId messageId editDate =>
      exact .same (m.updateMessage_sameAs chatId messageId fun message => hg.editDate message _)
  | messageContent chatId messageId newContent => exact .changes chatId messageId newContent
  | messageReactions chatId messageId reactions =>
      exact .same (m.updateMessage_sameAs chatId messageId fun message => hg.reactions message _)
  | messageInteractionInfo chatId messageId info =>
      exact .same (m.updateMessage_sameAs chatId messageId fun message => hg.interactionInfo message _)
  | deleteMessages chatId ids isPermanent => exact .deletes chatId ids isPermanent
  | file file => exact .transfers file
  | error extra message => exact .same (m.handleError_sameAs extra message)
  | other type => exact .same (.same rfl rfl rfl)

lemma openChat_messages (m : Manager) (chatId : ℤ) : (m.openChat chatId).messages = [] := by
  have hfirst := ((m.startLoading chatId none).send (.openChat chatId
    (some (.openChat chatId)))).requestChatHistory_same chatId true 0
  exact (hfirst.trans (Manager.requestChatHistory_same _ chatId false 0)).messages

/-- **What a step can do** to the messages that are shown and to what of them only few handlers change. -/
theorem step_alters {β : Type} {g : ChatMessage → β} (hg : Fixed g) (P : Platform) (m : Manager) (e : Event) :
    Alters g P m e (m.step P e) := by
  cases e with
  | openChat chatId => exact .opens rfl (openChat_messages m chatId)
  | openChatAtMessage chatId messageId => exact .opens rfl (openChat_messages m chatId)
  | openForumTopic chatId forumTopicId => exact .opens rfl rfl
  | clearForumTopicSelection => exact .deselects
  | closeChat => exact .opens rfl rfl
  | request type => exact .same (.same rfl rfl rfl)
  | cancelFile fileId => exact .cancels fileId
  | deleteMessageFromCache message => exact .same (m.deleteMessageFromCache_sameAs hg message)
  | changeSettings settings => exact .same (.same rfl rfl rfl)
  | messagesLoadTimeout => exact .same m.fireMessagesLoadTimeout_sameAs
  | update update => exact update_alters hg P m update

lemma step_delivers (P : Platform) (m : Manager) (e : Event) : Delivers P m e (m.step P e) :=
  (step_alters fixed_delivery P m e).delivers

/-- What a step can do to the places of the messages, in every state and for every event. -/
theorem step_change (P : Platform) (m : Manager) (e : Event) : Change P m e (m.step P e) :=
  (step_delivers P m e).change

/-! ## Messages that come in -/

/-- The event brings the message in. -/
def Manager.Enters (P : Platform) (m : Manager) (e : Event) (message : ChatMessage) : Prop :=
  match e with
  | .update (.messages reply) => message ∈ m.batchOf P (m.pageOf reply)
  | .update (.message raw) => message = m.parseMessage P raw ∧ m.admits message
  | .update (.newMessage raw) =>
      message = m.parseMessage P raw ∧ m.messageMatchesActiveForumTopic raw ∧ m.admits message
  | .update (.messageSendSucceeded oldMessageId raw) =>
      message = m.parseMessage P raw ∧
        (m.findsOld oldMessageId message ∨
          m.activeChatId = some message.chatId ∧ m.messages.any (Manager.isPendingFor message) ∨
          m.admits message)
  | _ => False

lemma admits_chat {message : ChatMessage} (h : m.admits message) :
    m.activeChatId = some message.chatId := by
  rw [Manager.admits, Bool.and_eq_true, beq_iff_eq] at h
  exact h.1

lemma mem_insertInto {P : Platform} {message item : ChatMessage} {messages : List ChatMessage}
    (h : item ∈ Manager.insertInto P message messages) : item ∈ messages ∨ item = message := by
  rw [Manager.insertInto] at h
  split_ifs at h
  · rcases mem_modifyFirst h with h | ⟨-, -, -, h⟩
    · exact .inl h
    · exact .inr h
  · simpa using (P.sortByDate.perm _).mem_iff.mp h

lemma mem_insertMessage {P : Platform} {message item : ChatMessage}
    (h : item ∈ (m.insertMessage P message).messages) :
    item ∈ m.messages ∨ item = message ∧ m.admits message := by
  rw [Manager.insertMessage_messages] at h
  split_ifs at h with hadmits
  · exact (mem_insertInto h).imp_right fun heq => ⟨heq, hadmits⟩
  · exact .inl h

section Mem

variable {P : Platform} {message : ChatMessage} {raw : RawMessage}

lemma mem_handleMessages {reply : MessagesReply} (h : message ∈ (m.handleMessages P reply).messages) :
    message ∈ m.messages ∨ m.Enters P (.update (.messages reply)) message := by
  rw [(m.handleMessages_same P reply).messages] at h
  exact m.mem_mergeHistoryMessages P h

lemma mem_handleSingleMessage (h : message ∈ (m.handleSingleMessage P raw).messages) :
    message ∈ m.messages ∨ m.Enters P (.update (.message raw)) message := by
  refine (mem_insertMessage h).imp_right ?_
  rintro ⟨rfl, hadmits⟩
  exact ⟨rfl, hadmits⟩

lemma mem_handleNewMessage (h : message ∈ (m.handleNewMessage P raw).messages) :
    message ∈ m.messages ∨ m.Enters P (.update (.newMessage raw)) message := by
  by_cases hmatch : m.messageMatchesActiveForumTopic raw
  · rw [(m.handleNewMessage_same P hmatch).messages] at h
    refine (mem_insertMessage h).imp_right ?_
    rintro ⟨rfl, hadmits⟩
    exact ⟨rfl, hmatch, hadmits⟩
  · rw [m.handleNewMessage_of_mismatch P hmatch] at h
    exact .inl h

lemma mem_handleSendSucceeded {oldMessageId : Option ℤ}
    (h : message ∈ (m.handleSendSucceeded P oldMessageId raw).messages) :
    message ∈ m.messages ∨ m.Enters P (.update (.messageSendSucceeded oldMessageId raw)) message := by
  rw [Manager.handleSendSucceeded_messages] at h
  split_ifs at h with hold
  · rcases mem_modifyFirst h with h | ⟨-, -, -, rfl⟩
    · exact .inl h
    · exact .inr ⟨rfl, .inl hold⟩
  · rw [Manager.replaceMessage_messages] at h
    split_ifs at h with hpending
    · rcases mem_modifyFirst h with h | ⟨-, -, -, rfl⟩
      · exact .inl h
      · exact .inr ⟨rfl, .inr (.inl hpending)⟩
    · rcases mem_insertMessage h with h | ⟨rfl, hadmits⟩
      · exact .inl h
      · exact .inr ⟨rfl, .inr (.inr hadmits)⟩

end Mem

/-- **Where the messages that are shown come from**: if any are shown after a step, the same chat is
open, and each was shown before or comes in by the step. -/
theorem step_shows {P : Platform} {e : Event} {message : ChatMessage}
    (h : message ∈ (m.step P e).messages) :
    (m.step P e).activeChatId = m.activeChatId ∧
      ((m.step P e).activeForumTopicId = m.activeForumTopicId ∨
        (m.step P e).activeForumTopicId = none) ∧
      ((∃ before ∈ m.messages, before.place = message.place) ∨ m.Enters P e message) := by
  have hkept (hmem : message ∈ m.messages) : ∃ before ∈ m.messages, before.place = message.place :=
    ⟨message, hmem, rfl⟩
  have hchange := step_change P m e
  generalize m.step P e = m' at h hchange
  cases hchange with
  | keeps hkeeps => exact ⟨hkeeps.chat, .inl hkeeps.topic, .inl (hkeeps.exists_place h)⟩
  | opens hnil => simp [hnil] at h
  | deselects => exact ⟨rfl, .inr rfl, .inl (hkept h)⟩
  | history reply =>
      have hsame := m.handleMessages_same P reply
      exact ⟨hsame.chat, .inl hsame.topic, (mem_handleMessages h).imp_left hkept⟩
  | single raw =>
      exact ⟨m.insertMessage_chat P _, .inl (m.insertMessage_topic P _),
        (mem_handleSingleMessage h).imp_left hkept⟩
  | arrival raw =>
      have hopen : (m.handleNewMessage P raw).activeChatId = m.activeChatId ∧
          (m.handleNewMessage P raw).activeForumTopicId = m.activeForumTopicId := by
        by_cases hmatch : m.messageMatchesActiveForumTopic raw
        · have hsame := m.handleNewMessage_same P hmatch
          rw [hsame.chat, hsame.topic]
          exact ⟨m.insertMessage_chat P _, m.insertMessage_topic P _⟩
        · rw [m.handleNewMessage_of_mismatch P hmatch]
          exact ⟨rfl, rfl⟩
      exact ⟨hopen.1, .inl hopen.2, (mem_handleNewMessage h).imp_left hkept⟩
  | success oldMessageId raw =>
      have hopen := m.handleSendSucceeded_keeps_open P oldMessageId raw
      exact ⟨hopen.1, .inl hopen.2, (mem_handleSendSucceeded h).imp_left hkept⟩

/-- How far a message is delivered stays as it was, too, unless its chat has been read. -/
lemma step_delivery {P : Platform} {e : Event} {message : ChatMessage}
    (hread : ∀ chatId lastRead, e ≠ .update (.chatReadOutbox chatId lastRead))
    (h : message ∈ (m.step P e).messages) :
    (∃ before ∈ m.messages, before.delivery = message.delivery) ∨ m.Enters P e message := by
  have hkept (hmem : message ∈ m.messages) :
      ∃ before ∈ m.messages, before.delivery = message.delivery := ⟨message, hmem, rfl⟩
  have hdelivers := step_delivers P m e
  generalize m.step P e = m' at h hdelivers
  cases hdelivers with
  | keeps hkeeps => exact .inl (hkeeps.exists_before h)
  | opens hnil => simp [hnil] at h
  | deselects => exact .inl (hkept h)
  | history reply => exact (mem_handleMessages h).imp_left hkept
  | single raw => exact (mem_handleSingleMessage h).imp_left hkept
  | arrival raw => exact (mem_handleNewMessage h).imp_left hkept
  | success oldMessageId raw => exact (mem_handleSendSucceeded h).imp_left hkept
  | reads chatId lastRead => exact absurd rfl (hread chatId lastRead)

end RioGram.Chats
