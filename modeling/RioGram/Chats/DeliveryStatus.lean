import RioGram.Chats.Unread

/-!
# How far messages have been delivered

An outgoing message counts as read when the other side has read its chat that far.  TDLib reports how far with
a chat object and when it changes; the manager keeps only the latter, and looks at what it keeps of the open
chat when it reads a message of any chat.  `ReadWatch` has, next to the manager, all that was reported, and the
id of the message that the list of chats shows of each chat.

* `delivery_as_reported` says when exactly the messages are shown as read that are.
* `other_chat_read` has runs in which others are.
-/

namespace RioGram.Chats

open Reaching

/-! ## Runs -/

/-- The id is at most the largest of the positions. -/
def IsRead (positions : List ℤ) (id : ℤ) : Prop := ∃ position ∈ positions, id ≤ position

instance (positions : List ℤ) (id : ℤ) : Decidable (IsRead positions id) :=
  inferInstanceAs (Decidable (∃ position ∈ positions, id ≤ position))

/-- How far the event reports that a chat has been read. -/
def Event.reports : Event → Option (ℤ × ℤ)
  | .update (.newChat raw) | .update (.chat raw) => some (raw.id, raw.lastReadOutboxMessageId)
  | .update (.chatReadOutbox (some chatId) lastRead) => some (chatId, lastRead.getD 0)
  | _ => none

/-- The message that is shown as the last of a chat from the event on. -/
def Manager.showsLast (m : Manager) : Event → Option (ℤ × ℤ)
  | .update (.newChat raw) | .update (.chat raw) => raw.lastMessage.map fun last => (raw.id, last.id)
  | .update (.chatLastMessage (some chatId) (some last)) => some (chatId, last.id)
  | .update (.newMessage raw) =>
      if m.messageMatchesActiveForumTopic raw then some (raw.chatId, raw.id) else none
  | _ => none

structure ReadWatch where
  manager : Manager := {}
  /-- The positions that have been reported of each chat. -/
  reported : ℤ → List ℤ := fun _ => []
  lastIds : ℤ → ℤ := fun _ => 0

namespace ReadWatch

variable (P : Platform) (w : ReadWatch)

/-- What has been reported of a chat after an event. -/
def report (e : Event) (chatId : ℤ) : List ℤ :=
  match e.reports with
  | none => w.reported chatId
  | some (readId, position) =>
      if chatId = readId then position :: w.reported chatId else w.reported chatId

def lastId (e : Event) (chatId : ℤ) : ℤ :=
  match w.manager.showsLast e with
  | none => w.lastIds chatId
  | some (shownId, id) => if chatId = shownId then id else w.lastIds chatId

def step (e : Event) : ReadWatch where
  manager := w.manager.step P e
  reported := w.report e
  lastIds := w.lastId e

/-- A message that is neither being sent nor failed is shown as read if and only if it has been read. -/
def IsRight (status : Option MessageDeliveryStatus) (positions : List ℤ) (id : ℤ) : Prop :=
  Manager.isSettled status → (status = some .read ↔ IsRead positions id)

/-- This holds of the outgoing messages that are shown, also of the last ones in the list of chats. -/
structure Faithful (w : ReadWatch) : Prop where
  messages : ∀ message ∈ w.manager.messages, message.isOutgoing →
    IsRight message.deliveryStatus (w.reported message.chatId) message.id
  chats : ∀ chatId chat, w.manager.chatsById chatId = some chat → chat.lastMessageIsOutgoing →
    IsRight chat.lastMessageDeliveryStatus (w.reported chatId) (w.lastIds chatId)

/-- The position is on the same side of the message, if this is outgoing and sent, as the largest of the
positions; only positive ids and positions count. -/
def SameSide (raw : RawMessage) (position : ℤ) (positions : List ℤ) : Prop :=
  raw.isOutgoing →
    match raw.sendingState with
    | some .pending | some .failed => True
    | some (.other _) => ¬IsRead positions raw.id
    | none => (0 < raw.id ∧ 0 < position ∧ raw.id ≤ position) ↔ IsRead positions raw.id

/-- A position that is reported reads none of these messages. -/
def Passes (positions : List ℤ) (position : ℤ) (id : ℤ) : Prop := id ≤ position → IsRead positions id

instance (positions : List ℤ) (position id : ℤ) : Decidable (Passes positions position id) :=
  inferInstanceAs (Decidable (id ≤ position → IsRead positions id))

/-- The last message that is shown of a chat is outgoing and settled. -/
def LastSettled (m : Manager) (chatId : ℤ) : Prop :=
  ∃ chat, m.chatsById chatId = some chat ∧ chat.lastMessageIsOutgoing ∧
    Manager.isSettled chat.lastMessageDeliveryStatus

/-- When a message is read and shown, the position that is used lies on the same side of it as the largest
that was reported of its chat.  A position that comes with a chat lies beyond no shown message of the chat
that has not been read, nor beyond its last one unless that comes as well.  When a chat has been read, its last
message has, and every shown message is on the same side of the new position as of the largest, if the chat is
open; otherwise it lies beyond no shown message of the chat that has not been read. -/
def Timely (e : Event) : Prop :=
  match e with
  | .update (.messages reply) => ∀ raw, some raw ∈ w.manager.pageOf reply →
      SameSide raw w.manager.lastReadOutboxForActiveChat (w.reported raw.chatId)
  | .update (.message raw) => w.manager.activeChatId = some raw.chatId →
      SameSide raw w.manager.lastReadOutboxForActiveChat (w.reported raw.chatId)
  | .update (.newMessage raw) => w.manager.messageMatchesActiveForumTopic raw →
      w.manager.activeChatId = some raw.chatId ∨ (w.manager.chatsById raw.chatId).isSome →
        SameSide raw w.manager.lastReadOutboxForActiveChat (w.reported raw.chatId)
  | .update (.messageSendSucceeded oldMessageId raw) =>
      (∃ old, oldMessageId = some old ∧ old ≠ raw.id ∧ old ∈ w.manager.messages.map (·.id)) ∨
          w.manager.activeChatId = some raw.chatId →
        SameSide raw w.manager.lastReadOutboxForActiveChat (w.reported raw.chatId)
  | .update (.chatLastMessage (some chatId) (some last)) => (w.manager.chatsById chatId).isSome →
      SameSide last ((w.manager.lastReadOutboxMessageId chatId).getD 0) (w.reported chatId)
  | .update (.newChat raw) | .update (.chat raw) =>
      let position := raw.lastReadOutboxMessageId
      (∀ message ∈ w.manager.messages, message.chatId = raw.id → message.isOutgoing →
        Manager.isSettled message.deliveryStatus → Passes (w.reported raw.id) position message.id) ∧
      match raw.lastMessage with
      | some last => SameSide last position (position :: w.reported raw.id)
      | none => LastSettled w.manager raw.id → Passes (w.reported raw.id) position (w.lastIds raw.id)
  | .update (.chatReadOutbox (some chatId) lastRead) =>
      let position := lastRead.getD 0
      (LastSettled w.manager chatId → IsRead (position :: w.reported chatId) (w.lastIds chatId)) ∧
      ∀ message ∈ w.manager.messages, message.isOutgoing → Manager.isSettled message.deliveryStatus →
        if w.manager.activeChatId = some chatId then
          (0 < message.id ∧ message.id ≤ position) ↔ IsRead (w.report e message.chatId) message.id
        else message.chatId = chatId → Passes (w.reported chatId) position message.id
  | _ => True

end ReadWatch

/-! ## What is shown of the last messages -/

/-- What the list of chats shows of how far the last message has been delivered. -/
def ChatSummary.lastDelivery (chat : ChatSummary) : Bool × Option MessageDeliveryStatus :=
  (chat.lastMessageIsOutgoing, chat.lastMessageDeliveryStatus)

def Manager.lastDelivery (m : Manager) (chatId : ℤ) : Option (Bool × Option MessageDeliveryStatus) :=
  (m.chatsById chatId).map ChatSummary.lastDelivery

namespace Manager

variable {P : Platform} {m : Manager}

lemma setChat_lastDelivery (chatId : ℤ) (chat : ChatSummary) (i : ℤ) :
    (m.setChat chatId chat).lastDelivery i =
      if i = chatId then some chat.lastDelivery else m.lastDelivery i :=
  setChat_map m chatId chat i

/-- What is shown of a message that is the last one now. -/
def shownOfLast (last : RawMessage) (position : ℤ) (shown : Bool × Option MessageDeliveryStatus) :
    Bool × Option MessageDeliveryStatus :=
  (last.isOutgoing, parseDeliveryStatus last position <|> shown.2)

lemma handleChatLastMessage_lastDelivery (chatId : ℤ) (last : RawMessage) (i : ℤ) :
    (m.handleChatLastMessage P (some chatId) (some last)).lastDelivery i =
      if i = chatId then
        (m.lastDelivery i).map (shownOfLast last ((m.lastReadOutboxMessageId chatId).getD 0))
      else m.lastDelivery i := by
  refine map_of_changes m (fun hnone => ?_) (fun chat hchat => ?_) i
  · simp only [handleChatLastMessage, hnone]
    rfl
  · simp only [handleChatLastMessage, hchat]
    exact ⟨_, rfl, rfl⟩

lemma updateChatPreview_lastDelivery (message : ChatMessage) (i : ℤ) :
    (m.updateChatPreview message).lastDelivery i =
      if i = message.chatId then
        (m.lastDelivery i).map fun shown => (message.isOutgoing, message.deliveryStatus <|> shown.2)
      else m.lastDelivery i := by
  refine map_of_changes m (fun hnone => ?_) (fun chat hchat => ?_) i
  · rw [updateChatPreview, hnone]
    rfl
  · rw [updateChatPreview, hchat]
    exact ⟨_, rfl, rfl⟩

/-- The last message of a chat that has been read is shown as read. -/
def shownOfRead (shown : Bool × Option MessageDeliveryStatus) : Bool × Option MessageDeliveryStatus :=
  if shown.1 && shown.2.isSome && isSettled shown.2 then (shown.1, some .read) else shown

lemma handleUpdateChatReadOutbox_lastDelivery (chatId : ℤ) (lastRead : Option ℤ) (i : ℤ) :
    (m.handleUpdateChatReadOutbox (some chatId) lastRead).lastDelivery i =
      if i = chatId then (m.lastDelivery i).map shownOfRead else m.lastDelivery i := by
  have hrefresh (n : Manager) :
      (if n.activeChatId = some chatId then n.refreshDeliveryStatuses else n).chatsById = n.chatsById := by
    split_ifs
    · rw [refreshDeliveryStatuses]
      split
      · rfl
      · rfl
    · rfl
  refine map_of_changes m (fun hnone => ?_) (fun chat hchat => ?_) i
  · simp only [handleUpdateChatReadOutbox, hrefresh]
    simp only [updateChat, setLastReadOutbox, hnone]
  · simp only [handleUpdateChatReadOutbox, hrefresh]
    simp only [updateChat, setLastReadOutbox, hchat]
    refine ⟨_, rfl, ?_⟩
    by_cases hshown : chat.lastMessageIsOutgoing && chat.lastMessageDeliveryStatus.isSome &&
      isSettled chat.lastMessageDeliveryStatus
    · simp [shownOfRead, ChatSummary.lastDelivery, hshown]
    · simp [shownOfRead, ChatSummary.lastDelivery, hshown]

lemma handleChat_lastDelivery (raw : RawChat) (i : ℤ) : (m.handleChat P raw).lastDelivery i =
    if i = raw.id then
      some (match raw.lastMessage with
        | some last => shownOfLast last raw.lastReadOutboxMessageId ((m.lastDelivery i).getD (false, none))
        | none => (m.lastDelivery i).getD (false, none))
    else m.lastDelivery i := by
  have henrich (n : Manager) (summary : ChatSummary) :
      (n.enrichChatSummarySender P summary).lastDelivery = summary.lastDelivery ∧
        (n.enrichChatSummarySender P summary).lastMessage = summary.lastMessage ∧
        (n.enrichChatSummarySender P summary).id = summary.id := by
    rw [enrichChatSummarySender]
    split_ifs
    · exact ⟨rfl, rfl, rfl⟩
    · split
      · exact ⟨rfl, rfl, rfl⟩
      · split_ifs
        · exact ⟨rfl, rfl, rfl⟩
        · exact ⟨rfl, rfl, rfl⟩
  have hmerge (summary : ChatSummary) (existing : Option ChatSummary) :
      (mergeChat summary existing).lastDelivery =
        if summary.lastMessage.isSome then
          (summary.lastDelivery.1, summary.lastDelivery.2 <|> existing.bind (·.lastMessageDeliveryStatus))
        else (existing.map ChatSummary.lastDelivery).getD summary.lastDelivery := by
    cases existing with
    | none => simp [mergeChat, ChatSummary.lastDelivery]
    | some existing =>
        by_cases hlast : summary.lastMessage.isSome
        · simp [mergeChat, ChatSummary.lastDelivery, hlast]
        · simp [mergeChat, ChatSummary.lastDelivery, hlast]
  rw [handleChat, upsertChat]
  simp only [setChat_lastDelivery, (henrich _ _).1, (henrich _ _).2.1, (henrich _ _).2.2, hmerge]
  have hid : (m.parseChat raw).id = raw.id := rfl
  rw [hid]
  by_cases hi : i = raw.id
  · subst hi
    rw [if_pos rfl, if_pos rfl]
    cases hlast : raw.lastMessage with
    | none => simp [parseChat, hlast, parseLastMessageMeta, lastDelivery, ChatSummary.lastDelivery]
    | some last =>
        simp only [parseChat, hlast, parseLastMessageMeta, Option.isSome_some, if_true]
        cases hchat : m.chatsById raw.id with
        | none => simp [lastDelivery, hchat, ChatSummary.lastDelivery, shownOfLast]
        | some chat => simp [lastDelivery, hchat, ChatSummary.lastDelivery, shownOfLast]
  · rw [if_neg hi, if_neg hi, if_neg hi]

lemma handleNewMessage_lastDelivery {raw : RawMessage} (hmatch : m.messageMatchesActiveForumTopic raw) (i : ℤ) :
    (m.handleNewMessage P raw).lastDelivery i =
      if i = raw.chatId then
        (m.lastDelivery i).map (shownOfLast raw m.lastReadOutboxForActiveChat)
      else m.lastDelivery i := by
  have hpreview := updateChatPreview_lastDelivery (m := m.insertMessage P (m.parseMessage P raw))
    (m.parseMessage P raw) i
  have hinsert : (m.insertMessage P (m.parseMessage P raw)).lastDelivery i = m.lastDelivery i := by
    rw [lastDelivery, insertMessage_chats, lastDelivery]
  rw [hinsert] at hpreview
  rw [lastDelivery, handleNewMessage_chats P m hmatch]
  exact hpreview

/-- Other events leave the last messages as they are. -/
lemma step_keepsLast {e : Event} (hreports : e.reports = none) (hlast : m.showsLast e = none) :
    KeepsChats ChatSummary.lastDelivery m (m.step P e) := by
  cases hchanges : e.changesChat with
  | false =>
      exact step_keepsChats hchanges (fun _ _ => rfl) (fun _ _ => rfl) (fun _ _ => rfl) fun _ _ => rfl
  | true =>
      rw [Event.changesChat.eq_def] at hchanges
      split at hchanges
      · cases hreports
      · cases hreports
      · rename_i chatId last
        cases chatId with
        | none => exact keepsChats_of_chats rfl
        | some chatId =>
            cases last with
            | some last => cases hlast
            | none =>
                simp only [step, handleUpdate, handleChatLastMessage]
                split
                · exact keepsChats_of_chats rfl
                · rename_i chat hchat
                  exact setChat_keepsChats m hchat rfl
      · rename_i chatId lastRead
        cases chatId with
        | none => exact keepsChats_of_chats rfl
        | some chatId => cases hreports
      · rename_i raw
        have hmismatch : ¬m.messageMatchesActiveForumTopic raw := by
          intro hmatch
          simp [showsLast, hmatch] at hlast
        exact keepsChats_of_chats (congrArg chatsById (m.handleNewMessage_of_mismatch P hmismatch))
      · cases hchanges

end Manager

/-! ## What holds in every run -/

namespace ReadWatch

variable {P : Platform} {w : ReadWatch} {positions positions' : List ℤ} {id position : ℤ}
  {status : Option MessageDeliveryStatus}

/-- An outgoing last message has a status, and the right one. -/
def ShownRight (shown : Bool × Option MessageDeliveryStatus) (positions : List ℤ) (id : ℤ) : Prop :=
  shown.1 → shown.2.isSome ∧ IsRight shown.2 positions id

structure Consistent (w : ReadWatch) : Prop where
  messages : ∀ message ∈ w.manager.messages, message.isOutgoing →
    IsRight message.deliveryStatus (w.reported message.chatId) message.id
  chats : ∀ chatId, ∀ shown ∈ w.manager.lastDelivery chatId,
    ShownRight shown (w.reported chatId) (w.lastIds chatId)

lemma Consistent.faithful (h : w.Consistent) : w.Faithful where
  messages := h.messages
  chats chatId chat hchat houtgoing := by
    refine (h.chats chatId chat.lastDelivery ?_ houtgoing).2
    rw [Manager.lastDelivery, hchat]
    rfl

/-! ### Statuses -/

lemma IsRight.congr (h : IsRight status positions id)
    (hread : Manager.isSettled status → (IsRead positions' id ↔ IsRead positions id)) :
    IsRight status positions' id :=
  fun hsettled => (h hsettled).trans (hread hsettled).symm

lemma isRead_cons : IsRead (position :: positions) id ↔ id ≤ position ∨ IsRead positions id :=
  List.exists_mem_cons_iff _ _ _

lemma Passes.isRead (h : Passes positions position id) :
    IsRead (position :: positions) id ↔ IsRead positions id := by
  rw [isRead_cons]
  exact or_iff_right_of_imp h

lemma isRight_of_unsettled (h : ¬Manager.isSettled status) : IsRight status positions id :=
  fun hsettled => absurd hsettled h

lemma isRight_of_not_read (hstatus : status ≠ some .read) (h : ¬IsRead positions id) :
    IsRight status positions id :=
  fun _ => iff_of_false hstatus h

/-- A message that is read with a position on the right side of it gets the right status. -/
lemma parse_isRight {raw : RawMessage} (h : SameSide raw position positions) (houtgoing : raw.isOutgoing) :
    IsRight (Manager.parseDeliveryStatus raw position) positions raw.id := by
  have hside := h houtgoing
  rw [Manager.parseDeliveryStatus, if_pos houtgoing]
  cases hstate : raw.sendingState with
  | none =>
      simp only [hstate] at hside ⊢
      split_ifs with hread
      · exact fun _ => iff_of_true rfl (hside.mp hread)
      · exact isRight_of_not_read (by decide) fun hpositions => hread (hside.mpr hpositions)
  | some state =>
      simp only [hstate] at hside ⊢
      cases state with
      | pending => exact @isRight_of_unsettled _ _ (some .sending) (by decide)
      | failed => exact @isRight_of_unsettled _ _ (some .failed) (by decide)
      | other type => exact @isRight_of_not_read _ _ (some .sent) (by decide) hside

lemma parse_isSome {raw : RawMessage} (houtgoing : raw.isOutgoing) :
    (Manager.parseDeliveryStatus raw position).isSome := by
  rw [Manager.parseDeliveryStatus, if_pos houtgoing]
  split
  · rfl
  · rfl
  · rfl
  · split_ifs
    · rfl
    · rfl

/-- The status that was there does not come back. -/
lemma parse_shownRight {raw : RawMessage} (h : SameSide raw position positions)
    (other : Option MessageDeliveryStatus) :
    ShownRight (raw.isOutgoing, Manager.parseDeliveryStatus raw position <|> other) positions raw.id := by
  intro houtgoing
  have hright := parse_isRight h houtgoing
  rcases Option.isSome_iff_exists.mp (@parse_isSome position raw houtgoing) with ⟨status, hstatus⟩
  rw [hstatus] at hright ⊢
  exact ⟨rfl, hright⟩

/-! ### The messages that are shown -/

lemma report_of_reports_none {e : Event} (h : e.reports = none) : w.report e = w.reported := by
  funext chatId
  rw [report, h]

/-- What is reported with a chat changes nothing for the messages that are shown already. -/
lemma report_isRead {e : Event} (ht : w.Timely e)
    (hread : ∀ chatId lastRead, e ≠ .update (.chatReadOutbox chatId lastRead)) {message : ChatMessage}
    (hmessage : message ∈ w.manager.messages) (houtgoing : message.isOutgoing)
    (hsettled : Manager.isSettled message.deliveryStatus) :
    IsRead (w.report e message.chatId) message.id ↔ IsRead (w.reported message.chatId) message.id := by
  have hchat (raw : RawChat) (hpasses : ∀ message ∈ w.manager.messages, message.chatId = raw.id →
      message.isOutgoing → Manager.isSettled message.deliveryStatus →
        Passes (w.reported raw.id) raw.lastReadOutboxMessageId message.id)
      (hreports : e.reports = some (raw.id, raw.lastReadOutboxMessageId)) :
      IsRead (w.report e message.chatId) message.id ↔ IsRead (w.reported message.chatId) message.id := by
    simp only [report, hreports]
    split_ifs with hid
    · rw [hid]
      exact (hpasses message hmessage hid houtgoing hsettled).isRead
    · rfl
  cases hreports : e.reports with
  | none => rw [report_of_reports_none hreports]
  | some report =>
      rw [Event.reports.eq_def] at hreports
      split at hreports
      · exact hchat _ ht.1 rfl
      · exact hchat _ ht.1 rfl
      · exact absurd rfl (hread _ _)
      · cases hreports

/-- The messages of the open chat are refreshed when it has been read. -/
lemma handleUpdateChatReadOutbox_messages (m : Manager) (chatId : ℤ) (lastRead : Option ℤ) :
    (m.handleUpdateChatReadOutbox (some chatId) lastRead).messages =
      if m.activeChatId = some chatId then
        m.messages.map (Manager.refreshDeliveryStatus (lastRead.getD 0))
      else m.messages := by
  have hchat (n : Manager) (f : ChatSummary → ChatSummary) : (n.updateChat (some chatId) f).activeChatId =
      n.activeChatId ∧ (n.updateChat (some chatId) f).messages = n.messages ∧
      (n.updateChat (some chatId) f).lastReadOutboxMessageId = n.lastReadOutboxMessageId := by
    rw [Manager.updateChat]
    split
    · exact ⟨rfl, rfl, rfl⟩
    · exact ⟨rfl, rfl, rfl⟩
  simp only [Manager.handleUpdateChatReadOutbox]
  rw [(hchat _ _).1]
  by_cases hopen : m.activeChatId = some chatId
  · have hset : (m.setLastReadOutbox chatId (lastRead.getD 0)).activeChatId = some chatId := hopen
    rw [if_pos hset, if_pos hopen, Manager.refreshDeliveryStatuses, (hchat _ _).1, hset]
    simp only [Manager.setMessages, (hchat _ _).2, Manager.setLastReadOutbox, if_true, Option.getD_some]
  · have hset : ¬(m.setLastReadOutbox chatId (lastRead.getD 0)).activeChatId = some chatId := hopen
    rw [if_neg hset, if_neg hopen, (hchat _ _).2.1]
    rfl

lemma refresh_isRight {message : ChatMessage}
    (hside : message.isOutgoing → Manager.isSettled message.deliveryStatus →
      (0 < message.id ∧ message.id ≤ position ↔ IsRead positions message.id))
    (houtgoing : message.isOutgoing) :
    IsRight (Manager.refreshDeliveryStatus position message).deliveryStatus positions message.id := by
  rw [Manager.refreshDeliveryStatus]
  split_ifs with hrefreshed hread
  · have hsettled := (Bool.and_eq_true _ _).mp hrefreshed
    exact fun _ => iff_of_true rfl ((hside hsettled.1 hsettled.2).mp hread)
  · have hsettled := (Bool.and_eq_true _ _).mp hrefreshed
    refine @isRight_of_not_read _ _ (some .delivered) (by decide) fun h => ?_
    exact hread ((hside hsettled.1 hsettled.2).mpr h)
  · intro hsettled
    exact absurd (by simp [houtgoing, hsettled]) hrefreshed

lemma step_messages_readOutbox (h : w.Consistent) {chatId lastRead : Option ℤ}
    (ht : w.Timely (.update (.chatReadOutbox chatId lastRead))) :
    ∀ message ∈ (w.step P (.update (.chatReadOutbox chatId lastRead))).manager.messages, message.isOutgoing →
      IsRight message.deliveryStatus (w.report (.update (.chatReadOutbox chatId lastRead)) message.chatId)
        message.id := by
  cases chatId with
  | none => exact h.messages
  | some chatId =>
      have hmessages : (w.step P (.update (.chatReadOutbox (some chatId) lastRead))).manager.messages = _ :=
        handleUpdateChatReadOutbox_messages w.manager chatId lastRead
      rw [hmessages]
      split_ifs with hopen
      · intro message hmessage houtgoing
        rcases List.mem_map.mp hmessage with ⟨before, hbefore, rfl⟩
        have hplace : (Manager.refreshDeliveryStatus (lastRead.getD 0) before).place = before.place := by
          rw [Manager.refreshDeliveryStatus]
          split_ifs <;> rfl
        have hid := congrArg Place.id hplace
        have hchat := congrArg Place.chatId hplace
        have hout := congrArg Place.isOutgoing hplace
        simp only [ChatMessage.place] at hid hchat hout
        rw [hid, hchat]
        refine refresh_isRight (fun houtgoing' hsettled => ?_) (hout ▸ houtgoing)
        have hside := ht.2 before hbefore houtgoing' hsettled
        rwa [if_pos hopen] at hside
      · intro message hmessage houtgoing
        refine (h.messages message hmessage houtgoing).congr fun hsettled => ?_
        have hpasses := ht.2 message hmessage houtgoing hsettled
        rw [if_neg hopen] at hpasses
        simp only [report, Event.reports]
        split_ifs with hid
        · rw [hid]
          exact (hpasses hid).isRead
        · rfl

lemma step_messages {e : Event} (h : w.Consistent) (ht : w.Timely e) :
    ∀ message ∈ (w.step P e).manager.messages, message.isOutgoing →
      IsRight message.deliveryStatus (w.report e message.chatId) message.id := by
  by_cases hread : ∃ chatId lastRead, e = .update (.chatReadOutbox chatId lastRead)
  · rcases hread with ⟨chatId, lastRead, rfl⟩
    exact step_messages_readOutbox h ht
  · push Not at hread
    intro message hmessage houtgoing
    rcases step_delivery hread hmessage with ⟨before, hbefore, hdelivery⟩ | henters
    · have hplace := congrArg Prod.fst hdelivery
      have hid := congrArg Place.id hplace
      have hchat := congrArg Place.chatId hplace
      have hout := congrArg Place.isOutgoing hplace
      have hstatus := congrArg Prod.snd hdelivery
      simp only [ChatMessage.delivery, ChatMessage.place] at hid hchat hout hstatus
      rw [← hid, ← hchat, ← hstatus]
      rw [← hout] at houtgoing
      exact (h.messages before hbefore houtgoing).congr (report_isRead ht hread hbefore houtgoing)
    · unfold Manager.Enters at henters
      split at henters
      · rcases w.manager.mem_batchOf P henters with ⟨raw, hraw, rfl⟩
        exact parse_isRight (ht raw hraw) houtgoing
      · rcases henters with ⟨rfl, hadmits⟩
        exact parse_isRight (ht (admits_chat hadmits)) houtgoing
      · rcases henters with ⟨rfl, hmatch, hadmits⟩
        exact parse_isRight (ht hmatch (.inl (admits_chat hadmits))) houtgoing
      · rcases henters with ⟨rfl, hfinds | hpending | hadmits⟩
        · exact parse_isRight (ht (.inl ((w.manager.findsOld_iff).mp hfinds))) houtgoing
        · exact parse_isRight (ht (.inr hpending.1)) houtgoing
        · exact parse_isRight (ht (.inr (admits_chat hadmits))) houtgoing
      · exact henters.elim

/-! ### The last messages of the chats -/

/-- A right position of the last message shows it right. -/
lemma shownOfLast_right {last : RawMessage} (h : SameSide last position positions)
    (shown : Bool × Option MessageDeliveryStatus) :
    ShownRight (Manager.shownOfLast last position shown) positions last.id :=
  parse_shownRight h shown.2

lemma ShownRight.congr {shown : Bool × Option MessageDeliveryStatus} (h : ShownRight shown positions id)
    (hread : shown.1 → Manager.isSettled shown.2 → (IsRead positions' id ↔ IsRead positions id)) :
    ShownRight shown positions' id :=
  fun houtgoing => ⟨(h houtgoing).1, (h houtgoing).2.congr (hread houtgoing)⟩

/-- A last message that is shown as read has been read. -/
lemma shownOfRead_right {shown : Bool × Option MessageDeliveryStatus} (h : ShownRight shown positions id)
    (hread : shown.1 → Manager.isSettled shown.2 → IsRead positions' id) :
    ShownRight (Manager.shownOfRead shown) positions' id := by
  rw [Manager.shownOfRead]
  split_ifs with hshown
  · simp only [Bool.and_eq_true] at hshown
    exact fun _ => ⟨rfl, fun _ => iff_of_true rfl (hread hshown.1.1 hshown.2)⟩
  · intro houtgoing
    refine ⟨(h houtgoing).1, fun hsettled => ?_⟩
    exact absurd (by simp [houtgoing, hsettled, (h houtgoing).1]) hshown

lemma lastSettled_of_mem {m : Manager} {chatId : ℤ} {shown : Bool × Option MessageDeliveryStatus}
    (hshown : shown ∈ m.lastDelivery chatId) (houtgoing : shown.1) (hsettled : Manager.isSettled shown.2) :
    LastSettled m chatId := by
  rcases Option.map_eq_some_iff.mp hshown with ⟨chat, hchat, rfl⟩
  exact ⟨chat, hchat, houtgoing, hsettled⟩

lemma chats_of_chat (h : w.Consistent) {raw : RawChat} {e : Event}
    (he : e = .update (.newChat raw) ∨ e = .update (.chat raw)) (ht : w.Timely e) (chatId : ℤ) :
    ∀ shown ∈ (w.manager.handleChat P raw).lastDelivery chatId,
      ShownRight shown (w.report e chatId) (w.lastId e chatId) := by
  have hreport : w.report e chatId =
      if chatId = raw.id then raw.lastReadOutboxMessageId :: w.reported chatId else w.reported chatId := by
    rcases he with rfl | rfl
    · rfl
    · rfl
  have hlastId : w.lastId e chatId = match raw.lastMessage.map fun last => (raw.id, last.id) with
      | none => w.lastIds chatId
      | some (shownId, id) => if chatId = shownId then id else w.lastIds chatId := by
    rcases he with rfl | rfl
    · rfl
    · rfl
  have hlast : match raw.lastMessage with
      | some last => SameSide last raw.lastReadOutboxMessageId
          (raw.lastReadOutboxMessageId :: w.reported raw.id)
      | none => LastSettled w.manager raw.id →
          Passes (w.reported raw.id) raw.lastReadOutboxMessageId (w.lastIds raw.id) := by
    rcases he with rfl | rfl
    · exact ht.2
    · exact ht.2
  rw [Manager.handleChat_lastDelivery, hreport, hlastId]
  intro shown hshown
  by_cases hid : chatId = raw.id
  · subst hid
    rw [if_pos rfl, Option.mem_some] at hshown
    subst hshown
    rw [if_pos rfl]
    cases hraw : raw.lastMessage with
    | some last =>
        simp only [hraw] at hlast
        simpa using shownOfLast_right hlast _
    | none =>
        simp only [hraw] at hlast
        cases hbefore : w.manager.lastDelivery raw.id with
        | none => exact fun houtgoing => absurd houtgoing Bool.false_ne_true
        | some before =>
            refine (h.chats raw.id before hbefore).congr fun houtgoing hsettled => ?_
            exact (hlast (lastSettled_of_mem hbefore houtgoing hsettled)).isRead
  · rw [if_neg hid] at hshown ⊢
    have hother : (match raw.lastMessage.map fun last => (raw.id, last.id) with
        | none => w.lastIds chatId
        | some (shownId, id) => if chatId = shownId then id else w.lastIds chatId) = w.lastIds chatId := by
      cases raw.lastMessage with
      | none => rfl
      | some last => exact if_neg hid
    rw [hother]
    exact h.chats chatId shown hshown

lemma chats_of_readOutbox (h : w.Consistent) {readId : ℤ} {lastRead : Option ℤ}
    (ht : w.Timely (.update (.chatReadOutbox (some readId) lastRead))) (chatId : ℤ) :
    ∀ shown ∈ (w.manager.handleUpdateChatReadOutbox (some readId) lastRead).lastDelivery chatId,
      ShownRight shown (w.report (.update (.chatReadOutbox (some readId) lastRead)) chatId)
        (w.lastIds chatId) := by
  rw [Manager.handleUpdateChatReadOutbox_lastDelivery]
  simp only [report, Event.reports]
  intro shown hshown
  split_ifs at hshown ⊢ with hid
  · subst hid
    rcases Option.map_eq_some_iff.mp hshown with ⟨before, hbefore, rfl⟩
    refine shownOfRead_right (h.chats chatId before hbefore) fun houtgoing hsettled => ?_
    exact ht.1 (lastSettled_of_mem hbefore houtgoing hsettled)
  · exact h.chats chatId shown hshown

lemma chats_of_last (h : w.Consistent) {lastId position : ℤ} {last : RawMessage}
    (hside : (w.manager.lastDelivery lastId).isSome → SameSide last position (w.reported lastId))
    (chatId : ℤ) :
    ∀ shown ∈ (if chatId = lastId then
        (w.manager.lastDelivery chatId).map (Manager.shownOfLast last position)
      else w.manager.lastDelivery chatId),
      ShownRight shown (w.reported chatId) (if chatId = lastId then last.id else w.lastIds chatId) := by
  intro shown hshown
  split_ifs at hshown ⊢ with hid
  · subst hid
    rcases Option.map_eq_some_iff.mp hshown with ⟨before, hbefore, rfl⟩
    exact shownOfLast_right (hside (by rw [hbefore]; rfl)) before
  · exact h.chats chatId shown hshown

lemma step_chats {e : Event} (h : w.Consistent) (ht : w.Timely e) (chatId : ℤ) :
    ∀ shown ∈ (w.manager.step P e).lastDelivery chatId,
      ShownRight shown (w.report e chatId) (w.lastId e chatId) := by
  by_cases hkept : e.reports = none ∧ w.manager.showsLast e = none
  · intro shown hshown
    have hsame := Manager.step_keepsLast (P := P) hkept.1 hkept.2 chatId
    have hlastId : w.lastId e chatId = w.lastIds chatId := by rw [lastId, hkept.2]
    rw [report_of_reports_none hkept.1, hlastId]
    rw [Manager.lastDelivery, hsame] at hshown
    exact h.chats chatId shown hshown
  · cases e with
    | update update =>
        cases update with
        | newChat raw => exact chats_of_chat h (.inl rfl) ht chatId
        | chat raw => exact chats_of_chat h (.inr rfl) ht chatId
        | chatReadOutbox readId lastRead =>
            cases readId with
            | none => exact absurd ⟨rfl, rfl⟩ hkept
            | some readId => exact chats_of_readOutbox h ht chatId
        | chatLastMessage lastId last =>
            cases lastId with
            | none => exact absurd ⟨rfl, rfl⟩ hkept
            | some lastId =>
                cases last with
                | none => exact absurd ⟨rfl, rfl⟩ hkept
                | some last =>
                    have hside : (w.manager.lastDelivery lastId).isSome → _ :=
                      fun hknown => ht (by rwa [Manager.lastDelivery, Option.isSome_map] at hknown)
                    have hchats := chats_of_last h hside chatId
                    rw [← Manager.handleChatLastMessage_lastDelivery (P := P)] at hchats
                    exact hchats
        | newMessage raw =>
            by_cases hmatch : w.manager.messageMatchesActiveForumTopic raw
            · have hside : (w.manager.lastDelivery raw.chatId).isSome → _ :=
                fun hknown => ht hmatch (.inr (by rwa [Manager.lastDelivery, Option.isSome_map] at hknown))
              have hchats := chats_of_last h hside chatId
              rw [← Manager.handleNewMessage_lastDelivery (P := P) hmatch] at hchats
              have hlastId : w.lastId (.update (.newMessage raw)) chatId =
                  if chatId = raw.chatId then raw.id else w.lastIds chatId := by
                simp [lastId, Manager.showsLast, hmatch]
              rw [hlastId]
              exact hchats
            · exact absurd ⟨rfl, if_neg hmatch⟩ hkept
        | _ => exact absurd ⟨rfl, rfl⟩ hkept
    | _ => exact absurd ⟨rfl, rfl⟩ hkept

lemma step_consistent {e : Event} (h : w.Consistent) (ht : w.Timely e) : (w.step P e).Consistent :=
  ⟨step_messages h ht, step_chats h ht⟩

/-- **Messages are shown as read if they have been**, and no others are, in every run in which the positions
that are used and those that are reported are on the same side of every message that they decide on. -/
theorem delivery_as_reported (P : Platform) {w : ReadWatch} (h : Reachable (step P) Timely {} w) :
    w.Faithful := by
  have hconsistent : w.Consistent := by
    refine h.invariant (I := Consistent) ⟨fun _ hmem => ?_, fun _ _ hmem => ?_⟩ fun _ _ hw => step_consistent hw
    · cases hmem
    · cases hmem
  exact hconsistent.faithful

/-- An own message that has been sent. -/
def own (id chatId : ℤ) : RawMessage := { RawMessage.text id chatId "hello" with isOutgoing := true }

/-- A message is sent in the open chat. -/
def send : List Event :=
  [.update (.newChat { id := 1, title := "Chat" }), .openChat 1, .update (.newMessage (own 7 1))]

theorem delivery_as_reported_read :
    ((send ++ [Event.update (.chatReadOutbox (some 1) (some 7))]).foldl (step .plain) {}).Faithful := by
  refine delivery_as_reported .plain (Reachable.start.run
    ⟨⟨fun _ hmem => (List.not_mem_nil hmem).elim, ?_⟩, trivial, fun _ _ _ => ?_, ⟨fun _ => ?_, ?_⟩, trivial⟩)
  · rintro ⟨chat, hchat, -⟩
    cases hchat
  · exact iff_of_false (by decide) (by decide)
  · exact ⟨7, by decide, le_refl 7⟩
  · decide

/-- The other side has read chat 1, which is open, when a message is sent in chat 2. -/
def sendElsewhere : List Event :=
  send ++ [.update (.newChat { id := 2, title := "Chat" }), .update (.chatReadOutbox (some 1) (some 7)),
    .update (.newMessage (own 6 2))]

/-- The other side has read messages before the last one. -/
def sendMore : List Event := send ++ [.update (.chatReadOutbox (some 1) (some 5))]

/-- The chat has been read already. -/
def openRead : List Event :=
  [.update (.newChat { id := 1, title := "Chat", lastReadOutboxMessageId := 9 }), .openChat 1,
    .update (.messages ⟨some (.getChatHistory 1), none, [some (own 7 1)]⟩)]

/-- **Messages are shown as read that are not, and the other way round**: a position of another chat is used,
the last message is read with any other, and the position of the chat itself is not known. -/
theorem other_chat_read :
    ¬(sendElsewhere.foldl (step .plain) {}).Faithful ∧ ¬(sendMore.foldl (step .plain) {}).Faithful ∧
      ¬(openRead.foldl (step .plain) {}).Faithful := by
  refine ⟨fun h => ?_, fun h => ?_, fun h => ?_⟩
  · have hlast := h.chats 2 _ rfl rfl rfl
    exact absurd (hlast.mp rfl) (by decide)
  · have hlast := h.chats 1 _ rfl rfl rfl
    exact absurd (hlast.mp rfl) (by decide)
  · have hmessage := h.messages (Manager.parseMessage .plain {} (own 7 1)) (by decide) rfl rfl
    exact absurd (hmessage.mpr (by decide)) (by decide)

end ReadWatch

end RioGram.Chats
