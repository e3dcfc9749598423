import RioGram.Chats.Changes
import RioGram.Core.Reachable

/-!
# What ghost mode hides

`GhostModeManager` has the settings, and `GhostRun` is the chat manager with them and with the chat actions
that it has sent.

* `ghost_mode_hides` says which requests a run sends while ghost mode hides something: a receipt only if a
  chat is opened at a message, and of the chat actions only cancellations.
* `found_message_viewed` is a receipt that ghost mode should have hidden.
-/

namespace RioGram.Chats

open Reaching

/-! ## Ghost mode -/

structure GhostModeManager where
  ghostModeEnabled : Bool := false
  hideTypingStatus : Bool := true
  hideReadReceipts : Bool := true
deriving DecidableEq

namespace GhostModeManager

def shouldHideTyping (ghostMode : GhostModeManager) : Bool :=
  ghostMode.ghostModeEnabled && ghostMode.hideTypingStatus

def shouldHideReadReceipts (ghostMode : GhostModeManager) : Bool :=
  ghostMode.ghostModeEnabled && ghostMode.hideReadReceipts

end GhostModeManager

inductive OutgoingChatAction where
  | typing | recordingVoice | choosingSticker | cancel
deriving DecidableEq

def OutgoingChatAction.actionType : OutgoingChatAction → String
  | .typing => "chatActionTyping"
  | .recordingVoice => "chatActionRecordingVoiceNote"
  | .choosingSticker => "chatActionChoosingSticker"
  | .cancel => "chatActionCancel"

/-- A `sendChatAction` request. -/
structure ChatActionRequest where
  chatId : ℤ
  actionType : String
  forumTopicId : Option ℤ
deriving DecidableEq

structure GhostRun where
  manager : Manager := {}
  ghostMode : Option GhostModeManager := none
  chatActions : List ChatActionRequest := []

namespace GhostRun

variable (P : Platform) (r : GhostRun)

def hidesTyping : Bool := r.ghostMode.any (·.shouldHideTyping)

def hidesReadReceipts : Bool := r.ghostMode.any (·.shouldHideReadReceipts)

/-- The manager with what it finds in the settings when it looks them up. -/
def informed : Manager :=
  { r.manager with
    settings := { r.manager.settings with shouldHideReadReceipts := r.hidesReadReceipts } }

def sendChatAction (action : OutgoingChatAction) : GhostRun :=
  match r.manager.activeChatId with
  | none => r
  | some chatId =>
      if r.hidesTyping && action != .cancel then r
      else
        { r with chatActions := r.chatActions ++
            [⟨chatId, action.actionType, r.manager.activeForumTopicId⟩] }

end GhostRun

inductive GhostEvent where
  /-- The settings are loaded or changed. -/
  | changeGhostMode (ghostMode : GhostModeManager)
  | sendChatAction (action : OutgoingChatAction)
  /-- A message is sent, after which the user does not type. -/
  | sendMessage (type : String)
  | manager (e : Event)

def GhostRun.step (P : Platform) (r : GhostRun) : GhostEvent → GhostRun
  | .changeGhostMode ghostMode => { r with ghostMode := some ghostMode }
  | .sendChatAction action => r.sendChatAction action
  | .sendMessage type =>
      match r.manager.activeChatId with
      | none => r
      | some _ => ({ r with manager := r.manager.send (.other type) } : GhostRun).sendChatAction .cancel
  | .manager e => { r with manager := r.informed.step P e }

/-! ## Handlers that send no receipt -/

def Request.isViewMessages : Request → Bool
  | .viewMessages _ _ => true
  | _ => false

/-- What is sent on the way from one state to another has no receipt if receipts are hidden. -/
structure Discreet (m m' : Manager) : Prop where
  settings : m'.settings = m.settings
  sent : ∃ requests, m'.sent = m.sent ++ requests ∧
    (m.settings.shouldHideReadReceipts → ∀ request ∈ requests, ¬request.isViewMessages)

variable {m m' m'' : Manager}

lemma Discreet.same (hsettings : m'.settings = m.settings) (hsent : m'.sent = m.sent) : Discreet m m' :=
  ⟨hsettings, [], by rw [hsent, List.append_nil], fun _ _ hmem => (List.not_mem_nil hmem).elim⟩

lemma Discreet.send {request : Request} (hrequest : ¬request.isViewMessages) :
    Discreet m (m.send request) := by
  refine ⟨rfl, [request], rfl, fun _ other hother => ?_⟩
  rw [List.mem_singleton.mp hother]
  exact hrequest

lemma Discreet.trans (h : Discreet m m') (h' : Discreet m' m'') : Discreet m m'' := by
  rcases h.sent with ⟨requests, hsent, hquiet⟩
  rcases h'.sent with ⟨later, hsent', hquiet'⟩
  refine ⟨h'.settings.trans h.settings, requests ++ later, ?_, fun hhides request hrequest => ?_⟩
  · rw [hsent', hsent, List.append_assoc]
  · rcases List.mem_append.mp hrequest with hbefore | hafter
    · exact hquiet hhides request hbefore
    · exact hquiet' (h.settings ▸ hhides) request hafter

namespace Manager

variable (P : Platform) (m : Manager)

lemma discreet_refl : Discreet m m := .same rfl rfl

lemma requestChatHistory_discreet (chatId : ℤ) (onlyLocal : Bool) (fromMessageId : ℤ) :
    Discreet m (m.requestChatHistory chatId onlyLocal fromMessageId) := by
  rw [requestChatHistory]
  split_ifs
  · exact m.discreet_refl
  · exact .send Bool.false_ne_true

/-- Of the two places that send receipts this is the one that asks. -/
lemma markMessagesRead_discreet (chatId : ℤ) (messages : List ChatMessage) :
    Discreet m (m.markMessagesRead chatId messages) := by
  simp only [markMessagesRead]
  split_ifs with hhidden
  · exact m.discreet_refl
  · exact ⟨rfl, _, rfl, fun hhides => absurd (.inl hhides) hhidden⟩

lemma finishHistory_discreet (chatId : ℤ) : Discreet m (m.finishHistory chatId) := by
  have hended : Discreet m ({ m with messagesLoadTimeout := none } : Manager).endLoading := .same rfl rfl
  simp only [finishHistory]
  split_ifs
  · exact hended
  · exact hended.trans (markMessagesRead_discreet _ chatId _)

lemma showPage_discreet (batch : List ChatMessage) (ends : Bool) :
    Discreet m (m.showPage P batch ends) := by
  simp only [showPage, endLoadingIf]
  split_ifs
  · exact .same rfl rfl
  · exact .same rfl rfl

lemma handleChatHistory_discreet (chatId : ℤ) (isLocal : Bool) (messages : List (Option RawMessage)) :
    Discreet m (m.handleChatHistory P chatId isLocal messages) := by
  simp only [handleChatHistory]
  split_ifs
  · exact m.discreet_refl
  · exact (m.showPage_discreet P _ _).trans (requestChatHistory_discreet _ _ _ _)
  · exact m.showPage_discreet P _ _
  · exact (m.showPage_discreet P _ _).trans (finishHistory_discreet _ _)

lemma handleForumTopicHistory_discreet (chatId forumTopicId : ℤ) (messages : List (Option RawMessage)) :
    Discreet m (m.handleForumTopicHistory P chatId forumTopicId messages) := by
  simp only [handleForumTopicHistory]
  split_ifs
  · exact m.discreet_refl
  · exact (m.showPage_discreet P _ _).trans (.send Bool.false_ne_true)
  · exact (m.showPage_discreet P _ _).trans (finishHistory_discreet _ _)

lemma handleMessages_discreet (reply : MessagesReply) : Discreet m (m.handleMessages P reply) := by
  rw [handleMessages]
  split
  · exact m.discreet_refl
  · exact m.handleForumTopicHistory_discreet P _ _ _
  · split
    · exact m.discreet_refl
    · exact m.handleChatHistory_discreet P _ _ _

lemma insertMessage_discreet (message : ChatMessage) : Discreet m (m.insertMessage P message) := by
  rw [insertMessage]
  split_ifs
  · exact m.discreet_refl
  · exact m.discreet_refl
  · exact .same rfl rfl
  · exact .same rfl rfl

lemma replaceMessage_discreet (message : ChatMessage) : Discreet m (m.replaceMessage P message) := by
  rw [replaceMessage]
  split_ifs
  · exact m.discreet_refl
  · exact .same rfl rfl
  · exact m.insertMessage_discreet P message

lemma updateChatPreview_discreet (message : ChatMessage) : Discreet m (m.updateChatPreview message) := by
  rw [updateChatPreview]
  split
  · exact .send Bool.false_ne_true
  · exact .same rfl rfl

lemma showMessageNotification_discreet (message : ChatMessage) :
    Discreet m (m.showMessageNotification message) := by
  rw [showMessageNotification]
  split_ifs
  · exact .same rfl rfl
  · exact m.discreet_refl

lemma handleNewMessage_discreet (raw : RawMessage) : Discreet m (m.handleNewMessage P raw) := by
  have hshown := (m.insertMessage_discreet P (m.parseMessage P raw)).trans
    (updateChatPreview_discreet _ (m.parseMessage P raw))
  simp only [handleNewMessage]
  split_ifs
  · exact m.discreet_refl
  · exact hshown.trans (showMessageNotification_discreet _ _)
  · exact hshown

lemma handleSendSucceeded_discreet (oldMessageId : Option ℤ) (raw : RawMessage) :
    Discreet m (m.handleSendSucceeded P oldMessageId raw) := by
  cases oldMessageId with
  | none => exact m.replaceMessage_discreet P _
  | some oldMessageId =>
      simp only [handleSendSucceeded]
      split_ifs
      · exact .same rfl rfl
      · exact m.replaceMessage_discreet P _

lemma updateMessage_discreet (chatId messageId : Option ℤ) (f : ChatMessage → ChatMessage) :
    Discreet m (m.updateMessage chatId messageId f) := by
  rw [updateMessage.eq_def]
  split_ifs
  · exact m.discreet_refl
  · cases messageId with
    | none => exact m.discreet_refl
    | some messageId => exact .same rfl rfl

lemma handleMessageContent_discreet (chatId messageId : Option ℤ) (newContent : Option RawContent) :
    Discreet m (m.handleMessageContent chatId messageId newContent) := by
  cases newContent with
  | none => exact m.discreet_refl
  | some newContent => exact m.updateMessage_discreet _ _ _

lemma handleDeleteMessages_discreet (chatId : Option ℤ) (ids : List ℤ) (isPermanent : Bool) :
    Discreet m (m.handleDeleteMessages chatId ids isPermanent) := by
  rw [handleDeleteMessages]
  split_ifs
  · exact m.discreet_refl
  · exact .same rfl rfl
  · exact .same rfl rfl
  · exact .same rfl rfl

lemma handleUser_discreet (user : RawUser) : Discreet m (m.handleUser P user) := by
  refine handleUser_of_parts P m discreet_refl Discreet.trans user ?_ ?_ ?_ ?_ ?_ ?_
  · exact fun _ => .same rfl rfl
  · intro n
    rw [refreshMessagesForUser]
    split
    · exact n.discreet_refl
    · exact .same rfl rfl
  · intro n
    rw [refreshChatsForUser]
    split
    · exact n.discreet_refl
    · exact .same rfl rfl
  · exact fun _ => .same rfl rfl
  · exact fun _ => .same rfl rfl
  · exact fun _ => .same rfl rfl

lemma updateChat_discreet (chatId : Option ℤ) (f : ChatSummary → ChatSummary) :
    Discreet m (m.updateChat chatId f) := by
  rw [updateChat.eq_def]
  split
  · exact m.discreet_refl
  · split
    · exact m.discreet_refl
    · exact .same rfl rfl

lemma handleChatLastMessage_discreet (chatId : Option ℤ) (lastMessage : Option RawMessage) :
    Discreet m (m.handleChatLastMessage P chatId lastMessage) := by
  rw [handleChatLastMessage.eq_def]
  split
  · exact m.discreet_refl
  · split
    · exact .send Bool.false_ne_true
    · exact .same rfl rfl

lemma refreshDeliveryStatuses_discreet : Discreet m m.refreshDeliveryStatuses := by
  rw [refreshDeliveryStatuses]
  split
  · exact m.discreet_refl
  · exact .same rfl rfl

lemma handleUpdateChatReadOutbox_discreet (chatId lastReadOutboxMessageId : Option ℤ) :
    Discreet m (m.handleUpdateChatReadOutbox chatId lastReadOutboxMessageId) := by
  cases chatId with
  | none => exact m.discreet_refl
  | some chatId =>
      have hset : Discreet m (m.setLastReadOutbox chatId (lastReadOutboxMessageId.getD 0)) := .same rfl rfl
      simp only [handleUpdateChatReadOutbox]
      split_ifs
      · exact (hset.trans (updateChat_discreet _ _ _)).trans (refreshDeliveryStatuses_discreet _)
      · exact hset.trans (updateChat_discreet _ _ _)

lemma handleHistoryError_discreet (chatId : ℤ) (message : Option String) :
    Discreet m (m.handleHistoryError chatId message) := by
  rw [handleHistoryError]
  split_ifs
  · exact m.discreet_refl
  · have hopen : Discreet m (m.send (.openChat chatId none)) := .send Bool.false_ne_true
    exact (hopen.trans (requestChatHistory_discreet _ _ _ _)).trans (requestChatHistory_discreet _ _ _ _)
  · exact .same rfl rfl

lemma handleError_discreet (extra : Option Extra) (message : Option String) :
    Discreet m (m.handleError extra message) := by
  rw [handleError.eq_def]
  split
  · exact m.handleHistoryError_discreet _ _
  · exact m.handleHistoryError_discreet _ _
  · split_ifs
    · exact m.discreet_refl
    · exact .same rfl rfl
  · split_ifs
    · exact .same rfl rfl
    · exact m.discreet_refl
  · exact m.discreet_refl

lemma handleUpdate_discreet (update : Update) : Discreet m (m.handleUpdate P update) := by
  cases update with
  | user user => exact m.handleUser_discreet P user
  | newChat chat => exact .same rfl rfl
  | chat chat => exact .same rfl rfl
  | chatLastMessage chatId lastMessage => exact m.handleChatLastMessage_discreet P chatId lastMessage
  | chatNotificationSettings chatId isMuted => exact m.updateChat_discreet chatId _
  | chatReadInbox chatId unreadCount => exact m.updateChat_discreet chatId _
  | chatReadOutbox chatId lastRead => exact m.handleUpdateChatReadOutbox_discreet chatId lastRead
  | messages reply => exact m.handleMessages_discreet P reply
  | message message => exact m.insertMessage_discreet P _
  | newMessage message => exact m.handleNewMessage_discreet P message
  | messageSendSucceeded oldMessageId message => exact m.handleSendSucceeded_discreet P oldMessageId message
  | messageEdited chatId messageId editDate => exact m.updateMessage_discreet _ _ _
  | messageContent chatId messageId newContent => exact m.handleMessageContent_discreet _ _ _
  | messageReactions chatId messageId reactions => exact m.updateMessage_discreet _ _ _
  | messageInteractionInfo chatId messageId info => exact m.updateMessage_discreet _ _ _
  | deleteMessages chatId ids isPermanent => exact m.handleDeleteMessages_discreet _ _ _
  | file file => exact .same rfl rfl
  | error extra message => exact m.handleError_discreet extra message
  | other type => exact m.discreet_refl

lemma openChat_discreet (chatId : ℤ) : Discreet m (m.openChat chatId) := by
  have hstart : Discreet m ((m.startLoading chatId none).send
      (.openChat chatId (some (.openChat chatId)))) :=
    ⟨rfl, _, rfl, fun _ request hmem => by rw [List.mem_singleton.mp hmem]; exact Bool.false_ne_true⟩
  exact (hstart.trans (requestChatHistory_discreet _ _ _ _)).trans (requestChatHistory_discreet _ _ _ _)

lemma openForumTopic_discreet (chatId forumTopicId : ℤ) :
    Discreet m (m.openForumTopic chatId forumTopicId) := by
  refine ⟨rfl, [.openChat chatId (some (.openChat chatId)), .getForumTopicHistory chatId forumTopicId 0],
    List.append_assoc _ _ _, fun _ request hmem => ?_⟩
  simp only [List.mem_cons, List.not_mem_nil, or_false] at hmem
  rcases hmem with rfl | rfl
  · exact Bool.false_ne_true
  · exact Bool.false_ne_true

lemma closeChat_discreet : Discreet m m.closeChat := by
  rw [closeChat]
  cases m.activeChatId with
  | none => exact .same rfl rfl
  | some chatId =>
      have hsend : Discreet m (m.send (.closeChat chatId)) := .send Bool.false_ne_true
      exact hsend.trans (.same rfl rfl)

lemma fireMessagesLoadTimeout_discreet : Discreet m m.fireMessagesLoadTimeout := by
  rw [fireMessagesLoadTimeout]
  split
  · exact m.discreet_refl
  · split_ifs
    · exact .same rfl rfl
    · exact .same rfl rfl

end Manager

def Event.isOpenChatAtMessage : Event → Bool
  | .openChatAtMessage _ _ => true
  | _ => false

/-- From one state to another the event sends a receipt that should be hidden, if it is the one that does. -/
def SendsFor (e : Event) (m m' : Manager) : Prop :=
  ∃ requests, m'.sent = m.sent ++ requests ∧ (m.settings.shouldHideReadReceipts →
    ((∀ request ∈ requests, ¬request.isViewMessages) ↔ ¬e.isOpenChatAtMessage))

lemma Discreet.sendsFor (h : Discreet m m') {e : Event} (he : ¬e.isOpenChatAtMessage) :
    SendsFor e m m' := by
  rcases h.sent with ⟨requests, hsent, hquiet⟩
  exact ⟨requests, hsent, fun hhides => iff_of_true (hquiet hhides) he⟩

lemma step_sendsFor (P : Platform) (m : Manager) (e : Event) : SendsFor e m (m.step P e) := by
  cases e with
  | openChat chatId => exact (m.openChat_discreet chatId).sendsFor Bool.false_ne_true
  | openChatAtMessage chatId messageId =>
      rcases (m.openChat_discreet chatId).sent with ⟨requests, hsent, -⟩
      refine ⟨requests ++ [.viewMessages chatId [messageId]], ?_, fun _ => iff_of_false ?_ (not_not.mpr rfl)⟩
      · change (m.openChat chatId).sent ++ _ = _
        rw [hsent, List.append_assoc]
      · exact fun hquiet => hquiet _ (List.mem_append_right _ (List.mem_singleton_self _)) rfl
  | openForumTopic chatId forumTopicId =>
      exact (m.openForumTopic_discreet chatId forumTopicId).sendsFor Bool.false_ne_true
  | clearForumTopicSelection => exact (Discreet.same rfl rfl).sendsFor Bool.false_ne_true
  | closeChat => exact m.closeChat_discreet.sendsFor Bool.false_ne_true
  | request type =>
      have hsend : Discreet m (m.send (.other type)) := .send Bool.false_ne_true
      exact hsend.sendsFor Bool.false_ne_true
  | cancelFile fileId =>
      have hsend : Discreet m (m.send (.cancelFile fileId)) := .send Bool.false_ne_true
      exact (hsend.trans (.same rfl rfl)).sendsFor Bool.false_ne_true
  | deleteMessageFromCache message =>
      refine Discreet.sendsFor ?_ Bool.false_ne_true
      simp only [Manager.step, Manager.deleteMessageFromCache]
      split_ifs
      · exact m.discreet_refl
      · exact .same rfl rfl
  | changeSettings settings => exact ⟨[], (List.append_nil _).symm, fun _ =>
      iff_of_true (fun _ hmem => (List.not_mem_nil hmem).elim) Bool.false_ne_true⟩
  | messagesLoadTimeout => exact m.fireMessagesLoadTimeout_discreet.sendsFor Bool.false_ne_true
  | update update => exact (m.handleUpdate_discreet P update).sendsFor Bool.false_ne_true

/-! ## What a run sends -/

def GhostEvent.isOpenChatAtMessage : GhostEvent → Bool
  | .manager e => e.isOpenChatAtMessage
  | _ => false

namespace GhostRun

variable {P : Platform} {r r' r'' : GhostRun} {es es' : List GhostEvent} {typing receipts : Prop}

/-- What is sent between two states of a run: of the chat actions only cancellations if typing is hidden,
and if receipts are hidden none, except when a chat is opened at a message. -/
def Sends (typing receipts : Prop) (es : List GhostEvent) (r r' : GhostRun) : Prop :=
  ∃ requests actions, r'.manager.sent = r.manager.sent ++ requests ∧
    r'.chatActions = r.chatActions ++ actions ∧
    (receipts → ((∀ request ∈ requests, ¬request.isViewMessages) ↔ ∀ e ∈ es, ¬e.isOpenChatAtMessage)) ∧
    (typing → ∀ action ∈ actions, action.actionType = "chatActionCancel")

lemma Sends.nothing (hquiet : ∀ e ∈ es, ¬e.isOpenChatAtMessage)
    (hsent : r'.manager.sent = r.manager.sent) (hactions : r'.chatActions = r.chatActions) :
    Sends typing receipts es r r' := by
  refine ⟨[], [], by rw [hsent, List.append_nil], by rw [hactions, List.append_nil], fun _ => ?_, fun _ => ?_⟩
  · exact iff_of_true (fun _ hmem => absurd hmem List.not_mem_nil) hquiet
  · exact fun _ hmem => absurd hmem List.not_mem_nil

lemma Sends.trans (h : Sends typing receipts es r r') (h' : Sends typing receipts es' r' r'') :
    Sends typing receipts (es ++ es') r r'' := by
  rcases h with ⟨requests, actions, hsent, hactions, hquiet, hcancels⟩
  rcases h' with ⟨requests', actions', hsent', hactions', hquiet', hcancels'⟩
  refine ⟨requests ++ requests', actions ++ actions', ?_, ?_, fun hhides => ?_, fun hhides => ?_⟩
  · rw [hsent', hsent, List.append_assoc]
  · rw [hactions', hactions, List.append_assoc]
  · rw [List.forall_mem_append, List.forall_mem_append, hquiet hhides, hquiet' hhides]
  · rw [List.forall_mem_append]
    exact ⟨hcancels hhides, hcancels' hhides⟩

lemma sendChatAction_sends {e : GhostEvent} (he : ¬e.isOpenChatAtMessage) (action : OutgoingChatAction) :
    Sends r.hidesTyping r.hidesReadReceipts [e] r (r.sendChatAction action) := by
  have hquiet : ∀ other ∈ [e], ¬other.isOpenChatAtMessage := List.forall_mem_singleton.mpr he
  rw [sendChatAction]
  split
  · exact .nothing hquiet rfl rfl
  · split_ifs with hhidden
    · exact .nothing hquiet rfl rfl
    · refine ⟨[], _, (List.append_nil _).symm, rfl, fun _ => ?_, fun hhides => ?_⟩
      · exact iff_of_true (fun _ hmem => absurd hmem List.not_mem_nil) hquiet
      · have hcancel : action = .cancel := by simpa [hhides] using hhidden
        rw [List.forall_mem_singleton, hcancel]
        rfl

lemma sendMessage_sends (type : String) :
    Sends r.hidesTyping r.hidesReadReceipts [.sendMessage type] r (r.step P (.sendMessage type)) := by
  have he : ¬(GhostEvent.sendMessage type).isOpenChatAtMessage := Bool.false_ne_true
  simp only [step]
  split
  · exact .nothing (List.forall_mem_singleton.mpr he) rfl rfl
  · have hcancels := sendChatAction_sends (r := { r with manager := r.manager.send (.other type) }) he .cancel
    rcases hcancels with ⟨requests, actions, hsent, hactions, hquiet, hcancel⟩
    refine ⟨.other type :: requests, actions, ?_, hactions, fun hhides => ?_, hcancel⟩
    · rw [hsent]
      exact List.append_assoc _ _ _
    · rw [List.forall_mem_cons, ← hquiet hhides]
      exact and_iff_right Bool.false_ne_true

lemma step_sends (e : GhostEvent) : Sends r.hidesTyping r.hidesReadReceipts [e] r (r.step P e) := by
  cases e with
  | changeGhostMode ghostMode =>
      exact .nothing (List.forall_mem_singleton.mpr Bool.false_ne_true) rfl rfl
  | sendChatAction action =>
      exact sendChatAction_sends (e := .sendChatAction action) Bool.false_ne_true action
  | sendMessage type => exact sendMessage_sends type
  | manager e =>
      rcases step_sendsFor P r.informed e with ⟨requests, hsent, hquiet⟩
      refine ⟨requests, [], hsent, (List.append_nil _).symm, fun hhides => ?_, fun _ _ hmem => ?_⟩
      · rw [List.forall_mem_singleton]
        exact hquiet hhides
      · exact absurd hmem List.not_mem_nil

/-- What is hidden throughout a run is hidden in any part of it. -/
lemma Sends.imp {typing' receipts' : Prop} (h : Sends typing receipts es r r') (htyping : typing' → typing)
    (hreceipts : receipts' → receipts) : Sends typing' receipts' es r r' := by
  rcases h with ⟨requests, actions, hsent, hactions, hquiet, hcancels⟩
  exact ⟨requests, actions, hsent, hactions, fun h => hquiet (hreceipts h), fun h => hcancels (htyping h)⟩

/-- **Ghost mode hides receipts and typing**: whatever a run does while typing is hidden, it sends no chat
action but cancellations, and while receipts are hidden it sends none exactly if it opens no chat at a
message. -/
theorem ghost_mode_hides (P : Platform) (es : List GhostEvent) (r : GhostRun) :
    Sends (Meets (step P) (fun r _ => r.hidesTyping) r es)
      (Meets (step P) (fun r _ => r.hidesReadReceipts) r es) es r (es.foldl (step P) r) := by
  induction es generalizing r with
  | nil => exact .nothing (fun _ hmem => absurd hmem List.not_mem_nil) rfl rfl
  | cons e es ih =>
      have hfirst : Sends (Meets (step P) (fun r _ => r.hidesTyping) r (e :: es))
          (Meets (step P) (fun r _ => r.hidesReadReceipts) r (e :: es)) [e] r (r.step P e) :=
        (step_sends e).imp (·.1) (·.1)
      exact hfirst.trans ((ih _).imp (·.2) (·.2))

/-- The manager after ghost mode has been switched on. -/
def ghost : GhostRun := ({} : GhostRun).step .plain (.changeGhostMode { ghostModeEnabled := true })

/-- A chat is opened, its history comes, and the user types. -/
def openAndType : List GhostEvent :=
  [.manager (.openChat 1),
    .manager (.update (.messages ⟨some (.getChatHistory 1), some 1, [some (.text 5 1 "hello")]⟩)),
    .sendChatAction .typing, .sendMessage "sendMessage"]

theorem ghost_mode_hides_openAndType :
    ∃ requests actions, (openAndType.foldl (step .plain) ghost).manager.sent = requests ∧
      (openAndType.foldl (step .plain) ghost).chatActions = actions ∧
      (∀ request ∈ requests, ¬request.isViewMessages) ∧
      ∀ action ∈ actions, action.actionType = "chatActionCancel" := by
  rcases ghost_mode_hides .plain openAndType ghost with
    ⟨requests, actions, hsent, hactions, hquiet, hcancels⟩
  refine ⟨requests, actions, hsent, hactions, (hquiet ?_).mpr (by decide), hcancels ?_⟩
  · exact ⟨rfl, rfl, rfl, rfl, trivial⟩
  · exact ⟨rfl, rfl, rfl, rfl, trivial⟩

/-- **A receipt is sent although ghost mode hides receipts**, when a chat is opened at a message. -/
theorem found_message_viewed :
    ghost.hidesReadReceipts ∧
      .viewMessages 1 [5] ∈ (ghost.step .plain (.manager (.openChatAtMessage 1 5))).manager.sent :=
  ⟨rfl, by decide⟩

end GhostRun

end RioGram.Chats
