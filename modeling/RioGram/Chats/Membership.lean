import RioGram.Chats.Changes
import RioGram.Core.Reachable

/-!
# Whose messages are shown

The messages that are shown are those of the open chat, and of the open topic of it, as long as what
comes in belongs there.  The handlers check this in different ways: a new message against the chat and
the topic, a page of a chat's history only against the chat, and the message that takes the place of one
that was being sent against nothing.

* `messages_of_open_chat` is the invariant for the chat, and `messages_of_open_topic` that for the topic.
* `foreign_message_shown` and `other_topic_shown` are runs without the conditions.
-/

namespace RioGram.Chats

open Reaching

/-! ## Pages of TDLib -/

/-- The chat that a reply is about. -/
def MessagesReply.aboutChat (reply : MessagesReply) : Option ℤ :=
  match reply.extra with
  | some (.forumTopicHistory chatId _) => some chatId
  | _ => reply.historyOf.map (·.1)

/-- TDLib gives messages of the chat that it was asked about. -/
def Event.Served : Event → Prop
  | .update (.messages reply) =>
      ∀ raw, some raw ∈ reply.messages → ∀ chatId, reply.aboutChat = some chatId → raw.chatId = chatId
  | _ => True

variable {P : Platform} {m : Manager}

/-- A page is read only if it is about the open chat. -/
lemma aboutChat_of_mem_pageOf {reply : MessagesReply} {raw : Option RawMessage}
    (h : raw ∈ m.pageOf reply) :
    raw ∈ reply.messages ∧
      ∃ chatId, m.activeChatId = some chatId ∧ reply.aboutChat = some chatId := by
  rw [Manager.pageOf.eq_def] at h
  split at h
  · cases h
  · rename_i chatId forumTopicId hextra
    split_ifs at h with hopen
    · exact ⟨List.mem_of_mem_filter h, chatId, hopen.1, by rw [MessagesReply.aboutChat, hextra]⟩
    · cases h
  · rename_i hthread htopic
    have habout : reply.aboutChat = reply.historyOf.map (·.1) := by
      rw [MessagesReply.aboutChat.eq_def]
      split
      · exact absurd ‹_› (htopic _ _)
      · rfl
    rcases hhistory : reply.historyOf with _ | ⟨chatId, isLocal⟩
    · simp [hhistory] at h
    · simp only [hhistory] at h
      split_ifs at h with hopen
      · exact ⟨h, chatId, hopen, by rw [habout, hhistory]; rfl⟩
      · cases h

/-- A page of the open topic brings messages of the topic. -/
lemma topic_of_mem_pageOf {reply : MessagesReply} {raw : RawMessage} {chatId forumTopicId topic : ℤ}
    (hextra : reply.extra = some (.forumTopicHistory chatId forumTopicId))
    (htopic : m.activeForumTopicId = some topic) (h : some raw ∈ m.pageOf reply) :
    raw.topicId = some (.forum topic) := by
  rw [Manager.pageOf, hextra] at h
  simp only [] at h
  split_ifs at h with hopen
  · have hmatch := (List.mem_filter.mp h).2
    simpa [Manager.messageMatchesActiveForumTopic, htopic] using hmatch
  · cases h

/-! ## The open chat -/

/-- A message takes the place of another one only in its own chat. -/
def Manager.ReplacesInChat (m : Manager) : Event → Prop
  | .update (.messageSendSucceeded oldMessageId raw) =>
      (∃ old, oldMessageId = some old ∧ old ≠ raw.id ∧ old ∈ m.messages.map (·.id)) →
        m.activeChatId = some raw.chatId
  | _ => True

/-- What comes in is of the open chat. -/
lemma chat_of_enters {e : Event} {message : ChatMessage} (hserved : e.Served)
    (hreplaces : m.ReplacesInChat e) (h : m.Enters P e message) :
    m.activeChatId = some message.chatId := by
  unfold Manager.Enters at h
  split at h
  · rename_i reply
    rcases m.mem_batchOf P h with ⟨raw, hraw, rfl⟩
    rcases aboutChat_of_mem_pageOf hraw with ⟨hreply, chatId, hopen, habout⟩
    rw [hopen]
    exact congrArg some (hserved raw hreply chatId habout).symm
  · exact admits_chat h.2
  · exact admits_chat h.2.2
  · rcases h with ⟨rfl, hfinds | hpending | hadmits⟩
    · exact hreplaces ((m.findsOld_iff).mp hfinds)
    · exact hpending.1
    · exact admits_chat hadmits
  · exact h.elim

/-- **Only messages of the open chat are shown**: this holds in every state of every run in which a
message takes the place of another one only in its own chat. -/
theorem messages_of_open_chat
    (h : Reachable (Manager.step P) (fun m e => e.Served ∧ m.ReplacesInChat e) {} m) :
    (∀ message ∈ m.messages, m.activeChatId = some message.chatId) ∧
      (m.activeChatId = none → m.messages = []) := by
  have hshown : ∀ message ∈ m.messages, m.activeChatId = some message.chatId := by
    refine h.invariant (I := fun m => ∀ message ∈ m.messages, m.activeChatId = some message.chatId)
      (List.forall_mem_nil _) ?_
    intro m e ih hok message hmessage
    rcases step_shows hmessage with ⟨hchat, -, ⟨before, hbefore, hplace⟩ | henters⟩
    · rw [hchat, ih before hbefore]
      exact congrArg (some ∘ Place.chatId) hplace
    · rw [hchat]
      exact chat_of_enters hok.1 hok.2 henters
  refine ⟨hshown, fun hclosed => List.eq_nil_iff_forall_not_mem.mpr fun message hmessage => ?_⟩
  have hchat := hshown message hmessage
  rw [hclosed] at hchat
  cases hchat

/-- Chat 1 is open and shows the message with the id 5, for which TDLib then gives the id 7. -/
def idChanges (chatId : ℤ) : List Event :=
  [.openChat 1,
    .update (.message { RawMessage.text 5 1 "hello" with isOutgoing := true }),
    .update (.messageSendSucceeded (some 5) { RawMessage.text 7 chatId "hello" with isOutgoing := true })]

theorem messages_of_open_chat_sent :
    (∀ message ∈ ((idChanges 1).foldl (Manager.step .plain) {}).messages,
        ((idChanges 1).foldl (Manager.step .plain) {}).activeChatId = some message.chatId) ∧
      (((idChanges 1).foldl (Manager.step .plain) {}).activeChatId = none →
        ((idChanges 1).foldl (Manager.step .plain) {}).messages = []) :=
  messages_of_open_chat (Reachable.start.run
    ⟨⟨trivial, trivial⟩, ⟨trivial, trivial⟩, ⟨trivial, fun _ => rfl⟩, trivial⟩)

/-- **The message of another chat is shown**, as the id of a message that is being sent there is that of
a message here. -/
theorem foreign_message_shown :
    ∃ m, Reachable (Manager.step .plain) (fun _ e => e.Served) {} m ∧
      ∃ message ∈ m.messages, m.activeChatId ≠ some message.chatId := by
  have hrun : Reachable (Manager.step .plain) (fun _ e => e.Served) {}
      ((idChanges 2).foldl (Manager.step .plain) {}) :=
    Reachable.start.run ⟨trivial, trivial, trivial, trivial⟩
  refine ⟨_, hrun, Manager.parseMessage .plain {}
    { RawMessage.text 7 2 "hello" with isOutgoing := true }, ?_, ?_⟩
  · decide
  · decide

/-! ## The open topic -/

/-- What comes in while a topic is open is of the topic, as far as the handlers leave it to TDLib: a page
of the whole chat, a single message, and a message that was sent.  Only messages that are read and not
blocked count. -/
def Manager.KeepsToTopic (P : Platform) (m : Manager) (e : Event) : Prop :=
  ∀ topic, m.activeForumTopicId = some topic →
    match e with
    | .update (.messages reply) =>
        (∃ chatId forumTopicId, reply.extra = some (.forumTopicHistory chatId forumTopicId)) ∨
          ∀ message ∈ m.batchOf P (m.pageOf reply), message.topicId = some (.forum topic)
    | .update (.message raw) =>
        m.admits (m.parseMessage P raw) → raw.topicId = some (.forum topic)
    | .update (.messageSendSucceeded oldMessageId raw) =>
        m.Enters P (.update (.messageSendSucceeded oldMessageId raw)) (m.parseMessage P raw) →
          m.activeChatId = some raw.chatId ∧ raw.topicId = some (.forum topic)
    | _ => True

/-- What comes in while a topic is open is of the topic. -/
lemma topic_of_enters {e : Event} {message : ChatMessage} {topic : ℤ} (hserved : e.Served)
    (hkeeps : m.KeepsToTopic P e) (htopic : m.activeForumTopicId = some topic)
    (h : m.Enters P e message) :
    m.activeChatId = some message.chatId ∧ message.topicId = some (.forum topic) := by
  have hok := hkeeps topic htopic
  unfold Manager.Enters at h
  split at h
  · rename_i reply
    have hchat : m.activeChatId = some message.chatId := chat_of_enters hserved trivial h
    refine ⟨hchat, ?_⟩
    rcases hok with ⟨chatId, forumTopicId, hextra⟩ | hpage
    · rcases m.mem_batchOf P h with ⟨raw, hraw, rfl⟩
      exact topic_of_mem_pageOf hextra htopic hraw
    · exact hpage message h
  · rcases h with ⟨rfl, hadmits⟩
    exact ⟨admits_chat hadmits, hok hadmits⟩
  · rename_i raw
    rcases h with ⟨rfl, hmatch, hadmits⟩
    have hraw : raw.topicId = some (.forum topic) := by
      simpa [Manager.messageMatchesActiveForumTopic, htopic] using hmatch
    exact ⟨admits_chat hadmits, hraw⟩
  · rcases h with ⟨rfl, henters⟩
    exact hok ⟨rfl, henters⟩
  · exact h.elim

/-- **Only messages of the open topic are shown**: this holds in every state of every run in which a page
of the whole chat, a single message and a sent message bring in only messages of the topic that is open
then. -/
theorem messages_of_open_topic
    (h : Reachable (Manager.step P) (fun m e => e.Served ∧ m.KeepsToTopic P e) {} m) :
    ∀ topic, m.activeForumTopicId = some topic → ∀ message ∈ m.messages,
      m.activeChatId = some message.chatId ∧ message.topicId = some (.forum topic) := by
  refine h.invariant (I := fun m => ∀ topic, m.activeForumTopicId = some topic →
    ∀ message ∈ m.messages,
      m.activeChatId = some message.chatId ∧ message.topicId = some (.forum topic)) ?_ ?_
  · intro topic _
    exact List.forall_mem_nil _
  · intro m e ih hok topic htopic message hmessage
    rcases step_shows hmessage with ⟨hchat, hsame | hnone, hsource⟩
    · rw [hsame] at htopic
      rw [hchat]
      rcases hsource with ⟨before, hbefore, hplace⟩ | henters
      · rw [show message.chatId = before.chatId from (congrArg Place.chatId hplace).symm,
          show message.topicId = before.topicId from (congrArg Place.topicId hplace).symm]
        exact ih topic htopic before hbefore
      · exact topic_of_enters hok.1 hok.2 htopic henters
    · rw [hnone] at htopic
      cases htopic

/-- A topic is opened right after its chat, and the history of the chat comes in then. -/
def topicOpened (topic : ℤ) : List Event :=
  [.openChat 1, .openForumTopic 1 4,
    .update (.messages ⟨some (.getChatHistory 1), none,
      [some { RawMessage.text 5 1 "hello" with topicId := some (.forum topic) }]⟩)]

theorem messages_of_open_topic_history :
    ((topicOpened 4).foldl (Manager.step .plain) {}).messages.length = 1 ∧
      ∀ message ∈ ((topicOpened 4).foldl (Manager.step .plain) {}).messages,
        ((topicOpened 4).foldl (Manager.step .plain) {}).activeChatId = some message.chatId ∧
          message.topicId = some (.forum 4) := by
  have hrun : Reachable (Manager.step .plain) (fun m e => e.Served ∧ m.KeepsToTopic .plain e) {}
      ((topicOpened 4).foldl (Manager.step .plain) {}) := by
    refine Reachable.start.run ⟨⟨trivial, ?_⟩, ⟨trivial, ?_⟩, ⟨?_, ?_⟩, trivial⟩
    · intro topic _
      trivial
    · intro topic _
      trivial
    · simp [Event.Served, MessagesReply.aboutChat, MessagesReply.historyOf, RawMessage.text]
    · intro topic htopic
      obtain rfl : 4 = topic := Option.some_inj.mp htopic
      right
      decide
  exact ⟨rfl, messages_of_open_topic hrun 4 rfl⟩

/-- **A message of another topic is shown**: the history of the whole chat that was asked for before the
topic was opened is read as that of the topic. -/
theorem other_topic_shown :
    ∃ m, Reachable (Manager.step .plain) (fun _ e => e.Served) {} m ∧
      m.activeForumTopicId = some 4 ∧ ∃ message ∈ m.messages, message.topicId = some (.forum 3) := by
  have hrun : Reachable (Manager.step .plain) (fun _ e => e.Served) {}
      ((topicOpened 3).foldl (Manager.step .plain) {}) := by
    refine Reachable.start.run ⟨trivial, trivial, ?_, trivial⟩
    simp [Event.Served, MessagesReply.aboutChat, MessagesReply.historyOf, RawMessage.text]
  refine ⟨_, hrun, rfl, Manager.parseMessage .plain {}
    { RawMessage.text 5 1 "hello" with topicId := some (.forum 3) }, ?_, rfl⟩
  decide

end RioGram.Chats
