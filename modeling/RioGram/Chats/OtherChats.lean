import RioGram.Chats.Changes

/-!
# New messages of chats that are not open

A new message of another chat changes what the list of chats shows of it and may be shown as a
notification.  None of this should depend on what is open.

* `effectOn_eq_iff` compares two managers that differ in what is open.
* `unread_depends_on_topic` is a message that is dropped as it is not of the topic that is open in another
  chat.
-/

namespace RioGram.Chats

/-- What the list of chats shows of a chat. -/
structure ChatPreview where
  lastMessage : Option String
  lastMessageDate : Option ℤ
  unreadCount : ℤ
deriving DecidableEq

def ChatSummary.toPreview (chat : ChatSummary) : ChatPreview :=
  ⟨chat.lastMessage, chat.lastMessageDate, chat.unreadCount⟩

/-- What a new message does apart from the messages that are shown. -/
structure Effect where
  preview : Option ChatPreview
  notifications : List Notification
deriving DecidableEq

def Manager.effectOn (P : Platform) (m : Manager) (raw : RawMessage) : Effect where
  preview := ((m.handleNewMessage P raw).chatsById raw.chatId).map ChatSummary.toPreview
  notifications := (m.handleNewMessage P raw).notifications.drop m.notifications.length

/-- The managers differ only in what is open. -/
structure SameApart (m m' : Manager) : Prop where
  settings : m'.settings = m.settings
  chats : m'.chatsById = m.chatsById
  names : m'.userDisplayNames = m.userDisplayNames
  bots : m'.botUsers = m.botUsers
  self : m'.myUserId = m.myUserId
  reads : m'.lastReadOutboxMessageId = m.lastReadOutboxMessageId

variable {P : Platform} {m m' : Manager} {raw : RawMessage}

/-- What a new message of another chat should do. -/
def Manager.reported (P : Platform) (m : Manager) (raw : RawMessage) : Effect :=
  let preview := (m.parseMessage P raw).content.preview
  { preview := (m.chatsById raw.chatId).map fun chat =>
      { lastMessage := some preview, lastMessageDate := some raw.date, unreadCount := chat.unreadCount + 1 }
    notifications := if m.shouldNotify raw.chatId then
        [{ chatId := raw.chatId
           title := ((m.chatsById raw.chatId).map (·.title)).getD "Новое сообщение"
           body := m.notificationBody raw.chatId preview }]
      else [] }

/-- The preview leaves alone what notifications look at. -/
lemma updateChatPreview_other {message : ChatMessage} (hopen : m.activeChatId ≠ some message.chatId) :
    (m.updateChatPreview message).settings = m.settings ∧
      (m.updateChatPreview message).notifications = m.notifications ∧
      ((m.updateChatPreview message).chatsById message.chatId).map ChatSummary.toPreview =
        (m.chatsById message.chatId).map (fun chat =>
          ⟨some message.content.preview, some message.date, chat.unreadCount + 1⟩) ∧
      ((m.updateChatPreview message).chatsById message.chatId).map
          (fun chat => (chat.title, chat.kind, chat.isMuted)) =
        (m.chatsById message.chatId).map fun chat => (chat.title, chat.kind, chat.isMuted) := by
  rw [Manager.updateChatPreview]
  cases hchat : m.chatsById message.chatId with
  | none => simp [Manager.send, hchat]
  | some chat => simp [Manager.setChat, ChatSummary.toPreview, hopen]

/-- A notification is about the settings and about what the preview leaves alone. -/
lemma notification_congr {chatId : ℤ} (hsettings : m'.settings = m.settings)
    (hchat : (m'.chatsById chatId).map (fun chat => (chat.title, chat.kind, chat.isMuted)) =
      (m.chatsById chatId).map fun chat => (chat.title, chat.kind, chat.isMuted)) (preview : String) :
    m'.shouldNotify chatId = m.shouldNotify chatId ∧
      m'.notificationBody chatId preview = m.notificationBody chatId preview ∧
      (m'.chatsById chatId).map (·.title) = (m.chatsById chatId).map (·.title) := by
  have hkind := congrArg (Option.map (·.2.1)) hchat
  have hmuted := congrArg (Option.map (·.2.2)) hchat
  have htitle := congrArg (Option.map (·.1)) hchat
  simp only [Option.map_map, Function.comp_def] at hkind hmuted htitle
  simp only [Manager.shouldNotify, Manager.notificationBody, hsettings, hkind, hmuted, htitle]
  exact ⟨trivial, trivial, trivial⟩

/-- **A message that is dropped** does nothing. -/
lemma effectOn_of_mismatch (h : ¬m.messageMatchesActiveForumTopic raw) :
    m.effectOn P raw = ⟨(m.chatsById raw.chatId).map ChatSummary.toPreview, []⟩ := by
  rw [Manager.effectOn, m.handleNewMessage_of_mismatch P h, List.drop_length]

/-- **A message that is not dropped** does what it should. -/
lemma effectOn_of_match (hopen : m.activeChatId ≠ some raw.chatId)
    (h : m.messageMatchesActiveForumTopic raw) : m.effectOn P raw = m.reported P raw := by
  have hmessage : (m.parseMessage P raw).chatId = raw.chatId := rfl
  have hinsert : m.insertMessage P (m.parseMessage P raw) = m := by
    simp [Manager.insertMessage, hmessage, hopen]
  rcases @updateChatPreview_other m (m.parseMessage P raw) hopen with
    ⟨hsettings, hnotifications, hpreview, hchat⟩
  rcases notification_congr hsettings hchat (m.parseMessage P raw).content.preview with
    ⟨hshould, hbody, htitle⟩
  have hactive : (m.updateChatPreview (m.parseMessage P raw)).activeChatId ≠ some raw.chatId := by
    rw [(m.updateChatPreview_same _).chat]
    exact hopen
  have hhandled : m.handleNewMessage P raw =
      (m.updateChatPreview (m.parseMessage P raw)).showMessageNotification (m.parseMessage P raw) := by
    simp only [Manager.handleNewMessage, h, hinsert, Bool.not_true, Bool.false_eq_true, if_false,
      hmessage]
    rw [if_pos hactive]
  rw [Manager.effectOn, hhandled, Manager.reported]
  rw [hmessage] at hpreview hshould hbody htitle
  simp only [Manager.showMessageNotification, hmessage, hshould]
  split_ifs
  · simp only [hnotifications, hbody, htitle, List.drop_left, hpreview]
    rfl
  · simp only [hnotifications, List.drop_length, hpreview]
    rfl

/-- What is open has no part in what should be done. -/
lemma SameApart.reported (h : SameApart m m') : m'.reported P raw = m.reported P raw := by
  have hpreview : (m'.parseMessage P raw).content.preview = (m.parseMessage P raw).content.preview := by
    have huser : m'.userName = m.userName := by
      funext userId
      rw [Manager.userName, Manager.userName, h.names]
    have hchat : m'.chatTitle = m.chatTitle := by
      funext chatId
      rw [Manager.chatTitle, Manager.chatTitle, h.chats]
    simp only [Manager.parseMessage, Manager.parseServiceContent, huser, hchat]
  rcases @notification_congr m m' raw.chatId h.settings (by rw [h.chats])
    (m.parseMessage P raw).content.preview with ⟨hshould, hbody, -⟩
  rw [Manager.reported, Manager.reported, hpreview, hshould, hbody, h.chats]

/-- Whether a new message of the chat is to be seen anywhere. -/
def Manager.reports (m : Manager) (chatId : ℤ) : Bool :=
  (m.chatsById chatId).isSome || m.shouldNotify chatId

lemma SameApart.reports (h : SameApart m m') (chatId : ℤ) : m'.reports chatId = m.reports chatId := by
  rcases @notification_congr m m' chatId h.settings (by rw [h.chats]) "" with ⟨hshould, -, -⟩
  rw [Manager.reports, Manager.reports, h.chats, hshould]

/-- It makes a difference whether a message is dropped exactly if it is to be seen anywhere. -/
lemma reported_eq_dropped_iff :
    m.reported P raw = ⟨(m.chatsById raw.chatId).map ChatSummary.toPreview, []⟩ ↔
      ¬m.reports raw.chatId := by
  rw [Manager.reported, Manager.reports]
  cases hchat : m.chatsById raw.chatId with
  | none =>
      by_cases hnotify : m.shouldNotify raw.chatId
      · simp [hnotify]
      · simp [hnotify]
  | some chat =>
      have hcounted : chat.unreadCount + 1 ≠ chat.unreadCount := by omega
      simp [ChatSummary.toPreview, hcounted]

/-- **What a new message of another chat does is the same with something else open exactly if the filter for
the open topic treats it alike**, or if it is not to be seen anywhere: its chat is not known and no
notification is due. -/
theorem effectOn_eq_iff (P : Platform) (raw : RawMessage) (h : SameApart m m')
    (hopen : m.activeChatId ≠ some raw.chatId) (hopen' : m'.activeChatId ≠ some raw.chatId) :
    m.effectOn P raw = m'.effectOn P raw ↔
      m.messageMatchesActiveForumTopic raw = m'.messageMatchesActiveForumTopic raw ∨
        ¬m.reports raw.chatId := by
  by_cases hmatch : m.messageMatchesActiveForumTopic raw
  · by_cases hmatch' : m'.messageMatchesActiveForumTopic raw
    · rw [effectOn_of_match hopen hmatch, effectOn_of_match hopen' hmatch', h.reported, hmatch, hmatch']
      simp
    · rw [effectOn_of_match hopen hmatch, effectOn_of_mismatch hmatch', h.chats,
        reported_eq_dropped_iff]
      simp [hmatch, hmatch']
  · by_cases hmatch' : m'.messageMatchesActiveForumTopic raw
    · rw [effectOn_of_mismatch hmatch, effectOn_of_match hopen' hmatch', h.reported, eq_comm,
        reported_eq_dropped_iff]
      simp [hmatch, hmatch']
    · rw [effectOn_of_mismatch hmatch, effectOn_of_mismatch hmatch', h.chats]
      simp [hmatch, hmatch']

/-- A chat is known. -/
def knownChat (chatId : ℤ) : Event :=
  .update (.newChat { id := chatId, title := "Chat", type := some .basicGroup })

theorem effectOn_eq_closed :
    ([knownChat 2, .openChat 1].foldl (Manager.step .plain) {}).effectOn .plain (.text 5 2 "hello") =
      ([knownChat 2].foldl (Manager.step .plain) {}).effectOn .plain (.text 5 2 "hello") := by
  refine (effectOn_eq_iff .plain _ ⟨rfl, rfl, rfl, rfl, rfl, rfl⟩ ?_ ?_).mpr (.inl rfl)
  · decide
  · decide

/-- **A message of another chat is dropped**, as it is not of the topic that is open. -/
theorem unread_depends_on_topic :
    SameApart ([knownChat 2].foldl (Manager.step .plain) {})
        ([knownChat 2, .openForumTopic 1 4].foldl (Manager.step .plain) {}) ∧
      ([knownChat 2].foldl (Manager.step .plain) {}).effectOn .plain (.text 5 2 "hello") ≠
        ([knownChat 2, .openForumTopic 1 4].foldl (Manager.step .plain) {}).effectOn .plain
          (.text 5 2 "hello") := by
  refine ⟨⟨rfl, rfl, rfl, rfl, rfl, rfl⟩, ?_⟩
  decide

end RioGram.Chats
