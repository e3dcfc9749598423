import RioGram.Chats.Updates
import RioGram.Core.Reachable

/-!
# The comments of a post

`fetchMessageThread` asks for the thread of a post in the discussion chat; the answer brings what is known of
it and its first messages, and the history and new messages are put to them.  `ThreadRun` is the manager with
the post that was asked for last.

* `thread_of_requested` says when the context and all messages are of the thread of this post.
* `comments_of_other_posts` has runs in which they are not.
-/

namespace RioGram.Chats

open Keyed Reaching

/-! ## The thread -/

/-- A post: its channel and its message. -/
structure PostId where
  chatId : ℤ
  messageId : ℤ
deriving DecidableEq

structure MessageThreadContext where
  channelChatId : ℤ
  channelMessageId : ℤ
  discussionChatId : ℤ
  messageThreadId : ℤ
  postPreview : Option String := none
deriving DecidableEq

def MessageThreadContext.post (context : MessageThreadContext) : PostId :=
  ⟨context.channelChatId, context.channelMessageId⟩

/-- A `messageThreadInfo`. -/
structure RawThreadInfo where
  chatId : ℤ
  messageThreadId : ℤ
  messages : List (Option RawMessage) := []
deriving DecidableEq

/-- The requests; their extras are `messageThread_<chat>_<message>` and
`messageThreadHistory_<chat>_<message>`. -/
inductive ThreadRequest where
  | getMessageThread (post : PostId)
  | getMessageThreadHistory (post : PostId) (fromMessageId : ℤ) (offset limit : ℕ)
deriving DecidableEq

/-- The fields of the manager that comments have to do with, beside those of `Manager`. -/
structure MessageThread where
  messageThreadContext : Option MessageThreadContext := none
  messageThreadMessages : List ChatMessage := []
  isLoadingMessageThread : Bool := false
  messageThreadError : Option String := none
  pendingThreadPreview : Option String := none
  sent : List ThreadRequest := []

def parseMessageThreadInfo (info : RawThreadInfo) (post : PostId) (postPreview : Option String) :
    Option MessageThreadContext :=
  if info.messageThreadId = 0 ∨ info.chatId = 0 then none
  else
    some
      { channelChatId := post.chatId
        channelMessageId := post.messageId
        discussionChatId := info.chatId
        messageThreadId := info.messageThreadId
        postPreview }

namespace MessageThread

variable (P : Platform) (m : Manager) (s : MessageThread)

def fetchMessageThread (post : PostId) (postPreview : Option String) : MessageThread :=
  { s with
    messageThreadContext := none
    messageThreadMessages := []
    isLoadingMessageThread := true
    messageThreadError := none
    pendingThreadPreview := postPreview
    sent := s.sent ++ [.getMessageThread post] }

def clearMessageThread : MessageThread :=
  { s with
    messageThreadContext := none
    messageThreadMessages := []
    isLoadingMessageThread := false
    messageThreadError := none
    pendingThreadPreview := none }

def handleMessageThreadInfo (post : PostId) (info : RawThreadInfo) : MessageThread :=
  match parseMessageThreadInfo info post s.pendingThreadPreview with
  | none => { s with isLoadingMessageThread := false, messageThreadError := some "Комментарии недоступны" }
  | some context =>
      { s with
        messageThreadContext := some context
        messageThreadMessages := m.parseMessages P info.messages
        isLoadingMessageThread := false
        sent := s.sent ++ [.getMessageThreadHistory post 0 0 50] }

/-- Whether a message with the id is shown. -/
def shows (id : ℤ) : Bool := s.messageThreadMessages.any (·.id == id)

def handleMessageThreadHistory (messages : List (Option RawMessage)) : MessageThread :=
  let messages := m.parseMessages P messages
  if messages = [] then s
  else
    let merged := messages.filter (fun message => !s.shows message.id) ++ s.messageThreadMessages
    { s with messageThreadMessages := P.sortByDate.run merged }

def appendThreadMessage (message : ChatMessage) : MessageThread :=
  match s.messageThreadContext with
  | none => s
  | some context =>
      if message.chatId ≠ context.discussionChatId then s
      else if s.shows message.id then s
      else { s with messageThreadMessages := P.sortByDate.run (s.messageThreadMessages ++ [message]) }

/-- `_handleError`, for the first request. -/
def handleThreadError (message : Option String) : MessageThread :=
  { s with
    isLoadingMessageThread := false
    messageThreadError := some (message.getD "Не удалось загрузить комментарии") }

end MessageThread

/-! ## Runs -/

inductive ThreadEvent where
  | fetchMessageThread (post : PostId) (postPreview : Option String)
  | clearMessageThread
  | threadInfo (post : PostId) (info : RawThreadInfo)
  | threadHistory (post : PostId) (messages : List (Option RawMessage))
  | threadError (post : PostId) (message : Option String)
  | manager (e : Event)

structure ThreadRun where
  manager : Manager := {}
  thread : MessageThread := {}
  /-- The post that was asked for last, unless its comments have been closed. -/
  requested : Option PostId := none

/-- Where the comments of a post are, and which thread of its chat a message is of. -/
structure Discussions where
  ofPost : PostId → ℤ × ℤ
  ofMessage : (chatId messageId : ℤ) → ℤ

namespace Discussions

variable (D : Discussions)

/-- A message of the comments of a post. -/
def IsComment (post : PostId) (chatId messageId : ℤ) : Prop :=
  (chatId, D.ofMessage chatId messageId) = D.ofPost post

instance (post : PostId) (chatId messageId : ℤ) : Decidable (D.IsComment post chatId messageId) :=
  inferInstanceAs (Decidable (_ = _))

/-- A message of the comments of the post that was asked for last. -/
def IsWanted (r : ThreadRun) (chatId messageId : ℤ) : Prop :=
  ∃ post, r.requested = some post ∧ D.IsComment post chatId messageId

end Discussions

namespace ThreadRun

def step (P : Platform) (r : ThreadRun) : ThreadEvent → ThreadRun
  | .fetchMessageThread post postPreview =>
      { r with thread := r.thread.fetchMessageThread post postPreview, requested := some post }
  | .clearMessageThread => { r with thread := r.thread.clearMessageThread, requested := none }
  | .threadInfo post info => { r with thread := r.thread.handleMessageThreadInfo P r.manager post info }
  | .threadHistory _ messages =>
      { r with thread := r.thread.handleMessageThreadHistory P r.manager messages }
  | .threadError _ message => { r with thread := r.thread.handleThreadError message }
  | .manager e =>
      { r with
        manager := r.manager.step P e
        -- `_handleNewMessage` puts the message to the comments as well
        thread := match e with
          | .update (.newMessage raw) =>
              if r.manager.messageMatchesActiveForumTopic raw then
                r.thread.appendThreadMessage P (r.manager.parseMessage P raw)
              else r.thread
          | _ => r.thread }

/-- Replies are to requests, and what they bring is of the post that was asked for. -/
def Served (D : Discussions) (r : ThreadRun) : ThreadEvent → Prop
  | .threadInfo post info =>
      .getMessageThread post ∈ r.thread.sent ∧
        ((parseMessageThreadInfo info post none).isSome →
          (info.chatId, info.messageThreadId) = D.ofPost post) ∧
        ∀ raw, some raw ∈ info.messages → D.IsComment post raw.chatId raw.id
  | .threadHistory post messages =>
      .getMessageThreadHistory post 0 0 50 ∈ r.thread.sent ∧
        ∀ raw, some raw ∈ messages → D.IsComment post raw.chatId raw.id
  | .threadError post _ => .getMessageThread post ∈ r.thread.sent
  | _ => True

/-- The context is that of the post that was asked for last, and every message is a comment of it. -/
structure Faithful (D : Discussions) (r : ThreadRun) : Prop where
  context : ∀ context, r.thread.messageThreadContext = some context →
    r.requested = some context.post ∧
      (context.discussionChatId, context.messageThreadId) = D.ofPost context.post
  messages : ∀ message ∈ r.thread.messageThreadMessages, D.IsWanted r message.chatId message.id

/-- What is known of a thread comes for the post that was asked for last; the history brings no message that
is not of its comments, and there is no new message of another thread of the discussion chat. -/
def InTime (D : Discussions) (r : ThreadRun) : ThreadEvent → Prop
  | .threadInfo post info =>
      (parseMessageThreadInfo info post none).isSome → r.requested = some post
  | .threadHistory _ messages =>
      ∀ raw, some raw ∈ messages → r.thread.shows raw.id = false → D.IsWanted r raw.chatId raw.id
  | .manager (.update (.newMessage raw)) =>
      r.manager.messageMatchesActiveForumTopic raw →
        r.thread.messageThreadContext.any (·.discussionChatId == raw.chatId) →
          r.thread.shows raw.id = false → D.IsWanted r raw.chatId raw.id
  | _ => True

variable {P : Platform} {D : Discussions} {r : ThreadRun}

/-- A parsed message is that of an object of the list. -/
lemma forall_parseMessages {m : Manager} {messages : List (Option RawMessage)} {p : ℤ → ℤ → Prop} :
    (∀ message ∈ m.parseMessages P messages, p message.chatId message.id) ↔
      ∀ raw, some raw ∈ messages → p raw.chatId raw.id := by
  simp only [Manager.parseMessages, List.forall_mem_map, List.mem_filterMap, id]
  exact ⟨fun h raw hmem => h raw ⟨_, hmem, rfl⟩, fun h raw ⟨_, hmem, heq⟩ => h raw (heq ▸ hmem)⟩

/-- The thread stays faithful to the post exactly if what is added is of its comments. -/
lemma faithful_add_iff (h : r.Faithful D) {thread : MessageThread} {added : List ChatMessage} {m : Manager}
    (hcontext : thread.messageThreadContext = r.thread.messageThreadContext)
    (hmessages : thread.messageThreadMessages.Perm (added ++ r.thread.messageThreadMessages)) :
    ({ r with manager := m, thread } : ThreadRun).Faithful D ↔
      ∀ message ∈ added, D.IsWanted r message.chatId message.id := by
  constructor
  · intro hadded message hmem
    exact hadded.messages message (hmessages.mem_iff.mpr (List.mem_append_left _ hmem))
  · intro hadded
    refine ⟨fun context hcontext' => h.context context (hcontext ▸ hcontext'), fun message hmem => ?_⟩
    rcases List.mem_append.mp (hmessages.mem_iff.mp hmem) with hnew | hold
    · exact hadded message hnew
    · exact h.messages message hold

lemma threadInfo_faithful_iff (h : r.Faithful D) {post : PostId} {info : RawThreadInfo}
    (hserved : r.Served D (.threadInfo post info)) :
    (r.step P (.threadInfo post info)).Faithful D ↔ r.InTime D (.threadInfo post info) := by
  rcases hserved with ⟨-, hpost, hcomments⟩
  simp only [step, InTime, MessageThread.handleMessageThreadInfo, parseMessageThreadInfo] at hpost ⊢
  split_ifs with hnone
  · refine iff_of_true ⟨h.context, h.messages⟩ ?_
    simp
  · simp only [hnone, if_false, Option.isSome_some, forall_const] at hpost ⊢
    constructor
    · intro hfaithful
      exact (hfaithful.context _ rfl).1
    · intro hrequested
      constructor
      · intro context hcontext
        obtain rfl := Option.some.inj hcontext
        exact ⟨hrequested, hpost⟩
      · exact forall_parseMessages.mpr fun raw hmem => ⟨post, hrequested, hcomments raw hmem⟩

lemma threadHistory_faithful_iff (h : r.Faithful D) {post : PostId} {messages : List (Option RawMessage)} :
    (r.step P (.threadHistory post messages)).Faithful D ↔ r.InTime D (.threadHistory post messages) := by
  have hadded : (∀ message ∈ (r.manager.parseMessages P messages).filter
        (fun message => !r.thread.shows message.id), D.IsWanted r message.chatId message.id) ↔
      r.InTime D (.threadHistory post messages) := by
    simp only [List.mem_filter, Bool.not_eq_true', and_imp]
    exact forall_parseMessages (p := fun chatId id => r.thread.shows id = false → D.IsWanted r chatId id)
  rw [← hadded]
  simp only [step, MessageThread.handleMessageThreadHistory]
  split_ifs with hempty
  · refine faithful_add_iff h rfl ?_
    rw [hempty]
    exact .refl _
  · exact faithful_add_iff h rfl (P.sortByDate.perm _)

lemma appendThreadMessage_faithful_iff (h : r.Faithful D) {m : Manager} {message : ChatMessage} :
    ({ r with manager := m, thread := r.thread.appendThreadMessage P message } : ThreadRun).Faithful D ↔
      (r.thread.messageThreadContext.any (·.discussionChatId == message.chatId) →
        r.thread.shows message.id = false → D.IsWanted r message.chatId message.id) := by
  have hsame : ({ r with manager := m } : ThreadRun).Faithful D := ⟨h.context, h.messages⟩
  rw [MessageThread.appendThreadMessage]
  cases hcontext : r.thread.messageThreadContext with
  | none => exact iff_of_true hsame fun hany => absurd hany Bool.false_ne_true
  | some context =>
      simp only [Option.any_some, beq_iff_eq]
      split_ifs with hchat hshown
      · exact iff_of_true hsame fun heq => absurd heq.symm hchat
      · exact iff_of_true hsame fun _ hnot => absurd (hshown.symm.trans hnot) (by decide)
      · rw [ne_eq, not_not] at hchat
        refine (@faithful_add_iff D r h _ [message] m hcontext.symm
          ((P.sortByDate.perm _).trans List.perm_append_comm)).trans ?_
        rw [List.forall_mem_singleton]
        exact ⟨fun hwanted _ _ => hwanted, fun hwanted => hwanted hchat.symm (by simpa using hshown)⟩

lemma step_faithful_iff (h : r.Faithful D) {e : ThreadEvent} (hserved : r.Served D e) :
    (r.step P e).Faithful D ↔ r.InTime D e := by
  cases e with
  | fetchMessageThread post postPreview =>
      refine iff_of_true ⟨fun _ hcontext => ?_, fun _ hmem => ?_⟩ trivial
      · exact absurd hcontext (Option.some_ne_none _).symm
      · cases hmem
  | clearMessageThread =>
      refine iff_of_true ⟨fun _ hcontext => ?_, fun _ hmem => ?_⟩ trivial
      · exact absurd hcontext (Option.some_ne_none _).symm
      · cases hmem
  | threadInfo post info => exact threadInfo_faithful_iff h hserved
  | threadHistory post messages => exact threadHistory_faithful_iff h
  | threadError post message => exact iff_of_true ⟨h.context, h.messages⟩ trivial
  | manager e =>
      have hsame : ∀ m, ({ r with manager := m } : ThreadRun).Faithful D := fun _ => ⟨h.context, h.messages⟩
      simp only [step]
      split
      case h_1 raw =>
        split_ifs with hmatches
        · rw [appendThreadMessage_faithful_iff h]
          exact ⟨fun hin _ => hin, fun hin => hin hmatches⟩
        · exact iff_of_true (hsame _) fun hmatch => absurd hmatch hmatches
      case h_2 hother =>
        refine iff_of_true (hsame _) ?_
        unfold InTime
        split
        case h_1 heq => cases heq
        case h_2 heq => cases heq
        case h_3 raw heq => exact absurd (ThreadEvent.manager.inj heq) (hother raw)
        case h_4 => trivial

/-- **The comments are those of the post that was asked for last**, in every state of every run in which the
replies come in time and no other thread of the discussion chat gets a message; and wherever they are, a step
keeps it so exactly if it is in time. -/
theorem thread_of_requested (P : Platform) (D : Discussions) :
    (∀ r, Reachable (step P) (fun r e => r.Served D e ∧ r.InTime D e) {} r → r.Faithful D) ∧
    ∀ r e, Reachable (step P) (Served D) {} r → r.Faithful D → r.Served D e →
      ((r.step P e).Faithful D ↔ r.InTime D e) := by
  constructor
  · intro r h
    refine h.invariant (I := Faithful D) ?_ fun r e hr he => (step_faithful_iff hr he.1).mpr he.2
    refine ⟨fun _ hcontext => absurd hcontext (Option.some_ne_none _).symm, fun _ hmem => ?_⟩
    cases hmem
  · intro r e _ hfaithful hserved
    exact step_faithful_iff hfaithful hserved

/-- The comments of two posts of the channel 1 in its discussion chat 2: the messages from 20 on are of the
second post's thread. -/
def twoPosts : Discussions where
  ofPost post := (2, if post.messageId = 6 then 20 else 10)
  ofMessage _ messageId := if 20 ≤ messageId then 20 else 10

/-- What TDLib tells of the thread of a post. -/
def threadOf (messageId : ℤ) : RawThreadInfo where
  chatId := 2
  messageThreadId := messageId
  messages := [some (.text (messageId + 1) 2 "comment")]

lemma threadOf_comments {raw : RawMessage} (h : some raw ∈ (threadOf 10).messages) :
    twoPosts.IsComment ⟨1, 5⟩ raw.chatId raw.id := by
  rw [threadOf, List.mem_singleton] at h
  rw [Option.some.inj h]
  rfl

/-- The comments of the first post are shown, and a new one comes. -/
theorem thread_of_requested_comment :
    ([.fetchMessageThread ⟨1, 5⟩ none, .threadInfo ⟨1, 5⟩ (threadOf 10),
      .manager (.update (.newMessage (.text 12 2 "new")))].foldl (step .plain) {}).Faithful twoPosts := by
  refine (thread_of_requested .plain twoPosts).1 _
    (Reachable.start.run ⟨⟨trivial, trivial⟩, ⟨⟨?_, ?_⟩, ?_⟩, ⟨trivial, ?_⟩, trivial⟩)
  · decide
  · exact ⟨fun _ => rfl, @threadOf_comments⟩
  · exact fun _ => rfl
  · exact fun _ _ _ => ⟨⟨1, 5⟩, rfl, rfl⟩

/-- **The comments of another post are shown**: its thread comes late, or a comment of it is new. -/
theorem comments_of_other_posts :
    (∃ r, Reachable (step .plain) (Served twoPosts) {} r ∧ r.requested = some ⟨1, 6⟩ ∧
      r.thread.messageThreadContext = some ⟨1, 5, 2, 10, none⟩ ∧ ¬r.Faithful twoPosts) ∧
    ∃ r, Reachable (step .plain) (Served twoPosts) {} r ∧ r.requested = some ⟨1, 5⟩ ∧
      r.thread.shows 22 ∧ ¬r.Faithful twoPosts := by
  constructor
  · have hreach : Reachable (step .plain) (Served twoPosts) {}
        ([.fetchMessageThread ⟨1, 5⟩ none, .fetchMessageThread ⟨1, 6⟩ none,
          .threadInfo ⟨1, 5⟩ (threadOf 10)].foldl (step .plain) {}) :=
      Reachable.start.run ⟨trivial, trivial, ⟨by decide, fun _ => rfl, @threadOf_comments⟩, trivial⟩
    refine ⟨_, hreach, rfl, rfl, fun h => ?_⟩
    exact absurd (h.context _ rfl).1 (by decide)
  · have hreach : Reachable (step .plain) (Served twoPosts) {}
        ([.fetchMessageThread ⟨1, 5⟩ none, .threadInfo ⟨1, 5⟩ (threadOf 10),
          .manager (.update (.newMessage (.text 22 2 "other")))].foldl (step .plain) {}) :=
      Reachable.start.run ⟨trivial, ⟨by decide, fun _ => rfl, @threadOf_comments⟩, trivial, trivial⟩
    refine ⟨_, hreach, rfl, by decide, fun h => ?_⟩
    rcases h.messages (({} : Manager).parseMessage .plain (.text 22 2 "other")) (by decide) with
      ⟨post, hpost, hcomment⟩
    obtain rfl : (⟨1, 5⟩ : PostId) = post := Option.some.inj hpost
    exact absurd hcomment (by decide)

end ThreadRun

end RioGram.Chats
