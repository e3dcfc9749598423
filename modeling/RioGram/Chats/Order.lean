import RioGram.Chats.SendResults

/-!
# The order of the messages

The list should be sorted by id with every id once, so that the first message is the oldest, from whose id
on the next page of the history is asked for.  Pages are merged and sorted by id, but a new message is
sorted in by date, and a message that was sent takes the place of an entry that had another id.

* `messages_increasing` is the invariant, for any sort that Dart may use.
* `oldest_not_first` is a run that breaks it.
* `mergeHistoryMessages_merges` is what a page does to a list that has every id once, sorted or not.
-/

namespace RioGram.Chats

open Keyed Reaching

/-- No two messages are as late as or later than one with a larger id. -/
def DatesFollowIds (messages : List ChatMessage) : Prop :=
  ∀ a ∈ messages, ∀ b ∈ messages, a.id < b.id → a.date < b.date

/-- The message compares by id with all others as the first one that satisfies the condition does. -/
def FitsInPlace (p : ChatMessage → Bool) (message : ChatMessage) (messages : List ChatMessage) : Prop :=
  ∀ item, messages.find? p = some item → ∀ other ∈ messages, other ≠ item →
    other.id ≠ message.id ∧ (other.id < item.id ↔ other.id < message.id)

namespace Manager

/-- A message that goes into the list is there already, or the dates follow the ids with it. -/
def InsertsInOrder (m : Manager) (message : ChatMessage) : Prop :=
  m.admits message → message.id ∉ m.messages.map (·.id) → DatesFollowIds (m.messages ++ [message])

/-- What comes in singly comes in where its id belongs. -/
def KeepsOrder (P : Platform) (m : Manager) : Event → Prop
  | .update (.message raw) => m.InsertsInOrder (m.parseMessage P raw)
  | .update (.newMessage raw) =>
      m.messageMatchesActiveForumTopic raw → m.InsertsInOrder (m.parseMessage P raw)
  | .update (.messageSendSucceeded oldMessageId raw) =>
      let message := m.parseMessage P raw
      if m.findsOld oldMessageId message then
        FitsInPlace (fun item => some item.id == oldMessageId) message m.messages
      else if m.activeChatId = some message.chatId ∧ m.messages.any (isPendingFor message) then
        FitsInPlace (isPendingFor message) message m.messages
      else m.InsertsInOrder message
  | _ => True

end Manager

variable {P : Platform} {m : Manager} {message : ChatMessage}

/-! ## Changes of a sorted list -/

lemma increasing_iff_ids {messages : List ChatMessage} :
    Increasing ChatMessage.id messages ↔ (messages.map (·.id)).Pairwise (· < ·) :=
  List.pairwise_map.symm

/-- A message that fits in the place of another one keeps the order. -/
lemma increasing_replaced {p : ChatMessage → Bool} {messages : List ChatMessage}
    (h : Increasing ChatMessage.id messages) (hfits : FitsInPlace p message messages) :
    Increasing ChatMessage.id (modifyFirst p (fun _ => message) messages) := by
  cases hfind : messages.find? p with
  | none =>
      rw [modifyFirst_of_none]
      · exact h
      · intro item hitem
        simpa using List.find?_eq_none.mp hfind item hitem
  | some item =>
      rcases modifyFirst_split (fun _ => message) hfind with ⟨front, back, hsplit, -, -, hmodify⟩
      rw [hmodify]
      have hothers := hfits item hfind
      rw [hsplit] at h hothers
      refine h.replace_iff.mpr fun other hother => hothers other ?_ ?_
      · rw [List.mem_append, List.mem_cons]
        exact (List.mem_append.mp hother).imp_right .inr
      · rintro rfl
        have hnodup := (List.perm_middle.nodup_iff.mp (h.nodup.of_map))
        exact (List.nodup_cons.mp hnodup).1 hother

/-- A message that is inserted in order keeps the order. -/
lemma increasing_insertInto (h : Increasing ChatMessage.id m.messages)
    (hinserts : message.id ∉ m.messages.map (·.id) → DatesFollowIds (m.messages ++ [message])) :
    Increasing ChatMessage.id (Manager.insertInto P message m.messages) := by
  rw [Manager.insertInto]
  split_ifs with hany
  · rw [increasing_iff_ids, map_modifyFirst]
    · exact increasing_iff_ids.mp h
    · intro item hitem
      exact (beq_iff_eq.mp hitem).symm
  · have hnew : message.id ∉ m.messages.map (·.id) := mt any_key.mpr hany
    refine P.sortByDate.increasing_of_follows ?_ (hinserts hnew)
    rw [List.map_append]
    exact List.Nodup.append h.nodup (List.nodup_singleton _) (by simpa using hnew)

lemma increasing_insertMessage (h : Increasing ChatMessage.id m.messages)
    (hinserts : m.InsertsInOrder message) :
    Increasing ChatMessage.id (m.insertMessage P message).messages := by
  rw [Manager.insertMessage_messages]
  split_ifs with hadmits
  · exact increasing_insertInto h (hinserts hadmits)
  · exact h

/-- A page keeps the order in any case. -/
lemma increasing_mergeHistoryMessages (batch : List ChatMessage)
    (h : Increasing ChatMessage.id m.messages) :
    Increasing ChatMessage.id (m.mergeHistoryMessages P batch).1.messages := by
  have hnodup := @nodup_merge _ _ _ ChatMessage.id (m.shownOf batch) _ h.nodup
  simp only [Manager.mergeHistoryMessages, Manager.setMessages]
  split_ifs with hadded
  · exact P.sortById.increasing hnodup
  · rw [increasing_iff_ids, map_merge_of_added (Nat.eq_zero_of_not_pos hadded)]
    exact increasing_iff_ids.mp h

/-! ## Runs -/

lemma increasing_step {e : Event} (h : Increasing ChatMessage.id m.messages) (hok : m.KeepsOrder P e) :
    Increasing ChatMessage.id (m.step P e).messages := by
  have hchange := step_change P m e
  generalize m.step P e = m' at hchange
  cases hchange with
  | keeps hkeeps =>
      rw [increasing_iff_ids] at h ⊢
      exact h.sublist hkeeps.ids
  | opens hnil =>
      rw [hnil]
      exact .nil
  | deselects => exact h
  | history reply =>
      rw [(m.handleMessages_same P reply).messages]
      exact increasing_mergeHistoryMessages _ h
  | single raw => exact increasing_insertMessage h hok
  | arrival raw =>
      by_cases hmatch : m.messageMatchesActiveForumTopic raw
      · rw [(m.handleNewMessage_same P hmatch).messages]
        exact increasing_insertMessage h (hok hmatch)
      · rw [m.handleNewMessage_of_mismatch P hmatch]
        exact h
  | success oldMessageId raw =>
      rw [Manager.handleSendSucceeded_messages]
      simp only [Manager.KeepsOrder] at hok
      split_ifs at hok ⊢ with hfinds hpending
      · exact increasing_replaced h hok
      · rw [Manager.replaceMessage_messages, if_pos hpending]
        exact increasing_replaced h hok
      · rw [Manager.replaceMessage_messages, if_neg hpending]
        exact increasing_insertMessage h hok

/-- **The list is sorted by id with every id once, and its first message is the oldest**: this holds in
every state of every run in which what comes in singly comes in where its id belongs. -/
theorem messages_increasing
    (h : Reachable (Manager.step P) (Manager.KeepsOrder P) {} m) :
    (m.messages.map (·.id)).Nodup ∧ m.messages.Pairwise (fun a b => a.id < b.id) ∧
      ∀ message ∈ m.messages, m.oldestId ≤ message.id := by
  have hincreasing : Increasing ChatMessage.id m.messages := by
    refine h.invariant (I := fun m : Manager => Increasing ChatMessage.id m.messages) .nil ?_
    intro m e hm hok
    exact increasing_step hm hok
  refine ⟨hincreasing.nodup, hincreasing, ?_⟩
  intro message hmessage
  rw [Manager.oldestId]
  cases hmessages : m.messages with
  | nil => simp [hmessages] at hmessage
  | cons first rest =>
      rw [hmessages] at hincreasing hmessage
      rcases List.mem_cons.mp hmessage with rfl | hrest
      · exact le_rfl
      · exact ((List.pairwise_cons.mp hincreasing).1 message hrest).le

/-- A message that is being sent under the id 10. -/
def messageTen : RawMessage := { RawMessage.text 10 1 "hello" with isOutgoing := true }

/-- Chat 1 is open and the message is being sent there. -/
def sendingTen : List Event := [.openChat 1, .update (.newMessage messageTen)]

/-- It has been sent, and TDLib gives it this id. -/
def sentAs (id : ℤ) : Event :=
  .update (.messageSendSucceeded (some 10) { messageTen with id })

theorem messages_increasing_sent :
    let m := (sendingTen ++ [sentAs 11]).foldl (Manager.step .plain) {}
    (m.messages.map (·.id)).Nodup ∧ m.messages.Pairwise (fun a b => a.id < b.id) ∧
      ∀ message ∈ m.messages, m.oldestId ≤ message.id := by
  refine messages_increasing (Reachable.start.run ⟨trivial, ?_, ?_, trivial⟩)
  · intro _ _ _
    simp [DatesFollowIds, Manager.parseMessage, messageTen, RawMessage.text, Manager.step, Manager.openChat,
      Manager.startLoading, Manager.send, Manager.requestChatHistory]
  · simp only [sentAs, Manager.KeepsOrder]
    rw [if_pos (by decide)]
    intro item hitem other hother hne
    have hitem' : item ∈ [Manager.parseMessage .plain {} messageTen] := List.mem_of_find?_eq_some hitem
    have hother' : other ∈ [Manager.parseMessage .plain {} messageTen] := hother
    exact absurd ((List.mem_singleton.mp hother').trans (List.mem_singleton.mp hitem').symm) hne

/-- **The newest message comes first**: it was being sent when a message arrived, and keeps the place that
it had until then. -/
theorem oldest_not_first :
    ∃ m, Reachable (Manager.step .plain) (fun _ _ => True) {} m ∧
      ¬m.messages.Pairwise (fun a b => a.id < b.id) ∧
      ∃ message ∈ m.messages, message.id < m.oldestId := by
  have hrun : Reachable (Manager.step .plain) (fun _ _ => True) {}
      ((sendingTen ++ [.update (.newMessage (RawMessage.text 12 1 "hi")), sentAs 15]).foldl
        (Manager.step .plain) {}) :=
    Reachable.start.run ⟨trivial, trivial, trivial, trivial, trivial⟩
  refine ⟨_, hrun, by decide, ?_⟩
  exact ⟨Manager.parseMessage .plain {} (RawMessage.text 12 1 "hi"), by decide, by decide⟩

/-! ## What a page does -/

/-- **A page is merged without loss and without repetition**: the ids are those from before and those of the
messages that are not blocked, each once; the last message that came under an id is the one that is shown, and
where none came the one from before is; the number is that of the new ids, and with a new one the list is
sorted. -/
theorem mergeHistoryMessages_merges (P : Platform) (m : Manager) (batch : List ChatMessage)
    (h : (m.messages.map (·.id)).Nodup) :
    let shown := m.shownOf batch
    let (after, added) := m.mergeHistoryMessages P batch
    (∀ id, id ∈ after.messages.map (·.id) ↔
        id ∈ m.messages.map (·.id) ∨ id ∈ shown.map (·.id)) ∧
      (after.messages.map (·.id)).Nodup ∧
      (∀ message, message ∈ after.messages ↔
        (shown.filter (·.id == message.id)).getLast? = some message ∨
          message ∈ m.messages ∧ message.id ∉ shown.map (·.id)) ∧
      added = ((shown.map (·.id)).toFinset \ (m.messages.map (·.id)).toFinset).card ∧
      (0 < added → after.messages.Pairwise fun a b => a.id ≤ b.id) ∧
      (added = 0 → after.messages.map (·.id) = m.messages.map (·.id)) ∧
      after = { m with messages := after.messages } := by
  intro shown
  have hperm : (m.mergeHistoryMessages P batch).1.messages.Perm
      (merge ChatMessage.id shown m.messages).1 := by
    simp only [Manager.mergeHistoryMessages, Manager.setMessages]
    split_ifs
    · exact P.sortById.perm _
    · exact List.Perm.refl _
  refine ⟨?_, nodup_mergeHistoryMessages batch h, ?_, merge_added h, ?_, ?_, rfl⟩
  · intro id
    exact (hperm.map (·.id)).mem_iff.trans mem_map_merge
  · intro message
    exact hperm.mem_iff.trans (mem_merge h)
  · intro hadded
    simp only [Manager.setMessages] at hadded ⊢
    rw [if_pos hadded]
    exact P.sortById.sorted _
  · intro hadded
    simp only [Manager.setMessages] at hadded ⊢
    rw [if_neg hadded.not_gt]
    exact map_merge_of_added hadded

/-- The message with the id 10 is shown, and a page has it twice, with an older one between. -/
theorem mergeHistoryMessages_merges_ten :
    let m : Manager := ({} : Manager).setMessages [Manager.parseMessage .plain {} messageTen]
    let edited := Manager.parseMessage .plain {} (RawMessage.text 10 1 "edited")
    let page := [messageTen, RawMessage.text 9 1 "hi"].map (Manager.parseMessage .plain {}) ++ [edited]
    let (after, added) := m.mergeHistoryMessages .plain page
    edited ∈ after.messages ∧ (after.messages.map (·.id)).Nodup ∧ added = 1 := by
  intro m edited page
  have hmerges := mergeHistoryMessages_merges .plain m page (by decide)
  exact ⟨(hmerges.2.2.1 edited).mpr (.inl rfl), hmerges.2.1, rfl⟩

end RioGram.Chats
