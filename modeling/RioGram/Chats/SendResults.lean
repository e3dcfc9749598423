import RioGram.Chats.Changes
import RioGram.Core.Reachable

/-!
# Messages that have been sent

TDLib shows a message that is being sent under an id of its own and, once it has been sent, gives the
message with its final id.  `SendSettled` is what this should do to the list: the entry with the old id is
replaced, or the new message comes in and nothing else changes.

* `handleSendSucceeded_settles` says exactly when it does, for every list with distinct ids, and that the
  ids stay distinct in every run in which it always does.
* `unrelated_message_lost` is a list for which it does not.
-/

namespace RioGram.Chats

open Keyed Reaching

/-- An update with the old id and the new message takes the list from `before` to `after` as it should. -/
structure SendSettled (oldMessageId : Option ℤ) (message : ChatMessage)
    (before after : List ChatMessage) : Prop where
  replaced : ∀ old, oldMessageId = some old → old ∈ before.map (·.id) →
    ∃ front item back, before = front ++ item :: back ∧ item.id = old ∧ after = front ++ message :: back
  inserted : (∀ old, oldMessageId = some old → old ∉ before.map (·.id)) →
    after.count message = 1 ∧
      (after.filter (·.id ≠ message.id)).Perm (before.filter (·.id ≠ message.id))
  distinct : (after.map (·.id)).Nodup

/-- The new id is not in the list yet if the entry with the old id is replaced.  Otherwise no message is
taken for the one that is being sent, and if the new message is not for the list it is there already. -/
def Manager.Settles (m : Manager) (oldMessageId : Option ℤ) (message : ChatMessage) : Prop :=
  if m.findsOld oldMessageId message then message.id ∉ m.messages.map (·.id)
  else
    (m.activeChatId = some message.chatId → ¬m.messages.any (Manager.isPendingFor message)) ∧
      (¬m.admits message → message ∈ m.messages)

variable {P : Platform} {m : Manager} {oldMessageId : Option ℤ} {message : ChatMessage}

/-! ## Lists with distinct ids -/

section Lists

variable {messages : List ChatMessage}

lemma exists_split {p : ChatMessage → Bool} (f : ChatMessage → ChatMessage) (h : messages.any p) :
    ∃ front item back, messages = front ++ item :: back ∧ p item ∧
      modifyFirst p f messages = front ++ f item :: back := by
  rcases Option.isSome_iff_exists.mp (List.find?_isSome.mpr (List.any_eq_true.mp h)) with ⟨item, hitem⟩
  rcases modifyFirst_split f hitem with ⟨front, back, hsplit, -, hp, hmodify⟩
  exact ⟨front, item, back, hsplit, hp, hmodify⟩

/-- One entry for another keeps the ids distinct exactly if the new id is not one of the others. -/
lemma nodup_replaced_iff {front back : List ChatMessage} {item : ChatMessage}
    (h : ((front ++ item :: back).map (·.id)).Nodup) :
    ((front ++ message :: back).map (·.id)).Nodup ↔ message.id ∉ (front ++ back).map (·.id) := by
  have hmiddle : ∀ a : ChatMessage, ((front ++ a :: back).map (·.id)).Nodup ↔
      a.id ∉ (front ++ back).map (·.id) ∧ ((front ++ back).map (·.id)).Nodup := by
    intro a
    rw [(List.perm_middle.map _).nodup_iff, List.map_cons, List.nodup_cons]
  rw [hmiddle, and_iff_left ((hmiddle item).mp h).2]

lemma nodup_insertInto (h : (messages.map (·.id)).Nodup) :
    ((Manager.insertInto P message messages).map (·.id)).Nodup := by
  have hput : (Manager.insertInto P message messages).Perm (put ChatMessage.id message messages) := by
    rw [Manager.insertInto, put]
    split_ifs
    · exact .refl _
    · exact P.sortByDate.perm _
  exact (hput.map _).nodup_iff.mpr (nodup_put h)

lemma filter_ne_of_id {item : ChatMessage} (h : item.id = message.id) (front back : List ChatMessage) :
    (front ++ item :: back).filter (·.id ≠ message.id) = (front ++ back).filter (·.id ≠ message.id) := by
  simp [h]

/-- A message that is inserted is there once, and everything else stays. -/
lemma insertInto_settled (h : (messages.map (·.id)).Nodup) :
    (Manager.insertInto P message messages).count message = 1 ∧
      ((Manager.insertInto P message messages).filter (·.id ≠ message.id)).Perm
        (messages.filter (·.id ≠ message.id)) := by
  have hnodup := (@nodup_insertInto P message messages h).of_map
  rw [Manager.insertInto] at hnodup ⊢
  split_ifs at hnodup ⊢ with hany
  · rcases exists_split (fun _ => message) hany with ⟨front, item, back, rfl, hitem, hmodify⟩
    rw [hmodify] at hnodup ⊢
    refine ⟨List.count_eq_one_of_mem hnodup (by simp), ?_⟩
    rw [filter_ne_of_id rfl, filter_ne_of_id (beq_iff_eq.mp hitem)]
  · refine ⟨List.count_eq_one_of_mem hnodup ?_, ?_⟩
    · exact (P.sortByDate.perm _).mem_iff.mpr (by simp)
    · refine ((P.sortByDate.perm _).filter _).trans ?_
      simp

end Lists

/-! ## The branches of the handler -/

/-- An id that the direct path does not find is not in the list or is that of the new message. -/
lemma old_of_not_findsOld (h : ¬m.findsOld oldMessageId message) {old : ℤ}
    (hold : oldMessageId = some old) (hmem : old ∈ m.messages.map (·.id)) : old = message.id := by
  by_contra hne
  exact h (m.findsOld_iff.mpr ⟨old, hold, hne, hmem⟩)

/-- **The direct path**: the entry with the old id is replaced. -/
lemma settled_direct (hnodup : (m.messages.map (·.id)).Nodup)
    (hfinds : m.findsOld oldMessageId message) :
    SendSettled oldMessageId message m.messages
        (modifyFirst (fun item => some item.id == oldMessageId) (fun _ => message) m.messages) ↔
      message.id ∉ m.messages.map (·.id) := by
  rcases m.findsOld_iff.mp hfinds with ⟨old, rfl, hne, hmem⟩
  have hany : m.messages.any fun item => some item.id == some old := by
    rcases List.mem_map.mp hmem with ⟨item, hitem, heq⟩
    exact List.any_eq_true.mpr ⟨item, hitem, by simp [heq]⟩
  rcases exists_split (fun _ => message) hany with ⟨front, item, back, hsplit, hitem, hmodify⟩
  have hid : item.id = old := by simpa using hitem
  rw [hmodify]
  rw [hsplit] at hnodup hmem ⊢
  have hothers : message.id ∉ (front ++ item :: back).map (·.id) ↔
      message.id ∉ (front ++ back).map (·.id) := by
    have hnew : message.id ≠ item.id := by
      rw [hid]
      exact hne.symm
    simp [hnew]
  rw [hothers, ← nodup_replaced_iff hnodup]
  constructor
  · exact fun h => h.distinct
  · intro hdistinct
    refine ⟨?_, fun habsent => absurd hmem (habsent old rfl), hdistinct⟩
    rintro _ ⟨⟩ _
    exact ⟨front, item, back, rfl, hid, rfl⟩

/-- **The guess**: an outgoing message with a larger id is lost. -/
lemma not_settled_pending (hnodup : (m.messages.map (·.id)).Nodup)
    (hfinds : ¬m.findsOld oldMessageId message) (hpending : m.messages.any (Manager.isPendingFor message)) :
    ¬SendSettled oldMessageId message m.messages
      (modifyFirst (Manager.isPendingFor message) (fun _ => message) m.messages) := by
  rcases exists_split (fun _ => message) hpending with ⟨front, item, back, hsplit, hitem, hmodify⟩
  have hid : item.id ≠ message.id := by
    simp only [Manager.isPendingFor, Bool.and_eq_true, decide_eq_true_eq] at hitem
    exact hitem.2.ne'
  rw [hmodify]
  intro hsettled
  have hnew : message.id ∉ m.messages.map (·.id) := by
    rw [hsplit] at hnodup ⊢
    have hothers := (nodup_replaced_iff hnodup).mp hsettled.distinct
    simpa [hid.symm] using hothers
  have habsent : ∀ old, oldMessageId = some old → old ∉ m.messages.map (·.id) := by
    intro old hold hmem
    exact hnew (old_of_not_findsOld hfinds hold hmem ▸ hmem)
  have hlength := (hsettled.inserted habsent).2.length_eq
  rw [filter_ne_of_id rfl, hsplit] at hlength
  simp [hid] at hlength

/-- **The message comes in**. -/
lemma settled_inserted (hnodup : (m.messages.map (·.id)).Nodup)
    (hfinds : ¬m.findsOld oldMessageId message) :
    SendSettled oldMessageId message m.messages (Manager.insertInto P message m.messages) := by
  refine ⟨?_, fun _ => insertInto_settled hnodup, nodup_insertInto hnodup⟩
  intro old hold hmem
  obtain rfl := old_of_not_findsOld hfinds hold hmem
  have hany : m.messages.any (·.id == message.id) := any_key.mpr hmem
  rcases exists_split (fun _ => message) hany with ⟨front, item, back, hsplit, hitem, hmodify⟩
  exact ⟨front, item, back, hsplit, beq_iff_eq.mp hitem, by rw [Manager.insertInto, if_pos hany, hmodify]⟩

/-- **The message is not for the list**, which stays as it is. -/
lemma settled_same_iff (hnodup : (m.messages.map (·.id)).Nodup)
    (hfinds : ¬m.findsOld oldMessageId message) :
    SendSettled oldMessageId message m.messages m.messages ↔ message ∈ m.messages := by
  constructor
  · intro hsettled
    by_cases habsent : ∀ old, oldMessageId = some old → old ∉ m.messages.map (·.id)
    · apply List.count_pos_iff.mp
      rw [(hsettled.inserted habsent).1]
      exact Nat.one_pos
    · push Not at habsent
      rcases habsent with ⟨old, hold, hmem⟩
      rcases hsettled.replaced old hold hmem with ⟨front, item, back, -, -, hafter⟩
      rw [hafter]
      simp
  · intro hmessage
    refine ⟨?_, fun _ => ⟨List.count_eq_one_of_mem hnodup.of_map hmessage, .refl _⟩, hnodup⟩
    intro old hold hmem
    obtain rfl := old_of_not_findsOld hfinds hold hmem
    rcases List.append_of_mem hmessage with ⟨front, back, hsplit⟩
    exact ⟨front, message, back, hsplit, rfl, hsplit⟩

/-! ## The handler -/

lemma handleSendSucceeded_settles_iff (P : Platform) (raw : RawMessage)
    (hnodup : (m.messages.map (·.id)).Nodup) :
    SendSettled oldMessageId (m.parseMessage P raw) m.messages
        (m.handleSendSucceeded P oldMessageId raw).messages ↔
      m.Settles oldMessageId (m.parseMessage P raw) := by
  rw [Manager.handleSendSucceeded_messages, Manager.Settles]
  generalize m.parseMessage P raw = message
  by_cases hfinds : m.findsOld oldMessageId message
  · simp only [hfinds, if_true]
    exact settled_direct hnodup hfinds
  · simp only [hfinds, if_false, Bool.false_eq_true]
    rw [Manager.replaceMessage_messages]
    by_cases hpending : m.activeChatId = some message.chatId ∧ m.messages.any (Manager.isPendingFor message)
    · rw [if_pos hpending]
      constructor
      · intro hsettled
        exact absurd hsettled (not_settled_pending hnodup hfinds hpending.2)
      · rintro ⟨hnone, -⟩
        exact absurd hpending.2 (hnone hpending.1)
    · have hnone : m.activeChatId = some message.chatId →
          ¬m.messages.any (Manager.isPendingFor message) := by
        intro hchat hany
        exact hpending ⟨hchat, hany⟩
      rw [if_neg hpending, Manager.insertMessage_messages, and_iff_right hnone]
      by_cases hadmits : m.admits message
      · simp only [hadmits, if_true, not_true, false_imp_iff, iff_true]
        exact settled_inserted hnodup hfinds
      · simp only [hadmits, if_false, Bool.false_eq_true, not_false_eq_true, true_imp_iff]
        exact settled_same_iff hnodup hfinds

/-! ## Runs -/

lemma ids_of_place (messages : List ChatMessage) :
    messages.map (·.id) = (messages.map ChatMessage.place).map (·.id) := by
  rw [List.map_map]
  rfl

lemma Keeps.ids {m' : Manager} (h : Keeps m m') :
    (m'.messages.map (·.id)).Sublist (m.messages.map (·.id)) := by
  rw [ids_of_place, ids_of_place m.messages]
  exact h.places.map _

lemma nodup_mergeHistoryMessages (batch : List ChatMessage) (hnodup : (m.messages.map (·.id)).Nodup) :
    ((m.mergeHistoryMessages P batch).1.messages.map (·.id)).Nodup := by
  have hmerge := @nodup_merge _ _ _ ChatMessage.id (m.shownOf batch) _ hnodup
  simp only [Manager.mergeHistoryMessages, Manager.setMessages]
  split_ifs
  · exact ((P.sortById.perm _).map _).nodup_iff.mpr hmerge
  · exact hmerge

lemma nodup_insertMessage (hnodup : (m.messages.map (·.id)).Nodup) :
    ((m.insertMessage P message).messages.map (·.id)).Nodup := by
  rw [Manager.insertMessage_messages]
  split_ifs
  · exact nodup_insertInto hnodup
  · exact hnodup

/-- Every update about a message that was sent meets the condition. -/
def Manager.SettlesSent (P : Platform) (m : Manager) : Event → Prop
  | .update (.messageSendSucceeded oldMessageId raw) =>
      m.Settles oldMessageId (m.parseMessage P raw)
  | _ => True

lemma nodup_step {e : Event} (hnodup : (m.messages.map (·.id)).Nodup) (hok : m.SettlesSent P e) :
    ((m.step P e).messages.map (·.id)).Nodup := by
  have hchange := step_change P m e
  generalize m.step P e = m' at hchange
  cases hchange with
  | keeps hkeeps => exact hnodup.sublist hkeeps.ids
  | opens hnil => simp [hnil]
  | deselects => exact hnodup
  | history reply =>
      rw [(m.handleMessages_same P reply).messages]
      exact nodup_mergeHistoryMessages _ hnodup
  | single raw => exact nodup_insertMessage hnodup
  | arrival raw =>
      by_cases hmatch : m.messageMatchesActiveForumTopic raw
      · rw [(m.handleNewMessage_same P hmatch).messages]
        exact nodup_insertMessage hnodup
      · rw [m.handleNewMessage_of_mismatch P hmatch]
        exact hnodup
  | success oldMessageId raw => exact ((handleSendSucceeded_settles_iff P raw hnodup).mpr hok).distinct

/-- **An update about a sent message does to a list with distinct ids what it should exactly if its
condition is met**, and the ids are distinct in every state of every run in which it is always met. -/
theorem handleSendSucceeded_settles (P : Platform) :
    (∀ (m : Manager) (oldMessageId : Option ℤ) (raw : RawMessage), (m.messages.map (·.id)).Nodup →
      (SendSettled oldMessageId (m.parseMessage P raw) m.messages
          (m.handleSendSucceeded P oldMessageId raw).messages ↔
        m.Settles oldMessageId (m.parseMessage P raw))) ∧
    ∀ m, Reachable (Manager.step P) (Manager.SettlesSent P) {} m → (m.messages.map (·.id)).Nodup := by
  refine ⟨fun m oldMessageId raw hnodup => handleSendSucceeded_settles_iff P raw hnodup, ?_⟩
  intro m h
  refine h.invariant (I := fun m => (m.messages.map (·.id)).Nodup) List.nodup_nil ?_
  intro m e hnodup hok
  exact nodup_step hnodup hok

/-- Chat 1 is open, and messages with these ids are being sent. -/
def beingSent (ids : List ℤ) : Manager :=
  (Event.openChat 1 :: ids.map fun id =>
    Event.update (.newMessage { RawMessage.text id 1 "hello" with isOutgoing := true })).foldl
      (Manager.step .plain) {}

/-- What TDLib gives for the message with the id 10. -/
def sentMessage : RawMessage := { RawMessage.text 11 1 "hello" with isOutgoing := true }

theorem handleSendSucceeded_settles_two :
    SendSettled (some 10) ((beingSent [10, 12]).parseMessage .plain sentMessage)
        (beingSent [10, 12]).messages
        ((beingSent [10, 12]).handleSendSucceeded .plain (some 10) sentMessage).messages ∧
      ((beingSent [10, 12]).messages.map (·.id)).Nodup := by
  refine ⟨((handleSendSucceeded_settles .plain).1 _ (some 10) sentMessage (by decide)).mpr ?_,
    (handleSendSucceeded_settles .plain).2 _ (Reachable.start.run ⟨trivial, trivial, trivial, trivial⟩)⟩
  rw [Manager.Settles, if_pos (by decide)]
  decide

/-- **Another message is lost**: the list no longer has the message with the id 10, and the one with the
id 12, which is still being sent, is taken for it. -/
theorem unrelated_message_lost :
    Reachable (Manager.step .plain) (fun _ _ => True) {} (beingSent [12]) ∧
      ((beingSent [12]).messages.map (·.id)).Nodup ∧
      ¬SendSettled (some 10) ((beingSent [12]).parseMessage .plain sentMessage)
        (beingSent [12]).messages
        ((beingSent [12]).handleSendSucceeded .plain (some 10) sentMessage).messages := by
  refine ⟨Reachable.start.run ⟨trivial, trivial, trivial⟩, by decide, ?_⟩
  intro hsettled
  have hperm := (hsettled.inserted (by rintro _ ⟨⟩; decide)).2
  exact absurd hperm.length_eq (by decide)

end RioGram.Chats
