import RioGram.Chats.Changes
import RioGram.Core.Reachable

/-!
# The messages that are selected

The user selects messages of the open chat to delete or to forward them.  `SelectionRun` is the manager with
the ids that are selected, in the order in which they were, and with the requests that name them.

* `selection_shown` says when the ids are those of messages that are shown, also in the requests.
* `sent_message_selected` is a run in which an id is selected that no message has.
-/

namespace RioGram.Chats

open Keyed Reaching

inductive SelectionRequest where
  | deleteMessages (chatId : ℤ) (messageIds : List ℤ) (revoke : Bool)
  | forwardMessages (chatId fromChatId : ℤ) (messageIds : List ℤ) (sendCopy removeCaption : Bool)
deriving DecidableEq

/-- The chat that the messages are of. -/
def SelectionRequest.sourceChatId : SelectionRequest → ℤ
  | .deleteMessages chatId _ _ => chatId
  | .forwardMessages _ fromChatId _ _ _ => fromChatId

def SelectionRequest.messageIds : SelectionRequest → List ℤ
  | .deleteMessages _ messageIds _ => messageIds
  | .forwardMessages _ _ messageIds _ _ => messageIds

inductive SelectionEvent where
  | enterSelectionMode (initialMessageId : Option ℤ)
  | exitSelectionMode
  | toggleMessageSelection (messageId : ℤ)
  | deleteSelectedMessages (revoke : Bool)
  | forwardSelectedMessages (toChatId : ℤ) (withoutAuthor removeCaption : Bool)
  | other (e : Event)

structure SelectionRun where
  manager : Manager := {}
  selectionMode : Bool := false
  selectedMessageIds : List ℤ := []
  requests : List SelectionRequest := []

namespace SelectionRun

variable (P : Platform) (r : SelectionRun)

def enterSelectionMode (initialMessageId : Option ℤ) : SelectionRun :=
  { r with selectionMode := true, selectedMessageIds := initialMessageId.toList }

def exitSelectionMode : SelectionRun := { r with selectionMode := false, selectedMessageIds := [] }

/-- Ids are not selected any more, and the mode ends with the last one. -/
def deselect (p : ℤ → Bool) : SelectionRun :=
  let selected := r.selectedMessageIds.filter (!p ·)
  { r with
    selectedMessageIds := selected
    selectionMode := if selected = [] then false else r.selectionMode }

def toggleMessageSelection (messageId : ℤ) : SelectionRun :=
  if !r.selectionMode then r.enterSelectionMode (some messageId)
  else if r.selectedMessageIds.contains messageId then r.deselect (· == messageId)
  else { r with selectedMessageIds := r.selectedMessageIds ++ [messageId] }

def send (request : SelectionRequest) : SelectionRun := { r with requests := r.requests ++ [request] }

def deleteMessages (messageIds : List ℤ) (revoke : Bool) : SelectionRun :=
  match r.manager.activeChatId with
  | none => r
  | some chatId => if messageIds = [] then r else r.send (.deleteMessages chatId messageIds revoke)

def deleteSelectedMessages (revoke : Bool) : SelectionRun :=
  if r.selectedMessageIds = [] then r
  else (r.deleteMessages r.selectedMessageIds revoke).exitSelectionMode

def forwardSelectedMessages (toChatId : ℤ) (withoutAuthor removeCaption : Bool) : SelectionRun :=
  match r.manager.activeChatId with
  | none => r
  | some fromChatId =>
      if r.selectedMessageIds = [] then r
      else
        (r.send (.forwardMessages toChatId fromChatId (r.selectedMessageIds.insertionSort (· ≤ ·))
          withoutAuthor removeCaption)).exitSelectionMode

/-- What a deletion does to the selection; only one that takes the messages away changes it. -/
def handleDeleteMessages (chatId : Option ℤ) (ids : List ℤ) (isPermanent : Bool) : SelectionRun :=
  let after := { r with manager := r.manager.handleDeleteMessages chatId ids isPermanent }
  if chatId ≠ r.manager.activeChatId ∨ ids = [] then after
  else if isPermanent && r.manager.settings.isAntiRecallEnabled then after
  else if isPermanent then after.deselect ids.contains
  else after

/-- What happens to the manager; what opens or closes a chat also ends the selection. -/
def handle (e : Event) : SelectionRun :=
  match e with
  | .update (.deleteMessages chatId ids isPermanent) => r.handleDeleteMessages chatId ids isPermanent
  | e =>
      let after := { r with manager := r.manager.step P e }
      if e.clearsMessages then after.exitSelectionMode else after

def step : SelectionEvent → SelectionRun
  | .enterSelectionMode initialMessageId => r.enterSelectionMode initialMessageId
  | .exitSelectionMode => r.exitSelectionMode
  | .toggleMessageSelection messageId => r.toggleMessageSelection messageId
  | .deleteSelectedMessages revoke => r.deleteSelectedMessages revoke
  | .forwardSelectedMessages toChatId withoutAuthor removeCaption =>
      r.forwardSelectedMessages toChatId withoutAuthor removeCaption
  | .other e => r.handle P e

def shownIds : List ℤ := r.manager.messages.map (·.id)

/-- The ids that are selected are those of messages that are shown, and some are while the mode is on. -/
structure Faithful (r : SelectionRun) : Prop where
  shown : r.selectedMessageIds ⊆ r.shownIds
  mode : r.selectedMessageIds = [] → ¬r.selectionMode

/-- The request names messages that are shown, as ones of the chat that is open. -/
def Names (request : SelectionRequest) : Prop :=
  r.manager.activeChatId = some request.sourceChatId ∧ request.messageIds ⊆ r.shownIds

end SelectionRun

/-- The message whose place a message that was sent takes. -/
def Manager.replacedBy (m : Manager) (oldMessageId : Option ℤ) (message : ChatMessage) : Option ChatMessage :=
  if m.findsOld oldMessageId message then m.messages.find? fun item => some item.id == oldMessageId
  else if m.activeChatId = some message.chatId then m.messages.find? (Manager.isPendingFor message)
  else none

/-- A message is selected while it is shown, and does not lose its place to one that was sent. -/
def SelectionRun.Leaves (P : Platform) (r : SelectionRun) : SelectionEvent → Prop
  | .enterSelectionMode initialMessageId => ∃ messageId ∈ r.shownIds, initialMessageId = some messageId
  | .toggleMessageSelection messageId => messageId ∈ r.shownIds
  | .other (.update (.messageSendSucceeded oldMessageId raw)) =>
      ∀ message, r.manager.replacedBy oldMessageId (r.manager.parseMessage P raw) = some message →
        message.id ∈ r.selectedMessageIds → 1 < r.shownIds.count message.id
  | _ => True

/-! ## Which ids are shown after a step -/

section ids

variable {P : Platform} {m : Manager}

lemma fixed_id : Fixed ChatMessage.id :=
  ⟨fun _ _ => rfl, fun _ _ => rfl, fun _ _ => rfl, fun _ _ => rfl, fun _ _ => rfl, fun _ _ => rfl⟩

lemma ids_mergeHistoryMessages (batch : List ChatMessage) :
    m.messages.map (·.id) ⊆ (m.mergeHistoryMessages P batch).1.messages.map (·.id) := by
  intro id hid
  have hmerged : id ∈ (merge ChatMessage.id (m.shownOf batch) m.messages).1.map (·.id) :=
    mem_map_merge.mpr (.inl hid)
  simp only [Manager.mergeHistoryMessages, Manager.setMessages]
  split_ifs
  · exact ((P.sortById.perm _).map _).mem_iff.mpr hmerged
  · exact hmerged

lemma ids_insertMessage (message : ChatMessage) :
    m.messages.map (·.id) ⊆ (m.insertMessage P message).messages.map (·.id) := by
  rw [Manager.insertMessage_messages]
  split_ifs with hadmits
  · rw [Manager.insertInto]
    split_ifs with hany
    · have hkept (item : ChatMessage) (hitem : item.id == message.id) : message.id = item.id :=
        (beq_iff_eq.mp hitem).symm
      rw [map_modifyFirst hkept]
      exact List.Subset.refl _
    · intro id hid
      refine ((P.sortByDate.perm _).map _).mem_iff.mpr ?_
      rw [List.map_append]
      exact List.mem_append_left _ hid
  · exact List.Subset.refl _

/-- Ids stay but for deletions, for messages that are sent and for chats that are opened or closed. -/
lemma ids_step {e : Event} (hclears : e.clearsMessages = false)
    (hsent : ∀ oldMessageId raw, e ≠ .update (.messageSendSucceeded oldMessageId raw))
    (hdeletes : ∀ chatId ids isPermanent, e ≠ .update (.deleteMessages chatId ids isPermanent)) :
    m.messages.map (·.id) ⊆ (m.step P e).messages.map (·.id) := by
  have halters := step_alters fixed_id P m e
  generalize m.step P e = m' at halters
  cases halters with
  | same hsame => exact hsame.shown ▸ List.Subset.refl _
  | opens hopens hnil => exact absurd hopens (by simp [hclears])
  | deselects => exact List.Subset.refl _
  | history reply =>
      rw [(m.handleMessages_same P reply).messages]
      exact ids_mergeHistoryMessages _
  | single raw => exact ids_insertMessage _
  | arrival raw =>
      by_cases hmatch : m.messageMatchesActiveForumTopic raw
      · rw [(m.handleNewMessage_same P hmatch).messages]
        exact ids_insertMessage _
      · rw [m.handleNewMessage_of_mismatch P hmatch]
        exact List.Subset.refl _
  | success oldMessageId raw => exact absurd rfl (hsent oldMessageId raw)
  | deletes chatId ids isPermanent => exact absurd rfl (hdeletes chatId ids isPermanent)
  | reads chatId lastRead =>
      have hsame : SameAs ChatMessage.id m (m.handleUpdateChatReadOutbox chatId lastRead) :=
        m.handleUpdateChatReadOutbox_sameAs chatId lastRead fun _ _ => rfl
      exact hsame.shown ▸ List.Subset.refl _
  | changes chatId messageId newContent =>
      have hsame : SameAs ChatMessage.id m (m.handleMessageContent chatId messageId newContent) :=
        m.handleMessageContent_sameAs chatId messageId newContent fun _ _ _ _ => rfl
      exact hsame.shown ▸ List.Subset.refl _
  | transfers file =>
      have hsame : SameAs ChatMessage.id m (m.handleFileUpdate file) := by
        refine m.handleFileUpdate_sameAs file fun message => ?_
        simp only [Manager.updateFileOf]
        split_ifs <;> rfl
      exact hsame.shown ▸ List.Subset.refl _
  | cancels fileId =>
      have hsame : SameAs ChatMessage.id m (m.cancelFile fileId) := m.cancelFile_sameAs fileId fun _ => rfl
      exact hsame.shown ▸ List.Subset.refl _

/-- A deletion that is final takes the ids away, if nothing is kept of the messages. -/
lemma ids_handleDeleteMessages (chatId : Option ℤ) (ids : List ℤ) (isPermanent : Bool) :
    (m.handleDeleteMessages chatId ids isPermanent).messages.map (·.id) =
      if chatId = m.activeChatId ∧ isPermanent ∧ ¬m.settings.isAntiRecallEnabled then
        (m.messages.map (·.id)).filter (!ids.contains ·)
      else m.messages.map (·.id) := by
  split_ifs with h
  · rcases h with ⟨hchat, hpermanent, hkeep⟩
    rw [Bool.not_eq_true] at hkeep
    simp only [Manager.handleDeleteMessages, hchat, hpermanent, hkeep, ne_eq, not_true, if_false,
      Bool.and_false, Bool.false_eq_true, if_true, Manager.setMessages, List.filter_map]
    rfl
  · by_cases hchat : chatId = m.activeChatId
    · have hkept : isPermanent → m.settings.isAntiRecallEnabled := by
        intro hpermanent
        by_contra hkeep
        exact h ⟨hchat, hpermanent, hkeep⟩
      exact (m.handleDeleteMessages_sameAs fixed_id chatId ids hkept).shown
    · rw [Manager.handleDeleteMessages, if_pos hchat]

/-- A message that was sent has another id than the one whose place it takes. -/
lemma replacedBy_ne {oldMessageId : Option ℤ} {message item : ChatMessage}
    (h : m.replacedBy oldMessageId message = some item) : message.id ≠ item.id := by
  rw [Manager.replacedBy] at h
  split_ifs at h with hfinds hchat
  · rcases m.findsOld_iff.mp hfinds with ⟨old, rfl, hne, -⟩
    have hitem := List.find?_some h
    simp only [Option.some_beq_some, beq_iff_eq] at hitem
    rw [hitem]
    exact hne.symm
  · have hpending := List.find?_some h
    simp only [Manager.isPendingFor, Bool.and_eq_true, decide_eq_true_eq] at hpending
    exact hpending.2.ne

/-- What becomes of the ids when a message has been sent. -/
lemma ids_handleSendSucceeded {keys : List ℤ} (h : keys ⊆ m.messages.map (·.id)) (oldMessageId : Option ℤ)
    (raw : RawMessage) :
    keys ⊆ (m.handleSendSucceeded P oldMessageId raw).messages.map (·.id) ↔
      ∀ item, m.replacedBy oldMessageId (m.parseMessage P raw) = some item →
        item.id ∈ keys → 1 < (m.messages.map (·.id)).count item.id := by
  rw [Manager.handleSendSucceeded_messages]
  generalize m.parseMessage P raw = message
  rcases hreplaced : m.replacedBy oldMessageId message with _ | item
  · refine iff_of_true ?_ fun item hitem => absurd hitem.symm (Option.some_ne_none item)
    rw [Manager.replacedBy] at hreplaced
    split_ifs at hreplaced with hfinds hchat
    · rcases m.findsOld_iff.mp hfinds with ⟨old, rfl, -, hold⟩
      rcases List.mem_map.mp hold with ⟨item, hitem, rfl⟩
      simpa using List.find?_eq_none.mp hreplaced item hitem
    · rw [if_neg hfinds, Manager.replaceMessage_messages, if_neg]
      · exact List.Subset.trans h (ids_insertMessage _)
      · rintro ⟨-, hpending⟩
        rcases List.any_eq_true.mp hpending with ⟨item, hitem, hyes⟩
        exact List.find?_eq_none.mp hreplaced item hitem hyes
    · rw [if_neg hfinds, Manager.replaceMessage_messages, if_neg fun hboth => hchat hboth.1]
      exact List.Subset.trans h (ids_insertMessage _)
  · have hne := replacedBy_ne hreplaced
    have hiff : (∀ other, some item = some other → other.id ∈ keys →
        1 < (m.messages.map (·.id)).count other.id) ↔
          (item.id ∈ keys → 1 < (m.messages.map (·.id)).count item.id) := by
      simp only [Option.some.injEq, forall_eq']
    rw [hiff]
    rw [Manager.replacedBy] at hreplaced
    split_ifs at hreplaced with hfinds hchat
    · rw [if_pos hfinds]
      exact subset_modifyFirst_iff h hreplaced hne
    · have hany : m.messages.any (Manager.isPendingFor message) :=
        List.any_eq_true.mpr ⟨item, List.mem_of_find?_eq_some hreplaced, List.find?_some hreplaced⟩
      rw [if_neg hfinds, Manager.replaceMessage_messages, if_pos ⟨hchat, hany⟩]
      exact subset_modifyFirst_iff h hreplaced hne

end ids

/-! ## What holds in every run -/

namespace SelectionRun

variable {P : Platform} {r : SelectionRun}

lemma exitSelectionMode_faithful : r.exitSelectionMode.Faithful :=
  ⟨List.nil_subset _, fun _ => Bool.false_ne_true⟩

lemma enterSelectionMode_faithful_iff (initialMessageId : Option ℤ) :
    (r.enterSelectionMode initialMessageId).Faithful ↔
      ∃ messageId ∈ r.shownIds, initialMessageId = some messageId := by
  cases initialMessageId with
  | none => exact iff_of_false (fun h => h.mode rfl rfl) (by simp)
  | some messageId =>
      have hshown : [messageId] ⊆ r.shownIds ↔ messageId ∈ r.shownIds := by simp
      simp only [Option.some.injEq, exists_eq_right']
      constructor
      · exact fun h => hshown.mp h.shown
      · exact fun h => ⟨hshown.mpr h, fun hnil => absurd hnil (List.cons_ne_nil _ _)⟩

lemma deselect_faithful (h : r.Faithful) (p : ℤ → Bool) : (r.deselect p).Faithful := by
  refine ⟨fun id hid => h.shown (List.mem_of_mem_filter hid), fun hnil => ?_⟩
  have hmode : (r.deselect p).selectionMode =
      if (r.deselect p).selectedMessageIds = [] then false else r.selectionMode := rfl
  rw [hmode, if_pos hnil]
  exact Bool.false_ne_true

lemma toggleMessageSelection_faithful_iff (h : r.Faithful) (messageId : ℤ) :
    (r.toggleMessageSelection messageId).Faithful ↔ messageId ∈ r.shownIds := by
  rw [toggleMessageSelection]
  split_ifs with hmode hselected
  · simp [enterSelectionMode_faithful_iff]
  · exact iff_of_true (deselect_faithful h _) (h.shown (List.contains_iff_mem.mp hselected))
  · constructor
    · exact fun hafter => hafter.shown (List.mem_append_right _ List.mem_cons_self)
    · intro hshown
      have hone : [messageId] ⊆ r.shownIds := List.cons_subset.mpr ⟨hshown, List.nil_subset _⟩
      refine ⟨List.append_subset.mpr ⟨h.shown, hone⟩, fun hnil => ?_⟩
      simp at hnil

lemma deleteSelectedMessages_faithful (h : r.Faithful) (revoke : Bool) :
    (r.deleteSelectedMessages revoke).Faithful := by
  rw [deleteSelectedMessages]
  split_ifs
  · exact h
  · exact exitSelectionMode_faithful

lemma forwardSelectedMessages_faithful (h : r.Faithful) (toChatId : ℤ) (withoutAuthor removeCaption : Bool) :
    (r.forwardSelectedMessages toChatId withoutAuthor removeCaption).Faithful := by
  rw [forwardSelectedMessages.eq_def]
  split
  · exact h
  · split_ifs
    · exact h
    · exact exitSelectionMode_faithful

/-- The selection is right in the new state of the manager if all its ids are shown there. -/
lemma faithful_of_subset (h : r.Faithful) {m : Manager} (hids : r.selectedMessageIds ⊆ m.messages.map (·.id)) :
    ({ r with manager := m } : SelectionRun).Faithful :=
  ⟨hids, h.mode⟩

lemma handleDeleteMessages_faithful (h : r.Faithful) (chatId : Option ℤ) (ids : List ℤ) (isPermanent : Bool) :
    (r.handleDeleteMessages chatId ids isPermanent).Faithful := by
  have hids := @ids_handleDeleteMessages r.manager chatId ids isPermanent
  have hkept (hsame : ¬(chatId = r.manager.activeChatId ∧ isPermanent ∧
      ¬r.manager.settings.isAntiRecallEnabled)) :
      ({ r with manager := r.manager.handleDeleteMessages chatId ids isPermanent } : SelectionRun).Faithful := by
    rw [if_neg hsame] at hids
    exact faithful_of_subset h (hids ▸ h.shown)
  simp only [handleDeleteMessages]
  split_ifs with hother hkeep hpermanent
  · rcases hother with hchat | rfl
    · exact hkept fun hall => hchat hall.1
    · refine faithful_of_subset h ?_
      rw [hids]
      split_ifs
      · exact fun id hid => List.mem_filter.mpr ⟨h.shown hid, rfl⟩
      · exact h.shown
  · rw [Bool.and_eq_true] at hkeep
    exact hkept fun hall => hall.2.2 hkeep.2
  · rw [not_or, not_not] at hother
    have hfinal : ¬r.manager.settings.isAntiRecallEnabled := by simpa [hpermanent] using hkeep
    rw [if_pos ⟨hother.1, hpermanent, hfinal⟩] at hids
    refine ⟨?_, fun hnil => ?_⟩
    · intro id hid
      have hboth := List.mem_filter.mp hid
      have hleft : id ∈ (r.manager.handleDeleteMessages chatId ids isPermanent).messages.map (·.id) := by
        rw [hids]
        exact List.mem_filter.mpr ⟨h.shown hboth.1, hboth.2⟩
      exact hleft
    · simp only [deselect] at hnil ⊢
      rw [if_pos hnil]
      exact Bool.false_ne_true
  · exact hkept fun hall => hpermanent hall.2.1

lemma handle_faithful_iff (h : r.Faithful) (e : Event) :
    (r.handle P e).Faithful ↔ r.Leaves P (.other e) := by
  by_cases hdeletes : ∃ chatId ids isPermanent, e = .update (.deleteMessages chatId ids isPermanent)
  · rcases hdeletes with ⟨chatId, ids, isPermanent, rfl⟩
    exact iff_of_true (handleDeleteMessages_faithful h chatId ids isPermanent) trivial
  have hhandle : r.handle P e = if e.clearsMessages then
      ({ r with manager := r.manager.step P e } : SelectionRun).exitSelectionMode
      else { r with manager := r.manager.step P e } := by
    rw [handle.eq_def]
    split
    · exact absurd ⟨_, _, _, rfl⟩ hdeletes
    · rfl
  by_cases hsent : ∃ oldMessageId raw, e = .update (.messageSendSucceeded oldMessageId raw)
  · rcases hsent with ⟨oldMessageId, raw, rfl⟩
    rw [hhandle.trans (if_neg Bool.false_ne_true)]
    have hids := ids_handleSendSucceeded (P := P) h.shown oldMessageId raw
    exact ⟨fun hafter => hids.mp hafter.shown, fun hleaves => faithful_of_subset h (hids.mpr hleaves)⟩
  refine iff_of_true ?_ ?_
  · rw [hhandle]
    split_ifs with hclears
    · exact exitSelectionMode_faithful
    · refine faithful_of_subset h (List.Subset.trans h.shown (ids_step ?_ ?_ ?_))
      · rwa [Bool.not_eq_true] at hclears
      · exact fun oldMessageId raw heq => hsent ⟨oldMessageId, raw, heq⟩
      · exact fun chatId ids isPermanent heq => hdeletes ⟨chatId, ids, isPermanent, heq⟩
  · rw [Leaves.eq_def]
    split
    · cases ‹_›
    · cases ‹_›
    · rename_i heq
      exact absurd ⟨_, _, SelectionEvent.other.inj heq⟩ hsent
    · trivial

lemma step_faithful_iff (h : r.Faithful) (e : SelectionEvent) :
    (r.step P e).Faithful ↔ r.Leaves P e := by
  cases e with
  | enterSelectionMode initialMessageId => exact enterSelectionMode_faithful_iff initialMessageId
  | exitSelectionMode => exact iff_of_true exitSelectionMode_faithful trivial
  | toggleMessageSelection messageId => exact toggleMessageSelection_faithful_iff h messageId
  | deleteSelectedMessages revoke => exact iff_of_true (deleteSelectedMessages_faithful h revoke) trivial
  | forwardSelectedMessages toChatId withoutAuthor removeCaption =>
      exact iff_of_true (forwardSelectedMessages_faithful h toChatId withoutAuthor removeCaption) trivial
  | other e => exact handle_faithful_iff h e

lemma deleteSelectedMessages_names (h : r.Faithful) (revoke : Bool) {request : SelectionRequest}
    (hrequest : request ∈ (r.deleteSelectedMessages revoke).requests) :
    request ∈ r.requests ∨ r.Names request := by
  simp only [deleteSelectedMessages, deleteMessages] at hrequest
  split_ifs at hrequest with hnil
  · exact .inl hrequest
  · rcases hchat : r.manager.activeChatId with _ | chatId
    · simp only [hchat] at hrequest
      exact .inl hrequest
    · simp only [hchat] at hrequest
      refine (List.mem_append.mp hrequest).imp_right fun hnew => ?_
      rw [List.mem_singleton.mp hnew]
      exact ⟨hchat, h.shown⟩

lemma forwardSelectedMessages_names (h : r.Faithful) (toChatId : ℤ) (withoutAuthor removeCaption : Bool)
    {request : SelectionRequest}
    (hrequest : request ∈ (r.forwardSelectedMessages toChatId withoutAuthor removeCaption).requests) :
    request ∈ r.requests ∨ r.Names request := by
  rw [forwardSelectedMessages.eq_def] at hrequest
  rcases hchat : r.manager.activeChatId with _ | fromChatId
  · simp only [hchat] at hrequest
    exact .inl hrequest
  · simp only [hchat] at hrequest
    split_ifs at hrequest
    · exact .inl hrequest
    · refine (List.mem_append.mp hrequest).imp_right fun hnew => ?_
      rw [List.mem_singleton.mp hnew]
      exact ⟨hchat, List.Subset.trans (List.perm_insertionSort _ _).subset h.shown⟩

/-- What a step sends names messages that are shown. -/
lemma step_names (h : r.Faithful) (e : SelectionEvent) {request : SelectionRequest}
    (hrequest : request ∈ (r.step P e).requests) : request ∈ r.requests ∨ r.Names request := by
  cases e with
  | enterSelectionMode initialMessageId => exact .inl hrequest
  | exitSelectionMode => exact .inl hrequest
  | toggleMessageSelection messageId =>
      simp only [step, toggleMessageSelection] at hrequest
      split_ifs at hrequest <;> exact .inl hrequest
  | deleteSelectedMessages revoke => exact deleteSelectedMessages_names h revoke hrequest
  | forwardSelectedMessages toChatId withoutAuthor removeCaption =>
      exact forwardSelectedMessages_names h toChatId withoutAuthor removeCaption hrequest
  | other e =>
      simp only [step, handle] at hrequest
      split at hrequest
      · simp only [handleDeleteMessages] at hrequest
        split_ifs at hrequest <;> exact .inl hrequest
      · split_ifs at hrequest <;> exact .inl hrequest

/-- **What is selected is shown, and what is deleted or forwarded**, in every state of every run in which no
message that is selected loses its place to one that was sent; and wherever it is so, a step keeps it so exactly
if that does not happen and what it selects is shown. -/
theorem selection_shown (P : Platform) :
    (∀ r, Reachable (step P) (Leaves P) {} r → r.Faithful ∧
      ∀ e, ∀ request ∈ (r.step P e).requests, request ∈ r.requests ∨ r.Names request) ∧
    ∀ r e, Faithful r → ((r.step P e).Faithful ↔ r.Leaves P e) := by
  constructor
  · intro r h
    have hright : r.Faithful :=
      h.invariant ⟨List.nil_subset _, fun _ => Bool.false_ne_true⟩ fun r e hr he =>
        (step_faithful_iff hr e).mpr he
    exact ⟨hright, fun e request hrequest => step_names hright e hrequest⟩
  · exact fun r e h => step_faithful_iff h e

/-- Chat 1 is open and shows an outgoing message, which is selected. -/
def selecting : List SelectionEvent :=
  [.other (.openChat 1),
    .other (.update (.newMessage { RawMessage.text 5 1 "hello" with isOutgoing := true })),
    .toggleMessageSelection 5]

theorem selection_shown_delete :
    (selecting.foldl (step .plain) {}).Faithful ∧
      ∀ request ∈ ((selecting.foldl (step .plain) {}).step .plain (.deleteSelectedMessages true)).requests,
        request ∈ (selecting.foldl (step .plain) {}).requests ∨
          (selecting.foldl (step .plain) {}).Names request := by
  have hshown : 5 ∈ ((selecting.take 2).foldl (step .plain) {}).shownIds := by decide
  have hright := (selection_shown .plain).1 (selecting.foldl (step .plain) {})
    (Reachable.start.run ⟨trivial, trivial, hshown, trivial⟩)
  exact ⟨hright.1, hright.2 (.deleteSelectedMessages true)⟩

/-- The message is sent, and has another id then. -/
def sentWhileSelected : List SelectionEvent :=
  selecting ++ [.other (.update (.messageSendSucceeded (some 5)
    { RawMessage.text 7 1 "hello" with isOutgoing := true }))]

/-- **An id is selected that no message has**, and is named in a request: the message was given another id when
it had been sent. -/
theorem sent_message_selected :
    ∃ r, Reachable (step .plain) (fun _ _ => True) {} r ∧ ¬r.Faithful ∧
      (r.step .plain (.deleteSelectedMessages true)).requests = [.deleteMessages 1 [5] true] ∧
      r.shownIds = [7] := by
  have hrun : Reachable (step .plain) (fun _ _ => True) {} (sentWhileSelected.foldl (step .plain) {}) :=
    Reachable.start.run ⟨trivial, trivial, trivial, trivial, trivial⟩
  refine ⟨_, hrun, fun hright => ?_, by decide, by decide⟩
  exact absurd (hright.shown List.mem_cons_self) (by decide)

end SelectionRun

end RioGram.Chats
