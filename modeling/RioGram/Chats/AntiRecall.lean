import RioGram.Chats.Updates
import RioGram.Core.Reachable
import RioGram.Features.AntiRecallStore

/-!
# What is kept of messages that are edited and deleted

The calls of the store of recalled messages that the handlers of `ChatManager` make.  The store is loaded, and a
call writes before anything else happens, in the order of the calls.

`RecallWatch` is the manager and the snapshots with what they should keep: `preserved` is the content that a
message had before its last edit, or else when it came or was deleted.  An edit is told by two updates, the
new content and the date, in either order; `edits` has which of them has come.

* `recalled_preserved` says when the snapshots are what is to be preserved.
* `edit_date_last` is a run in which the new content takes the place of the old one.
-/

namespace RioGram.Chats

open Features PartialMap Reaching

/-! ## The calls of the handlers -/

namespace Manager

variable (P : Platform) (m : Manager)

/-- The message that an update about the open chat is about, if recalled messages are kept. -/
def recalledMessage (chatId messageId : Option ℤ) : Option ChatMessage :=
  if chatId ≠ m.activeChatId ∨ !m.settings.isAntiRecallEnabled then none
  else messageId.bind fun messageId => m.messages.find? (·.id == messageId)

def insertMessageCalls (message : ChatMessage) : List RecallCall :=
  if m.activeChatId ≠ some message.chatId then []
  else if m.settings.shouldBlockAds && AdBlockFilter.isSponsoredMessage message then []
  else if m.settings.isAntiRecallEnabled then [.captureMessage message .received]
  else []

def replaceMessageCalls (message : ChatMessage) : List RecallCall :=
  if m.activeChatId ≠ some message.chatId then []
  else if m.messages.any (isPendingFor message) then []
  else m.insertMessageCalls message

def handleSingleMessageCalls (raw : RawMessage) : List RecallCall :=
  m.insertMessageCalls (m.parseMessage P raw)

def handleNewMessageCalls (raw : RawMessage) : List RecallCall :=
  if !m.messageMatchesActiveForumTopic raw then [] else m.insertMessageCalls (m.parseMessage P raw)

def handleSendSucceededCalls (oldMessageId : Option ℤ) (raw : RawMessage) : List RecallCall :=
  let message := m.parseMessage P raw
  match oldMessageId with
  | none => m.replaceMessageCalls message
  | some oldMessageId =>
      if oldMessageId ≠ message.id ∧ m.messages.any (·.id == oldMessageId) then []
      else m.replaceMessageCalls message

/-- What the handlers of both reports of an edit have in common. -/
def editCalls (chatId messageId : Option ℤ) : List RecallCall :=
  (m.recalledMessage chatId messageId).toList.map (.captureMessage · .edited)

def handleMessageEditedCalls (chatId messageId : Option ℤ) : List RecallCall := m.editCalls chatId messageId

def handleMessageContentCalls (chatId messageId : Option ℤ) (newContent : Option RawContent) :
    List RecallCall :=
  if newContent.isNone then [] else m.editCalls chatId messageId

/-- Each message is kept as it is when its turn comes. -/
def deleteCalls : List ℤ → List ChatMessage → List RecallCall
  | [], _ => []
  | id :: ids, messages =>
      match messages.find? (·.id == id) with
      | none => deleteCalls ids messages
      | some message =>
          .markDeleted message :: deleteCalls ids
            (Keyed.modifyFirst (·.id == id) (markDeleted "Сообщение удалено отправителем") messages)

def handleDeleteMessagesCalls (chatId : Option ℤ) (ids : List ℤ) (isPermanent : Bool) : List RecallCall :=
  if chatId ≠ m.activeChatId then []
  else if isPermanent && m.settings.isAntiRecallEnabled then deleteCalls ids m.messages
  else []

/-- The calls of the store that a step makes, in their order. -/
def recallCalls : Event → List RecallCall
  | .update (.message raw) => m.handleSingleMessageCalls P raw
  | .update (.newMessage raw) => m.handleNewMessageCalls P raw
  | .update (.messageSendSucceeded oldMessageId raw) => m.handleSendSucceededCalls P oldMessageId raw
  | .update (.messageEdited chatId messageId _) => m.handleMessageEditedCalls chatId messageId
  | .update (.messageContent chatId messageId newContent) =>
      m.handleMessageContentCalls chatId messageId newContent
  | .update (.deleteMessages chatId ids isPermanent) => m.handleDeleteMessagesCalls chatId ids isPermanent
  | _ => []

end Manager

/-! ## What is to be preserved -/

/-- The two reports of an edit. -/
inductive EditReport where
  | date | content
deriving DecidableEq

/-- A report of an edit, with the chat and the message that it names. -/
structure Edit where
  chatId : Option ℤ
  messageId : Option ℤ
  report : EditReport

def Event.edit : Event → Option Edit
  | .update (.messageEdited chatId messageId _) => some ⟨chatId, messageId, .date⟩
  | .update (.messageContent chatId messageId (some _)) => some ⟨chatId, messageId, .content⟩
  | _ => none

abbrev Contents := ℤ × ℤ → Option AntiRecallContent

def contentOf (message : ChatMessage) : AntiRecallContent := .fromMessageContent message.content

def contents (snapshots : Snapshots) : Contents := fun key => (snapshots key).map (·.content)

/-- The snapshot says that the message has been deleted. -/
def SaysDeleted (snapshots : Snapshots) (key : ℤ × ℤ) : Prop :=
  (snapshots key).map (·.reason) = some .deleted

/-- The content of a message is preserved if no other content of it is. -/
def keepFirst (contents : Contents) (message : ChatMessage) : Contents :=
  put (snapshotKey message) ((contents (snapshotKey message)).getD (contentOf message)) contents

structure RecallEvent where
  event : Event
  now : ℤ := 0

structure RecallWatch where
  manager : Manager
  snapshots : Snapshots
  /-- Of edits of which one report has come, which it is. -/
  edits : Option ℤ → Option ℤ → Option EditReport := fun _ _ => none
  preserved : Contents
  deleted : List (ℤ × ℤ) := []

namespace RecallWatch

variable (P : Platform) (r : RecallWatch)

/-- The new content of the edit has been told before its date. -/
def ToldContent (edit : Edit) : Prop :=
  edit.report = .date ∧ r.edits edit.chatId edit.messageId = some .content

instance (edit : Edit) : Decidable (r.ToldContent edit) := inferInstanceAs (Decidable (_ ∧ _))

/-- A report is the second of its edit if the other one has come, or else the first of one. -/
def editsAfter (edit : Edit) : Option ℤ → Option ℤ → Option EditReport :=
  Function.update r.edits edit.chatId <| Function.update (r.edits edit.chatId) edit.messageId <|
    match r.edits edit.chatId edit.messageId with
    | none => some edit.report
    | some first => if first = edit.report then some edit.report else none

/-- What is to be preserved after a report of an edit: the content that the message is shown with, unless it
has been told the new content. -/
def preservedAfter (edit : Edit) : Contents :=
  if r.ToldContent edit then r.preserved
  else
    match r.manager.recalledMessage edit.chatId edit.messageId with
    | none => r.preserved
    | some message => put (snapshotKey message) (contentOf message) r.preserved

def step (e : RecallEvent) : RecallWatch where
  manager := r.manager.step P e.event
  snapshots :=
    (r.manager.recallCalls P e.event).foldl (fun snapshots call => call.update e.now snapshots) r.snapshots
  edits := e.event.edit.elim r.edits r.editsAfter
  preserved := e.event.edit.elim
    (((r.manager.recallCalls P e.event).filterMap RecallCall.message).foldl keepFirst r.preserved)
    r.preservedAfter
  deleted := r.deleted ++ (r.manager.recallCalls P e.event).filterMap RecallCall.deletes

/-- The watch of a manager and a store begins. -/
def start (manager : Manager) (snapshots : Snapshots) : RecallWatch where
  manager
  snapshots
  preserved := contents snapshots

/-- The snapshots have what is to be preserved, and those of deleted messages say so. -/
structure Preserves (r : RecallWatch) : Prop where
  contents : contents r.snapshots = r.preserved
  reasons : ∀ key ∈ r.deleted, SaysDeleted r.snapshots key

/-- No edit is told of a message that has been deleted. -/
def DeletesLast (r : RecallWatch) (e : RecallEvent) : Prop :=
  ∀ edit message, e.event.edit = some edit →
    r.manager.recalledMessage edit.chatId edit.messageId = some message → snapshotKey message ∉ r.deleted

/-- The date of an edit is told before the new content, or the content that is shown is still what is to be
preserved. -/
def TellsDateFirst (r : RecallWatch) (e : RecallEvent) : Prop :=
  ∀ edit message, e.event.edit = some edit → r.ToldContent edit →
    r.manager.recalledMessage edit.chatId edit.messageId = some message →
    r.preserved (snapshotKey message) = some (contentOf message)

end RecallWatch

/-! ## What a call makes of the contents -/

variable {P : Platform} {m : Manager} {r : RecallWatch} {snapshots : Snapshots} {call : RecallCall}

lemma contents_put (key : ℤ × ℤ) (snapshot : AntiRecallSnapshot) (snapshots : Snapshots) :
    contents (put key snapshot snapshots) = put key snapshot.content (contents snapshots) := by
  funext k
  simp only [contents, put_apply]
  split_ifs <;> rfl

/-- A message that is captured when it is edited takes the place of what is kept of it. -/
lemma contents_update_edited (message : ChatMessage) (now : ℤ) (snapshots : Snapshots) :
    contents ((RecallCall.captureMessage message .edited).update now snapshots) =
      put (snapshotKey message) (contentOf message) (contents snapshots) := by
  rw [update_of_ne_received message now snapshots (by decide), contents_put]
  rfl

lemma keepFirst_of_some {contents : Contents} {message : ChatMessage}
    (h : (contents (snapshotKey message)).isSome) : keepFirst contents message = contents := by
  rcases Option.isSome_iff_exists.mp h with ⟨content, hcontent⟩
  rw [keepFirst, put_eq_self_iff, hcontent]
  rfl

/-- The other calls keep the content that is there. -/
lemma contents_update_first (h : call.overwrites = none) (now : ℤ) (snapshots : Snapshots) :
    contents (call.update now snapshots) = call.message.elim (contents snapshots) (keepFirst (contents snapshots)) := by
  cases call with
  | load => rfl
  | captureMessage message reason =>
      have hreason : reason = .received := by
        by_contra hreason
        simp [RecallCall.overwrites, hreason] at h
      subst hreason
      by_cases hkey : (snapshots (snapshotKey message)).isSome
      · have hcontent : (contents snapshots (snapshotKey message)).isSome := by
          simpa [contents] using hkey
        rw [update_received_of_isSome message now snapshots hkey]
        exact (keepFirst_of_some hcontent).symm
      · have hnone : snapshots (snapshotKey message) = none := by simpa using hkey
        rw [update_received_of_none message now snapshots hnone, contents_put]
        simp only [RecallCall.message, Option.elim_some, keepFirst, contents, hnone]
        rfl
  | markDeleted message => exact contents_put _ _ _

lemma contents_foldl_update {calls : List RecallCall} (h : ∀ call ∈ calls, call.overwrites = none) (now : ℤ)
    (snapshots : Snapshots) :
    contents (calls.foldl (fun snapshots call => call.update now snapshots) snapshots) =
      (calls.filterMap RecallCall.message).foldl keepFirst (contents snapshots) := by
  induction calls generalizing snapshots with
  | nil => rfl
  | cons call calls ih =>
      rw [List.forall_mem_cons] at h
      rw [List.foldl_cons, ih h.2, contents_update_first h.1, List.filterMap_cons]
      cases call.message with
      | none => rfl
      | some message => rfl

/-! ## What a call makes of the snapshots of deleted messages -/

lemma saysDeleted_put_of_ne {key key' : ℤ × ℤ} (h : SaysDeleted snapshots key) (hkey : key' ≠ key)
    (snapshot : AntiRecallSnapshot) : SaysDeleted (put key' snapshot snapshots) key := by
  rw [SaysDeleted, put_of_ne hkey.symm]
  exact h

lemma saysDeleted_update {key : ℤ × ℤ} (h : SaysDeleted snapshots key)
    (hcall : ∀ message, call.overwrites = some message → snapshotKey message ≠ key) (now : ℤ) :
    SaysDeleted (call.update now snapshots) key := by
  cases call with
  | load => exact h
  | captureMessage message reason =>
      by_cases hreason : reason = .received
      · subst hreason
        rcases Option.map_eq_some_iff.mp h with ⟨snapshot, hsnapshot, hdeleted⟩
        rw [SaysDeleted, update_received_of_some message now snapshots hsnapshot]
        exact congrArg some hdeleted
      · have hkey := hcall message (by simp [RecallCall.overwrites, hreason])
        rw [update_of_ne_received message now snapshots hreason]
        exact saysDeleted_put_of_ne h hkey _
  | markDeleted message =>
      by_cases hkey : snapshotKey message = key
      · subst hkey
        simp [SaysDeleted, RecallCall.update, RecallCall.write, Snapshots.markDeleted,
          AntiRecallSnapshot.fromMessage]
      · exact saysDeleted_put_of_ne h hkey _

lemma saysDeleted_markDeleted (message : ChatMessage) (now : ℤ) (snapshots : Snapshots) :
    SaysDeleted ((RecallCall.markDeleted message).update now snapshots) (snapshotKey message) := by
  simp [SaysDeleted, RecallCall.update, RecallCall.write, Snapshots.markDeleted, AntiRecallSnapshot.fromMessage]

/-- The messages that are marked as deleted join those that were. -/
lemma saysDeleted_foldl_update {calls : List RecallCall} (h : ∀ call ∈ calls, call.overwrites = none) (now : ℤ)
    {snapshots : Snapshots} {deleted : List (ℤ × ℤ)} (hdeleted : ∀ key ∈ deleted, SaysDeleted snapshots key) :
    ∀ key ∈ deleted ++ calls.filterMap RecallCall.deletes,
      SaysDeleted (calls.foldl (fun snapshots call => call.update now snapshots) snapshots) key := by
  induction calls generalizing snapshots deleted with
  | nil => simpa using hdeleted
  | cons call calls ih =>
      rw [List.forall_mem_cons] at h
      have hstays : ∀ key ∈ deleted, SaysDeleted (call.update now snapshots) key := by
        intro key hkey
        refine saysDeleted_update (hdeleted key hkey) (fun message hmessage => ?_) now
        rw [h.1] at hmessage
        cases hmessage
      rw [List.foldl_cons]
      cases hdeletes : call.deletes with
      | none =>
          rw [List.filterMap_cons_none hdeletes]
          exact ih h.2 hstays
      | some key =>
          have hmarked : SaysDeleted (call.update now snapshots) key := by
            cases call with
            | markDeleted message =>
                cases hdeletes
                exact saysDeleted_markDeleted message now snapshots
            | _ => cases hdeletes
          rw [List.filterMap_cons_some hdeletes, List.append_cons]
          refine ih h.2 (List.forall_mem_append.mpr ⟨hstays, ?_⟩)
          exact List.forall_mem_singleton.mpr hmarked

/-! ## The calls of a step -/

lemma insertMessageCalls_overwrites (m : Manager) (message : ChatMessage) :
    ∀ call ∈ m.insertMessageCalls message, call.overwrites = none := by
  rw [Manager.insertMessageCalls]
  split_ifs
  · exact List.forall_mem_nil _
  · exact List.forall_mem_nil _
  · exact List.forall_mem_singleton.mpr rfl
  · exact List.forall_mem_nil _

lemma replaceMessageCalls_overwrites (m : Manager) (message : ChatMessage) :
    ∀ call ∈ m.replaceMessageCalls message, call.overwrites = none := by
  rw [Manager.replaceMessageCalls]
  split_ifs
  · exact List.forall_mem_nil _
  · exact List.forall_mem_nil _
  · exact insertMessageCalls_overwrites m message

lemma deleteCalls_overwrites (ids : List ℤ) (messages : List ChatMessage) :
    ∀ call ∈ Manager.deleteCalls ids messages, call.overwrites = none := by
  induction ids generalizing messages with
  | nil => exact List.forall_mem_nil _
  | cons id ids ih =>
      rw [Manager.deleteCalls]
      split
      · exact ih messages
      · exact List.forall_mem_cons.mpr ⟨rfl, ih _⟩

/-- Only the reports of an edit write over a snapshot. -/
lemma recallCalls_overwrites (m : Manager) {e : Event} (h : e.edit = none) :
    ∀ call ∈ m.recallCalls P e, call.overwrites = none := by
  cases e with
  | update update =>
      cases update with
      | message raw => exact insertMessageCalls_overwrites m _
      | newMessage raw =>
          simp only [Manager.recallCalls, Manager.handleNewMessageCalls]
          split_ifs
          · exact List.forall_mem_nil _
          · exact insertMessageCalls_overwrites m _
      | messageSendSucceeded oldMessageId raw =>
          simp only [Manager.recallCalls, Manager.handleSendSucceededCalls]
          cases oldMessageId with
          | none => exact replaceMessageCalls_overwrites m _
          | some oldMessageId =>
              dsimp only
              split_ifs
              · exact List.forall_mem_nil _
              · exact replaceMessageCalls_overwrites m _
      | messageEdited chatId messageId editDate => cases h
      | messageContent chatId messageId newContent =>
          cases newContent with
          | none => exact List.forall_mem_nil _
          | some newContent => cases h
      | deleteMessages chatId ids isPermanent =>
          simp only [Manager.recallCalls, Manager.handleDeleteMessagesCalls]
          split_ifs
          · exact List.forall_mem_nil _
          · exact deleteCalls_overwrites ids m.messages
          · exact List.forall_mem_nil _
      | _ => exact List.forall_mem_nil _
  | _ => exact List.forall_mem_nil _

lemma recallCalls_of_edit (m : Manager) {e : Event} {edit : Edit} (h : e.edit = some edit) :
    m.recallCalls P e = m.editCalls edit.chatId edit.messageId := by
  cases e with
  | update update =>
      cases update with
      | messageEdited chatId messageId editDate =>
          cases h
          rfl
      | messageContent chatId messageId newContent =>
          cases newContent with
          | none => cases h
          | some newContent =>
              cases h
              rfl
      | _ => cases h
  | _ => cases h

/-! ## Runs -/

namespace RecallWatch

lemma step_preserves_of_other {e : RecallEvent} (h : r.Preserves) (he : e.event.edit = none) :
    (r.step P e).Preserves := by
  have hcalls := recallCalls_overwrites (P := P) r.manager he
  refine ⟨?_, saysDeleted_foldl_update hcalls e.now h.reasons⟩
  simp only [step, he, Option.elim_none]
  rw [contents_foldl_update hcalls, h.contents]

lemma step_preserves_of_edit {e : RecallEvent} {edit : Edit} (h : r.Preserves) (he : e.event.edit = some edit)
    (hlast : r.DeletesLast e) : (r.step P e).Preserves ↔ r.TellsDateFirst e := by
  have hcalls := recallCalls_of_edit (P := P) r.manager he
  cases hmessage : r.manager.recalledMessage edit.chatId edit.messageId with
  | none =>
      have hnil : r.manager.recallCalls P e.event = [] := by
        rw [hcalls, Manager.editCalls, hmessage]
        rfl
      refine iff_of_true ⟨?_, ?_⟩ fun edit' message hedit _ hfound => ?_
      · simp only [step, he, hnil, Option.elim_some, preservedAfter, hmessage, ite_self]
        exact h.contents
      · simp only [step, hnil]
        simpa using h.reasons
      · rw [he] at hedit
        cases hedit
        rw [hmessage] at hfound
        cases hfound
  | some message =>
      have hone : r.manager.recallCalls P e.event = [.captureMessage message .edited] := by
        rw [hcalls, Manager.editCalls, hmessage]
        rfl
      have hcontents : contents (r.step P e).snapshots =
          put (snapshotKey message) (contentOf message) r.preserved := by
        simp only [step, hone, List.foldl_cons, List.foldl_nil]
        rw [contents_update_edited, h.contents]
      have hreasons : ∀ key ∈ (r.step P e).deleted, SaysDeleted (r.step P e).snapshots key := by
        intro key hkey
        simp only [step, hone] at hkey ⊢
        have hold : key ∈ r.deleted := by simpa [RecallCall.deletes] using hkey
        refine saysDeleted_update (h.reasons key hold) (fun other hother => ?_) e.now
        cases hother
        rintro rfl
        exact hlast edit message he hmessage hold
      have hpreserved : (r.step P e).preserved = r.preservedAfter edit := by
        simp only [step, he, Option.elim_some]
      constructor
      · intro hafter edit' message' hedit htold hfound
        rw [he] at hedit
        cases hedit
        rw [hmessage] at hfound
        cases hfound
        have hput := hafter.contents
        rw [hcontents, hpreserved, preservedAfter, if_pos htold] at hput
        exact put_eq_self_iff.mp hput
      · intro hfirst
        refine ⟨?_, hreasons⟩
        rw [hcontents, hpreserved, preservedAfter]
        split_ifs with htold
        · exact put_eq_self_iff.mpr (hfirst edit message he htold hmessage)
        · rw [hmessage]

lemma step_preserves_iff {e : RecallEvent} (h : r.Preserves) (hlast : r.DeletesLast e) :
    (r.step P e).Preserves ↔ r.TellsDateFirst e := by
  cases he : e.event.edit with
  | none =>
      refine iff_of_true (step_preserves_of_other h he) fun edit message hedit => ?_
      rw [he] at hedit
      cases hedit
  | some edit => exact step_preserves_of_edit h he hlast

/-- **The snapshots keep what was recalled**: the content that a message had before its last edit, or else when
it came or was deleted, with the reason of a deletion, in every run in which the new content of an edit is not
told before its date; and wherever they do, a step keeps it so exactly if it tells no date after new content that
is not what is to be preserved.  A message that comes changes no snapshot. -/
theorem recalled_preserved (P : Platform) (m : Manager) (snapshots : Snapshots) :
    (∀ r, Reachable (step P) (fun r e => r.DeletesLast e ∧ r.TellsDateFirst e) (start m snapshots) r →
      r.Preserves) ∧
    (∀ r e, Reachable (step P) DeletesLast (start m snapshots) r → r.Preserves → r.DeletesLast e →
      ((r.step P e).Preserves ↔ r.TellsDateFirst e)) ∧
    ∀ message now (before : Snapshots) key snapshot, before key = some snapshot →
      (RecallCall.captureMessage message .received).update now before key = some snapshot := by
  refine ⟨fun r h => ?_, fun r e _ h hlast => step_preserves_iff h hlast, ?_⟩
  · refine h.invariant ⟨rfl, List.forall_mem_nil _⟩ ?_
    exact fun r e hr he => (step_preserves_iff hr he.1).mpr he.2
  · exact fun message now before key snapshot h => update_received_of_some message now before h

/-- Chat 1 is open and recalled messages are kept. -/
def keeping : Manager := { activeChatId := some 1, settings := { isAntiRecallEnabled := true } }

def arrives : RecallEvent := { event := .update (.message (.text 5 1 "first")) }

def tellsDate : RecallEvent := { event := .update (.messageEdited (some 1) (some 5) 10) }

def tellsContent : RecallEvent :=
  { event := .update (.messageContent (some 1) (some 5) (some (RawMessage.text 5 1 "second").content)) }

def deletes : RecallEvent := { event := .update (.deleteMessages (some 1) [5] true) }

def textContent (text : String) : AntiRecallContent := { kind := .text, preview := text }

theorem recalled_preserved_text :
    ([arrives, tellsDate, tellsContent, deletes].foldl (step .plain) (start keeping PartialMap.empty)).Preserves ∧
      contents ([arrives, tellsDate, tellsContent, deletes].foldl (step .plain)
        (start keeping PartialMap.empty)).snapshots (1, 5) = some (textContent "first") := by
  refine ⟨(recalled_preserved .plain keeping PartialMap.empty).1 _ (Reachable.start.run ?_), by decide⟩
  refine ⟨⟨?_, ?_⟩, ⟨?_, ?_⟩, ⟨?_, ?_⟩, ⟨?_, ?_⟩, trivial⟩
  · rintro edit message ⟨⟩
  · rintro edit message ⟨⟩
  · exact fun _ _ _ _ => List.not_mem_nil
  · rintro edit message ⟨⟩ htold
    exact absurd htold (by decide)
  · exact fun _ _ _ _ => List.not_mem_nil
  · rintro edit message ⟨⟩ htold
    exact absurd htold (by decide)
  · rintro edit message ⟨⟩
  · rintro edit message ⟨⟩

/-- **An edit whose new content is told before its date** leaves the new content in the place of the old one, and
so it stays when the message is deleted. -/
theorem edit_date_last :
    ∃ r, Reachable (step .plain) DeletesLast (start keeping PartialMap.empty) r ∧ ¬r.Preserves ∧
      r.preserved (1, 5) = some (textContent "first") ∧
      contents r.snapshots (1, 5) = some (textContent "second") ∧ SaysDeleted r.snapshots (1, 5) := by
  refine ⟨[arrives, tellsContent, tellsDate, deletes].foldl (step .plain) (start keeping PartialMap.empty),
    Reachable.start.run ?_, fun h => ?_, by decide, by decide, rfl⟩
  · refine ⟨?_, ?_, ?_, ?_, trivial⟩
    · rintro edit message ⟨⟩
    · exact fun _ _ _ _ => List.not_mem_nil
    · exact fun _ _ _ _ => List.not_mem_nil
    · rintro edit message ⟨⟩
  · exact absurd (congrFun h.contents (1, 5)) (by decide)

end RecallWatch

end RioGram.Chats
