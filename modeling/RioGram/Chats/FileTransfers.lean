import RioGram.Chats.Changes
import RioGram.Core.Reachable

/-!
# Transfers of files

A message has one place for the transfer of its media file and for that of its cover.  `TransferRun` is the
manager with the table of transfers, which is looked at only to cancel one, and with what TDLib has reported of
each file and whether the user has cancelled it since then.

* `transfers_running` says when only transfers are shown that go on.
* `finished_transfer_shown` is a run in which the transfer of a cover is shown that is downloaded.
-/

namespace RioGram.Chats

open Keyed Reaching

/-! ## Files of TDLib -/

/-- What is read of a `file` of TDLib and of its `local` and `remote` parts. -/
structure TdlibFile where
  id : ℤ
  expectedSize : Option ℤ := none
  localPath : Option String := none
  isDownloadingActive : Bool := false
  isDownloadingCompleted : Bool := false
  downloadedPrefixSize : ℤ := 0
  isUploadingActive : Bool := false
  isUploadingCompleted : Bool := false
  uploadedSize : Option ℤ := none
  remoteSize : Option ℤ := none
  remoteUploadedSize : ℤ := 0

def FileTransferState.fromTdlibFile (file : TdlibFile) : FileTransferState :=
  let expectedSize := (file.expectedSize <|> file.remoteSize).getD 0
  if file.isUploadingActive || file.isUploadingCompleted then
    { fileId := file.id
      transferredBytes := file.uploadedSize.getD file.remoteUploadedSize
      totalBytes := if 0 < expectedSize then expectedSize else file.remoteSize.getD 0
      isUpload := true
      isActive := file.isUploadingActive
      isCompleted := file.isUploadingCompleted }
  else
    { fileId := file.id
      transferredBytes := file.downloadedPrefixSize
      totalBytes := file.remoteSize.getD expectedSize
      isUpload := false
      isActive := file.isDownloadingActive
      isCompleted := file.isDownloadingCompleted }

def TdlibFile.read (file : TdlibFile) : RawFile where
  id := file.id
  localPath := file.localPath
  isDownloadingCompleted := file.isDownloadingCompleted
  transfer := FileTransferState.fromTdlibFile file

/-- The file is there, with its path. -/
def TdlibFile.hasLocalPath (file : TdlibFile) : Bool :=
  file.isDownloadingCompleted && file.localPath.any (· ≠ "")

@[simp] lemma fromTdlibFile_fileId (file : TdlibFile) :
    (FileTransferState.fromTdlibFile file).fileId = file.id := by
  rw [FileTransferState.fromTdlibFile]
  split_ifs <;> rfl

/-! ## Runs -/

def Event.isTransfer : Event → Bool
  | .cancelFile _ => true
  | .update (.file _) => true
  | _ => false

inductive TransferEvent where
  | updateFile (file : TdlibFile)
  | cancelUploadFile (fileId : ℤ)
  | cancelDownloadFile (fileId : ℤ)
  | cancelMessageTransfer (message : ChatMessage)
  | other (e : Event) (h : e.isTransfer = false)

structure TransferRun where
  manager : Manager := {}
  fileTransfers : ℤ → Option FileTransferState := fun _ => none
  reported : ℤ → Option FileTransferState := fun _ => none
  cancelled : ℤ → Bool := fun _ => false

namespace TransferRun

variable (P : Platform) (r : TransferRun)

def handleFileUpdate (file : TdlibFile) : TransferRun :=
  let transfer := FileTransferState.fromTdlibFile file
  { manager := r.manager.handleFileUpdate file.read
    fileTransfers := fun fileId =>
      if fileId = file.id then if transfer.isActive then some transfer else none
      else r.fileTransfers fileId
    reported := fun fileId => if fileId = file.id then some transfer else r.reported fileId
    cancelled := fun fileId => if fileId = file.id then false else r.cancelled fileId }

/-- What `cancelUploadFile` and `cancelDownloadFile` have in common; they differ in the request. -/
def cancelFile (fileId : ℤ) : TransferRun :=
  { r with
    manager := r.manager.cancelFile fileId
    fileTransfers := fun i => if i = fileId then none else r.fileTransfers i
    cancelled := fun i => if i = fileId then true else r.cancelled i }

def cancelUploadFile (fileId : ℤ) : TransferRun := r.cancelFile fileId

def cancelDownloadFile (fileId : ℤ) : TransferRun := r.cancelFile fileId

def cancelMessageTransfer (message : ChatMessage) : TransferRun :=
  match message.mediaFileId <|> message.coverFileId with
  | none => r
  | some fileId =>
      let transfer := message.fileTransfer <|> r.fileTransfers fileId
      if (transfer.map (·.isUpload)).getD message.isOutgoing then r.cancelUploadFile fileId
      else r.cancelDownloadFile fileId

def step : TransferEvent → TransferRun
  | .updateFile file => r.handleFileUpdate file
  | .cancelUploadFile fileId => r.cancelUploadFile fileId
  | .cancelDownloadFile fileId => r.cancelDownloadFile fileId
  | .cancelMessageTransfer message => r.cancelMessageTransfer message
  | .other e _ => { r with manager := r.manager.step P e }

/-- The last report about the file says that it is being transferred, and it has not been cancelled since. -/
def Running (fileId : ℤ) : Prop :=
  (r.reported fileId).any (·.isActive) ∧ ¬r.cancelled fileId

end TransferRun

def ChatMessage.HasFile (message : ChatMessage) (fileId : ℤ) : Prop :=
  message.mediaFileId = some fileId ∨ message.coverFileId = some fileId

/-- If the message shows a transfer, it is that of one of its files, and goes on. -/
def ChatMessage.ShowsOnly (running : ℤ → Prop) (message : ChatMessage) : Prop :=
  ∀ transfer, message.fileTransfer = some transfer →
    message.HasFile transfer.fileId ∧ running transfer.fileId

/-- What new content makes of a message. -/
def ChatMessage.withContent (newContent : RawContent) (current : ChatMessage) : ChatMessage :=
  { current with
    content := newContent.read current.isOutgoing
    mediaFileId := newContent.mediaFileId <|> current.mediaFileId
    coverFileId := newContent.coverFileId <|> current.coverFileId }

namespace TransferRun

/-- Only transfers that go on are shown. -/
def ShowsRunning (r : TransferRun) : Prop :=
  ∀ message ∈ r.manager.messages, message.ShowsOnly r.Running

/-- The message does not show the transfer of the file as its cover. -/
def FreeOfCover (fileId : ℤ) (message : ChatMessage) : Prop :=
  message.mediaFileId ≠ some fileId → message.coverFileId = some fileId →
    ∀ transfer, message.fileTransfer = some transfer → transfer.fileId ≠ fileId

/-- A cover whose transfer is shown does not arrive, and a message keeps the file whose transfer it shows. -/
def Leaves (r : TransferRun) : TransferEvent → Prop
  | .updateFile file =>
      file.hasLocalPath → ¬(FileTransferState.fromTdlibFile file).isActive →
        ∀ message ∈ r.manager.messages, FreeOfCover file.id message
  | .other (.update (.messageContent chatId (some messageId) (some newContent))) _ =>
      chatId = r.manager.activeChatId → ∀ message,
        r.manager.messages.find? (·.id == messageId) = some message → ∀ transfer,
          message.fileTransfer = some transfer → (message.withContent newContent).HasFile transfer.fileId
  | _ => True

end TransferRun

/-! ## What a step does to one message -/

/-- What of a message its transfer has to do with. -/
def ChatMessage.files (message : ChatMessage) : Option ℤ × Option ℤ × Option FileTransferState :=
  (message.mediaFileId, message.coverFileId, message.fileTransfer)

lemma fixed_files : Fixed ChatMessage.files :=
  ⟨fun _ _ => rfl, fun _ _ => rfl, fun _ _ => rfl, fun _ _ => rfl, fun _ _ => rfl, fun _ _ => rfl⟩

section messages

variable {P : Platform} {r : TransferRun} {before message : ChatMessage} {running : ℤ → Prop}

lemma ChatMessage.ShowsOnly.of_files (h : before.ShowsOnly running) (hfiles : before.files = message.files) :
    message.ShowsOnly running := by
  simp only [ChatMessage.files, Prod.mk.injEq] at hfiles
  rcases hfiles with ⟨hmedia, hcover, htransfer⟩
  intro transfer hshown
  rw [ChatMessage.HasFile, ← hmedia, ← hcover]
  exact h transfer (htransfer.trans hshown)

lemma ChatMessage.ShowsOnly.of_none (h : message.fileTransfer = none) : message.ShowsOnly running := by
  intro transfer hshown
  rw [h] at hshown
  cases hshown

namespace TransferRun

lemma running_handleFileUpdate (file : TdlibFile) (fileId : ℤ) :
    (r.handleFileUpdate file).Running fileId ↔
      if fileId = file.id then (FileTransferState.fromTdlibFile file).isActive = true else r.Running fileId := by
  simp only [Running, handleFileUpdate]
  split_ifs <;> simp

lemma running_cancelFile (cancelled fileId : ℤ) :
    (r.cancelFile cancelled).Running fileId ↔ fileId ≠ cancelled ∧ r.Running fileId := by
  simp only [Running, cancelFile]
  split_ifs with h <;> simp [h]

/-- A report about a file that is none of the message's changes nothing for it. -/
lemma showsOnly_of_other (h : message.ShowsOnly r.Running) {file : TdlibFile} (hfile : ¬message.HasFile file.id) :
    message.ShowsOnly (r.handleFileUpdate file).Running := by
  intro transfer hshown
  rcases h transfer hshown with ⟨hhas, hrunning⟩
  have hne : transfer.fileId ≠ file.id := fun heq => hfile (heq ▸ hhas)
  exact ⟨hhas, (running_handleFileUpdate file _).mpr (by rwa [if_neg hne])⟩

/-- A report about the cover that leaves the transfer in its place. -/
lemma showsOnly_iff_of_cover (h : message.ShowsOnly r.Running) {file : TdlibFile}
    (hmedia : message.mediaFileId ≠ some file.id) (hcover : message.coverFileId = some file.id) :
    message.ShowsOnly (r.handleFileUpdate file).Running ↔
      (¬(FileTransferState.fromTdlibFile file).isActive → FreeOfCover file.id message) := by
  constructor
  · intro hafter hidle _ _ transfer hshown heq
    have hrunning := (running_handleFileUpdate file _).mp (hafter transfer hshown).2
    rw [if_pos heq] at hrunning
    exact hidle hrunning
  · intro hfree transfer hshown
    rcases h transfer hshown with ⟨hhas, hrunning⟩
    refine ⟨hhas, (running_handleFileUpdate file _).mpr ?_⟩
    split_ifs with heq
    · by_contra hidle
      exact hfree hidle hmedia hcover transfer hshown heq
    · exact hrunning

/-- The place for the transfer is filled with the one that is reported, or cleared. -/
lemma showsOnly_of_reported {file : TdlibFile} (hhas : message.HasFile file.id)
    (htransfer : message.fileTransfer = if (FileTransferState.fromTdlibFile file).isActive then
      some (FileTransferState.fromTdlibFile file) else none) :
    message.ShowsOnly (r.handleFileUpdate file).Running := by
  intro transfer hshown
  rw [htransfer] at hshown
  split_ifs at hshown with hactive
  obtain rfl := Option.some_inj.mp hshown
  rw [fromTdlibFile_fileId]
  exact ⟨hhas, (running_handleFileUpdate file _).mpr (by rwa [if_pos rfl])⟩

/-- **What a report leaves of a message**: only the transfer of a cover that arrives stays where it should not. -/
lemma updateFileOf_showsOnly_iff (h : message.ShowsOnly r.Running) (file : TdlibFile) :
    (Manager.updateFileOf file.read message).ShowsOnly (r.handleFileUpdate file).Running ↔
      (file.hasLocalPath → ¬(FileTransferState.fromTdlibFile file).isActive →
        FreeOfCover file.id message) := by
  have hread : file.read.id = file.id := rfl
  have hpath : (file.read.isDownloadingCompleted && file.read.localPath.any (· ≠ "")) = file.hasLocalPath :=
    rfl
  simp only [Manager.updateFileOf, hread, hpath]
  by_cases hmedia : message.mediaFileId = some file.id
  · rw [if_pos hmedia]
    refine iff_of_true ?_ fun _ _ hother => absurd hmedia hother
    exact showsOnly_of_reported (.inl hmedia) rfl
  · by_cases hcover : message.coverFileId = some file.id
    · rw [if_neg hmedia, if_pos hcover]
      by_cases hlocal : file.hasLocalPath
      · rw [if_pos hlocal, forall_prop_of_true hlocal, ← showsOnly_iff_of_cover h hmedia hcover]
        exact ⟨fun hafter => hafter.of_files rfl, fun hafter => hafter.of_files rfl⟩
      · rw [if_neg hlocal]
        refine iff_of_true ?_ fun hyes => absurd hyes hlocal
        split_ifs with hactive
        · exact showsOnly_of_reported (.inr hcover) (if_pos hactive).symm
        · exact showsOnly_of_reported (.inr hcover) (if_neg hactive).symm
    · rw [if_neg hmedia, if_neg hcover]
      refine iff_of_true (showsOnly_of_other h ?_) fun _ _ _ hyes => absurd hyes hcover
      exact fun hhas => hhas.elim hmedia hcover

/-- A transfer that is cancelled is not shown. -/
lemma clear_showsOnly (h : message.ShowsOnly r.Running) (fileId : ℤ) :
    (if message.mediaFileId = some fileId ∨ message.coverFileId = some fileId then
      { message with fileTransfer := none } else message : ChatMessage).ShowsOnly
        (r.cancelFile fileId).Running := by
  split_ifs with hhas
  · exact .of_none rfl
  · intro transfer hshown
    rcases h transfer hshown with ⟨hfile, hrunning⟩
    have hne : transfer.fileId ≠ fileId := fun heq => hhas (heq ▸ hfile)
    exact ⟨hfile, (running_cancelFile fileId _).mpr ⟨hne, hrunning⟩⟩

end TransferRun

end messages

/-! ## What a step does -/

/-- A message that comes in shows no transfer. -/
lemma fileTransfer_of_enters {P : Platform} {m : Manager} {e : Event} {message : ChatMessage}
    (h : m.Enters P e message) : message.fileTransfer = none := by
  unfold Manager.Enters at h
  split at h
  · rcases m.mem_batchOf P h with ⟨raw, -, rfl⟩
    rfl
  · rw [h.1]
    rfl
  · rw [h.1]
    rfl
  · rw [h.1]
    rfl
  · exact h.elim

/-- A step that is about no file leaves the files of each message that is shown after it as they were. -/
lemma step_files {P : Platform} {m : Manager} {e : Event} {message : ChatMessage}
    (htransfer : e.isTransfer = false)
    (hcontent : ∀ chatId messageId newContent, e ≠ .update (.messageContent chatId messageId newContent))
    (h : message ∈ (m.step P e).messages) :
    (∃ before ∈ m.messages, before.files = message.files) ∨ message.fileTransfer = none := by
  have hkept (hmem : message ∈ m.messages) : ∃ before ∈ m.messages, before.files = message.files :=
    ⟨message, hmem, rfl⟩
  have halters := step_alters fixed_files P m e
  generalize m.step P e = m' at h halters
  cases halters with
  | same hsame => exact .inl (hsame.keepsAs.exists_before h)
  | opens _ hnil => simp [hnil] at h
  | deselects => exact .inl (hkept h)
  | history reply => exact (mem_handleMessages h).imp hkept fileTransfer_of_enters
  | single raw => exact (mem_handleSingleMessage h).imp hkept fileTransfer_of_enters
  | arrival raw => exact (mem_handleNewMessage h).imp hkept fileTransfer_of_enters
  | success oldMessageId raw => exact (mem_handleSendSucceeded h).imp hkept fileTransfer_of_enters
  | deletes chatId ids isPermanent =>
      exact .inl ((m.handleDeleteMessages_keeps fixed_files chatId ids isPermanent).exists_before h)
  | reads chatId lastRead =>
      have hsame : SameAs ChatMessage.files m (m.handleUpdateChatReadOutbox chatId lastRead) :=
        m.handleUpdateChatReadOutbox_sameAs chatId lastRead fun _ _ => rfl
      exact .inl (hsame.keepsAs.exists_before h)
  | changes chatId messageId newContent => exact absurd rfl (hcontent chatId messageId newContent)
  | transfers file => cases htransfer
  | cancels fileId => cases htransfer

namespace TransferRun

variable {P : Platform} {r : TransferRun}

lemma handleFileUpdate_showsRunning_iff (h : r.ShowsRunning) (file : TdlibFile) :
    (r.handleFileUpdate file).ShowsRunning ↔ r.Leaves (.updateFile file) := by
  have hmessages : (r.handleFileUpdate file).manager.messages =
      r.manager.messages.map (Manager.updateFileOf file.read) := rfl
  rw [ShowsRunning, hmessages, List.forall_mem_map]
  constructor
  · intro hafter hlocal hidle message hmessage
    exact (updateFileOf_showsOnly_iff (h message hmessage) file).mp (hafter message hmessage) hlocal hidle
  · intro hleaves message hmessage
    exact (updateFileOf_showsOnly_iff (h message hmessage) file).mpr fun hlocal hidle =>
      hleaves hlocal hidle message hmessage

lemma cancelFile_showsRunning (h : r.ShowsRunning) (fileId : ℤ) : (r.cancelFile fileId).ShowsRunning := by
  have hmessages : (r.cancelFile fileId).manager.messages =
      r.manager.messages.map fun message =>
        if message.mediaFileId = some fileId ∨ message.coverFileId = some fileId then
          { message with fileTransfer := none } else message := rfl
  rw [ShowsRunning, hmessages, List.forall_mem_map]
  intro message hmessage
  exact clear_showsOnly (h message hmessage) fileId

lemma cancelMessageTransfer_showsRunning (h : r.ShowsRunning) (message : ChatMessage) :
    (r.cancelMessageTransfer message).ShowsRunning := by
  simp only [cancelMessageTransfer]
  split
  · exact h
  · split_ifs
    · exact cancelFile_showsRunning h _
    · exact cancelFile_showsRunning h _

/-- What a message shows is right with new content exactly if it keeps the file. -/
lemma withContent_showsOnly_iff {message : ChatMessage} (h : message.ShowsOnly r.Running)
    (newContent : RawContent) :
    (message.withContent newContent).ShowsOnly r.Running ↔ ∀ transfer,
      message.fileTransfer = some transfer → (message.withContent newContent).HasFile transfer.fileId :=
  ⟨fun hafter transfer hshown => (hafter transfer hshown).1,
    fun hkeeps transfer hshown => ⟨hkeeps transfer hshown, (h transfer hshown).2⟩⟩

lemma handleMessageContent_showsRunning_iff (h : r.ShowsRunning) (chatId messageId : Option ℤ)
    (newContent : Option RawContent)
    (hother : (Event.update (.messageContent chatId messageId newContent)).isTransfer = false) :
    (r.step P (.other (.update (.messageContent chatId messageId newContent)) hother)).ShowsRunning ↔
      r.Leaves (.other (.update (.messageContent chatId messageId newContent)) hother) := by
  have hsame {m' : Manager} (hm' : r.manager.handleMessageContent chatId messageId newContent = m')
      (hmessages : m'.messages = r.manager.messages) :
      (r.step P (.other (.update (.messageContent chatId messageId newContent)) hother)).ShowsRunning := by
    intro message hmessage
    have hbefore : message ∈ r.manager.messages := by
      rw [← hmessages, ← hm']
      exact hmessage
    exact h message hbefore
  rcases newContent with _ | newContent
  · exact iff_of_true (hsame rfl rfl) (by cases messageId <;> exact trivial)
  rcases messageId with _ | messageId
  · refine iff_of_true (hsame rfl ?_) trivial
    simp only [Manager.handleMessageContent, Manager.updateMessage, ite_self]
  by_cases hchat : chatId = r.manager.activeChatId
  · have hmessages : (r.manager.handleMessageContent chatId (some messageId) (some newContent)).messages =
        modifyFirst (·.id == messageId) (ChatMessage.withContent newContent) r.manager.messages := by
      simp only [Manager.handleMessageContent, Manager.updateMessage, hchat, ne_eq, not_true, if_false]
      rfl
    have hshown : (r.step P (.other (.update (.messageContent chatId (some messageId) (some newContent)))
        hother)).ShowsRunning ↔ ∀ message ∈ modifyFirst (·.id == messageId)
          (ChatMessage.withContent newContent) r.manager.messages, message.ShowsOnly r.Running := by
      rw [← hmessages]
      rfl
    rw [hshown, forall_modifyFirst_iff h, Leaves, forall_prop_of_true hchat]
    refine forall_congr' fun message => imp_congr_right fun hfind => ?_
    exact withContent_showsOnly_iff (h message (List.mem_of_find?_eq_some hfind)) newContent
  · refine iff_of_true (hsame rfl ?_) fun heq => absurd heq hchat
    simp only [Manager.handleMessageContent, Manager.updateMessage, ne_eq, hchat, not_false_eq_true, if_true]

lemma other_showsRunning_iff (h : r.ShowsRunning) (e : Event) (hother : e.isTransfer = false) :
    (r.step P (.other e hother)).ShowsRunning ↔ r.Leaves (.other e hother) := by
  by_cases hcontent : ∃ chatId messageId newContent, e = .update (.messageContent chatId messageId newContent)
  · rcases hcontent with ⟨chatId, messageId, newContent, rfl⟩
    exact handleMessageContent_showsRunning_iff h chatId messageId newContent hother
  · have hne : ∀ chatId messageId newContent, e ≠ .update (.messageContent chatId messageId newContent) :=
      fun chatId messageId newContent heq => hcontent ⟨chatId, messageId, newContent, heq⟩
    refine iff_of_true ?_ ?_
    · intro message hmessage
      rcases step_files hother hne hmessage with ⟨before, hbefore, hfiles⟩ | hnone
      · exact (h before hbefore).of_files hfiles
      · exact .of_none hnone
    · rw [Leaves.eq_def]
      split
      · cases ‹_›
      · rename_i heq
        exact absurd (TransferEvent.other.inj heq) (hne _ _ _)
      · trivial

lemma step_showsRunning_iff (h : r.ShowsRunning) (e : TransferEvent) :
    (r.step P e).ShowsRunning ↔ r.Leaves e := by
  cases e with
  | updateFile file => exact handleFileUpdate_showsRunning_iff h file
  | cancelUploadFile fileId => exact iff_of_true (cancelFile_showsRunning h fileId) trivial
  | cancelDownloadFile fileId => exact iff_of_true (cancelFile_showsRunning h fileId) trivial
  | cancelMessageTransfer message => exact iff_of_true (cancelMessageTransfer_showsRunning h message) trivial
  | other e hother => exact other_showsRunning_iff h e hother

/-- **Only transfers that go on are shown**, in every state of every run in which no cover arrives while its
transfer is shown; and wherever it is so, a step keeps it so exactly if that does not happen. -/
theorem transfers_running (P : Platform) :
    (∀ r, Reachable (step P) Leaves {} r → r.ShowsRunning) ∧
    ∀ r e, ShowsRunning r → ((r.step P e).ShowsRunning ↔ r.Leaves e) := by
  constructor
  · intro r h
    refine h.invariant (I := ShowsRunning) ?_ fun r e hr he => (step_showsRunning_iff hr e).mpr he
    intro message hmessage
    cases hmessage
  · exact fun r e h => step_showsRunning_iff h e

/-- The open chat shows a message with the media file 2 and the cover 3. -/
def opened : List TransferEvent :=
  let video : RawMessage := RawMessage.text 5 1 "clip"
  let video := { video with content := { video.content with mediaFileId := some 2, coverFileId := some 3 } }
  [.other (.openChat 1) rfl, .other (.update (.messages ⟨some (.getChatHistory 1), none, [some video]⟩)) rfl]

/-- The cover is being downloaded. -/
def coverLoading : List TransferEvent := opened ++ [.updateFile { id := 3, isDownloadingActive := true }]

theorem transfers_running_cover :
    (coverLoading.foldl (step .plain) {}).manager.messages.any (·.fileTransfer.isSome) ∧
      (coverLoading.foldl (step .plain) {}).ShowsRunning := by
  refine ⟨by decide, (transfers_running .plain).1 _ (Reachable.start.run ⟨trivial, trivial, ?_, trivial⟩)⟩
  exact fun hlocal => absurd hlocal (by decide)

/-- The cover has been downloaded. -/
def coverArrived : List TransferEvent :=
  coverLoading ++ [.updateFile { id := 3, localPath := some "cover.jpg", isDownloadingCompleted := true }]

/-- **The transfer of a cover that is downloaded is still shown.** -/
theorem finished_transfer_shown :
    ∃ r, Reachable (step .plain) (fun _ _ => True) {} r ∧ (r.reported 3).any (·.isCompleted) ∧
      (r.manager.messages.any fun message => message.fileTransfer.any (·.fileId == 3)) ∧
      ¬r.ShowsRunning := by
  have hrun : Reachable (step .plain) (fun _ _ => True) {} (coverArrived.foldl (step .plain) {}) :=
    Reachable.start.run ⟨trivial, trivial, trivial, trivial, trivial⟩
  have hshown : (coverArrived.foldl (step .plain) {}).manager.messages.any fun message =>
      message.fileTransfer.any (·.fileId == 3) := by decide
  refine ⟨_, hrun, by decide, hshown, fun hright => ?_⟩
  rcases List.any_eq_true.mp hshown with ⟨message, hmessage, htransfer⟩
  rcases (Option.any_eq_true _ _).mp htransfer with ⟨transfer, hsome, hfile⟩
  have hrunning := (hright message hmessage transfer hsome).2
  rw [beq_iff_eq.mp hfile] at hrunning
  exact absurd hrunning.1 (by decide)

end TransferRun

end RioGram.Chats
