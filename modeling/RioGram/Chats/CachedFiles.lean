import RioGram.Chats.Updates
import RioGram.Core.Overlay

/-!
# Files in the cache

When a file has been downloaded its path is stored in the messages that have it, and when it is deleted from the
cache the path is taken out again.  Both build the content anew, from lists of its fields that are not the same, and
`copyWith` takes a path that is missing for one that stays.

`FullMessage` and `FullContent` have all fields of `ChatMessage` and `MessageContent`; what is only copied is of any
type.

* `deleteMessageFromCache_eq_iff`, `handleFileUpdate_eq_iff` and `download_again_iff` say when nothing but the path
  changes.
* `shown_handleFileUpdate` and `shown_deleteMessageFromCache`: `Manager` does the same with the fields that it has.
* `cache_changes_paths_iff` has the three together.
-/

namespace RioGram.Chats

open Keyed PartialMap

/-! ## Messages -/

/-- The types of what messages carry and these functions copy. -/
structure Carried where
  FormattedText : Type
  PollContent : Type
  MediaVideoInfo : Type
  VoiceNoteInfo : Type
  AudioTrackInfo : Type
  DocumentFileInfo : Type
  StickerMessageInfo : Type
  AnimationMessageInfo : Type
  ServiceContent : Type
  CallMessageInfo : Type
  LocationMessageInfo : Type
  VenueMessageInfo : Type
  LinkPreviewInfo : Type
  MessageReplyInfo : Type
  MessageForwardInfo : Type
  MessageSchedulingInfo : Type
  InlineKeyboardButtonModel : Type

variable {T : Carried}

structure FullContent (T : Carried) where
  kind : MessageKind
  preview : String
  formattedText : Option T.FormattedText := none
  caption : Option String := none
  formattedCaption : Option T.FormattedText := none
  localPath : Option String := none
  fileName : Option String := none
  poll : Option T.PollContent := none
  videoInfo : Option T.MediaVideoInfo := none
  voiceInfo : Option T.VoiceNoteInfo := none
  audioInfo : Option T.AudioTrackInfo := none
  documentInfo : Option T.DocumentFileInfo := none
  fileSizeBytes : Option ℤ := none
  stickerInfo : Option T.StickerMessageInfo := none
  animationInfo : Option T.AnimationMessageInfo := none
  serviceContentRaw : Option T.ServiceContent := none
  serviceUserIds : List ℤ := []
  callInfo : Option T.CallMessageInfo := none
  locationInfo : Option T.LocationMessageInfo := none
  venueInfo : Option T.VenueMessageInfo := none
  linkPreview : Option T.LinkPreviewInfo := none

structure FullMessage (T : Carried) where
  id : ℤ
  chatId : ℤ
  content : FullContent T
  date : ℤ
  isOutgoing : Bool
  senderName : Option String := none
  senderUserId : Option ℤ := none
  senderChatId : Option ℤ := none
  localFilePath : Option String := none
  mediaFileId : Option ℤ := none
  replyTo : Option T.MessageReplyInfo := none
  forwardInfo : Option T.MessageForwardInfo := none
  schedulingInfo : Option T.MessageSchedulingInfo := none
  canBeEdited : Bool := false
  canBeDeletedOnlyForSelf : Bool := true
  canBeDeletedForAllUsers : Bool := false
  editDate : Option ℤ := none
  isDeleted : Bool := false
  deliveryStatus : Option MessageDeliveryStatus := none
  interactionInfo : Option MessageInteractionInfo := none
  reactions : List MessageReactionSummary := []
  inlineKeyboard : List (List T.InlineKeyboardButtonModel) := []
  groupedId : Option ℤ := none
  fileTransfer : Option FileTransferState := none
  coverFileId : Option ℤ := none
  coverLocalPath : Option String := none
  isPinned : Bool := false
  canBePinned : Bool := false
  isChannelPost : Bool := false
  canGetMessageThread : Bool := false

/-- The arguments of `copyWith` that are given below. -/
structure MessageChange (T : Carried) where
  content : Option (FullContent T) := none
  localFilePath : Option String := none
  fileTransfer : Option FileTransferState := none
  coverLocalPath : Option String := none
  clearFileTransfer : Bool := false

namespace FullMessage

variable (message : FullMessage T)

def copyWith (change : MessageChange T) : FullMessage T :=
  { message with
    content := change.content.getD message.content
    localFilePath := change.localFilePath <|> message.localFilePath
    fileTransfer := if change.clearFileTransfer then none else change.fileTransfer <|> message.fileTransfer
    coverLocalPath := change.coverLocalPath <|> message.coverLocalPath }

/-- The message with another path of its file, or with none. -/
def withPath (path : Option String) : FullMessage T :=
  { message with localFilePath := path, content := { message.content with localPath := path } }

end FullMessage

/-! ## The cache -/

def RawFile.hasLocalPath (file : RawFile) : Bool := file.isDownloadingCompleted && file.localPath.any (· ≠ "")

/-- The content has nothing that only a message without a file has. -/
structure FullContent.IsMedia (content : FullContent T) : Prop where
  serviceContentRaw : content.serviceContentRaw = none
  serviceUserIds : content.serviceUserIds = []
  callInfo : content.callInfo = none
  locationInfo : content.locationInfo = none
  venueInfo : content.venueInfo = none
  linkPreview : content.linkPreview = none

/-- The content is that of no sticker and no animation. -/
structure FullContent.IsStill (content : FullContent T) : Prop where
  stickerInfo : content.stickerInfo = none
  animationInfo : content.animationInfo = none

namespace FullContent

variable (content : FullContent T)

/-- The content that `deleteMessageFromCache` builds. -/
def deleted : FullContent T where
  kind := content.kind
  preview := content.preview
  formattedText := content.formattedText
  caption := content.caption
  formattedCaption := content.formattedCaption
  fileName := content.fileName
  poll := content.poll
  videoInfo := content.videoInfo
  voiceInfo := content.voiceInfo
  audioInfo := content.audioInfo
  documentInfo := content.documentInfo
  fileSizeBytes := content.fileSizeBytes

/-- The content that `_handleFileUpdate` builds. -/
def downloaded (localPath : Option String) : FullContent T where
  kind := content.kind
  preview := content.preview
  formattedText := content.formattedText
  caption := content.caption
  formattedCaption := content.formattedCaption
  localPath
  fileName := content.fileName
  poll := content.poll
  videoInfo := content.videoInfo
  voiceInfo := content.voiceInfo
  audioInfo := content.audioInfo
  documentInfo := content.documentInfo
  stickerInfo := content.stickerInfo
  animationInfo := content.animationInfo
  fileSizeBytes := content.fileSizeBytes

variable {content}

lemma downloaded_eq_iff {localPath : Option String} :
    content.downloaded localPath = { content with localPath } ↔ content.IsMedia := by
  constructor
  · intro h
    exact ⟨(congrArg serviceContentRaw h).symm, (congrArg serviceUserIds h).symm, (congrArg callInfo h).symm,
      (congrArg locationInfo h).symm, (congrArg venueInfo h).symm, (congrArg linkPreview h).symm⟩
  · rintro ⟨hservice, husers, hcall, hlocation, hvenue, hlink⟩
    rw [downloaded, ← hservice, ← husers, ← hcall, ← hlocation, ← hvenue, ← hlink]

lemma deleted_eq_iff :
    content.deleted = { content with localPath := none } ↔ content.IsMedia ∧ content.IsStill := by
  constructor
  · intro h
    exact ⟨⟨(congrArg serviceContentRaw h).symm, (congrArg serviceUserIds h).symm, (congrArg callInfo h).symm,
      (congrArg locationInfo h).symm, (congrArg venueInfo h).symm, (congrArg linkPreview h).symm⟩,
      (congrArg stickerInfo h).symm, (congrArg animationInfo h).symm⟩
  · rintro ⟨⟨hservice, husers, hcall, hlocation, hvenue, hlink⟩, hsticker, hanimation⟩
    rw [deleted, ← hservice, ← husers, ← hcall, ← hlocation, ← hvenue, ← hlink, ← hsticker, ← hanimation]

/-- What is lost of the content is the sticker and the animation, once it has been built anew. -/
lemma downloaded_again_eq_iff {localPath : Option String} :
    ((content.downloaded localPath).deleted).downloaded localPath = content.downloaded localPath ↔
      content.IsStill := by
  constructor
  · intro h
    exact ⟨(congrArg stickerInfo h).symm, (congrArg animationInfo h).symm⟩
  · rintro ⟨hsticker, hanimation⟩
    rw [downloaded, downloaded, hsticker, hanimation]
    rfl

end FullContent

namespace MessageCache

/-- `deleteMessageFromCache`, on the messages that are shown. -/
def deleteMessageFromCache (messages : List (FullMessage T)) (message : FullMessage T) : List (FullMessage T) :=
  if message.mediaFileId = none then messages
  else
    modifyFirst (·.id == message.id)
      (fun current => current.copyWith { localFilePath := none, content := some current.content.deleted }) messages

/-- What `_handleFileUpdate` does to a message. -/
def updateFile (file : RawFile) (message : FullMessage T) : FullMessage T :=
  if message.mediaFileId = some file.id then
    message.copyWith
      { fileTransfer := if file.transfer.isActive then some file.transfer else none
        clearFileTransfer := !file.transfer.isActive
        localFilePath := if file.hasLocalPath then file.localPath else message.localFilePath
        content := some
          (if file.hasLocalPath then message.content.downloaded file.localPath else message.content) }
  else if message.coverFileId = some file.id then
    if file.hasLocalPath then message.copyWith { coverLocalPath := file.localPath }
    else if file.transfer.isActive then message.copyWith { fileTransfer := some file.transfer }
    else if message.fileTransfer.isSome then message.copyWith { clearFileTransfer := true }
    else message
  else message

def handleFileUpdate (file : RawFile) (messages : List (FullMessage T)) : List (FullMessage T) :=
  messages.map (updateFile file)

/-- What a file that has been downloaded is to change: the path of the messages that have it and how far it is, and
in those that have it as a cover the path of that. -/
def withFile (file : RawFile) (message : FullMessage T) : FullMessage T :=
  if message.mediaFileId = some file.id then
    { message.withPath file.localPath with
      fileTransfer := if file.transfer.isActive then some file.transfer else none }
  else if message.coverFileId = some file.id then { message with coverLocalPath := file.localPath }
  else message

/-- What is deleted from the cache loses nothing but its path. -/
def LosesPathOnly (message current : FullMessage T) : Prop :=
  current.localFilePath = none ∧
    if message.mediaFileId = none then current.content.localPath = none
    else current.content.IsMedia ∧ current.content.IsStill

variable {messages : List (FullMessage T)} {message current : FullMessage T} {file : RawFile}

/-! ### Deleting a file -/

lemma withPath_none_eq_iff :
    current = current.withPath none ↔ current.localFilePath = none ∧ current.content.localPath = none := by
  constructor
  · intro h
    exact ⟨congrArg FullMessage.localFilePath h, congrArg (fun m : FullMessage T => m.content.localPath) h⟩
  · rintro ⟨hfile, hcontent⟩
    have hsame : { current.content with localPath := none } = current.content := by rw [← hcontent]
    rw [FullMessage.withPath, hsame, ← hfile]

lemma deleted_eq_withPath_iff :
    current.copyWith { localFilePath := none, content := some current.content.deleted } = current.withPath none ↔
      current.localFilePath = none ∧ current.content.IsMedia ∧ current.content.IsStill := by
  rw [← FullContent.deleted_eq_iff]
  constructor
  · intro h
    exact ⟨congrArg FullMessage.localFilePath h, congrArg FullMessage.content h⟩
  · rintro ⟨hfile, hcontent⟩
    rw [FullMessage.copyWith, FullMessage.withPath, Option.getD_some, hcontent, hfile]
    rfl

lemma deleteMessageFromCache_eq_iff (hcurrent : messages.find? (·.id == message.id) = some current) :
    deleteMessageFromCache messages message = modifyFirst (·.id == message.id) (·.withPath none) messages ↔
      LosesPathOnly message current := by
  rw [deleteMessageFromCache, LosesPathOnly]
  split_ifs with hmedia
  · have hchange := modifyFirst_eq_iff (f := id) (g := (·.withPath none)) hcurrent
    rw [modifyFirst_id] at hchange
    exact hchange.trans withPath_none_eq_iff
  · exact (modifyFirst_eq_iff hcurrent).trans deleted_eq_withPath_iff

/-! ### A file that has been downloaded -/

lemma localPath_of_hasLocalPath (h : file.hasLocalPath) : ∃ path, file.localPath = some path := by
  rw [RawFile.hasLocalPath, Bool.and_eq_true] at h
  cases hpath : file.localPath with
  | none => simp [hpath] at h
  | some path => exact ⟨path, rfl⟩

/-- What the message is when its file has been downloaded. -/
lemma updateFile_of_media (h : file.hasLocalPath) (hmedia : message.mediaFileId = some file.id) :
    updateFile file message =
      { message with
        fileTransfer := if file.transfer.isActive then some file.transfer else none
        localFilePath := file.localPath
        content := message.content.downloaded file.localPath } := by
  rcases localPath_of_hasLocalPath h with ⟨path, hpath⟩
  rw [updateFile, if_pos hmedia, if_pos h, if_pos h, FullMessage.copyWith, hpath]
  cases file.transfer.isActive <;> rfl

lemma updateFile_of_other (h : file.hasLocalPath) (hmedia : message.mediaFileId ≠ some file.id) :
    updateFile file message = withFile file message := by
  rcases localPath_of_hasLocalPath h with ⟨path, hpath⟩
  rw [updateFile, withFile, if_neg hmedia, if_neg hmedia, if_pos h]
  split_ifs
  · rw [FullMessage.copyWith, hpath]
    rfl
  · rfl

lemma updateFile_eq_iff (h : file.hasLocalPath) :
    updateFile file message = withFile file message ↔
      (message.mediaFileId = some file.id → message.content.IsMedia) := by
  by_cases hmedia : message.mediaFileId = some file.id
  · rw [updateFile_of_media h hmedia, withFile, if_pos hmedia,
      ← @FullContent.downloaded_eq_iff _ _ file.localPath]
    constructor
    · intro heq _
      exact congrArg FullMessage.content heq
    · intro hcontent
      rw [hcontent hmedia]
      rfl
  · simp [updateFile_of_other h hmedia, hmedia]

lemma handleFileUpdate_eq_iff (h : file.hasLocalPath) :
    handleFileUpdate file messages = messages.map (withFile file) ↔
      ∀ message ∈ messages, message.mediaFileId = some file.id → message.content.IsMedia := by
  rw [handleFileUpdate, List.map_inj_left]
  exact forall₂_congr fun message _ => updateFile_eq_iff h

/-! ### Downloading it again -/

lemma updateFile_id (message : FullMessage T) : (updateFile file message).id = message.id := by
  rw [updateFile]
  split_ifs <;> rfl

/-- A second report of the same file changes nothing. -/
lemma updateFile_updateFile (h : file.hasLocalPath) (message : FullMessage T) :
    updateFile file (updateFile file message) = updateFile file message := by
  by_cases hmedia : message.mediaFileId = some file.id
  · have hagain : (updateFile file message).mediaFileId = some file.id := by
      rw [updateFile_of_media h hmedia]
      exact hmedia
    rw [updateFile_of_media h hagain, updateFile_of_media h hmedia]
    rfl
  · have hother := updateFile_of_other h hmedia
    have hagain : (withFile file message).mediaFileId ≠ some file.id := by
      rw [withFile, if_neg hmedia]
      split_ifs
      · exact hmedia
      · exact hmedia
    rw [hother, updateFile_of_other h hagain, withFile, if_neg hagain]
    rw [withFile, if_neg hmedia]
    split_ifs
    · rfl
    · rfl

lemma updateFile_deleted_eq_iff (h : file.hasLocalPath) (hmedia : current.mediaFileId = some file.id) :
    updateFile file ((updateFile file current).copyWith
        { localFilePath := none, content := some (updateFile file current).content.deleted }) =
      updateFile file current ↔ current.content.IsStill := by
  have hagain : ((updateFile file current).copyWith
      { localFilePath := none, content := some (updateFile file current).content.deleted }).mediaFileId =
        some file.id := by
    rw [updateFile_of_media h hmedia]
    exact hmedia
  rw [updateFile_of_media h hagain, updateFile_of_media h hmedia,
    ← @FullContent.downloaded_again_eq_iff _ current.content file.localPath]
  constructor
  · intro heq
    exact congrArg FullMessage.content heq
  · intro hcontent
    simp only [FullMessage.copyWith, Option.getD_some, hcontent]
    rfl

/-- A message that is downloaded again after its file has been deleted is as it was exactly if it is no sticker and
no animation. -/
lemma download_again_iff (h : file.hasLocalPath) (hcurrent : messages.find? (·.id == message.id) = some current)
    (hmedia : current.mediaFileId = some file.id) (hmessage : message.mediaFileId ≠ none) :
    handleFileUpdate file (deleteMessageFromCache (handleFileUpdate file messages) message) =
      handleFileUpdate file messages ↔ current.content.IsStill := by
  have hfound : (handleFileUpdate file messages).find? (·.id == message.id) = some (updateFile file current) := by
    have hsame : ((·.id == message.id) ∘ updateFile file : FullMessage T → Bool) = (·.id == message.id) := by
      funext other
      rw [Function.comp_apply, updateFile_id]
    rw [handleFileUpdate, List.find?_map, hsame, hcurrent]
    rfl
  have hchange := modifyFirst_eq_iff (g := id) (f := fun current : FullMessage T => updateFile file
    (current.copyWith { localFilePath := none, content := some current.content.deleted })) hfound
  rw [modifyFirst_id] at hchange
  rw [deleteMessageFromCache, if_neg hmessage, ← updateFile_deleted_eq_iff h hmedia]
  refine Iff.trans ?_ hchange
  rw [handleFileUpdate, handleFileUpdate, map_modifyFirst_map (updateFile_updateFile h)]

/-! ### The messages of the manager -/

/-- What `Manager` has of a message, with the text of a caption and the JSON of a service message. -/
def shown (text : T.FormattedText → String) (json : T.ServiceContent → String) (message : FullMessage T) :
    ChatMessage where
  id := message.id
  chatId := message.chatId
  content :=
    { kind := message.content.kind
      preview := message.content.preview
      caption := message.content.caption
      formattedCaption := message.content.formattedCaption.map text
      localPath := message.content.localPath
      fileName := message.content.fileName
      serviceContentRaw := message.content.serviceContentRaw.map json
      serviceUserIds := message.content.serviceUserIds }
  date := message.date
  isOutgoing := message.isOutgoing
  senderName := message.senderName
  senderUserId := message.senderUserId
  senderChatId := message.senderChatId
  localFilePath := message.localFilePath
  mediaFileId := message.mediaFileId
  coverFileId := message.coverFileId
  coverLocalPath := message.coverLocalPath
  editDate := message.editDate
  isDeleted := message.isDeleted
  deliveryStatus := message.deliveryStatus
  interactionInfo := message.interactionInfo.getD {}
  reactions := message.reactions
  fileTransfer := message.fileTransfer

variable (text : T.FormattedText → String) (json : T.ServiceContent → String)

/-- `updateFileOf` is what is seen of it there. -/
lemma shown_updateFile (file : RawFile) (message : FullMessage T) :
    shown text json (updateFile file message) = Manager.updateFileOf file (shown text json message) := by
  have hpath : (file.isDownloadingCompleted && file.localPath.any (· ≠ "")) = file.hasLocalPath := rfl
  have hmediaFile : (shown text json message).mediaFileId = message.mediaFileId := rfl
  have hcoverFile : (shown text json message).coverFileId = message.coverFileId := rfl
  simp only [Manager.updateFileOf, hpath, hmediaFile, hcoverFile]
  by_cases hmedia : message.mediaFileId = some file.id
  · by_cases h : file.hasLocalPath
    · rw [updateFile_of_media h hmedia, if_pos hmedia, if_pos h, if_pos h]
      rfl
    · rw [updateFile, if_pos hmedia, if_pos hmedia, if_neg h, if_neg h, if_neg h, if_neg h]
      cases hactive : file.transfer.isActive <;> cases hlocal : message.localFilePath <;>
        simp [shown, FullMessage.copyWith, hlocal]
  · rw [if_neg hmedia]
    by_cases h : file.hasLocalPath
    · rcases localPath_of_hasLocalPath h with ⟨path, hlocal⟩
      rw [updateFile_of_other h hmedia, withFile, if_neg hmedia, if_pos h]
      split_ifs
      · rfl
      · rfl
    · rw [updateFile, if_neg hmedia, if_neg h, if_neg h]
      split_ifs with hcover hactive htransfer
      · simp [shown, FullMessage.copyWith]
      · simp [shown, FullMessage.copyWith]
      · simp only [Option.isSome_iff_ne_none, ne_eq, not_not] at htransfer
        simp [shown, htransfer]
      · rfl

lemma shown_handleFileUpdate (m : Manager) (file : RawFile) :
    (handleFileUpdate file messages).map (shown text json) =
      ((m.setMessages (messages.map (shown text json))).handleFileUpdate file).messages := by
  simp only [handleFileUpdate, Manager.handleFileUpdate, Manager.setMessages, List.map_map]
  exact List.map_congr_left fun message _ => shown_updateFile text json file message

lemma shown_deleteMessageFromCache (m : Manager) :
    (deleteMessageFromCache messages message).map (shown text json) =
      ((m.setMessages (messages.map (shown text json))).deleteMessageFromCache
        (shown text json message)).messages := by
  have hmediaFile : (shown text json message).mediaFileId = message.mediaFileId := rfl
  rw [deleteMessageFromCache, Manager.deleteMessageFromCache, hmediaFile]
  split_ifs
  · rfl
  · refine map_modifyFirst_of_comm (g := shown text json) (q := (·.id == message.id)) ?_ ?_ messages
    · intro other
      rfl
    · intro other
      rfl

/-! ### The three together -/

/-- **Only paths change**, when a message is deleted from the cache exactly if its own path is missing already and
it is no sticker, no animation and nothing without a file; when a file has been downloaded exactly if the messages
that have it are nothing without a file; and from one download to the next exactly if the message is no sticker and
no animation. -/
theorem cache_changes_paths_iff (messages : List (FullMessage T)) (message current : FullMessage T) (file : RawFile)
    (hcurrent : messages.find? (·.id == message.id) = some current) (h : file.hasLocalPath) :
    (deleteMessageFromCache messages message = modifyFirst (·.id == message.id) (·.withPath none) messages ↔
        LosesPathOnly message current) ∧
      (handleFileUpdate file messages = messages.map (withFile file) ↔
        ∀ message ∈ messages, message.mediaFileId = some file.id → message.content.IsMedia) ∧
      (current.mediaFileId = some file.id → message.mediaFileId ≠ none →
        (handleFileUpdate file (deleteMessageFromCache (handleFileUpdate file messages) message) =
            handleFileUpdate file messages ↔ current.content.IsStill)) :=
  ⟨deleteMessageFromCache_eq_iff hcurrent, handleFileUpdate_eq_iff h, download_again_iff h hcurrent⟩

/-- All that is carried is text. -/
def carriedTexts : Carried :=
  ⟨String, String, String, String, String, String, String, String, String, String, String, String, String, String,
    String, String, String⟩

/-- A message with a file that TDLib had already when it came. -/
def cachedMessage (kind : MessageKind) : FullMessage carriedTexts where
  id := 10
  chatId := 1
  content := { kind, preview := "", localPath := some "a.webp" }
  date := 0
  isOutgoing := false
  mediaFileId := some 5

def downloadedFile : RawFile where
  id := 5
  localPath := some "a.webp"
  isDownloadingCompleted := true
  transfer := { fileId := 5, transferredBytes := 1, totalBytes := 1, isUpload := false, isActive := false }

/-- A photo is deleted and downloaded as it should be. -/
theorem cache_changes_paths_iff_photo :
    let photo := cachedMessage .photo
    deleteMessageFromCache [photo] photo = modifyFirst (·.id == photo.id) (·.withPath none) [photo] ∧
      handleFileUpdate downloadedFile (deleteMessageFromCache (handleFileUpdate downloadedFile [photo]) photo) =
        handleFileUpdate downloadedFile [photo] := by
  intro photo
  rcases cache_changes_paths_iff [photo] photo photo downloadedFile rfl rfl with ⟨hdelete, -, hagain⟩
  have hstill : photo.content.IsStill := ⟨rfl, rfl⟩
  refine ⟨hdelete.mpr ⟨rfl, ⟨rfl, rfl, rfl, rfl, rfl, rfl⟩, hstill⟩, (hagain rfl ?_).mpr hstill⟩
  exact Option.some_ne_none _

/-- **A sticker is lost, and its path stays**: it has been downloaded and is deleted from the cache. -/
theorem sticker_lost :
    let sticker : FullMessage carriedTexts :=
      { cachedMessage .sticker with
        localFilePath := some "a.webp"
        content := { kind := .sticker, preview := "", localPath := some "a.webp", stickerInfo := some "set" } }
    let after := deleteMessageFromCache [sticker] sticker
    after.map (·.localFilePath) = [some "a.webp"] ∧ after.map (·.content.stickerInfo) = [none] ∧
      after ≠ modifyFirst (·.id == sticker.id) (·.withPath none) [sticker] := by
  intro sticker after
  refine ⟨rfl, rfl, fun hsame => ?_⟩
  have hpath := congrArg (List.map (·.localFilePath)) hsame
  exact absurd hpath (by decide)

end MessageCache

end RioGram.Chats
