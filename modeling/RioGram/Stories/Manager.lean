import Mathlib.Data.Int.Notation
import RioGram.Core.Mapping

/-!
# The manager of stories

`StoryManager` keeps the posters of the story feed and the stories that have been loaded.

**The feed.**  A report of a chat's active stories takes the place of its poster and leaves it its title and its
avatar, which come with a chat object that is asked for.

**The stories.**  A story object takes the place of the story with its key.  A reaction is put into the story as
soon as it is sent, and a `file` that is complete puts its path into the stories that it belongs to.

* `Event`, `StoryManager.handle` — all that changes either of them.
-/

namespace RioGram.Stories

open Keyed

/-! ## What TDLib sends -/

/-- A file, with its `local` path. -/
structure File where
  id : ℤ
  path : Option String := none
  isDownloadingCompleted : Bool := false
deriving DecidableEq

structure ChatPhoto where
  big : Option File := none
  small : Option File := none
deriving DecidableEq

structure Chat where
  id : ℤ
  title : Option String := none
  photo : Option ChatPhoto := none
deriving DecidableEq

inductive StoryList where
  | main | archive
deriving DecidableEq

structure StoryInfo where
  storyId : ℤ
  date : ℤ
  isForCloseFriends : Bool := false
  isLive : Bool := false
deriving DecidableEq

structure ChatActiveStories where
  chatId : ℤ
  list : Option StoryList := none
  order : ℤ := 0
  canBeArchived : Bool := false
  maxReadStoryId : ℤ := 0
  stories : List StoryInfo := []
deriving DecidableEq

structure PhotoSize where
  width : ℤ
  height : ℤ
  photo : Option File
deriving DecidableEq

inductive StoryContent where
  | photo (sizes : List PhotoSize)
  | video (video : Option File)
  | live
  | unsupported
deriving DecidableEq

inductive ReactionType where
  | emoji (emoji : String)
  | customEmoji (customEmojiId : ℤ)
  | paid
deriving DecidableEq

structure Story where
  id : ℤ
  posterChatId : ℤ
  date : ℤ
  content : StoryContent
  caption : Option String := none
  canBeReplied : Bool := false
  canBeForwarded : Bool := false
  chosenReactionType : Option ReactionType := none
  viewCount : Option ℤ := none
deriving DecidableEq

/-! ## Models -/

/-- The date is in milliseconds. -/
structure StoryInfoSummary where
  storyId : ℤ
  date : ℤ
  isForCloseFriends : Bool := false
  isLive : Bool := false
deriving DecidableEq

def StoryInfoSummary.fromTdlib (info : StoryInfo) : StoryInfoSummary :=
  { storyId := info.storyId
    date := info.date * 1000
    isForCloseFriends := info.isForCloseFriends
    isLive := info.isLive }

structure StoryPosterSummary where
  chatId : ℤ
  stories : List StoryInfoSummary
  maxReadStoryId : ℤ := 0
  order : ℤ := 0
  canBeArchived : Bool := false
  title : String := ""
  avatarLocalPath : Option String := none
deriving DecidableEq

/-- `copyWith` of a title and an avatar. -/
def StoryPosterSummary.withChat (poster : StoryPosterSummary) (title avatarLocalPath : Option String) :
    StoryPosterSummary :=
  { poster with
    title := title.getD poster.title
    avatarLocalPath := avatarLocalPath.or poster.avatarLocalPath }

inductive StoryMediaKind where
  | photo | video | live | unsupported
deriving DecidableEq

/-- The date is in milliseconds. -/
structure StoryModel where
  id : ℤ
  posterChatId : ℤ
  date : ℤ
  mediaKind : StoryMediaKind := .unsupported
  mediaFileId : Option ℤ := none
  mediaLocalPath : Option String := none
  caption : String := ""
  canBeReplied : Bool := false
  canBeForwarded : Bool := false
  chosenReactionEmoji : Option String := none
  viewCount : ℤ := 0
  isLive : Bool := false
deriving DecidableEq

namespace StoryModel

/-- The two numbers of the key, which is `'${posterChatId}_$id'`. -/
def cacheKey (story : StoryModel) : ℤ × ℤ := (story.posterChatId, story.id)

/-- `copyWith` of a path and a reaction. -/
def copyWith (story : StoryModel) (mediaLocalPath chosenReactionEmoji : Option String) : StoryModel :=
  { story with
    mediaLocalPath := mediaLocalPath.or story.mediaLocalPath
    chosenReactionEmoji := chosenReactionEmoji.or story.chosenReactionEmoji }

@[simp] lemma cacheKey_copyWith (story : StoryModel) (mediaLocalPath chosenReactionEmoji : Option String) :
    (story.copyWith mediaLocalPath chosenReactionEmoji).cacheKey = story.cacheKey :=
  rfl

end StoryModel

/-! ## Parsing -/

/-- The local path of `TdlibChatParser.parseAvatar`. -/
def parseAvatar (photo : Option ChatPhoto) : Option String := do
  let photo ← photo
  let file ← photo.big.or photo.small
  if file.isDownloadingCompleted then file.path else none

namespace TdlibStoryParser

def parseChatActiveStories (json : ChatActiveStories) : Option StoryPosterSummary :=
  if json.chatId = 0 then none
  else
    some
      { chatId := json.chatId
        stories := json.stories.map .fromTdlib
        maxReadStoryId := json.maxReadStoryId
        order := json.order
        canBeArchived := json.canBeArchived }

def localPathFromFile (file : File) : Option String :=
  (file.path.filter (· ≠ "")).filter fun _ => file.isDownloadingCompleted

/-- The largest of the sizes, the last one if there are several. -/
def largest (sizes : List PhotoSize) : Option PhotoSize :=
  (sizes.foldl (fun (best : Option PhotoSize × ℤ) size =>
    if best.2 ≤ size.width * size.height then (some size, size.width * size.height) else best) (none, 0)).1

/-- The kind and the file of the media. -/
def parseStoryMedia : StoryContent → StoryMediaKind × Option File
  | .photo sizes => (.photo, (largest sizes).bind (·.photo))
  | .video video => (.video, video)
  | .live => (.live, none)
  | .unsupported => (.unsupported, none)

def parseReactionEmoji : ReactionType → Option String
  | .emoji emoji => some emoji
  | _ => none

def parseStory (json : Story) : Option StoryModel :=
  if json.id = 0 ∨ json.posterChatId = 0 then none
  else
    let media := parseStoryMedia json.content
    some
      { id := json.id
        posterChatId := json.posterChatId
        date := json.date * 1000
        mediaKind := media.1
        mediaFileId := media.2.map (·.id)
        mediaLocalPath := media.2.bind localPathFromFile
        caption := json.caption.getD ""
        canBeReplied := json.canBeReplied
        canBeForwarded := json.canBeForwarded
        chosenReactionEmoji := json.chosenReactionType.bind parseReactionEmoji
        viewCount := json.viewCount.getD 0
        isLive := media.1 = .live }

end TdlibStoryParser

open TdlibStoryParser

/-! ## The manager -/

/-- The requests whose answers have to do with the feed and the stories. -/
inductive Request where
  | loadActiveStories
  | getChatActiveStories (chatId : ℤ)
  | getChat (chatId : ℤ)
  | getStory (posterChatId storyId : ℤ)
  | setStoryReaction (posterChatId storyId : ℤ) (emoji : Option String)
  | downloadFile (fileId : ℤ)
deriving DecidableEq

/-- The two maps are lists of their values, whose order is nowhere seen. -/
structure StoryManager where
  postersByChatId : List StoryPosterSummary := []
  storiesByKey : List StoryModel := []
  lastError : Option String := none
  isLoadingList : Bool := false
  sent : List Request := []
deriving DecidableEq

inductive Event where
  | loadMainStoryList
  | refreshPosterStories (chatId : ℤ)
  | loadStory (posterChatId storyId : ℤ)
  | setStoryReaction (posterChatId storyId : ℤ) (emoji : String)
  | removeStoryReaction (posterChatId storyId : ℤ)
  | updateChatActiveStories (activeStories : ChatActiveStories)
  /-- the reply to `getChatActiveStories` -/
  | chatActiveStories (activeStories : ChatActiveStories)
  /-- the reply to `getChat` -/
  | chat (chat : Chat)
  /-- the reply to `getStory` -/
  | story (story : Story)
  | updateStory (story : Story)
  | updateStoryDeleted (posterChatId storyId : ℤ)
  | updateStoryPostSucceeded (story : Story)
  /-- the reply to `downloadFile` -/
  | file (file : File)
  | updateFile (file : File)
  | ok (request : Request)
  | error (request : Request) (message : Option String)
deriving DecidableEq

namespace StoryManager

variable (m : StoryManager)

/-- The feed: the higher orders first, and of two with one order that with the higher id. -/
def comparePosters (a b : StoryPosterSummary) : Ordering :=
  (compare b.order a.order).then (compare b.chatId a.chatId)

def posters : List StoryPosterSummary := m.postersByChatId.mergeSort fun a b => (comparePosters a b).isLE

def posterForChat (chatId : ℤ) : Option StoryPosterSummary := lookup (·.chatId) chatId m.postersByChatId

def storyFor (posterChatId storyId : ℤ) : Option StoryModel :=
  lookup StoryModel.cacheKey (posterChatId, storyId) m.storiesByKey

def send (request : Request) : StoryManager := { m with sent := m.sent ++ [request] }

def putPoster (poster : StoryPosterSummary) : StoryManager :=
  { m with postersByChatId := without (·.chatId) poster.chatId m.postersByChatId ++ [poster] }

def removePoster (chatId : ℤ) : StoryManager :=
  { m with postersByChatId := without (·.chatId) chatId m.postersByChatId }

def putStory (story : StoryModel) : StoryManager :=
  { m with storiesByKey := without StoryModel.cacheKey story.cacheKey m.storiesByKey ++ [story] }

def removeStory (posterChatId storyId : ℤ) : StoryManager :=
  { m with storiesByKey := without StoryModel.cacheKey (posterChatId, storyId) m.storiesByKey }

def loadMainStoryList : StoryManager :=
  { m with isLoadingList := true, lastError := none }.send .loadActiveStories

def refreshPosterStories (chatId : ℤ) : StoryManager := m.send (.getChatActiveStories chatId)

def loadStory (posterChatId storyId : ℤ) : StoryManager := m.send (.getStory posterChatId storyId)

/-- What `setStoryReaction` and `removeStoryReaction` do; no emoji is for a removal. -/
def react (posterChatId storyId : ℤ) (emoji : Option String) : StoryManager :=
  let m := m.send (.setStoryReaction posterChatId storyId emoji)
  match m.storyFor posterChatId storyId with
  | none => m
  | some current => m.putStory (current.copyWith none emoji)

def setStoryReaction (posterChatId storyId : ℤ) (emoji : String) : StoryManager :=
  m.react posterChatId storyId (some emoji)

def removeStoryReaction (posterChatId storyId : ℤ) : StoryManager := m.react posterChatId storyId none

def enrichPosterFromChat (chatId : ℤ) (title : String) (avatarLocalPath : Option String) : StoryManager :=
  match m.posterForChat chatId with
  | none => m
  | some current => m.putPoster (current.withChat (some title) avatarLocalPath)

def mergePoster (poster : StoryPosterSummary) : StoryManager :=
  if poster.stories = [] then m.removePoster poster.chatId
  else
    let existing := m.posterForChat poster.chatId
    let merged := m.putPoster (poster.withChat (existing.map (·.title)) (existing.bind (·.avatarLocalPath)))
    if (existing.map (·.title)).getD "" = "" then merged.send (.getChat poster.chatId) else merged

/-- Both the update and the reply come to this. -/
def handleActiveStories (activeStories : ChatActiveStories) : StoryManager :=
  match parseChatActiveStories activeStories with
  | none => m
  | some poster => m.mergePoster poster

def handleStoryResponse (raw : Story) : StoryManager :=
  match parseStory raw with
  | none => m
  | some story =>
      match story.mediaFileId, story.mediaLocalPath with
      | some fileId, none => (m.putStory story).send (.downloadFile fileId)
      | _, _ => m.putStory story

def handleStoryUpdate (raw : Story) : StoryManager :=
  match parseStory raw with
  | none => m
  | some story => m.putStory story

def handleStoryDeleted (posterChatId storyId : ℤ) : StoryManager :=
  let m := m.removeStory posterChatId storyId
  match m.posterForChat posterChatId with
  | none => m
  | some poster =>
      let stories := poster.stories.filter (·.storyId ≠ storyId)
      if stories = [] then m.removePoster posterChatId else m.putPoster { poster with stories }

def handleStoryPostSucceeded (raw : Story) : StoryManager := (m.handleStoryUpdate raw).loadMainStoryList

def handleChatResponse (chat : Chat) : StoryManager :=
  m.enrichPosterFromChat chat.id (chat.title.getD "") (parseAvatar chat.photo)

def handleFileResponse (file : File) : StoryManager :=
  match localPathFromFile file with
  | none => m
  | some path =>
      { m with
        storiesByKey := m.storiesByKey.map fun story =>
          if story.mediaFileId = some file.id then story.copyWith (some path) none else story }

def handleOk : Request → StoryManager
  | .loadActiveStories => { m with isLoadingList := false }
  | _ => m

/-- A download is asked for without an extra, by which an error would be seen to be for a story. -/
def handleError (request : Request) (message : Option String) : StoryManager :=
  let failed := { m with lastError := some (message.getD "Ошибка историй") }
  match request with
  | .downloadFile _ => m
  | .loadActiveStories => { failed with isLoadingList := false }
  | _ => failed

def handle : Event → StoryManager
  | .loadMainStoryList => m.loadMainStoryList
  | .refreshPosterStories chatId => m.refreshPosterStories chatId
  | .loadStory posterChatId storyId => m.loadStory posterChatId storyId
  | .setStoryReaction posterChatId storyId emoji => m.setStoryReaction posterChatId storyId emoji
  | .removeStoryReaction posterChatId storyId => m.removeStoryReaction posterChatId storyId
  | .updateChatActiveStories activeStories | .chatActiveStories activeStories => m.handleActiveStories activeStories
  | .chat chat => m.handleChatResponse chat
  | .story story => m.handleStoryResponse story
  | .updateStory story => m.handleStoryUpdate story
  | .updateStoryDeleted posterChatId storyId => m.handleStoryDeleted posterChatId storyId
  | .updateStoryPostSucceeded story => m.handleStoryPostSucceeded story
  | .file file => m.handleFileResponse file
  | .updateFile _ => m
  | .ok request => m.handleOk request
  | .error request message => m.handleError request message

end StoryManager

end RioGram.Stories
