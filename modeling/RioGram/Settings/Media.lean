import RioGram.Core.Overlay
import RioGram.Settings.Managers

/-!
# The managers of stickers and stories

The one of stickers numbers its requests, and takes the error to a request of anyone for one of its own.
-/

namespace RioGram.Settings

open Js Secret SecretChatManager PartialMap

/-! ## Stickers -/

structure StickerManager where
  selectedSet : Option ℤ := none
  isLoadingSets : Bool := false
  isLoadingStickers : Bool := false
  isSearching : Bool := false
  isSearchingGifs : Bool := false
  lastError : Option Str := none
  gifBotUserId : Option ℤ := none
  requestId : ℤ := 0
  /-- A search for GIFs waits for the bot. -/
  pendingGifSearch : Bool := false
  sent : List StickerRequest := []

inductive StickerCall where
  | startListening
  | refreshAll
  | loadInstalledSets
  | loadFavoriteStickers
  | loadRecentStickers
  | selectStickerSet (setId : ℤ)
  | viewStickerSetByName (name : Str)
  | installStickerSet
  /-- With the name that the link has. -/
  | installStickerSetFromLink (name : Option Str)
  | searchStickers (query : Str)
  | searchGifs
  | toggleFavorite

namespace StickerManager

variable (m : StickerManager)

/-- Sends a request with the next number. -/
def send (request : ℤ → StickerRequest) : StickerManager :=
  { m with requestId := m.requestId + 1, sent := m.sent ++ [request (m.requestId + 1)] }

def loadInstalledSets : StickerManager := { m with isLoadingSets := true, lastError := none }.send .installedSets

def loadFavoriteStickers : StickerManager := m.send .favoriteStickers

def loadRecentStickers : StickerManager := m.send .recentStickers

def refreshAll : StickerManager := m.loadInstalledSets.loadFavoriteStickers.loadRecentStickers

def selectStickerSet (setId : ℤ) : StickerManager :=
  { m with selectedSet := some setId, isLoadingStickers := true }.send (.stickerSet setId)

def viewStickerSetByName (name : Str) : StickerManager := m.send (.searchSet name)

/-- The request to install the set has no extra. -/
def installStickerSet : StickerManager := m.loadInstalledSets

def installStickerSetFromLink (name : Option Str) : StickerManager :=
  match name with
  | none => { m with lastError := some (units "Не удалось распознать ссылку на набор") }
  | some name => m.send (.installSet name)

def searchStickers (query : Str) : StickerManager :=
  if trimDart query = [] then m else { m with isSearching := true }.send .searchStickers

def resolveGifBot : StickerManager := m.send .gifBot

/-- The search itself. -/
def searchGifsWithBot : StickerManager :=
  match m.gifBotUserId with
  | none => { m with lastError := some (units "GIF-бот недоступен") }
  | some _ => { m with isSearchingGifs := true }.send .gifSearch

def searchGifs : StickerManager :=
  match m.gifBotUserId with
  | none => { m.resolveGifBot with pendingGifSearch := true }
  | some _ => m.searchGifsWithBot

/-- The request to change the favorites has no extra. -/
def toggleFavorite : StickerManager := m.loadFavoriteStickers

def startListening : StickerManager := m.refreshAll.resolveGifBot

def call : StickerCall → StickerManager
  | .startListening => m.startListening
  | .refreshAll => m.refreshAll
  | .loadInstalledSets => m.loadInstalledSets
  | .loadFavoriteStickers => m.loadFavoriteStickers
  | .loadRecentStickers => m.loadRecentStickers
  | .selectStickerSet setId => m.selectStickerSet setId
  | .viewStickerSetByName name => m.viewStickerSetByName name
  | .installStickerSet => m.installStickerSet
  | .installStickerSetFromLink name => m.installStickerSetFromLink name
  | .searchStickers query => m.searchStickers query
  | .searchGifs => m.searchGifs
  | .toggleFavorite => m.toggleFavorite

def handleGifBot (extra : Option Str) (id : Option ℤ) : StickerManager :=
  if !begins extra "gifBot_" then m
  else
    let m := { m with gifBotUserId := id }
    if m.pendingGifSearch then { m.searchGifsWithBot with pendingGifSearch := false } else m

def handleStickerSets (extra : Option Str) (setIds : List ℤ) : StickerManager :=
  if !begins extra "installedSets_" then m
  else
    let m := { m with isLoadingSets := false }
    match setIds, m.selectedSet with
    | setId :: _, none => m.selectStickerSet setId
    | _, _ => m

def handleStickers (extra : Option Str) : StickerManager :=
  if begins extra "searchStickers_" then { m with isSearching := false } else m

def handleStickerSet (extra : Option Str) (setId : ℤ) : StickerManager :=
  if begins extra "stickerSet_" then { m with selectedSet := some setId, isLoadingStickers := false }
  else if begins extra "installSet_" then m.installStickerSet.selectStickerSet setId
  else if begins extra "searchSet_" then m.selectStickerSet setId
  else m

def handleInlineQueryResults (extra : Option Str) : StickerManager :=
  if begins extra "gifSearch_" then { m with isSearchingGifs := false } else m

def handleError (extra message : Option Str) : StickerManager :=
  if extra.isNone then m
  else
    { m with
      lastError := some (message.getD (units "Ошибка стикеров"))
      isLoadingSets := false
      isLoadingStickers := false
      isSearching := false
      isSearchingGifs := false }

def handleUpdate (extra : Option Str) : SettingsUpdate → StickerManager
  | .chat id _ _ => m.handleGifBot extra id
  | .stickerSets setIds => m.handleStickerSets extra setIds
  | .stickers => m.handleStickers extra
  | .stickerSet setId => m.handleStickerSet extra setId
  | .inlineQueryResults => m.handleInlineQueryResults extra
  | .error message => m.handleError extra message
  | _ => m

end StickerManager

/-! ## Stories -/

structure StoryPostState where
  isPosting : Bool := false
  canPost : Bool := false
  lastError : Option Str := none
deriving DecidableEq

def CanPostStoryRefusal.text : CanPostStoryRefusal → Str
  | premiumNeeded => units "Нужен Telegram Premium для публикации истории"
  | boostNeeded => units "Нужен буст канала для публикации истории"
  | activeStoryLimitExceeded => units "Достигнут лимит активных историй"
  | weeklyLimitExceeded | monthlyLimitExceeded => units "Достигнут лимит публикаций историй"
  | liveStoryIsActive => units "Сначала завершите активную live-историю"

structure StoryManager where
  postersByChatId : ℤ → Option StoryPosterSummary := empty
  availableReactions : List Str := []
  postState : StoryPostState := {}
  lastError : Option Str := none
  savedMessagesChatId : Option ℤ := none
  viewerPosterChatId : Option ℤ := none
  viewerStoryId : Option ℤ := none
  isLoadingList : Bool := false
  sent : List StoryRequest := []

inductive StoryCall where
  | setSavedMessagesChatId (chatId : Option ℤ)
  | loadMainStoryList
  | refreshPosterStories (chatId : ℤ)
  | loadStory (posterChatId storyId : ℤ)
  | openStoryViewer (posterChatId storyId : ℤ)
  | closeStoryViewer
  | advanceViewerStory (posterChatId storyId : ℤ)
  | checkCanPostStory (chatId : ℤ)
  | loadAvailableReactions
  | preparePostStory
  | postPhotoStory
  | postVideoStory
  | setStoryReaction (posterChatId storyId : ℤ)
  | removeStoryReaction (posterChatId storyId : ℤ)
  | replyToStory (posterChatId storyId : ℤ) (text : Str)
  | enrichPosterFromChat (chatId : ℤ) (title : Str)

namespace StoryManager

variable (m : StoryManager)

def send (request : StoryRequest) : StoryManager := { m with sent := m.sent ++ [request] }

def setSavedMessagesChatId (chatId : Option ℤ) : StoryManager := { m with savedMessagesChatId := chatId }

def loadMainStoryList : StoryManager := { m with isLoadingList := true, lastError := none }.send .loadMain

def refreshPosterStories (chatId : ℤ) : StoryManager := m.send (.active chatId)

def loadStory (posterChatId storyId : ℤ) : StoryManager := m.send (.getStory posterChatId storyId)

def openStoryViewer (posterChatId storyId : ℤ) : StoryManager :=
  ({ m with viewerPosterChatId := some posterChatId, viewerStoryId := some storyId }.send
    (.openStory posterChatId storyId)).loadStory posterChatId storyId

def closeStoryViewer : StoryManager :=
  let closed := { m with viewerPosterChatId := none, viewerStoryId := none }
  match m.viewerPosterChatId, m.viewerStoryId with
  | some posterChatId, some storyId => closed.send (.closeStory posterChatId storyId)
  | _, _ => closed

def advanceViewerStory (posterChatId storyId : ℤ) : StoryManager :=
  m.closeStoryViewer.openStoryViewer posterChatId storyId

def checkCanPostStory (chatId : ℤ) : StoryManager := m.send (.canPost chatId)

def loadAvailableReactions : StoryManager := if m.availableReactions ≠ [] then m else m.send .reactions

def preparePostStory : StoryManager :=
  match m.savedMessagesChatId with
  | none =>
      { m with
        postState :=
          { m.postState with
            canPost := false, lastError := some (units "Избранное недоступно для публикации истории") } }
  | some chatId => (m.checkCanPostStory chatId).loadAvailableReactions

/-- What posting a photo and posting a video have in common. -/
def postStory (request : StoryRequest) : StoryManager :=
  match m.savedMessagesChatId with
  | none => { m with lastError := some (units "Не найден чат «Избранное»") }
  | some _ =>
      { m with
        postState := { m.postState with isPosting := true, lastError := none }
        lastError := none }.send request

def postPhotoStory : StoryManager := m.postStory .postPhoto

def postVideoStory : StoryManager := m.postStory .postVideo

def setStoryReaction (posterChatId storyId : ℤ) : StoryManager := m.send (.reaction posterChatId storyId)

def removeStoryReaction (posterChatId storyId : ℤ) : StoryManager := m.send (.reaction posterChatId storyId)

def replyToStory (posterChatId storyId : ℤ) (text : Str) : StoryManager :=
  if trimDart text = [] then m else m.send (.reply posterChatId storyId)

def enrichPosterFromChat (chatId : ℤ) (title : Str) : StoryManager :=
  match m.postersByChatId chatId with
  | none => m
  | some current => { m with postersByChatId := put chatId { current with title } m.postersByChatId }

def call : StoryCall → StoryManager
  | .setSavedMessagesChatId chatId => m.setSavedMessagesChatId chatId
  | .loadMainStoryList => m.loadMainStoryList
  | .refreshPosterStories chatId => m.refreshPosterStories chatId
  | .loadStory posterChatId storyId => m.loadStory posterChatId storyId
  | .openStoryViewer posterChatId storyId => m.openStoryViewer posterChatId storyId
  | .closeStoryViewer => m.closeStoryViewer
  | .advanceViewerStory posterChatId storyId => m.advanceViewerStory posterChatId storyId
  | .checkCanPostStory chatId => m.checkCanPostStory chatId
  | .loadAvailableReactions => m.loadAvailableReactions
  | .preparePostStory => m.preparePostStory
  | .postPhotoStory => m.postPhotoStory
  | .postVideoStory => m.postVideoStory
  | .setStoryReaction posterChatId storyId => m.setStoryReaction posterChatId storyId
  | .removeStoryReaction posterChatId storyId => m.removeStoryReaction posterChatId storyId
  | .replyToStory posterChatId storyId text => m.replyToStory posterChatId storyId text
  | .enrichPosterFromChat chatId title => m.enrichPosterFromChat chatId title

def removePoster (chatId : ℤ) : StoryManager :=
  { m with postersByChatId := Function.update m.postersByChatId chatId none }

def mergePoster (chatId : ℤ) (poster : StoryPosterSummary) : StoryManager :=
  if poster.storyIds = [] then m.removePoster chatId
  else
    let existing := (m.postersByChatId chatId).map (·.title)
    let merged := { poster with title := existing.getD poster.title }
    let m := { m with postersByChatId := put chatId merged m.postersByChatId }
    if existing.getD [] = [] then m.send (.chat chatId) else m

/-- Stories of no chat are none. -/
def handleActiveStoriesUpdate (chatId : ℤ) (poster : StoryPosterSummary) : StoryManager :=
  if chatId = 0 then m else m.mergePoster chatId poster

def handleActiveStoriesResponse (extra : Option Str) (chatId : ℤ) (poster : StoryPosterSummary) : StoryManager :=
  if !begins extra "story_active_" && extra != some (ascii "story_load_main") then m
  else if chatId = 0 then m
  else
    let m := m.mergePoster chatId poster
    if extra == some (ascii "story_load_main") then { m with isLoadingList := false } else m

def handleStoryDeleted (chatId storyId : ℤ) : StoryManager :=
  match m.postersByChatId chatId with
  | none => m
  | some poster =>
      let storyIds := poster.storyIds.filter (· ≠ storyId)
      if storyIds = [] then m.removePoster chatId
      else { m with postersByChatId := put chatId { poster with storyIds } m.postersByChatId }

def handleStoryPostSucceeded : StoryManager :=
  { m with postState := { m.postState with isPosting := false, lastError := none } }.loadMainStoryList

def handleStoryPostFailed (message : Option Str) : StoryManager :=
  { m with
    postState :=
      { m.postState with
        isPosting := false, lastError := some (message.getD (units "Не удалось опубликовать историю")) } }

def handleAvailableReactions (extra : Option Str) (emojis : List Str) : StoryManager :=
  if extra != some (ascii "story_reactions") then m else { m with availableReactions := emojis }

/-- This is looked at whatever extra it has. -/
def handleCanPostStoryResult (refusal : Option CanPostStoryRefusal) : StoryManager :=
  { m with postState := { m.postState with canPost := refusal.isNone, lastError := refusal.map (·.text) } }

def handleChatResponse (extra : Option Str) (title : Str) : StoryManager :=
  if !begins extra "story_chat_" then m
  else
    match tryParseInt ((extra.getD []).drop (ascii "story_chat_").length) with
    | none => m
    | some chatId => m.enrichPosterFromChat chatId title

def handleOk (extra : Option Str) : StoryManager :=
  if extra == some (ascii "story_load_main") then { m with isLoadingList := false } else m

def handleError (extra message : Option Str) : StoryManager :=
  if !begins extra "story_" then m
  else
    let message := message.getD (units "Ошибка историй")
    { m with
      isLoadingList := m.isLoadingList && extra != some (ascii "story_load_main")
      postState :=
        if begins extra "story_post_" then { m.postState with isPosting := false, lastError := some message }
        else m.postState
      lastError := some message }

def handleUpdate (extra : Option Str) : SettingsUpdate → StoryManager
  | .updateChatActiveStories chatId poster => m.handleActiveStoriesUpdate chatId poster
  | .chatActiveStories chatId poster => m.handleActiveStoriesResponse extra chatId poster
  | .updateStoryDeleted chatId storyId => m.handleStoryDeleted chatId storyId
  | .updateStoryPostSucceeded => m.handleStoryPostSucceeded
  | .updateStoryPostFailed message => m.handleStoryPostFailed message
  | .availableReactions emojis => m.handleAvailableReactions extra emojis
  | .canPostStoryResult refusal => m.handleCanPostStoryResult refusal
  | .chat _ title _ => m.handleChatResponse extra title
  | .ok => m.handleOk extra
  | .error message => m.handleError extra message
  | _ => m

variable {m}

lemma handleUpdate_of_other {extra : Option Str} {update : SettingsUpdate} (h : begins extra "story_" = false)
    (hreply : update.isReply) : m.handleUpdate extra update = m := by
  cases update with
  | ok =>
      have hother : (extra == some (ascii "story_load_main")) = false := ne_of_begins (by decide) h
      exact if_neg (by simp [hother])
  | error message => exact if_pos (by simp [h])
  | _ => cases hreply

end StoryManager

end RioGram.Settings
