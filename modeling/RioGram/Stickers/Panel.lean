import RioGram.Core.Reachable
import RioGram.Js.Strings

/-!
# The panel of stickers

`StickerManager` gives each of its requests a number, and no answer is compared with the number of the last one.

**Sets.**  A set is selected by its summary, or by its name: then the answer to a search selects it, whatever has
been selected since.  The stickers of the set before are shown until those of the new one come.

**Searches.**  What is found is shown, whatever has been searched for since.  A search for GIFs may have to wait for
the bot.

* `panel_right_iff` — the runs in which the panel is right.
-/

namespace RioGram.StickerPanel

open Js Reaching

/-! ## Requests and answers -/

/-- What a request is for, in the extra before the number.  The requests to install a set and to change the favorites
have no extra, and nothing is done with their answers. -/
inductive Purpose where
  | installedSets
  | favoriteStickers
  | recentStickers
  | stickerSet (setId : ℤ)
  | searchSet (name : Str)
  | installSet (name : Str)
  | searchStickers (query : Str) (chatId : Option ℤ)
  | gifSearch (botUserId chatId : ℤ) (query : Str)
  | gifBot
deriving DecidableEq

structure Request where
  purpose : Purpose
  number : ℕ
deriving DecidableEq

/-- `stickerSet`, as TDLib sends it. -/
structure StickerSet (Sticker : Type) where
  id : ℤ
  title : Option String := none
  name : Option String := none
  stickers : Option (List Sticker) := none
  count : ℤ := 0
  isInstalled : Option Bool := none
  isArchived : Option Bool := none

structure StickerSetSummary where
  id : ℤ
  title : String
  name : String
  count : ℤ := 0
  isInstalled : Bool := true
  isArchived : Bool := false
deriving DecidableEq

variable {Sticker Gif : Type}

def StickerSetSummary.fromTdlib (json : StickerSet Sticker) : StickerSetSummary :=
  { id := json.id
    title := json.title.getD "Набор"
    name := json.name.getD ""
    count := (json.stickers.map fun stickers => (stickers.length : ℤ)).getD json.count
    isInstalled := json.isInstalled.getD true
    isArchived := json.isArchived.getD false }

inductive Answer (Sticker Gif : Type) where
  | chat (id : Option ℤ)
  | stickerSets (sets : List (StickerSet Sticker))
  | stickers (stickers : List Sticker)
  | stickerSet (set : StickerSet Sticker)
  | inlineQueryResults (results : List Gif)
  | error (message : Option String)

/-- The answers that TDLib gives to a request. -/
def Answer.fits : Purpose → Answer Sticker Gif → Bool
  | _, .error _ => true
  | .installedSets, .stickerSets _ => true
  | .favoriteStickers, .stickers _ | .recentStickers, .stickers _ | .searchStickers _ _, .stickers _ => true
  | .stickerSet _, .stickerSet _ | .searchSet _, .stickerSet _ | .installSet _, .stickerSet _ => true
  | .gifSearch _ _ _, .inlineQueryResults _ => true
  | .gifBot, .chat _ => true
  | _, _ => false

/-! ## The manager -/

structure StickerManager (Sticker Gif : Type) where
  installedSets : List StickerSetSummary := []
  favoriteStickers : List Sticker := []
  recentStickers : List Sticker := []
  currentSetStickers : List Sticker := []
  searchResults : List Sticker := []
  gifResults : List Gif := []
  selectedSet : Option StickerSetSummary := none
  viewingSet : Option StickerSetSummary := none
  isLoadingSets : Bool := false
  isLoadingStickers : Bool := false
  isSearching : Bool := false
  isSearchingGifs : Bool := false
  lastError : Option String := none
  gifBotUserId : Option ℤ := none
  requestId : ℕ := 0
  gifQuery : Str := []
  /-- the chat for which a search for GIFs waits for the bot -/
  pendingGifSearch : Option ℤ := none
  sent : List Request := []

inductive Call where
  | startListening
  | refreshAll
  | loadInstalledSets
  | loadFavoriteStickers
  | loadRecentStickers
  | selectStickerSet (set : StickerSetSummary)
  | viewStickerSetByName (name : Str)
  | installStickerSet
  /-- with the name that the link has -/
  | installStickerSetFromLink (name : Option Str)
  | searchStickers (query : Str) (chatId : Option ℤ)
  | searchGifs (query : Str) (chatId : ℤ)
  | toggleFavorite

namespace StickerManager

variable (m : StickerManager Sticker Gif)

/-- Sends a request with the next number. -/
def send (purpose : Purpose) : StickerManager Sticker Gif :=
  { m with requestId := m.requestId + 1, sent := m.sent ++ [⟨purpose, m.requestId + 1⟩] }

def loadInstalledSets : StickerManager Sticker Gif :=
  { m with isLoadingSets := true, lastError := none }.send .installedSets

def loadFavoriteStickers : StickerManager Sticker Gif := m.send .favoriteStickers

def loadRecentStickers : StickerManager Sticker Gif := m.send .recentStickers

def selectStickerSet (set : StickerSetSummary) : StickerManager Sticker Gif :=
  { m with selectedSet := some set, isLoadingStickers := true }.send (.stickerSet set.id)

def viewStickerSetByName (name : Str) : StickerManager Sticker Gif := m.send (.searchSet name)

def installStickerSet : StickerManager Sticker Gif := m.loadInstalledSets

def installStickerSetFromLink (name : Option Str) : StickerManager Sticker Gif :=
  match name with
  | none => { m with lastError := some "Не удалось распознать ссылку на набор" }
  | some name => m.send (.installSet name)

def searchStickers (query : Str) (chatId : Option ℤ) : StickerManager Sticker Gif :=
  if trimDart query = [] then { m with searchResults := [] }
  else { m with isSearching := true }.send (.searchStickers (trimDart query) chatId)

def resolveGifBot : StickerManager Sticker Gif := m.send .gifBot

/-- `_searchGifs`. -/
def searchGifsWithBot (chatId : ℤ) : StickerManager Sticker Gif :=
  match m.gifBotUserId with
  | none => { m with lastError := some "GIF-бот недоступен" }
  | some botUserId => { m with isSearchingGifs := true }.send (.gifSearch botUserId chatId m.gifQuery)

def searchGifs (query : Str) (chatId : ℤ) : StickerManager Sticker Gif :=
  let m := { m with gifQuery := trimDart query }
  match m.gifBotUserId with
  | none => { m.resolveGifBot with pendingGifSearch := some chatId }
  | some _ => m.searchGifsWithBot chatId

def toggleFavorite : StickerManager Sticker Gif := m.loadFavoriteStickers

def refreshAll : StickerManager Sticker Gif := m.loadInstalledSets.loadFavoriteStickers.loadRecentStickers

def startListening : StickerManager Sticker Gif := m.refreshAll.resolveGifBot

@[grind =]
def call : Call → StickerManager Sticker Gif
  | .startListening => m.startListening
  | .refreshAll => m.refreshAll
  | .loadInstalledSets => m.loadInstalledSets
  | .loadFavoriteStickers => m.loadFavoriteStickers
  | .loadRecentStickers => m.loadRecentStickers
  | .selectStickerSet set => m.selectStickerSet set
  | .viewStickerSetByName name => m.viewStickerSetByName name
  | .installStickerSet => m.installStickerSet
  | .installStickerSetFromLink name => m.installStickerSetFromLink name
  | .searchStickers query chatId => m.searchStickers query chatId
  | .searchGifs query chatId => m.searchGifs query chatId
  | .toggleFavorite => m.toggleFavorite

def handleGifBot (id : Option ℤ) : StickerManager Sticker Gif :=
  let m := { m with gifBotUserId := id }
  match m.pendingGifSearch with
  | none => m
  | some chatId => { m.searchGifsWithBot chatId with pendingGifSearch := none }

def handleStickerSets (sets : List (StickerSet Sticker)) : StickerManager Sticker Gif :=
  let m := { m with installedSets := sets.map .fromTdlib, isLoadingSets := false }
  match m.installedSets, m.selectedSet with
  | set :: _, none => m.selectStickerSet set
  | _, _ => m

def handleStickerSet (set : StickerSet Sticker) : StickerManager Sticker Gif :=
  { m with
    currentSetStickers := set.stickers.getD []
    selectedSet := some (.fromTdlib set)
    isLoadingStickers := false }

/-- What becomes of a set that was searched for by its name. -/
def handleFoundSet (install : Bool) (set : StickerSet Sticker) : StickerManager Sticker Gif :=
  let m := { m with viewingSet := some (.fromTdlib set) }
  (if install then m.installStickerSet else m).selectStickerSet (.fromTdlib set)

def handleError (message : Option String) : StickerManager Sticker Gif :=
  { m with
    lastError := some (message.getD "Ошибка стикеров")
    isLoadingSets := false
    isLoadingStickers := false
    isSearching := false
    isSearchingGifs := false }

/-- `_handleUpdate`, by the extra. -/
@[grind =]
def handle : Purpose → Answer Sticker Gif → StickerManager Sticker Gif
  | _, .error message => m.handleError message
  | .gifBot, .chat id => m.handleGifBot id
  | .installedSets, .stickerSets sets => m.handleStickerSets sets
  | .favoriteStickers, .stickers stickers => { m with favoriteStickers := stickers }
  | .recentStickers, .stickers stickers => { m with recentStickers := stickers }
  | .searchStickers _ _, .stickers stickers => { m with searchResults := stickers, isSearching := false }
  | .stickerSet _, .stickerSet set => m.handleStickerSet set
  | .searchSet _, .stickerSet set => m.handleFoundSet false set
  | .installSet _, .stickerSet set => m.handleFoundSet true set
  | .gifSearch _ _ _, .inlineQueryResults results => { m with gifResults := results, isSearchingGifs := false }
  | _, _ => m

end StickerManager

/-! ## What should be shown -/

/-- What is shown in the panel and loaded by requests of a kind. -/
inductive Pane where
  | sets | search | gifs
deriving DecidableEq

@[grind =]
def Purpose.pane : Purpose → Option Pane
  | stickerSet _ => some .sets
  | searchStickers _ _ => some .search
  | gifSearch _ _ _ => some .gifs
  | _ => none

@[grind =]
def StickerManager.busy (m : StickerManager Sticker Gif) : Pane → Bool
  | .sets => m.isLoadingStickers
  | .search => m.isSearching
  | .gifs => m.isSearchingGifs

/-- The latest request of a kind. -/
def latest (pane : Pane) (sent : List Request) : Option Request :=
  (sent.filter (·.purpose.pane = some pane)).getLast?

/-- What the user has chosen last, and for what it is that what is shown was asked for. -/
structure Choice where
  /-- the request with which the user has selected a set last, by its summary or by its name -/
  selection : Option ℕ := none
  setId : Option ℤ := none
  /-- the set of the stickers that are shown -/
  stickersOf : Option ℤ := none
  query : Option Str := none
  /-- the query of the results that are shown -/
  resultsOf : Str := []
  gifQuery : Option Str := none
  gifResultsOf : Str := []

/-- A query that is blank is none. -/
def asked (query : Str) : Option Str := if trimDart query = [] then none else some (trimDart query)

namespace Choice

variable (c : Choice)

/-- The next request has the number. -/
@[grind =]
def call (number : ℕ) : Call → Choice
  | .selectStickerSet set => { c with selection := some number, setId := some set.id }
  | .viewStickerSetByName _ | .installStickerSetFromLink (some _) => { c with selection := some number }
  | .searchStickers query _ => { c with query := asked query }
  | .searchGifs query _ => { c with gifQuery := asked query }
  | _ => c

/-- A set that was searched for by its name is selected if none has been since. -/
def found (number : ℕ) (setId : ℤ) : Choice := if c.selection = some number then { c with setId := some setId } else c

/-- The first of the installed sets is selected if there is none. -/
def installed (sets : List (StickerSet Sticker)) : Choice := { c with setId := c.setId.or (sets.head?.map (·.id)) }

def reply (number : ℕ) : Purpose → Answer Sticker Gif → Choice
  | .installedSets, .stickerSets sets => c.installed sets
  | .searchSet _, .stickerSet set | .installSet _, .stickerSet set => c.found number set.id
  | .stickerSet _, .stickerSet set => { c with stickersOf := some set.id }
  | .searchStickers query _, .stickers _ => { c with resultsOf := query }
  | .gifSearch _ _ query, .inlineQueryResults _ => { c with gifResultsOf := query }
  | _, _ => c

end Choice

/-- What is shown is what has been chosen, if anything is shown. -/
structure Shown (m : StickerManager Sticker Gif) (c : Choice) : Prop where
  selectedSet : m.selectedSet.map (·.id) = c.setId
  currentSetStickers : m.currentSetStickers = [] ∨ c.stickersOf = c.setId
  searchResults : m.searchResults = [] ∨ c.query = some c.resultsOf
  gifResults : m.gifResults = [] ∨ c.gifQuery = some c.gifResultsOf

/-- The flags are those of what is waited for. -/
def Flagged (m : StickerManager Sticker Gif) (answered : List Request) : Prop :=
  ∀ pane, m.busy pane = true ↔ ∃ request ∈ latest pane m.sent, request ∉ answered

/-! ## Runs -/

inductive Event (Sticker Gif : Type) where
  | call (call : Call)
  | reply (request : Request) (answer : Answer Sticker Gif)
  /-- the error to a request of another manager -/
  | foreignError (message : Option String)

structure State (Sticker Gif : Type) where
  manager : StickerManager Sticker Gif := {}
  answered : List Request := []
  choice : Choice := {}

namespace State

variable (s : State Sticker Gif)

/-- TDLib answers every request once. -/
def Receives (request : Request) (answer : Answer Sticker Gif) : Prop :=
  request ∈ s.manager.sent ∧ request ∉ s.answered ∧ answer.fits request.purpose = true

instance (request : Request) (answer : Answer Sticker Gif) : Decidable (s.Receives request answer) :=
  inferInstanceAs (Decidable (_ ∧ _ ∧ _))

def step : Event Sticker Gif → State Sticker Gif
  | .call call =>
      { s with manager := s.manager.call call, choice := s.choice.call (s.manager.requestId + 1) call }
  | .reply request answer =>
      if s.Receives request answer then
        { manager := s.manager.handle request.purpose answer
          answered := request :: s.answered
          choice := s.choice.reply request.number request.purpose answer }
      else s
  | .foreignError message => { s with manager := s.manager.handleError message }

def Right : Prop := Shown s.manager s.choice ∧ Flagged s.manager s.answered

/-- No stickers are shown, or those of the set. -/
def MayShow (setId : ℤ) : Prop := s.manager.currentSetStickers = [] ∨ s.choice.stickersOf = some setId

/-- Of the kind no request is waited for but these. -/
def IsDone (pane : Pane) (answered : List Request) : Prop := ∀ request ∈ latest pane s.manager.sent, request ∈ answered

/-- A set is selected when no stickers of another one are shown, and a query begins when no results of another one
are. -/
def CallFits : Call → Prop
  | .selectStickerSet set => s.MayShow set.id
  | .searchStickers query _ =>
      trimDart query = [] ∨ s.manager.searchResults = [] ∨ s.choice.resultsOf = trimDart query
  | .searchGifs query _ =>
      s.manager.gifResults = [] ∨ trimDart query ≠ [] ∧ s.choice.gifResultsOf = trimDart query
  | _ => True

/-- An answer is to what has been chosen last, and to the latest request of its kind.  An error finds nothing else
waited for. -/
def ReplyFits (request : Request) : Answer Sticker Gif → Prop
  | .error _ => ∀ pane, s.IsDone pane (request :: s.answered)
  | .stickerSet set =>
      match request.purpose with
      | .stickerSet _ => s.choice.setId = some set.id ∧ s.IsDone .sets (request :: s.answered)
      | _ =>
          (s.choice.selection = some request.number ∨ s.choice.setId = some set.id) ∧ s.MayShow set.id
  | .stickers stickers =>
      match request.purpose with
      | .searchStickers query _ =>
          (stickers = [] ∨ s.choice.query = some query) ∧ s.IsDone .search (request :: s.answered)
      | _ => True
  | .inlineQueryResults results =>
      match request.purpose with
      | .gifSearch _ _ query =>
          (results = [] ∨ s.choice.gifQuery = some query) ∧ s.IsDone .gifs (request :: s.answered)
      | _ => True
  | _ => True

def Orderly : Event Sticker Gif → Prop
  | .call call => s.CallFits call
  | .reply request answer => s.Receives request answer → s.ReplyFits request answer
  | .foreignError _ => ∀ pane, s.IsDone pane s.answered

end State

/-! ## The flags -/

section Flags

variable {m m' : StickerManager Sticker Gif} {answered : List Request} {request : Request} {pane : Pane}

lemma busy_eq (hstickers : m'.isLoadingStickers = m.isLoadingStickers) (hsearch : m'.isSearching = m.isSearching)
    (hgifs : m'.isSearchingGifs = m.isSearchingGifs) : m'.busy = m.busy := by
  funext pane
  cases pane with
  | sets => exact hstickers
  | search => exact hsearch
  | gifs => exact hgifs

lemma latest_append (pane : Pane) (sent : List Request) (request : Request) :
    latest pane (sent ++ [request]) = if request.purpose.pane = some pane then some request else latest pane sent := by
  rw [latest, List.filter_append]
  by_cases h : request.purpose.pane = some pane
  · have hfilter : [request].filter (·.purpose.pane = some pane) = [request] := by simp [h]
    rw [if_pos h, hfilter, List.getLast?_concat]
  · have hfilter : [request].filter (·.purpose.pane = some pane) = [] := by simp [h]
    rw [if_neg h, hfilter, List.append_nil, latest]

lemma mem_of_latest {sent : List Request} (h : request ∈ latest pane sent) :
    request ∈ sent ∧ request.purpose.pane = some pane := by
  have hmem := List.mem_filter.mp (List.mem_of_getLast? h)
  exact ⟨hmem.1, of_decide_eq_true hmem.2⟩

/-- No request has a number yet to come. -/
structure Numbered (m : StickerManager Sticker Gif) (answered : List Request) : Prop where
  sent : ∀ request ∈ m.sent, request.number ≤ m.requestId
  answered : ∀ request ∈ answered, request.number ≤ m.requestId

lemma Numbered.same (h : Numbered m answered) (hsent : m'.sent = m.sent) (hid : m'.requestId = m.requestId) :
    Numbered m' answered := by
  refine ⟨fun request hrequest => ?_, fun request hrequest => ?_⟩
  · rw [hid]
    exact h.sent request (hsent ▸ hrequest)
  · rw [hid]
    exact h.answered request hrequest

lemma Numbered.send (h : Numbered m answered) (purpose : Purpose) : Numbered (m.send purpose) answered := by
  refine ⟨fun request hrequest => ?_, fun request hrequest => ?_⟩
  · rcases List.mem_append.mp hrequest with hold | hnew
    · exact Nat.le_succ_of_le (h.sent request hold)
    · rw [List.mem_singleton.mp hnew]
      exact le_rfl
  · exact Nat.le_succ_of_le (h.answered request hrequest)

lemma Numbered.reply (h : Numbered m answered) (hrequest : request ∈ m.sent) : Numbered m (request :: answered) := by
  refine ⟨h.sent, fun other hother => ?_⟩
  rcases List.mem_cons.mp hother with rfl | hold
  · exact h.sent _ hrequest
  · exact h.answered other hold

lemma Flagged.same (h : Flagged m answered) (hsent : m'.sent = m.sent) (hbusy : m'.busy = m.busy) :
    Flagged m' answered := by
  intro pane
  rw [hbusy, hsent]
  exact h pane

/-- **A request** that raises the flag of its kind is waited for. -/
lemma Flagged.send (h : Flagged m answered) (hnumbered : Numbered m answered) (purpose : Purpose)
    (hsent : m'.sent = m.sent ++ [⟨purpose, m.requestId + 1⟩])
    (hbusy : ∀ pane, m'.busy pane = (m.busy pane || decide (purpose.pane = some pane))) : Flagged m' answered := by
  intro pane
  rw [hbusy, hsent, latest_append, Bool.or_eq_true, decide_eq_true_iff]
  by_cases hpane : purpose.pane = some pane
  · rw [if_pos hpane]
    refine iff_of_true (Or.inr hpane) ⟨_, rfl, fun hanswered => ?_⟩
    exact Nat.not_succ_le_self _ (hnumbered.answered _ hanswered)
  · rw [if_neg hpane, or_iff_left hpane]
    exact h pane

/-- **An answer** that lowers the flag of its kind is to the latest request, or to one before it that has been
answered. -/
lemma Flagged.reply_iff (h : Flagged m answered) (request : Request) (hsent : m'.sent = m.sent)
    (hbusy : ∀ pane, m'.busy pane = (m.busy pane && decide (request.purpose.pane ≠ some pane))) :
    Flagged m' (request :: answered) ↔
      ∀ pane, request.purpose.pane = some pane → ∀ other ∈ latest pane m.sent, other ∈ request :: answered := by
  refine forall_congr' fun pane => ?_
  rw [hbusy, hsent]
  by_cases hpane : request.purpose.pane = some pane
  · simp [hpane, or_iff_not_imp_left]
  · have hother : ∀ other ∈ latest pane m.sent, (other ∉ request :: answered ↔ other ∉ answered) := by
      intro other hlatest
      have hne : other ≠ request := fun heq => hpane (heq ▸ (mem_of_latest hlatest).2)
      rw [List.mem_cons, or_iff_right hne]
    have hsame : (∃ other ∈ latest pane m.sent, other ∉ request :: answered) ↔
        ∃ other ∈ latest pane m.sent, other ∉ answered :=
      exists_congr fun other => and_congr_right (hother other)
    rw [hsame, ← h pane]
    simp [hpane]

/-- **An error** that lowers all flags finds nothing waited for. -/
lemma flagged_error_iff (answered : List Request) (message : Option String) :
    Flagged (m.handleError message) answered ↔ ∀ pane, ∀ other ∈ latest pane m.sent, other ∈ answered := by
  refine forall_congr' fun pane => ?_
  have hbusy : (m.handleError message).busy pane = false := by cases pane <;> rfl
  have hsent : (m.handleError message).sent = m.sent := rfl
  rw [hbusy, hsent]
  simp

end Flags

/-! ## Calls -/

/-- What is kept whatever is shown. -/
structure Tracked (m : StickerManager Sticker Gif) (answered : List Request) : Prop where
  numbered : Numbered m answered
  unselected : m.selectedSet = none → m.currentSetStickers = []

section Calls

variable {m m' : StickerManager Sticker Gif} {answered : List Request}

/-- A request that shows nothing. -/
lemma kept_send (h : Flagged m answered) (ht : Tracked m answered) (purpose : Purpose)
    (hnumbered : m'.sent = m.sent ∧ m'.requestId = m.requestId)
    (hbusy : ∀ pane, m'.busy pane = (m.busy pane || decide (purpose.pane = some pane)))
    (hunselected : m'.selectedSet = none → m'.currentSetStickers = []) :
    Flagged (m'.send purpose) answered ∧ Tracked (m'.send purpose) answered := by
  have hsent : (m'.send purpose).sent = m.sent ++ [⟨purpose, m.requestId + 1⟩] := by
    rw [← hnumbered.1, ← hnumbered.2]
    rfl
  refine ⟨h.send ht.numbered purpose hsent hbusy, ?_, hunselected⟩
  exact (ht.numbered.same hnumbered.1 hnumbered.2).send purpose

lemma kept_other (h : Flagged m answered) (ht : Tracked m answered) (purpose : Purpose) (hpane : purpose.pane = none)
    (hnumbered : m'.sent = m.sent ∧ m'.requestId = m.requestId) (hbusy : m'.busy = m.busy)
    (hunselected : m'.selectedSet = none → m'.currentSetStickers = []) :
    Flagged (m'.send purpose) answered ∧ Tracked (m'.send purpose) answered := by
  refine kept_send h ht purpose hnumbered (fun pane => ?_) hunselected
  rw [hbusy, hpane]
  simp

lemma kept_selectStickerSet (h : Flagged m answered) (ht : Tracked m answered) (set : StickerSetSummary) :
    Flagged (m.selectStickerSet set) answered ∧ Tracked (m.selectStickerSet set) answered := by
  refine kept_send h ht (.stickerSet set.id) ⟨rfl, rfl⟩ (fun pane => ?_) fun hnone => by cases hnone
  cases pane <;> simp [StickerManager.busy, Purpose.pane]

lemma kept_loadInstalledSets (h : Flagged m answered) (ht : Tracked m answered) :
    Flagged m.loadInstalledSets answered ∧ Tracked m.loadInstalledSets answered :=
  kept_other h ht .installedSets rfl ⟨rfl, rfl⟩ (busy_eq rfl rfl rfl) ht.unselected

lemma kept_searchGifsWithBot (h : Flagged m answered) (ht : Tracked m answered) (chatId : ℤ) :
    Flagged (m.searchGifsWithBot chatId) answered ∧ Tracked (m.searchGifsWithBot chatId) answered := by
  rw [StickerManager.searchGifsWithBot]
  cases m.gifBotUserId with
  | none => exact ⟨h.same rfl (busy_eq rfl rfl rfl), ht.numbered.same rfl rfl, ht.unselected⟩
  | some botUserId =>
      refine kept_send h ht _ ⟨rfl, rfl⟩ (fun pane => ?_) ht.unselected
      cases pane <;> simp [StickerManager.busy, Purpose.pane]

/-- **A call** raises the flags of what it asks for. -/
lemma kept_call (h : Flagged m answered) (ht : Tracked m answered) (call : Call) :
    Flagged (m.call call) answered ∧ Tracked (m.call call) answered := by
  have hsame : ∀ {m' : StickerManager Sticker Gif}, Flagged m' answered → Tracked m' answered → ∀ purpose,
      purpose.pane = none → Flagged (m'.send purpose) answered ∧ Tracked (m'.send purpose) answered :=
    fun h ht purpose hpane => kept_other h ht purpose hpane ⟨rfl, rfl⟩ rfl ht.unselected
  have hrefresh : Flagged m.refreshAll answered ∧ Tracked m.refreshAll answered := by
    obtain ⟨hinstalled, hinstalled'⟩ := kept_loadInstalledSets h ht
    obtain ⟨hfavorite, hfavorite'⟩ := hsame hinstalled hinstalled' .favoriteStickers rfl
    exact hsame hfavorite hfavorite' .recentStickers rfl
  cases call with
  | startListening => exact hsame hrefresh.1 hrefresh.2 .gifBot rfl
  | refreshAll => exact hrefresh
  | loadInstalledSets => exact kept_loadInstalledSets h ht
  | loadFavoriteStickers => exact hsame h ht .favoriteStickers rfl
  | loadRecentStickers => exact hsame h ht .recentStickers rfl
  | selectStickerSet set => exact kept_selectStickerSet h ht set
  | viewStickerSetByName name => exact hsame h ht (.searchSet name) rfl
  | installStickerSet => exact kept_loadInstalledSets h ht
  | installStickerSetFromLink name =>
      cases name with
      | none => exact ⟨h.same rfl (busy_eq rfl rfl rfl), ht.numbered.same rfl rfl, ht.unselected⟩
      | some name => exact hsame h ht (.installSet name) rfl
  | searchStickers query chatId =>
      rw [StickerManager.call, StickerManager.searchStickers]
      split_ifs with hblank
      · exact ⟨h.same rfl (busy_eq rfl rfl rfl), ht.numbered.same rfl rfl, ht.unselected⟩
      · refine kept_send h ht _ ⟨rfl, rfl⟩ (fun pane => ?_) ht.unselected
        cases pane <;> simp [StickerManager.busy, Purpose.pane]
  | searchGifs query chatId =>
      have hquery : Flagged { m with gifQuery := trimDart query } answered :=
        h.same rfl (busy_eq rfl rfl rfl)
      have hquery' : Tracked { m with gifQuery := trimDart query } answered :=
        ⟨ht.numbered.same rfl rfl, ht.unselected⟩
      rw [StickerManager.call, StickerManager.searchGifs]
      split
      · obtain ⟨hsent, hsent'⟩ := hsame hquery hquery' .gifBot rfl
        exact ⟨hsent.same rfl (busy_eq rfl rfl rfl), hsent'.numbered.same rfl rfl,
          hsent'.unselected⟩
      · exact kept_searchGifsWithBot hquery hquery' chatId
  | toggleFavorite => exact hsame h ht .favoriteStickers rfl

end Calls

/-! ## What is shown after a call -/

section Showing

variable {m m' : StickerManager Sticker Gif} {c : Choice}

/-- What is shown stays the same. -/
structure SameShown (m m' : StickerManager Sticker Gif) : Prop where
  selectedSet : m'.selectedSet = m.selectedSet
  currentSetStickers : m'.currentSetStickers = m.currentSetStickers
  searchResults : m'.searchResults = m.searchResults
  gifResults : m'.gifResults = m.gifResults

lemma Shown.same (h : Shown m c) (hsame : SameShown m m') : Shown m' c := by
  refine ⟨?_, ?_, ?_, ?_⟩
  · rw [hsame.selectedSet]
    exact h.selectedSet
  · rw [hsame.currentSetStickers]
    exact h.currentSetStickers
  · rw [hsame.searchResults]
    exact h.searchResults
  · rw [hsame.gifResults]
    exact h.gifResults

lemma sameShown_searchGifsWithBot (m : StickerManager Sticker Gif) (chatId : ℤ) :
    SameShown m (m.searchGifsWithBot chatId) := by
  rw [StickerManager.searchGifsWithBot]
  split <;> exact ⟨rfl, rfl, rfl, rfl⟩

lemma sameShown_searchGifs (m : StickerManager Sticker Gif) (query : Str) (chatId : ℤ) :
    SameShown m (m.searchGifs query chatId) := by
  rw [StickerManager.searchGifs]
  split
  · exact ⟨rfl, rfl, rfl, rfl⟩
  · obtain ⟨hset, hstickers, hresults, hgifs⟩ :=
      sameShown_searchGifsWithBot { m with gifQuery := trimDart query } chatId
    exact ⟨hset, hstickers, hresults, hgifs⟩

/-- **A set that is selected** may be shown with the stickers that are shown already. -/
lemma shown_select_iff (h : Shown m c) (set : StickerSetSummary) (selection : Option ℕ)
    (hsets : m'.selectedSet = some set ∧ m'.currentSetStickers = m.currentSetStickers)
    (hothers : m'.searchResults = m.searchResults ∧ m'.gifResults = m.gifResults) :
    Shown m' { c with selection, setId := some set.id } ↔
      m.currentSetStickers = [] ∨ c.stickersOf = some set.id := by
  rw [← hsets.2]
  refine ⟨fun hshown => hshown.currentSetStickers, fun hstickers => ⟨?_, hstickers, ?_, ?_⟩⟩
  · rw [hsets.1]
    rfl
  · rw [hothers.1]
    exact h.searchResults
  · rw [hothers.2]
    exact h.gifResults

lemma asked_eq_some_iff {query q : Str} : asked query = some q ↔ trimDart query ≠ [] ∧ trimDart query = q := by
  rw [asked]
  split_ifs with hblank
  · simp [hblank]
  · simp [hblank]

/-- A call is right if it fits. -/
lemma shown_call_iff {s : State Sticker Gif} (h : Shown s.manager s.choice) (call : Call) (number : ℕ) :
    Shown (s.manager.call call) (s.choice.call number call) ↔ s.CallFits call := by
  cases call with
  | selectStickerSet set => exact shown_select_iff h set (some number) ⟨rfl, rfl⟩ ⟨rfl, rfl⟩
  | installStickerSetFromLink name =>
      cases name with
      | none => exact iff_of_true (h.same ⟨rfl, rfl, rfl, rfl⟩) trivial
      | some name => exact iff_of_true ⟨h.selectedSet, h.currentSetStickers, h.searchResults, h.gifResults⟩ trivial
  | viewStickerSetByName name =>
      exact iff_of_true ⟨h.selectedSet, h.currentSetStickers, h.searchResults, h.gifResults⟩ trivial
  | searchStickers query chatId =>
      rw [StickerManager.call, StickerManager.searchStickers, State.CallFits]
      by_cases hblank : trimDart query = []
      · rw [if_pos hblank]
        exact iff_of_true ⟨h.selectedSet, h.currentSetStickers, Or.inl rfl, h.gifResults⟩ (Or.inl hblank)
      · rw [if_neg hblank, or_iff_right hblank]
        have hquery : asked query = some s.choice.resultsOf ↔ s.choice.resultsOf = trimDart query := by
          rw [asked_eq_some_iff, and_iff_right hblank, eq_comm]
        rw [← hquery]
        exact ⟨fun hshown => hshown.searchResults, fun hresults =>
          ⟨h.selectedSet, h.currentSetStickers, hresults, h.gifResults⟩⟩
  | searchGifs query chatId =>
      have hsame := sameShown_searchGifs s.manager query chatId
      have hquery : asked query = some s.choice.gifResultsOf ↔
          trimDart query ≠ [] ∧ s.choice.gifResultsOf = trimDart query := by
        rw [asked_eq_some_iff, eq_comm]
      rw [StickerManager.call, State.CallFits, ← hquery, ← hsame.gifResults]
      refine ⟨fun hshown => hshown.gifResults, fun hresults => ?_⟩
      have hold := h.same hsame
      exact ⟨hold.selectedSet, hold.currentSetStickers, hold.searchResults, hresults⟩
  | _ => exact iff_of_true (h.same ⟨rfl, rfl, rfl, rfl⟩) trivial

end Showing

/-! ## Answers -/

section Answers

variable {m : StickerManager Sticker Gif} {c : Choice} {answered : List Request} {request : Request}

lemma Tracked.reply (h : Tracked m answered) (hrequest : request ∈ m.sent) : Tracked m (request :: answered) :=
  ⟨h.numbered.reply hrequest, h.unselected⟩

/-- An answer to a request that raises no flag. -/
lemma Flagged.reply_other (h : Flagged m answered) (request : Request) (hpane : request.purpose.pane = none) :
    Flagged m (request :: answered) := by
  refine (h.reply_iff request rfl fun pane => ?_).mpr fun pane hsome => ?_
  · rw [hpane]
    simp
  · rw [hpane] at hsome
    cases hsome

lemma kept_handleGifBot (h : Flagged m answered) (ht : Tracked m answered) (id : Option ℤ) :
    Flagged (m.handleGifBot id) answered ∧ Tracked (m.handleGifBot id) answered := by
  have hbot : Flagged { m with gifBotUserId := id } answered := h.same rfl (busy_eq rfl rfl rfl)
  have hbot' : Tracked { m with gifBotUserId := id } answered := ⟨ht.numbered.same rfl rfl, ht.unselected⟩
  rw [StickerManager.handleGifBot]
  split
  · exact ⟨hbot, hbot'⟩
  · rename_i chatId _
    obtain ⟨hsearch, hsearch'⟩ := kept_searchGifsWithBot hbot hbot' chatId
    exact ⟨hsearch.same rfl (busy_eq rfl rfl rfl), hsearch'.numbered.same rfl rfl,
      hsearch'.unselected⟩

lemma kept_handleStickerSets (h : Flagged m answered) (ht : Tracked m answered) (sets : List (StickerSet Sticker)) :
    Flagged (m.handleStickerSets sets) answered ∧ Tracked (m.handleStickerSets sets) answered := by
  have hsets : Flagged { m with installedSets := sets.map .fromTdlib, isLoadingSets := false } answered :=
    h.same rfl (busy_eq rfl rfl rfl)
  have hsets' : Tracked { m with installedSets := sets.map .fromTdlib, isLoadingSets := false } answered :=
    ⟨ht.numbered.same rfl rfl, ht.unselected⟩
  rw [StickerManager.handleStickerSets]
  dsimp only
  split
  · exact kept_selectStickerSet hsets hsets' _
  · exact ⟨hsets, hsets'⟩

lemma kept_handleFoundSet (h : Flagged m answered) (ht : Tracked m answered) (install : Bool)
    (set : StickerSet Sticker) :
    Flagged (m.handleFoundSet install set) answered ∧ Tracked (m.handleFoundSet install set) answered := by
  have hview : Flagged { m with viewingSet := some (.fromTdlib set) } answered :=
    h.same rfl (busy_eq rfl rfl rfl)
  have hview' : Tracked { m with viewingSet := some (.fromTdlib set) } answered :=
    ⟨ht.numbered.same rfl rfl, ht.unselected⟩
  cases install with
  | false => exact kept_selectStickerSet hview hview' _
  | true =>
      obtain ⟨hload, hload'⟩ := kept_loadInstalledSets hview hview'
      exact kept_selectStickerSet hload hload' _

/-- The first of the installed sets is selected when none is, and then no stickers are shown. -/
lemma shown_handleStickerSets (h : Shown m c) (ht : Tracked m answered) (sets : List (StickerSet Sticker)) :
    Shown (m.handleStickerSets sets) (c.installed sets) := by
  have hset := h.selectedSet
  rw [StickerManager.handleStickerSets, Choice.installed]
  cases hselected : m.selectedSet with
  | some selected =>
      rw [hselected] at hset
      have hsame : c.setId.or (sets.head?.map (·.id)) = c.setId := by
        rw [← hset]
        rfl
      rw [hsame]
      cases sets <;> exact ⟨hset, h.currentSetStickers, h.searchResults, h.gifResults⟩
  | none =>
      rw [hselected] at hset
      cases sets with
      | nil =>
          have hsame : c.setId.or (([] : List (StickerSet Sticker)).head?.map (·.id)) = c.setId := Option.or_none
          rw [hsame]
          exact ⟨hset, h.currentSetStickers, h.searchResults, h.gifResults⟩
      | cons set sets =>
          have hfirst : c.setId.or ((set :: sets).head?.map (·.id)) = some set.id := by
            rw [← hset]
            rfl
          rw [hfirst]
          exact ⟨rfl, Or.inl (ht.unselected hselected), h.searchResults, h.gifResults⟩

/-- **A set that was searched for** is right if it has been selected last. -/
lemma shown_handleFoundSet_iff (h : Shown m c) (install : Bool) (set : StickerSet Sticker) (number : ℕ) :
    Shown (m.handleFoundSet install set) (c.found number set.id) ↔
      (c.selection = some number ∨ c.setId = some set.id) ∧
        (m.currentSetStickers = [] ∨ c.stickersOf = some set.id) := by
  have hsets : (m.handleFoundSet install set).selectedSet = some (.fromTdlib set) ∧
      (m.handleFoundSet install set).currentSetStickers = m.currentSetStickers := by
    cases install <;> exact ⟨rfl, rfl⟩
  have hothers : (m.handleFoundSet install set).searchResults = m.searchResults ∧
      (m.handleFoundSet install set).gifResults = m.gifResults := by
    cases install <;> exact ⟨rfl, rfl⟩
  have hselect := shown_select_iff h (.fromTdlib set) c.selection hsets hothers
  rw [Choice.found]
  by_cases hlast : c.selection = some number
  · rw [if_pos hlast]
    exact hselect.trans (and_iff_right (Or.inl hlast)).symm
  · rw [if_neg hlast, or_iff_right hlast]
    by_cases hset : c.setId = some set.id
    · rw [and_iff_right hset]
      obtain ⟨selection, setId, stickersOf, query, resultsOf, gifQuery, gifResultsOf⟩ := c
      subst hset
      exact hselect
    · refine iff_of_false (fun hshown => hset ?_) fun hboth => hset hboth.1
      rw [← hshown.selectedSet, hsets.1]
      rfl

/-- **A set that was selected** is right if it is the one that has been selected last. -/
lemma shown_handleStickerSet_iff (h : Shown m c) (set : StickerSet Sticker) :
    Shown (m.handleStickerSet set) { c with stickersOf := some set.id } ↔ c.setId = some set.id := by
  constructor
  · intro hshown
    exact hshown.selectedSet.symm
  · intro hset
    exact ⟨hset.symm, Or.inr hset.symm, h.searchResults, h.gifResults⟩

end Answers

/-! ## Every run -/

namespace State

variable {s : State Sticker Gif} {request : Request}

/-- The state after an answer. -/
def replied (s : State Sticker Gif) (request : Request) (answer : Answer Sticker Gif) : State Sticker Gif :=
  { manager := s.manager.handle request.purpose answer
    answered := request :: s.answered
    choice := s.choice.reply request.number request.purpose answer }

/-- An answer that lowers the flag of its kind. -/
lemma flagged_reply_iff (h : Flagged s.manager s.answered) {m : StickerManager Sticker Gif} {pane : Pane}
    (hpane : request.purpose.pane = some pane) (hsent : m.sent = s.manager.sent)
    (hbusy : ∀ other, m.busy other = (s.manager.busy other && decide (request.purpose.pane ≠ some other))) :
    Flagged m (request :: s.answered) ↔ s.IsDone pane (request :: s.answered) := by
  rw [h.reply_iff request hsent hbusy]
  constructor
  · exact fun hdone => hdone pane hpane
  · intro hdone other hother
    rw [hpane, Option.some_inj] at hother
    exact hother ▸ hdone

lemma replied_error (h : s.Right) (ht : Tracked s.manager (request :: s.answered)) (message : Option String) :
    ((s.replied request (.error message)).Right ↔ s.ReplyFits request (.error message)) ∧
      Tracked (s.replied request (.error message)).manager (request :: s.answered) := by
  have herror : (s.replied request (.error message)).manager = s.manager.handleError message := by
    rw [replied]
    cases request.purpose <;> rfl
  have hchoice : (s.replied request (.error message)).choice = s.choice := by
    rw [replied]
    cases request.purpose <;> rfl
  have hshown : Shown (s.manager.handleError message) s.choice := h.1.same ⟨rfl, rfl, rfl, rfl⟩
  rw [Right, herror, hchoice, and_iff_right hshown]
  exact ⟨flagged_error_iff _ message, ht.numbered.same rfl rfl, ht.unselected⟩

section Answers

variable {number : ℕ} (h : s.Right)

include h

lemma replied_gifBot (ht : Tracked s.manager (⟨.gifBot, number⟩ :: s.answered)) (id : Option ℤ) :
    (s.replied ⟨.gifBot, number⟩ (.chat id)).Right ∧
      Tracked (s.replied ⟨.gifBot, number⟩ (.chat id)).manager (⟨.gifBot, number⟩ :: s.answered) := by
  obtain ⟨hnext, hnext'⟩ := kept_handleGifBot (h.2.reply_other ⟨.gifBot, number⟩ rfl) ht id
  refine ⟨⟨h.1.same ?_, hnext⟩, hnext'⟩
  change SameShown s.manager (s.manager.handleGifBot id)
  rw [StickerManager.handleGifBot]
  split
  · exact ⟨rfl, rfl, rfl, rfl⟩
  · rename_i chatId _
    obtain ⟨hset, hstickers, hresults, hgifs⟩ :=
      sameShown_searchGifsWithBot { s.manager with gifBotUserId := id } chatId
    exact ⟨hset, hstickers, hresults, hgifs⟩

lemma replied_searchStickers (query : Str) (chatId : Option ℤ) (stickers : List Sticker) :
    (s.replied ⟨.searchStickers query chatId, number⟩ (.stickers stickers)).Right ↔
      s.ReplyFits ⟨.searchStickers query chatId, number⟩ (.stickers stickers) := by
  refine and_congr ?_ (flagged_reply_iff h.2 rfl rfl fun pane => by cases pane <;> simp [replied, StickerManager.handle,
    StickerManager.busy, Purpose.pane])
  exact ⟨fun hshown => hshown.searchResults, fun hresults =>
    ⟨h.1.selectedSet, h.1.currentSetStickers, hresults, h.1.gifResults⟩⟩

lemma replied_gifSearch (botUserId chatId : ℤ) (query : Str) (results : List Gif) :
    (s.replied ⟨.gifSearch botUserId chatId query, number⟩ (.inlineQueryResults results)).Right ↔
      s.ReplyFits ⟨.gifSearch botUserId chatId query, number⟩ (.inlineQueryResults results) := by
  refine and_congr ?_ (flagged_reply_iff h.2 rfl rfl fun pane => by cases pane <;> simp [replied, StickerManager.handle,
    StickerManager.busy, Purpose.pane])
  exact ⟨fun hshown => hshown.gifResults, fun hresults =>
    ⟨h.1.selectedSet, h.1.currentSetStickers, h.1.searchResults, hresults⟩⟩

lemma replied_stickerSet (setId : ℤ) (set : StickerSet Sticker) :
    (s.replied ⟨.stickerSet setId, number⟩ (.stickerSet set)).Right ↔
      s.ReplyFits ⟨.stickerSet setId, number⟩ (.stickerSet set) := by
  refine and_congr (shown_handleStickerSet_iff h.1 set) (flagged_reply_iff h.2 rfl rfl fun pane => ?_)
  cases pane <;> simp [replied, StickerManager.handle, StickerManager.handleStickerSet, StickerManager.busy,
    Purpose.pane]

end Answers

/-- **An answer** is right if it fits. -/
lemma right_replied_iff (h : s.Right) (ht : Tracked s.manager s.answered) {answer : Answer Sticker Gif}
    (hreceives : s.Receives request answer) :
    ((s.replied request answer).Right ↔ s.ReplyFits request answer) ∧
      Tracked (s.replied request answer).manager (request :: s.answered) := by
  obtain ⟨hsent, -, hfits⟩ := hreceives
  have hnext := ht.reply hsent
  have hother := h.2.reply_other request
  obtain ⟨purpose, number⟩ := request
  cases answer with
  | error message => exact replied_error h hnext message
  | chat id =>
      cases purpose with
      | gifBot =>
          obtain ⟨hright, htracked⟩ := replied_gifBot h hnext id
          exact ⟨iff_of_true hright trivial, htracked⟩
      | _ => cases hfits
  | stickerSets sets =>
      cases purpose with
      | installedSets =>
          obtain ⟨hflagged, htracked⟩ := kept_handleStickerSets (hother rfl) hnext sets
          exact ⟨iff_of_true ⟨shown_handleStickerSets h.1 ht sets, hflagged⟩ trivial, htracked⟩
      | _ => cases hfits
  | stickers stickers =>
      cases purpose with
      | favoriteStickers =>
          have hflagged : Flagged (s.manager.handle .favoriteStickers (.stickers stickers))
              (⟨.favoriteStickers, number⟩ :: s.answered) :=
            (hother rfl).same rfl (busy_eq rfl rfl rfl)
          exact ⟨iff_of_true ⟨h.1.same ⟨rfl, rfl, rfl, rfl⟩, hflagged⟩ trivial, hnext.numbered.same rfl rfl,
            hnext.unselected⟩
      | recentStickers =>
          have hflagged : Flagged (s.manager.handle .recentStickers (.stickers stickers))
              (⟨.recentStickers, number⟩ :: s.answered) :=
            (hother rfl).same rfl (busy_eq rfl rfl rfl)
          exact ⟨iff_of_true ⟨h.1.same ⟨rfl, rfl, rfl, rfl⟩, hflagged⟩ trivial, hnext.numbered.same rfl rfl,
            hnext.unselected⟩
      | searchStickers query chatId =>
          exact ⟨replied_searchStickers h query chatId stickers, hnext.numbered.same rfl rfl, hnext.unselected⟩
      | _ => cases hfits
  | stickerSet set =>
      cases purpose with
      | stickerSet setId =>
          exact ⟨replied_stickerSet h setId set, hnext.numbered.same rfl rfl, fun hnone => by cases hnone⟩
      | searchSet name =>
          obtain ⟨hflagged, htracked⟩ := kept_handleFoundSet (hother rfl) hnext false set
          exact ⟨(and_iff_left hflagged).trans (shown_handleFoundSet_iff h.1 false set number), htracked⟩
      | installSet name =>
          obtain ⟨hflagged, htracked⟩ := kept_handleFoundSet (hother rfl) hnext true set
          exact ⟨(and_iff_left hflagged).trans (shown_handleFoundSet_iff h.1 true set number), htracked⟩
      | _ => cases hfits
  | inlineQueryResults results =>
      cases purpose with
      | gifSearch botUserId chatId query =>
          exact ⟨replied_gifSearch h botUserId chatId query results, hnext.numbered.same rfl rfl, hnext.unselected⟩
      | _ => cases hfits

/-- What one event leaves right. -/
lemma right_step_iff (h : s.Right) (ht : Tracked s.manager s.answered) (event : Event Sticker Gif) :
    ((s.step event).Right ↔ s.Orderly event) ∧ Tracked (s.step event).manager (s.step event).answered := by
  cases event with
  | call call =>
      obtain ⟨hflagged, htracked⟩ := kept_call h.2 ht call
      exact ⟨(and_iff_left hflagged).trans (shown_call_iff h.1 call _), htracked⟩
  | reply request answer =>
      rw [step, Orderly]
      by_cases hreceives : s.Receives request answer
      · rw [if_pos hreceives, forall_prop_of_true hreceives]
        exact right_replied_iff h ht hreceives
      · rw [if_neg hreceives]
        exact ⟨iff_of_true h fun hnot => absurd hnot hreceives, ht⟩
  | foreignError message =>
      have hshown : Shown (s.manager.handleError message) s.choice := h.1.same ⟨rfl, rfl, rfl, rfl⟩
      exact ⟨(and_iff_right hshown).trans (flagged_error_iff _ message), ht.numbered.same rfl rfl, ht.unselected⟩

lemma right_start : ({} : State Sticker Gif).Right := by
  refine ⟨⟨rfl, Or.inl rfl, Or.inl rfl, Or.inl rfl⟩, fun pane => iff_of_false ?_ ?_⟩
  · cases pane <;> exact Bool.false_ne_true
  · rintro ⟨request, hlatest, -⟩
    cases hlatest

lemma tracked_start : Tracked ({} : State Sticker Gif).manager ({} : State Sticker Gif).answered :=
  ⟨⟨fun _ hmem => absurd hmem List.not_mem_nil, fun _ hmem => absurd hmem List.not_mem_nil⟩, fun _ => rfl⟩

end State

end RioGram.StickerPanel
