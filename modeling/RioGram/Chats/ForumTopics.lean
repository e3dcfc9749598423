import RioGram.Chats.Manager
import RioGram.Core.Paging
import RioGram.Core.Reachable

/-!
# The topics of a forum

The topics of a chat are loaded page by page, of all topics or of those that a query finds.
`ForumTopicsRun` is the manager with what the last load of each chat has brought.

* `topics_of_latest_load` says when the topics of every chat are those of its last load, and when the next
  page is asked for from where the page before it ends.
* `topics_of_other_loads` has runs in which they are not.
-/

namespace RioGram.Chats

open Keyed Paging Reaching

/-! ## Topics -/

structure RawForumTopic where
  forumTopicId : ℤ
  name : String := ""
  isGeneral : Bool := false
  isClosed : Bool := false
  isPinned : Bool := false
  unreadCount : ℤ := 0
  lastMessage : Option RawMessage := none
  order : ℤ := 0

structure ForumTopicSummary where
  forumTopicId : ℤ
  name : String
  isGeneral : Bool := false
  isClosed : Bool := false
  isPinned : Bool := false
  unreadCount : ℤ := 0
  lastMessagePreview : Option String := none
  lastMessageDate : Option ℤ := none
  order : ℤ := 0
deriving DecidableEq

structure ForumTopicsPageOffset where
  offsetDate : ℤ := 0
  offsetMessageId : ℤ := 0
  offsetForumTopicId : ℤ := 0
deriving DecidableEq

/-- A `forumTopics` object. -/
structure RawForumTopics where
  topics : List RawForumTopic
  totalCount : Option ℤ := none
  nextOffset : ForumTopicsPageOffset := {}

def parseForumTopic (raw : RawForumTopic) : Option ForumTopicSummary :=
  if raw.forumTopicId = 0 then none
  else
    some
      { forumTopicId := raw.forumTopicId
        name := raw.name
        isGeneral := raw.isGeneral
        isClosed := raw.isClosed
        isPinned := raw.isPinned
        unreadCount := raw.unreadCount
        lastMessagePreview := raw.lastMessage.map fun last => (last.content.read false).preview
        lastMessageDate := raw.lastMessage.bind fun last => if 0 < last.date then some last.date else none
        order := raw.order }

/-- Sorts topics, those with the greatest order first. -/
abbrev TopicSorting := Sorting fun topic : ForumTopicSummary => -topic.order

def parseForumTopics (S : TopicSorting) (raw : RawForumTopics) : List ForumTopicSummary :=
  S.run (raw.topics.filterMap parseForumTopic)

/-! ## The manager -/

/-- A `getForumTopics` request; the extra is `forumTopicsMore_<chat>` for a next page and
`forumTopics_<chat>` for the first one. -/
structure ForumTopicsRequest where
  chatId : ℤ
  query : String
  offset : ForumTopicsPageOffset
  limit : ℕ := 50
  loadMore : Bool
deriving DecidableEq

structure ForumTopics where
  forumTopicsByChatId : ℤ → Option (List ForumTopicSummary) := fun _ => none
  forumTopicsTotalCount : ℤ → Option ℤ := fun _ => none
  isLoadingForumTopics : Bool := false
  forumTopicsError : Option String := none
  loadingForumTopicsForChatId : Option ℤ := none
  forumTopicsNextOffset : ForumTopicsPageOffset := {}
  sent : List ForumTopicsRequest := []

namespace ForumTopics

variable (P : Platform) (S : TopicSorting) (s : ForumTopics)

def forumTopicsFor (chatId : ℤ) : List ForumTopicSummary := (s.forumTopicsByChatId chatId).getD []

def setTopics (chatId : ℤ) (topics : Option (List ForumTopicSummary)) : ForumTopics :=
  { s with forumTopicsByChatId := fun i => if i = chatId then topics else s.forumTopicsByChatId i }

def setTotalCount (chatId : ℤ) (count : Option ℤ) : ForumTopics :=
  { s with forumTopicsTotalCount := fun i => if i = chatId then count else s.forumTopicsTotalCount i }

def clearForumTopics (chatId : ℤ) : ForumTopics :=
  let s := (s.setTopics chatId none).setTotalCount chatId none
  if s.loadingForumTopicsForChatId = some chatId then
    { s with
      loadingForumTopicsForChatId := none
      isLoadingForumTopics := false
      forumTopicsError := none }
  else s

/-- The request of a load. -/
def request (chatId : ℤ) (query : String) (loadMore : Bool) : ForumTopicsRequest where
  chatId
  query := P.trim query
  offset := if loadMore then s.forumTopicsNextOffset else {}
  loadMore

def loadForumTopics (chatId : ℤ) (query : String) (loadMore : Bool) : ForumTopics :=
  let s : ForumTopics :=
    { s with
      loadingForumTopicsForChatId := some chatId
      isLoadingForumTopics := true
      forumTopicsError := none }
  let s := if loadMore then s else ({ s with forumTopicsNextOffset := {} } : ForumTopics).setTopics chatId none
  { s with sent := s.sent ++ [s.request P chatId query loadMore] }

def handleForumTopics (chatId : ℤ) (raw : RawForumTopics) : ForumTopics :=
  if s.loadingForumTopicsForChatId ≠ some chatId then s
  else
    let topics := parseForumTopics S raw
    let existing := s.forumTopicsFor chatId
    let merged := S.run (existing ++ fresh (·.forumTopicId) existing topics)
    { (s.setTopics chatId (some merged)).setTotalCount chatId
        (some (raw.totalCount.getD merged.length)) with
      forumTopicsNextOffset := raw.nextOffset
      isLoadingForumTopics := false }

/-- `_handleError`, for a page. -/
def handleForumTopicsError (message : Option String) : ForumTopics :=
  { s with
    forumTopicsError := some (message.getD "Не удалось загрузить темы")
    isLoadingForumTopics := false }

end ForumTopics

/-! ## Runs -/

inductive ForumTopicsEvent where
  | loadForumTopics (chatId : ℤ) (query : String) (loadMore : Bool)
  | clearForumTopics (chatId : ℤ)
  /-- The page that a request of the load with the number is answered with. -/
  | page (number : ℕ) (chatId : ℤ) (raw : RawForumTopics)
  | error (number : ℕ) (chatId : ℤ) (message : Option String)

/-- A load of a chat's topics and what it has brought. -/
structure TopicsLoad where
  number : ℕ
  query : String
  pages : List (List ForumTopicSummary) := []
  /-- Where the last page ends. -/
  nextOffset : Option ForumTopicsPageOffset := none

structure ForumTopicsRun where
  forum : ForumTopics := {}
  /-- The last load of each chat. -/
  loads : ℤ → Option TopicsLoad := fun _ => none
  latest : ℕ := 0
  outstanding : List (ℕ × ℤ) := []
  /-- The requests for next pages, each with where the page before it ended. -/
  nextPages : List (ForumTopicsRequest × Option ForumTopicsPageOffset) := []

namespace ForumTopicsRun

variable (P : Platform) (S : TopicSorting) (r : ForumTopicsRun)

def setLoad (chatId : ℤ) (load : Option TopicsLoad) : ℤ → Option TopicsLoad :=
  fun i => if i = chatId then load else r.loads i

def pagesOf (chatId : ℤ) : List (List ForumTopicSummary) :=
  ((r.loads chatId).map (·.pages)).getD []

/-- Where the last page of the last load of the chat ends, if it is with this query. -/
def endOf (chatId : ℤ) (query : String) : Option ForumTopicsPageOffset :=
  (r.loads chatId).bind fun load => if load.query = query then load.nextOffset else none

def isLatest (number : ℕ) (chatId : ℤ) : Bool := (r.loads chatId).any (·.number == number)

def step : ForumTopicsEvent → ForumTopicsRun
  | .loadForumTopics chatId query loadMore =>
      let forum := r.forum.loadForumTopics P chatId query loadMore
      if loadMore then
        { r with
          forum
          outstanding := r.outstanding ++ [(((r.loads chatId).map (·.number)).getD 0, chatId)]
          nextPages := r.nextPages ++
            [(r.forum.request P chatId query loadMore, r.endOf chatId (P.trim query))] }
      else
        { r with
          forum
          loads := r.setLoad chatId (some { number := r.latest + 1, query := P.trim query })
          latest := r.latest + 1
          outstanding := r.outstanding ++ [(r.latest + 1, chatId)] }
  | .clearForumTopics chatId =>
      { r with forum := r.forum.clearForumTopics chatId, loads := r.setLoad chatId none }
  | .page number chatId raw =>
      { r with
        forum := r.forum.handleForumTopics S chatId raw
        outstanding := r.outstanding.erase (number, chatId)
        loads := if r.isLatest number chatId then
            r.setLoad chatId ((r.loads chatId).map fun load =>
              { load with
                pages := load.pages ++ [parseForumTopics S raw]
                nextOffset := some raw.nextOffset })
          else r.loads }
  | .error number chatId message =>
      { r with
        forum := r.forum.handleForumTopicsError message
        outstanding := r.outstanding.erase (number, chatId) }

/-- TDLib answers requests that were sent, each once, and a page has every topic once. -/
def Served : ForumTopicsEvent → Prop
  | .page number chatId raw =>
      (number, chatId) ∈ r.outstanding ∧ ((parseForumTopics S raw).map (·.forumTopicId)).Nodup
  | .error number chatId _ => (number, chatId) ∈ r.outstanding
  | _ => True

/-- The topics of every chat are those of its last load, each once as it came last, and every next page was
asked for from where the page before it ended. -/
structure Faithful (r : ForumTopicsRun) : Prop where
  topics : ∀ chatId, Shows (·.forumTopicId) (r.pagesOf chatId) (r.forum.forumTopicsFor chatId)
  offsets : ∀ request ∈ r.nextPages, request.2 = some request.1.offset

/-- A next page is asked for with the query of the last load of the chat, and no page has come since its last
one but of this load.  A page of the last load of a chat comes while the chat is the one that is loaded, and
the topics of it that are there already have not changed; a page of another load comes while another chat is
loaded, or brings no topic that is not there. -/
def InTime : ForumTopicsEvent → Prop
  | .loadForumTopics chatId query true =>
      r.endOf chatId (P.trim query) = some r.forum.forumTopicsNextOffset
  | .page number chatId raw =>
      let page := parseForumTopics S raw
      let topics := r.forum.forumTopicsFor chatId
      if r.isLatest number chatId then
        if r.forum.loadingForumTopicsForChatId = some chatId then
          ∀ topic ∈ page, ∀ known ∈ topics, known.forumTopicId = topic.forumTopicId → known = topic
        else ∀ topic ∈ page, topic ∈ topics
      else
        r.forum.loadingForumTopicsForChatId = some chatId →
          ∀ topic ∈ page, ∃ known ∈ topics, known.forumTopicId = topic.forumTopicId
  | _ => True

variable {P S r} {number : ℕ} {chatId : ℤ} {raw : RawForumTopics}

/-- What a run has of the other chats does not matter when one chat's topics and load change. -/
lemma faithful_iff_of_other (chatId : ℤ) (r' : ForumTopicsRun) (h : r.Faithful)
    (hpages : ∀ other, other ≠ chatId → r'.pagesOf other = r.pagesOf other)
    (htopics : ∀ other, other ≠ chatId → r'.forum.forumTopicsFor other = r.forum.forumTopicsFor other)
    (hnext : r'.nextPages = r.nextPages) :
    r'.Faithful ↔ Shows (·.forumTopicId) (r'.pagesOf chatId) (r'.forum.forumTopicsFor chatId) := by
  constructor
  · exact fun h' => h'.topics chatId
  · intro hshows
    refine ⟨fun other => ?_, hnext ▸ h.offsets⟩
    by_cases hother : other = chatId
    · rw [hother]
      exact hshows
    · rw [hpages other hother, htopics other hother]
      exact h.topics other

lemma loadFirst_faithful (h : r.Faithful) (query : String) :
    (r.step P S (.loadForumTopics chatId query false)).Faithful := by
  refine (faithful_iff_of_other chatId (r.step P S (.loadForumTopics chatId query false)) h
    (fun other hother => ?_) (fun other hother => ?_) rfl).mpr ?_
  · simp [step, pagesOf, setLoad, hother]
  · simp [step, ForumTopics.loadForumTopics, ForumTopics.forumTopicsFor, ForumTopics.setTopics, hother]
  · simpa [step, pagesOf, setLoad, ForumTopics.loadForumTopics, ForumTopics.forumTopicsFor,
      ForumTopics.setTopics] using Shows.nil

lemma loadMore_faithful_iff (h : r.Faithful) (query : String) :
    (r.step P S (.loadForumTopics chatId query true)).Faithful ↔
      r.InTime P S (.loadForumTopics chatId query true) := by
  constructor
  · intro h'
    exact h'.offsets _ (List.mem_append_right _ (List.mem_singleton_self _))
  · intro hin
    refine ⟨h.topics, fun request hmem => ?_⟩
    rcases List.mem_append.mp hmem with hold | hnew
    · exact h.offsets request hold
    · rw [List.mem_singleton.mp hnew]
      exact hin

lemma clear_faithful (h : r.Faithful) : (r.step P S (.clearForumTopics chatId)).Faithful := by
  refine (faithful_iff_of_other chatId (r.step P S (.clearForumTopics chatId)) h
    (fun other hother => ?_) (fun other hother => ?_) rfl).mpr ?_
  · simp [step, pagesOf, setLoad, hother]
  · simp only [step, ForumTopics.clearForumTopics]
    split_ifs <;>
      simp [ForumTopics.forumTopicsFor, ForumTopics.setTopics, ForumTopics.setTotalCount, hother]
  · have hcleared : (r.forum.clearForumTopics chatId).forumTopicsFor chatId = [] := by
      simp only [ForumTopics.clearForumTopics]
      split_ifs <;> simp [ForumTopics.forumTopicsFor, ForumTopics.setTopics, ForumTopics.setTotalCount]
    simp only [step, hcleared]
    simpa [pagesOf, setLoad] using Shows.nil

/-- The pages that the last load of the chat has brought after a page. -/
lemma pagesOf_page (other : ℤ) : (r.step P S (.page number chatId raw)).pagesOf other =
    if other = chatId ∧ r.isLatest number chatId then r.pagesOf chatId ++ [parseForumTopics S raw]
    else r.pagesOf other := by
  simp only [step, pagesOf]
  by_cases hlatest : r.isLatest number chatId
  · by_cases hother : other = chatId
    · subst hother
      rcases (Option.any_eq_true _ _).mp hlatest with ⟨load, hload, -⟩
      simp [setLoad, hlatest, hload]
    · simp [setLoad, hother, hlatest]
  · simp [hlatest]

/-- The topics that are there after a page. -/
lemma forumTopicsFor_page (other : ℤ) : (r.forum.handleForumTopics S chatId raw).forumTopicsFor other =
    if other = chatId ∧ r.forum.loadingForumTopicsForChatId = some chatId then
      S.run (r.forum.forumTopicsFor chatId ++
        fresh (·.forumTopicId) (r.forum.forumTopicsFor chatId) (parseForumTopics S raw))
    else r.forum.forumTopicsFor other := by
  simp only [ForumTopics.handleForumTopics]
  by_cases hloading : r.forum.loadingForumTopicsForChatId = some chatId
  · by_cases hother : other = chatId
    · subst hother
      simp [ForumTopics.forumTopicsFor, ForumTopics.setTopics, ForumTopics.setTotalCount, hloading]
    · simp [ForumTopics.forumTopicsFor, ForumTopics.setTopics, ForumTopics.setTotalCount, hloading, hother]
  · simp [hloading]

lemma page_faithful_iff (h : r.Faithful) (hserved : r.Served S (.page number chatId raw)) :
    (r.step P S (.page number chatId raw)).Faithful ↔ r.InTime P S (.page number chatId raw) := by
  have hshows := h.topics chatId
  rw [faithful_iff_of_other chatId (r.step P S (.page number chatId raw)) h
    (fun other hother => by rw [pagesOf_page, if_neg (fun hboth => hother hboth.1)])
    (fun other hother => (forumTopicsFor_page other).trans (if_neg fun hboth => hother hboth.1)) rfl,
    pagesOf_page]
  have htopics := @forumTopicsFor_page S r chatId raw chatId
  change Shows _ _ ((r.forum.handleForumTopics S chatId raw).forumTopicsFor chatId) ↔ _
  rw [htopics]
  simp only [InTime, true_and]
  split_ifs with hlatest hloading hloading
  · exact hshows.append_iff hserved.2 (S.perm _)
  · exact hshows.dropped_iff hserved.2
  · rw [hshows.stale_iff (S.perm _)]
    exact ⟨fun hknown _ => hknown, fun hknown => hknown hloading⟩
  · exact iff_of_true hshows fun hloads => absurd hloads hloading

lemma step_faithful_iff (h : r.Faithful) {e : ForumTopicsEvent} (hserved : r.Served S e) :
    (r.step P S e).Faithful ↔ r.InTime P S e := by
  cases e with
  | loadForumTopics chatId query loadMore =>
      cases loadMore with
      | false => exact iff_of_true (loadFirst_faithful h query) trivial
      | true => exact loadMore_faithful_iff h query
  | clearForumTopics chatId => exact iff_of_true (clear_faithful h) trivial
  | page number chatId raw => exact page_faithful_iff h hserved
  | error number chatId message => exact iff_of_true ⟨h.topics, h.offsets⟩ trivial

/-- Topics are sorted by insertion. -/
def topicInsertion : TopicSorting := .insertion _

/-- A page with one topic. -/
def topicPage (forumTopicId : ℤ) (name : String) : RawForumTopics where
  topics := [{ forumTopicId, name }]
  nextOffset := { offsetForumTopicId := forumTopicId }

/-- Two pages of the topics of a chat. -/
def loadTwoPages : List ForumTopicsEvent :=
  [.loadForumTopics 1 "" false, .page 1 1 (topicPage 5 "five"), .loadForumTopics 1 "" true,
    .page 1 1 (topicPage 6 "six")]

end ForumTopicsRun

end RioGram.Chats
