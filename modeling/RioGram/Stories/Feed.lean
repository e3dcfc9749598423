import RioGram.Core.Reachable
import RioGram.Stories.Manager

/-!
# The story feed

What has been reported of the chats is kept beside the manager: a poster is to be shown for the chats whose last
reported active stories are of the main list, with an order, and not all deleted since.

The manager shows whatever has a story, and the title and the avatar of the poster that was there before.

* `feed_shown_iff` — the runs in which what it shows is right.
-/

namespace RioGram.Stories

open Keyed Reaching TdlibStoryParser StoryManager

/-! ## What has been reported -/

/-- The title and the avatar of a chat object. -/
structure Face where
  title : String := ""
  avatarLocalPath : Option String := none
deriving DecidableEq

/-- A chat's last reported active stories, without those that have been deleted since, and its last face. -/
structure Ledger where
  reported : ℤ → Option ChatActiveStories := fun _ => none
  faces : ℤ → Face := fun _ => {}

def ChatActiveStories.deleted (a : ChatActiveStories) (storyId : ℤ) : ChatActiveStories :=
  { a with stories := a.stories.filter (·.storyId ≠ storyId) }

/-- The active stories are to be shown. -/
def ChatActiveStories.InFeed (a : ChatActiveStories) : Prop :=
  a.list = some .main ∧ a.order ≠ 0 ∧ a.stories ≠ []

instance (a : ChatActiveStories) : Decidable a.InFeed :=
  inferInstanceAs (Decidable (a.list = some .main ∧ a.order ≠ 0 ∧ a.stories ≠ []))

/-- The poster of a chat with the face. -/
def ChatActiveStories.poster (a : ChatActiveStories) (chatId : ℤ) (face : Face) : StoryPosterSummary :=
  { chatId
    stories := a.stories.map .fromTdlib
    maxReadStoryId := a.maxReadStoryId
    order := a.order
    canBeArchived := a.canBeArchived
    title := face.title
    avatarLocalPath := face.avatarLocalPath }

/-- The poster that is to be shown for what has been reported. -/
def shown (chatId : ℤ) (face : Face) (reported : Option ChatActiveStories) : Option StoryPosterSummary :=
  (reported.filter (·.InFeed)).map (·.poster chatId face)

namespace Ledger

variable (l : Ledger)

def report (activeStories : ChatActiveStories) : Ledger :=
  { l with reported := Function.update l.reported activeStories.chatId (some activeStories) }

/-- No chat has the id 0. -/
def record : Event → Ledger
  | .updateChatActiveStories activeStories | .chatActiveStories activeStories =>
      if activeStories.chatId = 0 then l else l.report activeStories
  | .updateStoryDeleted posterChatId storyId =>
      { l with
        reported :=
          Function.update l.reported posterChatId ((l.reported posterChatId).map (·.deleted storyId)) }
  | .chat chat =>
      { l with
        faces :=
          Function.update l.faces chat.id
            { title := chat.title.getD "", avatarLocalPath := parseAvatar chat.photo } }
  | _ => l

def poster (chatId : ℤ) : Option StoryPosterSummary := shown chatId (l.faces chatId) (l.reported chatId)

lemma poster_reported (chatId : ℤ) (reported : Option ChatActiveStories) :
    ({ l with reported := Function.update l.reported chatId reported } : Ledger).poster =
      Function.update l.poster chatId (shown chatId (l.faces chatId) reported) := by
  funext other
  by_cases h : other = chatId
  · subst h
    simp [poster]
  · simp [poster, h]

lemma poster_faces (chatId : ℤ) (face : Face) :
    ({ l with faces := Function.update l.faces chatId face } : Ledger).poster =
      Function.update l.poster chatId (shown chatId face (l.reported chatId)) := by
  funext other
  by_cases h : other = chatId
  · subst h
    simp [poster]
  · simp [poster, h]

end Ledger

/-! ## Runs -/

structure FeedState where
  manager : StoryManager := {}
  ledger : Ledger := {}

namespace FeedState

def step (s : FeedState) (event : Event) : FeedState :=
  { manager := s.manager.handle event, ledger := s.ledger.record event }

/-- Each poster that is to be shown is shown once, and no other one. -/
structure Shows (s : FeedState) : Prop where
  posters : Represents (·.chatId) s.manager.posters s.ledger.poster
  sorted : s.manager.posters.Pairwise fun a b => b.order < a.order ∨ b.order = a.order ∧ b.chatId < a.chatId

/-- Active stories that are reported of a chat are of the main list, with an order, or there are none, and if the
chat is not shown yet, it has no face: neither a title nor an avatar has been received.  The face of a chat that is
shown does not lose its avatar. -/
def Orderly (s : FeedState) : Event → Prop
  | .updateChatActiveStories activeStories | .chatActiveStories activeStories =>
      activeStories.chatId = 0 ∨ activeStories.stories = [] ∨
        activeStories.InFeed ∧
          (s.ledger.poster activeStories.chatId ≠ none ∨ s.ledger.faces activeStories.chatId = {})
  | .chat chat =>
      s.ledger.poster chat.id = none ∨ parseAvatar chat.photo ≠ none ∨
        (s.ledger.faces chat.id).avatarLocalPath = none
  | _ => True

end FeedState

/-! ## What the manager makes of a poster -/

/-- What a report leaves of the poster that there is. -/
def merged (poster : StoryPosterSummary) (existing : Option StoryPosterSummary) : Option StoryPosterSummary :=
  if poster.stories = [] then none
  else some (poster.withChat (existing.map (·.title)) (existing.bind (·.avatarLocalPath)))

/-- What the deletion of a story leaves of the poster that there is. -/
def remaining (storyId : ℤ) (poster : StoryPosterSummary) : Option StoryPosterSummary :=
  let stories := poster.stories.filter (·.storyId ≠ storyId)
  if stories = [] then none else some { poster with stories }

section Others

variable (m : StoryManager)

lemma postersByChatId_react (posterChatId storyId : ℤ) (emoji : Option String) :
    (m.react posterChatId storyId emoji).postersByChatId = m.postersByChatId := by
  rw [react]
  split <;> rfl

lemma postersByChatId_handleStoryResponse (raw : Story) :
    (m.handleStoryResponse raw).postersByChatId = m.postersByChatId := by
  rw [handleStoryResponse]
  split
  · rfl
  · split <;> rfl

lemma postersByChatId_handleStoryUpdate (raw : Story) :
    (m.handleStoryUpdate raw).postersByChatId = m.postersByChatId := by
  rw [handleStoryUpdate]
  split <;> rfl

lemma postersByChatId_handleFileResponse (file : File) :
    (m.handleFileResponse file).postersByChatId = m.postersByChatId := by
  rw [handleFileResponse]
  split <;> rfl

lemma postersByChatId_handleOk (request : Request) : (m.handleOk request).postersByChatId = m.postersByChatId := by
  cases request <;> rfl

lemma postersByChatId_handleError (request : Request) (message : Option String) :
    (m.handleError request message).postersByChatId = m.postersByChatId := by
  cases request <;> rfl

end Others

section Posters

variable {m : StoryManager} {posters : ℤ → Option StoryPosterSummary}
  (h : Represents (·.chatId) m.postersByChatId posters)

include h

lemma represents_mergePoster (poster : StoryPosterSummary) :
    Represents (·.chatId) (m.mergePoster poster).postersByChatId
      (Function.update posters poster.chatId (merged poster (posters poster.chatId))) := by
  have hexisting : m.posterForChat poster.chatId = posters poster.chatId := h.lookup_eq _
  rw [mergePoster, merged, hexisting]
  dsimp only
  split_ifs
  · exact h.remove poster.chatId
  · exact h.put (poster.withChat _ _)
  · exact h.put (poster.withChat _ _)

lemma represents_handleStoryDeleted (posterChatId storyId : ℤ) :
    Represents (·.chatId) (m.handleStoryDeleted posterChatId storyId).postersByChatId
      (Function.update posters posterChatId ((posters posterChatId).bind (remaining storyId))) := by
  have hposter : (m.removeStory posterChatId storyId).posterForChat posterChatId = posters posterChatId :=
    h.lookup_eq _
  rw [handleStoryDeleted, hposter]
  cases hshown : posters posterChatId with
  | none =>
      have hsame : Function.update posters posterChatId none = posters := by rw [← hshown, Function.update_eq_self]
      rw [Option.bind_none, hsame]
      exact h
  | some poster =>
      have hchat : poster.chatId = posterChatId := (mem_of_lookup (hposter.trans hshown)).2
      subst hchat
      rw [Option.bind_some, remaining]
      dsimp only
      split_ifs
      · exact h.remove poster.chatId
      · exact h.put { poster with stories := _ }

lemma represents_enrichPosterFromChat (chatId : ℤ) (title : String) (avatarLocalPath : Option String) :
    Represents (·.chatId) (m.enrichPosterFromChat chatId title avatarLocalPath).postersByChatId
      (Function.update posters chatId ((posters chatId).map (·.withChat (some title) avatarLocalPath))) := by
  have hposter : m.posterForChat chatId = posters chatId := h.lookup_eq _
  rw [enrichPosterFromChat, hposter]
  cases hshown : posters chatId with
  | none =>
      have hsame : Function.update posters chatId none = posters := by rw [← hshown, Function.update_eq_self]
      rw [Option.map_none, hsame]
      exact h
  | some poster =>
      have hchat : poster.chatId = chatId := (mem_of_lookup (hposter.trans hshown)).2
      subst hchat
      exact h.put (poster.withChat _ _)

/-- What is shown has the posters of the map, whatever they were sorted from. -/
lemma represents_posters : Represents (·.chatId) m.posters posters :=
  h.perm (List.mergeSort_perm _ _).symm

end Posters

/-! ## What should become of a poster -/

section Shown

variable {chatId : ℤ} {face : Face} {reported : Option ChatActiveStories}

lemma shown_of_inFeed {a : ChatActiveStories} (h : a.InFeed) :
    shown chatId face (some a) = some (a.poster chatId face) := by
  rw [shown, Option.filter_some, if_pos (decide_eq_true h), Option.map_some]

lemma shown_of_not_inFeed {a : ChatActiveStories} (h : ¬ a.InFeed) : shown chatId face (some a) = none := by
  rw [shown, Option.filter_some, if_neg (by simpa using h), Option.map_none]

lemma shown_cases (chatId : ℤ) (reported : Option ChatActiveStories) :
    (∀ face, shown chatId face reported = none) ∨
      ∃ a : ChatActiveStories, ∀ face, shown chatId face reported = some (a.poster chatId face) := by
  cases reported with
  | none => exact Or.inl fun _ => rfl
  | some a =>
      by_cases h : a.InFeed
      · exact Or.inr ⟨a, fun _ => shown_of_inFeed h⟩
      · exact Or.inl fun _ => shown_of_not_inFeed h

/-- **Deletions** are right whatever has been reported. -/
lemma remaining_shown (storyId : ℤ) :
    (shown chatId face reported).bind (remaining storyId) = shown chatId face (reported.map (·.deleted storyId)) := by
  cases reported with
  | none => rfl
  | some a =>
      have hfilter : (a.stories.map StoryInfoSummary.fromTdlib).filter (·.storyId ≠ storyId) =
          (a.deleted storyId).stories.map .fromTdlib := by
        rw [List.filter_map]
        rfl
      rw [Option.map_some]
      by_cases h : a.InFeed
      · rw [shown_of_inFeed h, Option.bind_some, remaining]
        simp only [ChatActiveStories.poster, hfilter, List.map_eq_nil_iff]
        by_cases hempty : (a.deleted storyId).stories = []
        · rw [if_pos hempty, shown_of_not_inFeed fun hfeed => hfeed.2.2 hempty]
        · have hdeleted : (a.deleted storyId).InFeed := ⟨h.1, h.2.1, hempty⟩
          rw [if_neg hempty, shown_of_inFeed hdeleted]
          rfl
      · have hdeleted : ¬ (a.deleted storyId).InFeed := by
          rintro ⟨hlist, horder, hstories⟩
          refine h ⟨hlist, horder, fun hnil => hstories ?_⟩
          rw [ChatActiveStories.deleted, hnil, List.filter_nil]
        rw [shown_of_not_inFeed h, shown_of_not_inFeed hdeleted, Option.bind_none]

/-- A report is right if there is nothing in it, or if it is to be shown and the poster, or what takes its place, has
the face. -/
lemma merged_shown_iff (a : ChatActiveStories) :
    merged (a.poster chatId {}) (shown chatId face reported) = shown chatId face (some a) ↔
      a.stories = [] ∨ a.InFeed ∧ (shown chatId face reported ≠ none ∨ face = {}) := by
  by_cases hempty : a.stories = []
  · have hnot : ¬ a.InFeed := fun hfeed => hfeed.2.2 hempty
    have hnone : merged (a.poster chatId {}) (shown chatId face reported) = none :=
      if_pos (List.map_eq_nil_iff.mpr hempty)
    rw [hnone, shown_of_not_inFeed hnot]
    exact iff_of_true rfl (Or.inl hempty)
  · have hstories : ¬ (a.poster chatId {}).stories = [] := mt List.map_eq_nil_iff.mp hempty
    rw [merged, if_neg hstories, or_iff_right hempty]
    by_cases hfeed : a.InFeed
    · rw [shown_of_inFeed hfeed, and_iff_right hfeed, Option.some_inj]
      rcases shown_cases chatId reported with hnone | ⟨before, hbefore⟩
      · rw [hnone face, or_iff_right (not_not.mpr rfl)]
        constructor
        · intro heq
          have htitle : "" = face.title := congrArg StoryPosterSummary.title heq
          have havatar : none = face.avatarLocalPath := congrArg StoryPosterSummary.avatarLocalPath heq
          obtain ⟨title, avatarLocalPath⟩ := face
          subst htitle havatar
          rfl
        · rintro rfl
          rfl
      · rw [hbefore face]
        refine iff_of_true ?_ (Or.inl (Option.some_ne_none _))
        simp [StoryPosterSummary.withChat, ChatActiveStories.poster]
    · rw [shown_of_not_inFeed hfeed]
      exact iff_of_false (Option.some_ne_none _) fun h => hfeed h.1

/-- A chat object is right if its poster is not shown, or does not lose its avatar. -/
lemma withChat_shown_iff (title : String) (avatarLocalPath : Option String) :
    (shown chatId face reported).map (·.withChat (some title) avatarLocalPath) =
        shown chatId { title, avatarLocalPath } reported ↔
      shown chatId face reported = none ∨ avatarLocalPath ≠ none ∨ face.avatarLocalPath = none := by
  rcases shown_cases chatId reported with hnone | ⟨a, ha⟩
  · rw [hnone, hnone]
    exact iff_of_true rfl (Or.inl rfl)
  · rw [ha, ha, Option.map_some, Option.some_inj, or_iff_right (Option.some_ne_none _)]
    cases avatarLocalPath <;> simp [StoryPosterSummary.withChat, ChatActiveStories.poster]

end Shown

/-! ## Every run -/

lemma comparePosters_isLE {a b : StoryPosterSummary} :
    (comparePosters a b).isLE ↔ b.order < a.order ∨ b.order = a.order ∧ b.chatId ≤ a.chatId := by
  rw [comparePosters, Ordering.isLE_then_iff_or, Int.compare_eq_lt, Int.compare_eq_eq, Int.isLE_compare]

/-- Posters of different chats are sorted with no two of them alike. -/
lemma posters_sorted {m : StoryManager} (h : (m.postersByChatId.map (·.chatId)).Nodup) :
    m.posters.Pairwise fun a b => b.order < a.order ∨ b.order = a.order ∧ b.chatId < a.chatId := by
  have hsorted : m.posters.Pairwise fun a b => (comparePosters a b).isLE := by
    refine List.pairwise_mergeSort (fun a b c hab hbc => ?_) (fun a b => ?_) m.postersByChatId
    · rw [comparePosters_isLE] at hab hbc ⊢
      omega
    · rw [Bool.or_eq_true, comparePosters_isLE, comparePosters_isLE]
      omega
  have hne : m.posters.Pairwise fun a b => a.chatId ≠ b.chatId :=
    List.pairwise_map.mp (((List.mergeSort_perm _ _).map _).nodup_iff.mpr h)
  refine (hsorted.and hne).imp fun hab => ?_
  have hle := comparePosters_isLE.mp hab.1
  have := hab.2
  omega

namespace FeedState

lemma shows_iff {s : FeedState} : s.Shows ↔ Represents (·.chatId) s.manager.postersByChatId s.ledger.poster := by
  constructor
  · intro h
    exact h.posters.perm (List.mergeSort_perm _ _)
  · intro h
    exact ⟨represents_posters h, posters_sorted h.nodup⟩

/-- An event that neither changes the posters nor what has been reported. -/
lemma shows_unchanged {s : FeedState} {event : Event} (h : s.Shows)
    (hposters : (s.step event).manager.postersByChatId = s.manager.postersByChatId)
    (hledger : (s.step event).ledger = s.ledger) : (s.step event).Shows := by
  rw [shows_iff, hposters, hledger]
  exact shows_iff.mp h

lemma shows_report_iff {s : FeedState} (h : s.Shows) (activeStories : ChatActiveStories) :
    (s.step (.updateChatActiveStories activeStories)).Shows ↔
      s.Orderly (.updateChatActiveStories activeStories) := by
  have hmap := shows_iff.mp h
  rw [shows_iff]
  change Represents _ (s.manager.handleActiveStories activeStories).postersByChatId
      (if activeStories.chatId = 0 then s.ledger else s.ledger.report activeStories).poster ↔ _
  rw [handleActiveStories, parseChatActiveStories]
  by_cases hzero : activeStories.chatId = 0
  · rw [if_pos hzero, if_pos hzero]
    exact iff_of_true hmap (Or.inl hzero)
  · rw [if_neg hzero, if_neg hzero, Ledger.report, Ledger.poster_reported, Orderly, or_iff_right hzero]
    exact ((represents_mergePoster hmap _).iff_eq.trans (Function.update_injective _ _).eq_iff).trans
      (merged_shown_iff activeStories)

/-- What one event leaves right. -/
lemma shows_step_iff (s : FeedState) (event : Event) (h : s.Shows) : (s.step event).Shows ↔ s.Orderly event := by
  have hmap := shows_iff.mp h
  cases event with
  | updateChatActiveStories activeStories => exact shows_report_iff h activeStories
  | chatActiveStories activeStories => exact shows_report_iff h activeStories
  | chat chat =>
      have hstep := represents_enrichPosterFromChat hmap chat.id (chat.title.getD "") (parseAvatar chat.photo)
      rw [shows_iff, step, Ledger.record, Ledger.poster_faces]
      exact (hstep.iff_eq.trans (Function.update_injective _ _).eq_iff).trans (withChat_shown_iff _ _)
  | updateStoryDeleted posterChatId storyId =>
      have hstep := represents_handleStoryDeleted hmap posterChatId storyId
      refine iff_of_true (shows_iff.mpr ?_) trivial
      rw [step, Ledger.record, Ledger.poster_reported, ← remaining_shown]
      exact hstep
  | setStoryReaction posterChatId storyId emoji =>
      exact iff_of_true (shows_unchanged h (postersByChatId_react _ _ _ _) rfl) trivial
  | removeStoryReaction posterChatId storyId =>
      exact iff_of_true (shows_unchanged h (postersByChatId_react _ _ _ _) rfl) trivial
  | story story => exact iff_of_true (shows_unchanged h (postersByChatId_handleStoryResponse _ _) rfl) trivial
  | updateStory story => exact iff_of_true (shows_unchanged h (postersByChatId_handleStoryUpdate _ _) rfl) trivial
  | updateStoryPostSucceeded story =>
      exact iff_of_true (shows_unchanged h (postersByChatId_handleStoryUpdate _ _) rfl) trivial
  | file file => exact iff_of_true (shows_unchanged h (postersByChatId_handleFileResponse _ _) rfl) trivial
  | ok request => exact iff_of_true (shows_unchanged h (postersByChatId_handleOk _ _) rfl) trivial
  | error request message =>
      exact iff_of_true (shows_unchanged h (postersByChatId_handleError _ _ _) rfl) trivial
  | _ => exact iff_of_true (shows_unchanged h rfl rfl) trivial

end FeedState

/-- **The runs in which the feed is right all along**: nothing is reported that is not to be shown, what comes into
the feed has no title and no avatar yet, and no avatar is taken away from what is in it. -/
theorem feed_shown_iff (events : List Event) :
    (∀ before, before <+: events → (before.foldl FeedState.step {}).Shows) ↔
      Meets FeedState.step FeedState.Orderly {} events := by
  have hstart : FeedState.Shows {} := FeedState.shows_iff.mpr ⟨List.nodup_nil, fun _ => rfl⟩
  exact forall_prefix_iff_meets FeedState.shows_step_iff hstart events

/-- Active stories that belong to no list are shown. -/
theorem unlisted_feed_not_shown :
    ¬ ∀ events before : List Event, before <+: events → (before.foldl FeedState.step {}).Shows := by
  intro h
  let unlisted : ChatActiveStories := { chatId := 7, stories := [{ storyId := 1, date := 0 }] }
  have hshows := h [.updateChatActiveStories unlisted] _ List.prefix_rfl
  have hlookup := (FeedState.shows_iff.mp hshows).lookup_eq 7
  revert hlookup
  decide +kernel

end RioGram.Stories
