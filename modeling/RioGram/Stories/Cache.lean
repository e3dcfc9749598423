import RioGram.Core.Reachable
import RioGram.Stories.Manager

/-!
# The cached stories

Beside the manager stands what TDLib has said: which reactions it was asked for and has not answered, what the
reaction of each story is, and where the files are that are complete.

**Reactions.**  A reaction is shown before it is accepted, and stays when it is rejected; a removal is not shown at
all, as `copyWith` keeps what it is given no value for.

**Files.**  A file that is complete is heard of in a story object, in a `file` and in an `updateFile`, and the last
of these is not listened to.

* `cache_right_iff` — the runs in which the stories are right.
-/

namespace RioGram.Stories

open Keyed Reaching TdlibStoryParser StoryManager

/-! ## What TDLib has said -/

/-- A reaction that a story is to get; no emoji is for a removal. -/
structure Reaction where
  key : ℤ × ℤ
  emoji : Option String
deriving DecidableEq

structure Answers where
  /-- the requests that have not been answered -/
  pending : List Reaction := []
  reactions : ℤ × ℤ → Option String := fun _ => none
  /-- what was asked for last, other than a removal, or came with the last story object if that was later -/
  latest : ℤ × ℤ → Option String := fun _ => none
  /-- the paths of the files that are complete -/
  completed : ℤ → Option String := fun _ => none

/-- The paths with that of a file that is said to be complete. -/
def completing (completed : ℤ → Option String) : Option ℤ → Option String → ℤ → Option String
  | some fileId, some path => Function.update completed fileId (some path)
  | _, _ => completed

lemma completing_none (completed : ℤ → Option String) (fileId : Option ℤ) :
    completing completed fileId none = completed := by
  cases fileId <;> rfl

lemma completing_self (completed : ℤ → Option String) (fileId : ℤ) (path : String) :
    completing completed (some fileId) (some path) fileId = some path :=
  Function.update_self _ _ _

lemma mem_completing {completed : ℤ → Option String} {newId : Option ℤ} {newPath : Option String} {fileId : ℤ}
    {path : String} (h : path ∈ completing completed newId newPath fileId) :
    newId = some fileId ∧ newPath = some path ∨ path ∈ completed fileId := by
  cases newId with
  | none => exact Or.inr h
  | some new =>
      cases newPath with
      | none => exact Or.inr h
      | some p =>
          by_cases hsame : fileId = new
          · subst hsame
            rw [completing_self] at h
            exact Or.inl ⟨rfl, h⟩
          · rw [completing, Function.update_of_ne hsame] at h
            exact Or.inr h

namespace Answers

variable (a : Answers)

/-- No request for the story's reaction waits for its answer. -/
def Settled (key : ℤ × ℤ) : Prop := ∀ reaction ∈ a.pending, reaction.key ≠ key

instance (key : ℤ × ℤ) : Decidable (a.Settled key) :=
  inferInstanceAs (Decidable (∀ reaction ∈ a.pending, reaction.key ≠ key))

def asked (reaction : Reaction) : Answers :=
  { a with
    pending := a.pending ++ [reaction]
    latest := Function.update a.latest reaction.key (reaction.emoji.or (a.latest reaction.key)) }

/-- The reaction of the story after an answer. -/
def outcome (reaction : Reaction) (accepted : Bool) : Option String :=
  if accepted then reaction.emoji else a.reactions reaction.key

def answered (reaction : Reaction) (accepted : Bool) : Answers :=
  if reaction ∈ a.pending then
    { a with
      pending := a.pending.erase reaction
      reactions := Function.update a.reactions reaction.key (a.outcome reaction accepted) }
  else a

def received (raw : Story) : Answers :=
  match parseStory raw with
  | none => a
  | some story =>
      { a with
        reactions := Function.update a.reactions story.cacheKey story.chosenReactionEmoji
        latest := Function.update a.latest story.cacheKey story.chosenReactionEmoji
        completed := completing a.completed story.mediaFileId story.mediaLocalPath }

def reported (file : File) : Answers :=
  { a with completed := completing a.completed (some file.id) (localPathFromFile file) }

def record : Event → Answers
  | .setStoryReaction posterChatId storyId emoji => a.asked ⟨(posterChatId, storyId), some emoji⟩
  | .removeStoryReaction posterChatId storyId => a.asked ⟨(posterChatId, storyId), none⟩
  | .ok (.setStoryReaction posterChatId storyId emoji) => a.answered ⟨(posterChatId, storyId), emoji⟩ true
  | .error (.setStoryReaction posterChatId storyId emoji) _ => a.answered ⟨(posterChatId, storyId), emoji⟩ false
  | .story raw | .updateStory raw | .updateStoryPostSucceeded raw => a.received raw
  | .file file | .updateFile file => a.reported file
  | _ => a

end Answers

/-! ## Runs -/

structure CacheState where
  manager : StoryManager := {}
  answers : Answers := {}

namespace CacheState

variable (s : CacheState)

def stories : List StoryModel := s.manager.storiesByKey

def step (event : Event) : CacheState :=
  { manager := s.manager.handle event, answers := s.answers.record event }

/-- The stories have the reactions that they have got, unless one is being asked for, and the paths of their files
that are complete. -/
structure Right : Prop where
  reaction : ∀ story ∈ s.stories, s.answers.Settled story.cacheKey →
    story.chosenReactionEmoji = s.answers.reactions story.cacheKey
  path : ∀ story ∈ s.stories, ∀ fileId ∈ story.mediaFileId, ∀ path ∈ s.answers.completed fileId,
    story.mediaLocalPath = some path

/-- An answer that no other one is waited for after makes the reaction of a cached story the one that was asked for
or received last. -/
def AnswerFits (reaction : Reaction) (accepted : Bool) : Prop :=
  reaction ∈ s.answers.pending → (∀ other ∈ s.answers.pending.erase reaction, other.key ≠ reaction.key) →
    reaction.key ∈ s.stories.map StoryModel.cacheKey →
      s.answers.outcome reaction accepted = s.answers.latest reaction.key

/-- A file that is complete is said to be where the stories have it. -/
def FileFits (fileId : ℤ) (path : String) (key : Option (ℤ × ℤ)) : Prop :=
  ∀ story ∈ s.stories, key ≠ some story.cacheKey → story.mediaFileId = some fileId →
    story.mediaLocalPath = some path

/-- A story object is with the path of its file if that is complete, and the other stories with the file have it. -/
def StoryFits (story : StoryModel) : Prop :=
  ∀ fileId ∈ story.mediaFileId,
    match story.mediaLocalPath with
    | none => s.answers.completed fileId = none
    | some path => s.FileFits fileId path (some story.cacheKey)

/-- What TDLib says of reactions and of files that are complete is what the stories have been given before, but for
what it says in a `file`. -/
def Orderly : Event → Prop
  | .ok (.setStoryReaction posterChatId storyId emoji) => s.AnswerFits ⟨(posterChatId, storyId), emoji⟩ true
  | .error (.setStoryReaction posterChatId storyId emoji) _ => s.AnswerFits ⟨(posterChatId, storyId), emoji⟩ false
  | .story raw | .updateStory raw | .updateStoryPostSucceeded raw => ∀ story ∈ parseStory raw, s.StoryFits story
  | .updateFile file => ∀ path ∈ localPathFromFile file, s.FileFits file.id path none
  | _ => True

/-- The stories have the reactions that were asked for or received last. -/
def Latest : Prop := ∀ story ∈ s.stories, story.chosenReactionEmoji = s.answers.latest story.cacheKey

end CacheState

/-! ## What the manager does with the stories -/

section Stories

variable {m : StoryManager} {story : StoryModel}

lemma mem_putStory {new : StoryModel} :
    story ∈ (m.putStory new).storiesByKey ↔
      story ∈ m.storiesByKey ∧ story.cacheKey ≠ new.cacheKey ∨ story = new := by
  rw [putStory, List.mem_append, List.mem_singleton, mem_without]

/-- The story that a reaction is for is changed, and the others stay. -/
lemma mem_react {posterChatId storyId : ℤ} {emoji : Option String}
    (h : story ∈ (m.react posterChatId storyId emoji).storiesByKey) :
    story ∈ m.storiesByKey ∧ story.cacheKey ≠ (posterChatId, storyId) ∨
      ∃ current ∈ m.storiesByKey, current.cacheKey = (posterChatId, storyId) ∧ story = current.copyWith none emoji := by
  rw [react] at h
  have hfor : (m.send (.setStoryReaction posterChatId storyId emoji)).storyFor posterChatId storyId =
      m.storyFor posterChatId storyId := rfl
  rw [hfor] at h
  cases hcurrent : m.storyFor posterChatId storyId with
  | none =>
      rw [hcurrent] at h
      exact Or.inl ⟨h, lookup_eq_none_iff.mp hcurrent story h⟩
  | some current =>
      rw [hcurrent] at h
      obtain ⟨hmem, hkey⟩ := mem_of_lookup hcurrent
      rcases mem_putStory.mp h with ⟨hstory, hother⟩ | rfl
      · exact Or.inl ⟨hstory, by rwa [StoryModel.cacheKey_copyWith, hkey] at hother⟩
      · exact Or.inr ⟨current, hmem, hkey, rfl⟩

/-- A story object, in whatever it comes. -/
def Event.storyObject : Event → Option Story
  | .story raw | .updateStory raw | .updateStoryPostSucceeded raw => some raw
  | _ => none

lemma storiesByKey_storyObject {event : Event} {raw : Story} (h : event.storyObject = some raw) :
    (m.handle event).storiesByKey = ((parseStory raw).elim m m.putStory).storiesByKey := by
  cases event <;> cases h
  · rw [handle, handleStoryResponse]
    cases parseStory raw with
    | none => rfl
    | some story => dsimp only; split <;> rfl
  · rw [handle, handleStoryUpdate]
    cases parseStory raw <;> rfl
  · rw [handle, handleStoryPostSucceeded, handleStoryUpdate]
    cases parseStory raw <;> rfl

lemma storiesByKey_handleActiveStories (activeStories : ChatActiveStories) :
    (m.handleActiveStories activeStories).storiesByKey = m.storiesByKey := by
  rw [handleActiveStories]
  split
  · rfl
  · rw [mergePoster]
    dsimp only
    split_ifs <;> rfl

lemma storiesByKey_handleChatResponse (chat : Chat) : (m.handleChatResponse chat).storiesByKey = m.storiesByKey := by
  rw [handleChatResponse, enrichPosterFromChat]
  split <;> rfl

lemma storiesByKey_handleStoryDeleted (posterChatId storyId : ℤ) :
    (m.handleStoryDeleted posterChatId storyId).storiesByKey =
      without StoryModel.cacheKey (posterChatId, storyId) m.storiesByKey := by
  rw [handleStoryDeleted]
  dsimp only
  split
  · rfl
  · split_ifs <;> rfl

lemma storiesByKey_handleOk (request : Request) : (m.handleOk request).storiesByKey = m.storiesByKey := by
  cases request <;> rfl

lemma storiesByKey_handleError (request : Request) (message : Option String) :
    (m.handleError request message).storiesByKey = m.storiesByKey := by
  cases request <;> rfl

/-- A story after a file that is complete: it is as it was, but for the path. -/
lemma mem_handleFileResponse {file : File} {path : String} (hpath : localPathFromFile file = some path)
    (h : story ∈ (m.handleFileResponse file).storiesByKey) :
    ∃ before ∈ m.storiesByKey, story.cacheKey = before.cacheKey ∧
      story.chosenReactionEmoji = before.chosenReactionEmoji ∧ story.mediaFileId = before.mediaFileId ∧
      story.mediaLocalPath = if before.mediaFileId = some file.id then some path else before.mediaLocalPath := by
  rw [handleFileResponse, hpath] at h
  obtain ⟨before, hbefore, rfl⟩ := List.mem_map.mp h
  refine ⟨before, hbefore, ?_⟩
  split_ifs
  · exact ⟨rfl, Option.none_or, rfl, rfl⟩
  · exact ⟨rfl, rfl, rfl, rfl⟩

end Stories

/-! ## Steps -/

namespace CacheState

variable {s : CacheState}

/-- An event that adds no story and of which nothing is noted. -/
lemma right_unchanged {event : Event} (h : s.Right) (hlatest : s.Latest)
    (hstories : ∀ story ∈ (s.step event).stories, story ∈ s.stories) (hanswers : (s.step event).answers = s.answers) :
    (s.step event).Right ∧ (s.step event).Latest := by
  refine ⟨⟨fun story hstory => ?_, fun story hstory => ?_⟩, fun story hstory => ?_⟩
  · rw [hanswers]
    exact h.reaction story (hstories story hstory)
  · rw [hanswers]
    exact h.path story (hstories story hstory)
  · rw [hanswers]
    exact hlatest story (hstories story hstory)

/-- **A reaction** is asked for: the story may show whatever is to come. -/
lemma right_react (h : s.Right) (hlatest : s.Latest) (posterChatId storyId : ℤ) (emoji : Option String) :
    ({ manager := s.manager.react posterChatId storyId emoji
       answers := s.answers.asked ⟨(posterChatId, storyId), emoji⟩ } : CacheState).Right ∧
    ({ manager := s.manager.react posterChatId storyId emoji
       answers := s.answers.asked ⟨(posterChatId, storyId), emoji⟩ } : CacheState).Latest := by
  refine ⟨⟨fun story hstory hsettled => ?_, fun story hstory => ?_⟩, fun story hstory => ?_⟩
  · have hother : (posterChatId, storyId) ≠ story.cacheKey :=
      hsettled ⟨_, emoji⟩ (List.mem_append_right _ (List.mem_singleton_self _))
    rcases mem_react hstory with ⟨hmem, -⟩ | ⟨current, -, hkey, rfl⟩
    · exact h.reaction story hmem fun reaction hreaction => hsettled reaction (List.mem_append_left _ hreaction)
    · exact absurd hkey.symm hother
  · rcases mem_react hstory with ⟨hmem, -⟩ | ⟨current, hmem, -, rfl⟩
    · exact h.path story hmem
    · exact h.path current hmem
  · change story.chosenReactionEmoji = Function.update s.answers.latest _ _ story.cacheKey
    rcases mem_react hstory with ⟨hmem, hother⟩ | ⟨current, hmem, hkey, rfl⟩
    · rw [Function.update_of_ne hother]
      exact hlatest story hmem
    · rw [StoryModel.cacheKey_copyWith, hkey, Function.update_self, ← hkey, ← hlatest current hmem]
      rfl

/-- **An answer** is right if it fits. -/
lemma right_answered_iff (h : s.Right) (hlatest : s.Latest) {m : StoryManager} (hstories : m.storiesByKey = s.stories)
    (reaction : Reaction) (accepted : Bool) :
    ({ manager := m, answers := s.answers.answered reaction accepted } : CacheState).Right ↔
      s.AnswerFits reaction accepted := by
  have hmem : ∀ {story}, story ∈ m.storiesByKey ↔ story ∈ s.stories := by simp [hstories]
  rw [Answers.answered, AnswerFits]
  by_cases hpending : reaction ∈ s.answers.pending
  · rw [if_pos hpending, forall_prop_of_true hpending]
    constructor
    · intro hright hothers hcached
      obtain ⟨story, hstory, hkey⟩ := List.mem_map.mp hcached
      have hreaction := hright.reaction story (hmem.mpr hstory) (by rwa [hkey])
      rw [hlatest story hstory, hkey] at hreaction
      exact (hreaction.trans (Function.update_self _ _ _)).symm
    · intro hfits
      refine ⟨fun story hstory hsettled => ?_, fun story hstory => h.path story (hmem.mp hstory)⟩
      change story.chosenReactionEmoji = Function.update s.answers.reactions reaction.key _ story.cacheKey
      by_cases hkey : story.cacheKey = reaction.key
      · have hcached : reaction.key ∈ s.stories.map StoryModel.cacheKey :=
          List.mem_map.mpr ⟨story, hmem.mp hstory, hkey⟩
        rw [hkey, Function.update_self, hfits (by rwa [← hkey]) hcached, ← hkey]
        exact hlatest story (hmem.mp hstory)
      · rw [Function.update_of_ne hkey]
        refine h.reaction story (hmem.mp hstory) fun other hother => ?_
        by_cases hsame : other = reaction
        · rw [hsame]
          exact Ne.symm hkey
        · exact hsettled other ((List.mem_erase_of_ne hsame).mpr hother)
  · rw [if_neg hpending]
    refine iff_of_true ⟨fun story hstory => ?_, fun story hstory => ?_⟩ fun hasked => absurd hasked hpending
    · exact h.reaction story (hmem.mp hstory)
    · exact h.path story (hmem.mp hstory)

lemma latest_answered (hlatest : s.Latest) {m : StoryManager} (hstories : m.storiesByKey = s.stories)
    (reaction : Reaction) (accepted : Bool) :
    ({ manager := m, answers := s.answers.answered reaction accepted } : CacheState).Latest := by
  intro story hstory
  have hsame : (s.answers.answered reaction accepted).latest = s.answers.latest := by
    rw [Answers.answered]
    split_ifs <;> rfl
  change story.chosenReactionEmoji = (s.answers.answered reaction accepted).latest story.cacheKey
  rw [hsame]
  exact hlatest story (hstories ▸ hstory)

section Received

variable {new : StoryModel} {stories : List StoryModel}

/-- The story that has come has the reaction that it came with. -/
lemma reaction_received (h : s.Right)
    (hmem : ∀ story, story ∈ stories ↔ story ∈ s.stories ∧ story.cacheKey ≠ new.cacheKey ∨ story = new) :
    ∀ story ∈ stories, s.answers.Settled story.cacheKey → story.chosenReactionEmoji =
      Function.update s.answers.reactions new.cacheKey new.chosenReactionEmoji story.cacheKey := by
  intro story hstory hsettled
  rcases (hmem story).mp hstory with ⟨hold, hother⟩ | rfl
  · rw [Function.update_of_ne hother]
    exact h.reaction story hold hsettled
  · rw [Function.update_self]

/-- The story that has come and the others have the paths of their files exactly if it fits. -/
lemma path_received_iff (h : s.Right)
    (hmem : ∀ story, story ∈ stories ↔ story ∈ s.stories ∧ story.cacheKey ≠ new.cacheKey ∨ story = new) :
    (∀ story ∈ stories, ∀ fileId ∈ story.mediaFileId,
      ∀ path ∈ completing s.answers.completed new.mediaFileId new.mediaLocalPath fileId,
        story.mediaLocalPath = some path) ↔ s.StoryFits new := by
  constructor
  · intro hpaths fileId hfile
    cases hlocal : new.mediaLocalPath with
    | none =>
        refine Option.eq_none_iff_forall_not_mem.mpr fun path hpath => ?_
        have hcompleted : path ∈ completing s.answers.completed new.mediaFileId new.mediaLocalPath fileId := by
          rwa [hlocal, completing_none]
        have hnew := hpaths new ((hmem new).mpr (Or.inr rfl)) fileId hfile path hcompleted
        rw [hlocal] at hnew
        cases hnew
    | some path =>
        intro story hstory hother hid
        have hafter := (hmem story).mpr (Or.inl ⟨hstory, fun hkey => hother (by rw [hkey])⟩)
        refine hpaths story hafter fileId hid path ?_
        rw [hlocal, hfile, completing_self]
        rfl
  · intro hfits story hstory fileId hid path hpath
    rcases (hmem story).mp hstory with ⟨hold, hother⟩ | rfl
    · rcases mem_completing hpath with ⟨hnewId, hnewPath⟩ | hcompleted
      · have hfile := hfits fileId hnewId
        rw [hnewPath] at hfile
        exact hfile story hold (fun hkey => hother (Option.some.inj hkey).symm) hid
      · exact h.path story hold fileId hid path hcompleted
    · have hfile := hfits fileId hid
      cases hlocal : story.mediaLocalPath with
      | none =>
          rw [hlocal] at hfile
          rw [hlocal, completing_none, hfile] at hpath
          cases hpath
      | some p =>
          rw [hlocal, hid, completing_self] at hpath
          exact hpath

/-- **A story object** is right if it fits. -/
lemma right_received_iff (h : s.Right) {event : Event} {raw : Story} (hraw : event.storyObject = some raw) :
    (s.step event).Right ↔ ∀ story ∈ parseStory raw, s.StoryFits story := by
  have hstories := storiesByKey_storyObject (m := s.manager) hraw
  have hanswers : s.answers.record event = s.answers.received raw := by
    cases event <;> cases hraw <;> rfl
  rw [step, hanswers, Answers.received]
  cases hparsed : parseStory raw with
  | none =>
      rw [hparsed] at hstories
      have hmem : ∀ story ∈ (s.manager.handle event).storiesByKey, story ∈ s.stories := by
        intro story hstory
        rwa [hstories] at hstory
      refine iff_of_true ⟨fun story hstory => ?_, fun story hstory => ?_⟩ fun story hstory => by cases hstory
      · exact h.reaction story (hmem story hstory)
      · exact h.path story (hmem story hstory)
  | some new =>
      rw [hparsed] at hstories
      have hmem : ∀ story, story ∈ (s.manager.handle event).storiesByKey ↔
          story ∈ s.stories ∧ story.cacheKey ≠ new.cacheKey ∨ story = new := by
        intro story
        rw [hstories]
        exact mem_putStory
      have hpaths := path_received_iff h hmem
      constructor
      · rintro hright _ ⟨⟩
        exact hpaths.mp hright.path
      · intro hfits
        exact ⟨reaction_received h hmem, hpaths.mpr (hfits new rfl)⟩

end Received

lemma latest_received (hlatest : s.Latest) {event : Event} {raw : Story} (hraw : event.storyObject = some raw) :
    (s.step event).Latest := by
  have hstories := storiesByKey_storyObject (m := s.manager) hraw
  have hanswers : s.answers.record event = s.answers.received raw := by
    cases event <;> cases hraw <;> rfl
  intro story hstory
  change story ∈ (s.manager.handle event).storiesByKey at hstory
  change story.chosenReactionEmoji = (s.answers.record event).latest story.cacheKey
  rw [hanswers, Answers.received]
  rw [hstories] at hstory
  cases hparsed : parseStory raw with
  | none =>
      rw [hparsed] at hstory
      exact hlatest story hstory
  | some new =>
      rw [hparsed] at hstory
      rcases mem_putStory.mp hstory with ⟨hold, hother⟩ | rfl
      · exact (hlatest story hold).trans (Function.update_of_ne hother _ _).symm
      · exact (Function.update_self story.cacheKey story.chosenReactionEmoji s.answers.latest).symm

/-- **A `file`** gives its path to the stories. -/
lemma right_file (h : s.Right) (hlatest : s.Latest) (file : File) :
    (s.step (.file file)).Right ∧ (s.step (.file file)).Latest := by
  cases hpath : localPathFromFile file with
  | none =>
      refine right_unchanged h hlatest (fun story hstory => ?_) ?_
      · change story ∈ (s.manager.handleFileResponse file).storiesByKey at hstory
        rw [handleFileResponse, hpath] at hstory
        exact hstory
      · change s.answers.reported file = s.answers
        rw [Answers.reported, hpath, completing_none]
  | some path =>
      have hcompleted : (s.step (.file file)).answers.completed =
          completing s.answers.completed (some file.id) (some path) := by rw [← hpath]; rfl
      refine ⟨⟨fun story hstory hsettled => ?_, fun story hstory fileId hid p hp => ?_⟩, fun story hstory => ?_⟩
      · obtain ⟨before, hbefore, hkey, hemoji, -, -⟩ := mem_handleFileResponse hpath hstory
        rw [hkey] at hsettled ⊢
        exact hemoji.trans (h.reaction before hbefore hsettled)
      · obtain ⟨before, hbefore, -, -, hfile, hlocal⟩ := mem_handleFileResponse hpath hstory
        rw [hfile] at hid
        rw [hcompleted] at hp
        by_cases hsame : fileId = file.id
        · subst hsame
          rw [completing_self] at hp
          rw [hlocal, if_pos (Option.mem_def.mp hid), ← Option.some.inj hp]
        · rw [completing, Function.update_of_ne hsame] at hp
          have hother : before.mediaFileId ≠ some file.id := by
            rw [hid]
            exact fun heq => hsame (Option.some.inj heq)
          rw [hlocal, if_neg hother]
          exact h.path before hbefore fileId hid p hp
      · obtain ⟨before, hbefore, hkey, hemoji, -, -⟩ := mem_handleFileResponse hpath hstory
        rw [hkey]
        exact hemoji.trans (hlatest before hbefore)

/-- **An `updateFile`** is right if the stories have its path. -/
lemma right_updateFile_iff (h : s.Right) (file : File) :
    (s.step (.updateFile file)).Right ↔ ∀ path ∈ localPathFromFile file, s.FileFits file.id path none := by
  constructor
  · intro hright path hpath story hstory _ hid
    refine hright.path story hstory file.id hid path ?_
    change path ∈ completing s.answers.completed (some file.id) (localPathFromFile file) file.id
    rw [hpath, completing_self]
    rfl
  · intro hfits
    refine ⟨h.reaction, fun story hstory fileId hid path hpath => ?_⟩
    rcases mem_completing hpath with ⟨hsame, hlocal⟩ | hcompleted
    · refine hfits path hlocal story hstory (Option.some_ne_none _).symm ?_
      rw [hsame]
      exact hid
    · exact h.path story hstory fileId hid path hcompleted

/-- What one event leaves right. -/
lemma right_step_iff (h : s.Right) (hlatest : s.Latest) (event : Event) :
    ((s.step event).Right ↔ s.Orderly event) ∧ (s.step event).Latest := by
  have hsame : (s.manager.handle event).storiesByKey = s.stories → s.answers.record event = s.answers →
      s.Orderly event → ((s.step event).Right ↔ s.Orderly event) ∧ (s.step event).Latest := by
    intro hstories hanswers horderly
    have hmem : ∀ story ∈ (s.step event).stories, story ∈ s.stories := by
      intro story hstory
      change story ∈ (s.manager.handle event).storiesByKey at hstory
      rwa [hstories] at hstory
    obtain ⟨hright, hnext⟩ := right_unchanged h hlatest hmem hanswers
    exact ⟨iff_of_true hright horderly, hnext⟩
  cases event with
  | setStoryReaction posterChatId storyId emoji =>
      obtain ⟨hright, hnext⟩ := right_react h hlatest posterChatId storyId (some emoji)
      exact ⟨iff_of_true hright trivial, hnext⟩
  | removeStoryReaction posterChatId storyId =>
      obtain ⟨hright, hnext⟩ := right_react h hlatest posterChatId storyId none
      exact ⟨iff_of_true hright trivial, hnext⟩
  | updateChatActiveStories activeStories => exact hsame (storiesByKey_handleActiveStories activeStories) rfl trivial
  | chatActiveStories activeStories => exact hsame (storiesByKey_handleActiveStories activeStories) rfl trivial
  | chat chat => exact hsame (storiesByKey_handleChatResponse chat) rfl trivial
  | updateStoryDeleted posterChatId storyId =>
      have hmem : ∀ story ∈ (s.step (.updateStoryDeleted posterChatId storyId)).stories, story ∈ s.stories := by
        intro story hstory
        change story ∈ (s.manager.handleStoryDeleted posterChatId storyId).storiesByKey at hstory
        rw [storiesByKey_handleStoryDeleted] at hstory
        exact (mem_without.mp hstory).1
      obtain ⟨hright, hnext⟩ := right_unchanged h hlatest hmem rfl
      exact ⟨iff_of_true hright trivial, hnext⟩
  | story raw => exact ⟨right_received_iff h rfl, latest_received hlatest rfl⟩
  | updateStory raw => exact ⟨right_received_iff h rfl, latest_received hlatest rfl⟩
  | updateStoryPostSucceeded raw => exact ⟨right_received_iff h rfl, latest_received hlatest rfl⟩
  | file file =>
      obtain ⟨hright, hnext⟩ := right_file h hlatest file
      exact ⟨iff_of_true hright trivial, hnext⟩
  | updateFile file => exact ⟨right_updateFile_iff h file, hlatest⟩
  | ok request =>
      have hstories := storiesByKey_handleOk (m := s.manager) request
      cases request with
      | setStoryReaction posterChatId storyId emoji =>
          exact ⟨right_answered_iff h hlatest hstories _ true, latest_answered hlatest hstories _ true⟩
      | _ => exact hsame hstories rfl trivial
  | error request message =>
      have hstories := storiesByKey_handleError (m := s.manager) request message
      cases request with
      | setStoryReaction posterChatId storyId emoji =>
          exact ⟨right_answered_iff h hlatest hstories _ false, latest_answered hlatest hstories _ false⟩
      | _ => exact hsame hstories rfl trivial
  | _ => exact hsame rfl rfl trivial

end CacheState

/-- **The runs in which the cached stories are right all along**: an answer that settles a story's reaction leaves
it at what was asked for or received last, and story objects and `updateFile` say of the files that are complete what
the stories have. -/
theorem cache_right_iff (events : List Event) :
    (∀ before, before <+: events → (before.foldl CacheState.step {}).Right) ↔
      Meets CacheState.step CacheState.Orderly {} events := by
  have hempty : ∀ story : StoryModel, story ∉ (CacheState.stories {}) := fun _ => List.not_mem_nil
  refine forall_prefix_iff_meets_of_invariant (J := CacheState.Latest)
    (fun s event h hlatest => CacheState.right_step_iff h hlatest event) ⟨?_, ?_⟩ ?_ events
  · exact fun story hstory => absurd hstory (hempty story)
  · exact fun story hstory => absurd hstory (hempty story)
  · exact fun story hstory => absurd hstory (hempty story)

/-- A reaction that has been removed is still shown. -/
theorem removed_reaction_not_right :
    ¬ ∀ events before : List Event, before <+: events → (before.foldl CacheState.step {}).Right := by
  intro h
  let liked : Story :=
    { id := 1, posterChatId := 7, date := 0, content := .live, chosenReactionType := some (.emoji "🔥") }
  have hright := h [.updateStory liked, .removeStoryReaction 7 1, .ok (.setStoryReaction 7 1 none)] _ List.prefix_rfl
  have hreaction := hright.reaction
  revert hreaction
  decide +kernel

end RioGram.Stories
