import Mathlib.Data.Int.Notation
import Mathlib.Data.List.Induction
import Mathlib.Logic.Function.Basic
import RioGram.Core.Keyed
import RioGram.Core.Reachable

/-!
# Blocking users

`ProfileManager` keeps the full infos of users and the list of those that are blocked.  `blockUser` and
`unblockUser` rebuild the full info before TDLib has answered, and an answer does not bring it back; only what TDLib
reports does.

* `guess_eq` — what calls make of a full info that has been reported.
* `blocking_right_iff` — the runs in which the full infos and the list are right.
-/

namespace RioGram.Profiles

open Keyed Reaching

/-! ## Full infos -/

structure BotCommandModel where
  command : String
  description : String
  isEphemeral : Bool := false
deriving DecidableEq

inductive BotMenuButtonKind where
  | defaultButton | commands | webApp
deriving DecidableEq

structure BotMenuButtonModel where
  kind : BotMenuButtonKind := .defaultButton
  text : String := ""
  webAppUrl : String := ""
deriving DecidableEq

structure BotInfoModel where
  shortDescription : String := ""
  description : String := ""
  commands : List BotCommandModel := []
  menuButton : BotMenuButtonModel := {}
  privacyPolicyUrl : String := ""
deriving DecidableEq

/-- `BotSettingsJson.parseBotInfo`: the commands without a name are left out. -/
def parseBotInfo (json : Option BotInfoModel) : BotInfoModel :=
  match json with
  | none => {}
  | some info => { info with commands := info.commands.filter (·.command ≠ "") }

inductive BlockList where
  | main | stories
deriving DecidableEq

/-- `userFullInfo`, as TDLib sends it. -/
structure UserFullInfo where
  bio : Option String := none
  blockList : Option BlockList := none
  canBeCalled : Bool := false
  supportsVideoCalls : Bool := false
  groupInCommonCount : ℤ := 0
  personalChatId : Option ℤ := none
  botInfo : Option BotInfoModel := none
deriving DecidableEq

structure UserProfileFullInfo where
  userId : ℤ
  bio : String := ""
  isBlocked : Bool := false
  canBeCalled : Bool := false
  supportsVideoCalls : Bool := false
  groupInCommonCount : ℤ := 0
  personalChatId : Option ℤ := none
  botInfo : BotInfoModel := {}
deriving DecidableEq

def parseUserFullInfo (json : UserFullInfo) (userId : ℤ) : UserProfileFullInfo :=
  { userId
    bio := json.bio.getD ""
    isBlocked := json.blockList = some .main
    canBeCalled := json.canBeCalled
    supportsVideoCalls := json.supportsVideoCalls
    groupInCommonCount := json.groupInCommonCount
    personalChatId := json.personalChatId
    botInfo := parseBotInfo json.botInfo }

/-! ## The list of blocked users -/

inductive MessageSender where
  | user (userId : ℤ)
  | chat (chatId : ℤ)
deriving DecidableEq

structure BlockedUserSummary where
  userId : ℤ
  displayName : Option String := none
deriving DecidableEq

/-- The users of `parseBlockedSenders`. -/
def userIds (senders : List MessageSender) : List ℤ :=
  senders.filterMap fun
    | .user userId => some userId
    | .chat _ => none

def parseBlockedSenders (senders : List MessageSender) : List BlockedUserSummary :=
  (userIds senders).map fun userId => { userId }

/-! ## The manager -/

inductive Request where
  /-- with the extra of a profile, or with that of a blocked user -/
  | getUser (userId : ℤ) (blocked : Bool)
  | getUserFullInfo (userId : ℤ)
  | getBlockedMessageSenders (offset limit : ℕ)
  /-- with the main block list, or with none -/
  | setMessageSenderBlockList (userId : ℤ) (block : Bool)
deriving DecidableEq

/-- `ProfileManager`, with the display names of the users that are known. -/
structure ProfileManager where
  usersById : ℤ → Option String := fun _ => none
  fullInfoByUserId : ℤ → Option UserProfileFullInfo := fun _ => none
  blockedUsers : List BlockedUserSummary := []
  isLoadingBlocked : Bool := false
  loadingFullInfo : List ℤ := []
  lastError : Option String := none
  sent : List Request := []

inductive Event where
  | loadUserProfile (userId : ℤ)
  | loadBlockedUsers
  | blockUser (userId : ℤ)
  | unblockUser (userId : ℤ)
  /-- the reply to `getUser` -/
  | user (userId : ℤ) (displayName : String)
  | updateUser (userId : ℤ) (displayName : String)
  /-- the reply to `getUserFullInfo` -/
  | userFullInfo (userId : ℤ) (info : UserFullInfo)
  | updateUserFullInfo (userId : ℤ) (info : UserFullInfo)
  /-- the reply to `getBlockedMessageSenders`, with all the senders that are blocked: the first hundred are in it -/
  | messageSenders (senders : List MessageSender)
  | ok (request : Request)
  | error (request : Request) (message : Option String)
deriving DecidableEq

/-- How many blocked senders are asked for. -/
def blockedLimit : ℕ := 100

namespace ProfileManager

variable (m : ProfileManager)

def fullInfoFor (userId : ℤ) : Option UserProfileFullInfo := m.fullInfoByUserId userId

def send (request : Request) : ProfileManager := { m with sent := m.sent ++ [request] }

def setFullInfo (userId : ℤ) (info : Option UserProfileFullInfo) : ProfileManager :=
  { m with fullInfoByUserId := Function.update m.fullInfoByUserId userId info }

def loadUserProfile (userId : ℤ) : ProfileManager :=
  ({ m with loadingFullInfo := m.loadingFullInfo.insert userId }.send (.getUser userId false)).send
    (.getUserFullInfo userId)

def loadBlockedUsers : ProfileManager :=
  { m with isLoadingBlocked := true, lastError := none }.send (.getBlockedMessageSenders 0 blockedLimit)

/-- The full info that `blockUser` puts in the place of what there is. -/
def blockedInfo (userId : ℤ) (existing : Option UserProfileFullInfo) : UserProfileFullInfo :=
  { userId
    bio := (existing.map (·.bio)).getD ""
    isBlocked := true
    canBeCalled := false
    supportsVideoCalls := false
    groupInCommonCount := (existing.map (·.groupInCommonCount)).getD 0
    personalChatId := existing.bind (·.personalChatId) }

/-- The full info that `unblockUser` puts in the place of what there is. -/
def unblockedInfo (userId : ℤ) (existing : UserProfileFullInfo) : UserProfileFullInfo :=
  { userId
    bio := existing.bio
    isBlocked := false
    canBeCalled := existing.canBeCalled
    supportsVideoCalls := existing.supportsVideoCalls
    groupInCommonCount := existing.groupInCommonCount
    personalChatId := existing.personalChatId }

def blockUser (userId : ℤ) : ProfileManager :=
  (m.send (.setMessageSenderBlockList userId true)).setFullInfo userId
    (some (blockedInfo userId (m.fullInfoFor userId)))

def unblockUser (userId : ℤ) : ProfileManager :=
  { m.send (.setMessageSenderBlockList userId false) with
    blockedUsers := m.blockedUsers.filter (·.userId ≠ userId) }.setFullInfo userId
      ((m.fullInfoFor userId).map (unblockedInfo userId))

/-- `parseAndCacheUser`. -/
def cacheUser (userId : ℤ) (displayName : String) : ProfileManager :=
  { m with
    usersById := Function.update m.usersById userId (some displayName)
    blockedUsers := m.blockedUsers.map fun entry =>
      if entry.userId = userId then { userId, displayName := some displayName } else entry }

def handleUser (userId : ℤ) (displayName : String) : ProfileManager :=
  { m.cacheUser userId displayName with loadingFullInfo := m.loadingFullInfo.erase userId }

def handleUserFullInfo (userId : ℤ) (info : UserFullInfo) : ProfileManager :=
  { m with loadingFullInfo := m.loadingFullInfo.erase userId }.setFullInfo userId
    (some (parseUserFullInfo info userId))

def handleUpdateUserFullInfo (userId : ℤ) (info : UserFullInfo) : ProfileManager :=
  m.setFullInfo userId (some (parseUserFullInfo info userId))

/-- The first entry of the user gets the name, which is asked for if it is not known. -/
def nameEntry (entry : BlockedUserSummary) : ProfileManager :=
  let named : ProfileManager :=
    { m with
      blockedUsers := modifyFirst (fun b => b.userId = entry.userId)
        (fun _ => { userId := entry.userId, displayName := m.usersById entry.userId }) m.blockedUsers }
  if m.usersById entry.userId = none then named.send (.getUser entry.userId true) else named

def handleBlockedSenders (senders : List MessageSender) : ProfileManager :=
  (parseBlockedSenders senders).foldl nameEntry
    { m with blockedUsers := parseBlockedSenders senders, isLoadingBlocked := false }

def handleOk : Request → ProfileManager
  | .setMessageSenderBlockList _ _ => m.loadBlockedUsers
  | _ => m

def handleError (message : Option String) : ProfileManager :=
  { m with
    lastError := some (message.getD "Ошибка профиля")
    isLoadingBlocked := false
    loadingFullInfo := [] }

def handle : Event → ProfileManager
  | .loadUserProfile userId => m.loadUserProfile userId
  | .loadBlockedUsers => m.loadBlockedUsers
  | .blockUser userId => m.blockUser userId
  | .unblockUser userId => m.unblockUser userId
  | .user userId displayName => m.handleUser userId displayName
  | .updateUser userId displayName => m.cacheUser userId displayName
  | .userFullInfo userId info => m.handleUserFullInfo userId info
  | .updateUserFullInfo userId info => m.handleUpdateUserFullInfo userId info
  | .messageSenders senders => m.handleBlockedSenders (senders.take blockedLimit)
  | .ok request => m.handleOk request
  | .error _ message => m.handleError message

end ProfileManager

/-! ## What TDLib has said -/

structure BlockRequest where
  userId : ℤ
  block : Bool
deriving DecidableEq

structure Answers where
  /-- the requests that have not been answered -/
  pending : List BlockRequest := []
  /-- what the last successful request or report says of users -/
  blocked : ℤ → Option Bool := fun _ => none
  /-- the full infos that were reported last -/
  reported : ℤ → Option UserProfileFullInfo := fun _ => none
  /-- the calls for users since these reports, `true` for `blockUser` -/
  calls : ℤ → List Bool := fun _ => []
  /-- all who are blocked, as of the last reload, if no request has succeeded since -/
  listed : Option (List MessageSender) := none
  /-- the users for whom `unblockUser` was called since the last reload -/
  unblocked : List ℤ := []

namespace Answers

variable (a : Answers)

/-- No request for the user waits for its answer. -/
def Settled (userId : ℤ) : Prop := ∀ request ∈ a.pending, request.userId ≠ userId

instance (userId : ℤ) : Decidable (a.Settled userId) :=
  inferInstanceAs (Decidable (∀ request ∈ a.pending, request.userId ≠ userId))

def called (userId : ℤ) (block : Bool) : Answers :=
  { a with
    pending := a.pending ++ [⟨userId, block⟩]
    calls := Function.update a.calls userId (a.calls userId ++ [block])
    unblocked := if block then a.unblocked else userId :: a.unblocked }

/-- What the answer says of the user. -/
def outcome (request : BlockRequest) (accepted : Bool) : Option Bool :=
  if accepted then some request.block else a.blocked request.userId

def answered (request : BlockRequest) (accepted : Bool) : Answers :=
  if request ∈ a.pending then
    { a with
      pending := a.pending.erase request
      blocked := Function.update a.blocked request.userId (a.outcome request accepted)
      listed := if accepted then none else a.listed }
  else a

def told (userId : ℤ) (info : UserProfileFullInfo) : Answers :=
  { a with
    blocked := Function.update a.blocked userId (some info.isBlocked)
    reported := Function.update a.reported userId (some info)
    calls := Function.update a.calls userId [] }

def reloaded (senders : List MessageSender) : Answers := { a with listed := some senders, unblocked := [] }

def record : Event → Answers
  | .blockUser userId => a.called userId true
  | .unblockUser userId => a.called userId false
  | .userFullInfo userId info | .updateUserFullInfo userId info => a.told userId (parseUserFullInfo info userId)
  | .messageSenders senders => a.reloaded senders
  | .ok (.setMessageSenderBlockList userId block) => a.answered ⟨userId, block⟩ true
  | .error (.setMessageSenderBlockList userId block) _ => a.answered ⟨userId, block⟩ false
  | _ => a

section Answered

variable {a} {request : BlockRequest} (h : request ∈ a.pending) (accepted : Bool)

include h

lemma pending_answered : (a.answered request accepted).pending = a.pending.erase request := by
  rw [answered, if_pos h]

lemma blocked_answered : (a.answered request accepted).blocked =
    Function.update a.blocked request.userId (a.outcome request accepted) := by
  rw [answered, if_pos h]

lemma listed_answered : (a.answered request accepted).listed = if accepted then none else a.listed := by
  rw [answered, if_pos h]

end Answered

lemma reported_answered (request : BlockRequest) (accepted : Bool) :
    (a.answered request accepted).reported = a.reported := by
  rw [answered]
  split_ifs <;> rfl

lemma calls_answered (request : BlockRequest) (accepted : Bool) :
    (a.answered request accepted).calls = a.calls := by
  rw [answered]
  split_ifs <;> rfl

lemma unblocked_answered (request : BlockRequest) (accepted : Bool) :
    (a.answered request accepted).unblocked = a.unblocked := by
  rw [answered]
  split_ifs <;> rfl

/-- What was called for last, or reported if that was later. -/
def latest (userId : ℤ) : Option Bool :=
  (a.calls userId).getLast?.or ((a.reported userId).map (·.isBlocked))

end Answers

/-! ## Runs -/

structure State where
  manager : ProfileManager := {}
  answers : Answers := {}

/-- The calls leave the other fields of the full info as they were. -/
def Harmless (calls : List Bool) (info : UserProfileFullInfo) : Prop :=
  calls = [] ∨ info.botInfo = {} ∧ (true ∈ calls → info.canBeCalled = false ∧ info.supportsVideoCalls = false)

namespace State

variable (s : State)

def step (event : Event) : State := { manager := s.manager.handle event, answers := s.answers.record event }

/-- For a user with no request that waits for its answer, the full info says of blocking what was said last and of
all else what was reported, and after a reload the user is in the list exactly if blocked. -/
structure Right : Prop where
  isBlocked : ∀ userId, s.answers.Settled userId → ∀ info ∈ s.manager.fullInfoFor userId,
    s.answers.blocked userId = some info.isBlocked
  others : ∀ userId, s.answers.Settled userId → ∀ info ∈ s.manager.fullInfoFor userId,
    ∀ reported ∈ s.answers.reported userId, { info with isBlocked := reported.isBlocked } = reported
  listed : ∀ senders ∈ s.answers.listed, ∀ userId, s.answers.Settled userId →
    (userId ∈ s.manager.blockedUsers.map (·.userId) ↔ userId ∈ userIds senders)

/-- No other request for the user waits for its answer. -/
def IsLast (request : BlockRequest) : Prop :=
  request ∈ s.answers.pending ∧ ∀ other ∈ s.answers.pending.erase request, other.userId ≠ request.userId

/-- The last answer for a user who has a full info is what was called for or reported last, and the calls have not
done it any harm. -/
def InfoFits (request : BlockRequest) (accepted : Bool) : Prop :=
  s.manager.fullInfoFor request.userId ≠ none →
    s.answers.latest request.userId = s.answers.outcome request accepted ∧
      ∀ reported ∈ s.answers.reported request.userId, Harmless (s.answers.calls request.userId) reported

/-- A user who is blocked is among the first of those that were listed, and was not called to be unblocked. -/
def ListFits (userId : ℤ) : Prop :=
  ∀ senders ∈ s.answers.listed, userId ∈ userIds senders →
    userId ∈ userIds (senders.take blockedLimit) ∧ userId ∉ s.answers.unblocked

/-- Answers fit, and no one who is blocked and has no request waiting is beyond the first hundred. -/
def Orderly : Event → Prop
  | .ok (.setMessageSenderBlockList userId block) => s.IsLast ⟨userId, block⟩ → s.InfoFits ⟨userId, block⟩ true
  | .error (.setMessageSenderBlockList userId block) _ =>
      s.IsLast ⟨userId, block⟩ → s.InfoFits ⟨userId, block⟩ false ∧ s.ListFits userId
  | .messageSenders senders =>
      ∀ userId, s.answers.Settled userId → userId ∈ userIds senders → userId ∈ userIds (senders.take blockedLimit)
  | _ => True

end State

/-! ## What the calls make of a full info -/

/-- What `blockUser` and `unblockUser` make of the full info that there is. -/
def call (userId : ℤ) (existing : Option UserProfileFullInfo) (block : Bool) : Option UserProfileFullInfo :=
  if block then some (ProfileManager.blockedInfo userId existing)
  else existing.map (ProfileManager.unblockedInfo userId)

/-- The full info after the calls. -/
def guess (userId : ℤ) (reported : Option UserProfileFullInfo) (calls : List Bool) : Option UserProfileFullInfo :=
  calls.foldl (call userId) reported

lemma guess_concat (userId : ℤ) (reported : Option UserProfileFullInfo) (calls : List Bool) (block : Bool) :
    guess userId reported (calls ++ [block]) = call userId (guess userId reported calls) block :=
  List.foldl_concat _ _ _ _

/-- **The calls** keep the bio, the count and the personal chat, and nothing of the bot. -/
lemma guess_eq {info : UserProfileFullInfo} (calls : List Bool) :
    guess info.userId (some info) calls =
      some
        { info with
          isBlocked := calls.getLast?.getD info.isBlocked
          canBeCalled := info.canBeCalled && !calls.contains true
          supportsVideoCalls := info.supportsVideoCalls && !calls.contains true
          botInfo := if calls = [] then info.botInfo else {} } := by
  induction calls using List.reverseRecOn with
  | nil => simp [guess]
  | append_singleton calls block ih =>
      rw [guess_concat, ih]
      cases block <;> simp [call, ProfileManager.blockedInfo, ProfileManager.unblockedInfo]

/-- A full info says of blocking what was called for last, or reported if nothing was. -/
lemma isBlocked_guess {userId : ℤ} {reported : Option UserProfileFullInfo} {calls : List Bool}
    {info : UserProfileFullInfo} (h : guess userId reported calls = some info) :
    calls.getLast?.or (reported.map (·.isBlocked)) = some info.isBlocked := by
  induction calls using List.reverseRecOn generalizing info with
  | nil =>
      change reported = some info at h
      rw [h]
      rfl
  | append_singleton calls block ih =>
      rw [guess_concat] at h
      rw [List.getLast?_concat, Option.some_or]
      cases block with
      | true =>
          rw [call, if_pos rfl] at h
          rw [← Option.some.inj h]
          rfl
      | false =>
          rw [call, if_neg Bool.false_ne_true] at h
          obtain ⟨before, -, rfl⟩ := Option.map_eq_some_iff.mp h
          rfl

/-- The other fields are as they were reported exactly if the calls were harmless. -/
lemma others_guess_iff {info guessed : UserProfileFullInfo} {calls : List Bool}
    (h : guess info.userId (some info) calls = some guessed) :
    { guessed with isBlocked := info.isBlocked } = info ↔ Harmless calls info := by
  rw [guess_eq, Option.some_inj] at h
  subst h
  obtain ⟨userId, bio, isBlocked, canBeCalled, supportsVideoCalls, groupInCommonCount, personalChatId, botInfo⟩ := info
  by_cases hcalls : calls = []
  · simp [Harmless, hcalls]
  · by_cases hblock : true ∈ calls
    · simp [Harmless, hcalls, hblock, and_comm, and_assoc, eq_comm]
    · simp [Harmless, hcalls, hblock, eq_comm]

/-! ## The list after a reload -/

lemma userIds_take_subset {senders : List MessageSender} {userId : ℤ} {limit : ℕ}
    (h : userId ∈ userIds (senders.take limit)) : userId ∈ userIds senders :=
  ((List.take_sublist limit senders).filterMap _).subset h

namespace ProfileManager

/-- The ids of the list. -/
def blockedIds (m : ProfileManager) : List ℤ := m.blockedUsers.map (·.userId)

lemma blockedIds_cacheUser (m : ProfileManager) (userId : ℤ) (displayName : String) :
    (m.cacheUser userId displayName).blockedIds = m.blockedIds := by
  rw [blockedIds, cacheUser, List.map_map]
  refine List.map_congr_left fun entry _ => ?_
  by_cases h : entry.userId = userId
  · simp [h]
  · simp [h]

lemma nameEntry_eq (m : ProfileManager) (entry : BlockedUserSummary) :
    (m.nameEntry entry).blockedIds = m.blockedIds ∧ (m.nameEntry entry).fullInfoByUserId = m.fullInfoByUserId := by
  have hids := map_modifyFirst (p := fun b : BlockedUserSummary => b.userId = entry.userId)
    (f := fun _ => { userId := entry.userId, displayName := m.usersById entry.userId }) (g := (·.userId))
    (fun b hb => (of_decide_eq_true hb).symm) m.blockedUsers
  rw [nameEntry]
  split_ifs
  · exact ⟨hids, rfl⟩
  · exact ⟨hids, rfl⟩

/-- Naming the entries changes neither the ids nor a full info. -/
lemma foldl_nameEntry_eq (m : ProfileManager) (entries : List BlockedUserSummary) :
    (entries.foldl nameEntry m).blockedIds = m.blockedIds ∧
      (entries.foldl nameEntry m).fullInfoByUserId = m.fullInfoByUserId := by
  induction entries generalizing m with
  | nil => exact ⟨rfl, rfl⟩
  | cons entry entries ih =>
      obtain ⟨hids, hinfo⟩ := m.nameEntry_eq entry
      obtain ⟨hrestIds, hrestInfo⟩ := ih (m.nameEntry entry)
      exact ⟨hrestIds.trans hids, hrestInfo.trans hinfo⟩

lemma handleBlockedSenders_eq (m : ProfileManager) (senders : List MessageSender) :
    (m.handleBlockedSenders senders).blockedIds = userIds senders ∧
      (m.handleBlockedSenders senders).fullInfoByUserId = m.fullInfoByUserId := by
  obtain ⟨hids, hinfo⟩ := foldl_nameEntry_eq
    { m with blockedUsers := parseBlockedSenders senders, isLoadingBlocked := false } (parseBlockedSenders senders)
  refine ⟨hids.trans ?_, hinfo⟩
  rw [blockedIds, parseBlockedSenders, List.map_map]
  exact List.map_id _

end ProfileManager

/-! ## Steps -/

namespace State

variable {s : State}

/-- What the manager has is what the calls have made of what has been reported and listed. -/
structure Tracks (s : State) : Prop where
  info : ∀ userId, s.manager.fullInfoFor userId = guess userId (s.answers.reported userId) (s.answers.calls userId)
  userId : ∀ userId, ∀ reported ∈ s.answers.reported userId, reported.userId = userId
  ids : ∀ senders ∈ s.answers.listed, ∀ userId, userId ∈ s.manager.blockedIds ↔
    userId ∈ userIds (senders.take blockedLimit) ∧ userId ∉ s.answers.unblocked

/-- A full info and what has been called for and reported. -/
lemma Tracks.latest_eq (h : s.Tracks) {userId : ℤ} {info : UserProfileFullInfo}
    (hinfo : s.manager.fullInfoFor userId = some info) : s.answers.latest userId = some info.isBlocked :=
  isBlocked_guess ((h.info userId).symm.trans hinfo)

lemma Tracks.others_iff (h : s.Tracks) {userId : ℤ} {info reported : UserProfileFullInfo}
    (hinfo : s.manager.fullInfoFor userId = some info) (hreported : s.answers.reported userId = some reported) :
    { info with isBlocked := reported.isBlocked } = reported ↔ Harmless (s.answers.calls userId) reported := by
  have hid := h.userId userId reported hreported
  have hguess := (h.info userId).symm.trans hinfo
  rw [hreported, ← hid] at hguess
  rw [others_guess_iff hguess, hid]

/-- The list is right for a user exactly if it fits. -/
lemma Tracks.listFits_iff (h : s.Tracks) (userId : ℤ) :
    s.ListFits userId ↔
      ∀ senders ∈ s.answers.listed, (userId ∈ s.manager.blockedIds ↔ userId ∈ userIds senders) := by
  refine forall₂_congr fun senders hsenders => ?_
  rw [h.ids senders hsenders]
  exact ⟨fun hfits => ⟨fun hshown => userIds_take_subset hshown.1, hfits⟩, fun hiff => hiff.mpr⟩

/-- The full info is right for a user exactly if it fits. -/
lemma Tracks.infoFits_iff (h : s.Tracks) (request : BlockRequest) (accepted : Bool) :
    s.InfoFits request accepted ↔
      ∀ info ∈ s.manager.fullInfoFor request.userId, s.answers.outcome request accepted = some info.isBlocked ∧
        ∀ reported ∈ s.answers.reported request.userId,
          { info with isBlocked := reported.isBlocked } = reported := by
  rw [InfoFits]
  cases hinfo : s.manager.fullInfoFor request.userId with
  | none => simp
  | some info =>
      rw [h.latest_eq hinfo, forall_prop_of_true (Option.some_ne_none info)]
      simp only [Option.mem_def, Option.some.injEq, forall_eq']
      refine and_congr eq_comm (forall₂_congr fun reported hreported => ?_)
      exact (h.others_iff hinfo hreported).symm

/-- What is right for one user. -/
structure RightFor (m : ProfileManager) (a : Answers) (userId : ℤ) : Prop where
  info : ∀ info ∈ m.fullInfoFor userId, a.blocked userId = some info.isBlocked ∧
    ∀ reported ∈ a.reported userId, { info with isBlocked := reported.isBlocked } = reported
  listed : ∀ senders ∈ a.listed, (userId ∈ m.blockedIds ↔ userId ∈ userIds senders)

lemma right_iff : s.Right ↔ ∀ userId, s.answers.Settled userId → RightFor s.manager s.answers userId := by
  constructor
  · intro h userId hsettled
    refine ⟨fun info hinfo => ⟨h.isBlocked userId hsettled info hinfo, h.others userId hsettled info hinfo⟩, ?_⟩
    exact fun senders hsenders => h.listed senders hsenders userId hsettled
  · intro h
    refine ⟨fun userId hsettled info hinfo => ?_, fun userId hsettled info hinfo => ?_, ?_⟩
    · exact ((h userId hsettled).info info hinfo).1
    · exact ((h userId hsettled).info info hinfo).2
    · exact fun senders hsenders userId hsettled => (h userId hsettled).listed senders hsenders

section Answered

variable {m : ProfileManager} (hinfo : m.fullInfoByUserId = s.manager.fullInfoByUserId)
  (hids : m.blockedIds = s.manager.blockedIds) {request : BlockRequest} (accepted : Bool)

include hinfo hids

/-- What an answer says is right for its user if it fits. -/
lemma Tracks.rightFor_answered_iff (ht : s.Tracks) (hpending : request ∈ s.answers.pending) :
    RightFor m (s.answers.answered request accepted) request.userId ↔
      s.InfoFits request accepted ∧ (accepted = false → s.ListFits request.userId) := by
  have hfull : m.fullInfoFor request.userId = s.manager.fullInfoFor request.userId := congrFun hinfo _
  rw [ht.infoFits_iff, ht.listFits_iff]
  constructor
  · rintro ⟨hinfo, hlisted⟩
    rw [hfull, Answers.blocked_answered hpending, Function.update_self, Answers.reported_answered] at hinfo
    rw [Answers.listed_answered hpending, hids] at hlisted
    refine ⟨hinfo, fun hrejected => ?_⟩
    rwa [hrejected, if_neg Bool.false_ne_true] at hlisted
  · rintro ⟨hinfo, hlisted⟩
    refine ⟨?_, ?_⟩
    · rwa [hfull, Answers.blocked_answered hpending, Function.update_self, Answers.reported_answered]
    · rw [Answers.listed_answered hpending, hids]
      cases accepted with
      | true => exact fun senders hsenders => by cases hsenders
      | false => exact hlisted rfl

/-- For another user an answer leaves all as it is, or the list to be reloaded. -/
lemma rightFor_answered_of_ne {userId : ℤ} (h : RightFor s.manager s.answers userId)
    (hpending : request ∈ s.answers.pending) (hne : userId ≠ request.userId) :
    RightFor m (s.answers.answered request accepted) userId := by
  have hfull : m.fullInfoFor userId = s.manager.fullInfoFor userId := congrFun hinfo _
  refine ⟨?_, ?_⟩
  · rw [hfull, Answers.blocked_answered hpending, Function.update_of_ne hne, Answers.reported_answered]
    exact h.info
  · rw [Answers.listed_answered hpending, hids]
    cases accepted with
    | true => exact fun senders hsenders => by cases hsenders
    | false => exact h.listed

/-- **An answer** is right if it fits, and so is the list if it is a rejection. -/
lemma Tracks.right_answered_iff (ht : s.Tracks) (h : s.Right) (request : BlockRequest) :
    ({ manager := m, answers := s.answers.answered request accepted } : State).Right ↔
      (s.IsLast request → s.InfoFits request accepted ∧ (accepted = false → s.ListFits request.userId)) := by
  rw [right_iff] at h ⊢
  by_cases hpending : request ∈ s.answers.pending
  · rw [← ht.rightFor_answered_iff hinfo hids accepted hpending]
    have hsettled : ∀ userId, (s.answers.answered request accepted).Settled userId ↔
        ∀ other ∈ s.answers.pending.erase request, other.userId ≠ userId := by
      intro userId
      rw [Answers.Settled, Answers.pending_answered hpending]
    constructor
    · intro hright hlast
      exact hright request.userId ((hsettled _).mpr hlast.2)
    · intro hfits userId hnext
      by_cases hsame : userId = request.userId
      · subst hsame
        exact hfits ⟨hpending, (hsettled _).mp hnext⟩
      · refine rightFor_answered_of_ne hinfo hids accepted (h userId fun other hother => ?_) hpending hsame
        by_cases hanswered : other = request
        · rw [hanswered]
          exact Ne.symm hsame
        · exact (hsettled userId).mp hnext other ((List.mem_erase_of_ne hanswered).mpr hother)
  · have hnext : s.answers.answered request accepted = s.answers := if_neg hpending
    rw [hnext]
    refine iff_of_true (fun userId hsettled => ?_) fun hlast => absurd hlast.1 hpending
    have hfull : m.fullInfoFor userId = s.manager.fullInfoFor userId := congrFun hinfo _
    obtain ⟨hbefore, hlist⟩ := h userId hsettled
    exact ⟨by rwa [hfull], by rwa [hids]⟩

end Answered

/-- **A call** leaves the other users as they are. -/
lemma right_called (h : s.Right) {m : ProfileManager} {userId : ℤ} {block : Bool}
    (hinfo : ∀ other, other ≠ userId → m.fullInfoFor other = s.manager.fullInfoFor other)
    (hids : ∀ other, other ≠ userId → (other ∈ m.blockedIds ↔ other ∈ s.manager.blockedIds)) :
    ({ manager := m, answers := s.answers.called userId block } : State).Right := by
  rw [right_iff] at h ⊢
  intro other hsettled
  have hne : other ≠ userId := (hsettled ⟨userId, block⟩ (List.mem_append_right _ (List.mem_singleton_self _))).symm
  have hbefore := h other fun request hrequest => hsettled request (List.mem_append_left _ hrequest)
  refine ⟨?_, fun senders hsenders => ?_⟩
  · rw [hinfo other hne]
    exact hbefore.info
  · rw [hids other hne]
    exact hbefore.listed senders hsenders

lemma Tracks.called (h : s.Tracks) {m : ProfileManager} {userId : ℤ} {block : Bool}
    (hinfo : m.fullInfoByUserId =
      Function.update s.manager.fullInfoByUserId userId (call userId (s.manager.fullInfoFor userId) block))
    (hids : m.blockedIds = s.manager.blockedIds.filter fun other => block ∨ other ≠ userId) :
    ({ manager := m, answers := s.answers.called userId block } : State).Tracks := by
  refine ⟨fun other => ?_, h.userId, fun senders hsenders other => ?_⟩
  · change m.fullInfoByUserId other =
      guess other (s.answers.reported other) (Function.update s.answers.calls userId _ other)
    rw [hinfo]
    by_cases hsame : other = userId
    · subst hsame
      rw [Function.update_self, Function.update_self, guess_concat, ← h.info other]
    · rw [Function.update_of_ne hsame, Function.update_of_ne hsame]
      exact h.info other
  · change other ∈ m.blockedIds ↔ _ ∧ other ∉ (if block then s.answers.unblocked else userId :: s.answers.unblocked)
    rw [hids, List.mem_filter, h.ids senders hsenders]
    cases block with
    | true => simp
    | false => simp [and_assoc, and_comm]

/-- **A report** is taken over. -/
lemma right_told (h : s.Right) {m : ProfileManager} (info : UserProfileFullInfo)
    (hinfo : m.fullInfoByUserId = Function.update s.manager.fullInfoByUserId info.userId (some info))
    (hids : m.blockedIds = s.manager.blockedIds) :
    ({ manager := m, answers := s.answers.told info.userId info } : State).Right := by
  rw [right_iff] at h ⊢
  intro userId hsettled
  obtain ⟨hbefore, hlisted⟩ := h userId hsettled
  refine ⟨?_, by rwa [hids]⟩
  have hfull : m.fullInfoFor userId = Function.update s.manager.fullInfoByUserId info.userId (some info) userId :=
    congrFun hinfo userId
  rw [hfull, Answers.told]
  by_cases hsame : userId = info.userId
  · subst hsame
    simp
  · simp only [Function.update_of_ne hsame]
    exact hbefore

lemma Tracks.told (h : s.Tracks) {m : ProfileManager} (info : UserProfileFullInfo)
    (hinfo : m.fullInfoByUserId = Function.update s.manager.fullInfoByUserId info.userId (some info))
    (hids : m.blockedIds = s.manager.blockedIds) :
    ({ manager := m, answers := s.answers.told info.userId info } : State).Tracks := by
  have hfull : ∀ userId, m.fullInfoFor userId =
      Function.update s.manager.fullInfoByUserId info.userId (some info) userId := congrFun hinfo
  refine ⟨fun userId => ?_, fun userId => ?_, fun senders hsenders userId => ?_⟩
  · rw [hfull, Answers.told]
    by_cases hsame : userId = info.userId
    · subst hsame
      simp [guess]
    · simp only [Function.update_of_ne hsame]
      exact h.info userId
  · rw [Answers.told]
    by_cases hsame : userId = info.userId
    · subst hsame
      simp
    · simp only [Function.update_of_ne hsame]
      exact h.userId userId
  · rw [hids]
    exact h.ids senders hsenders userId

/-- **A reload** shows the first hundred. -/
lemma right_reloaded_iff (h : s.Right) {m : ProfileManager} (senders : List MessageSender)
    (hinfo : m.fullInfoByUserId = s.manager.fullInfoByUserId)
    (hids : m.blockedIds = userIds (senders.take blockedLimit)) :
    ({ manager := m, answers := s.answers.reloaded senders } : State).Right ↔
      ∀ userId, s.answers.Settled userId → userId ∈ userIds senders →
        userId ∈ userIds (senders.take blockedLimit) := by
  rw [right_iff] at h ⊢
  refine forall₂_congr fun userId hsettled => ?_
  have hfull : m.fullInfoFor userId = s.manager.fullInfoFor userId := congrFun hinfo userId
  constructor
  · intro hright
    have hlisted := hright.listed senders rfl
    rw [hids] at hlisted
    exact hlisted.mpr
  · intro hfirst
    refine ⟨?_, ?_⟩
    · rw [hfull]
      exact (h userId hsettled).info
    · rintro _ ⟨⟩
      rw [hids]
      exact ⟨userIds_take_subset, hfirst⟩

lemma Tracks.reloaded (h : s.Tracks) {m : ProfileManager} (senders : List MessageSender)
    (hinfo : m.fullInfoByUserId = s.manager.fullInfoByUserId)
    (hids : m.blockedIds = userIds (senders.take blockedLimit)) :
    ({ manager := m, answers := s.answers.reloaded senders } : State).Tracks := by
  refine ⟨fun userId => (congrFun hinfo userId).trans (h.info userId), h.userId, ?_⟩
  rintro _ ⟨⟩ userId
  rw [hids]
  exact (and_iff_left List.not_mem_nil).symm

lemma Tracks.answered (h : s.Tracks) {m : ProfileManager} (request : BlockRequest) (accepted : Bool)
    (hinfo : m.fullInfoByUserId = s.manager.fullInfoByUserId) (hids : m.blockedIds = s.manager.blockedIds) :
    ({ manager := m, answers := s.answers.answered request accepted } : State).Tracks := by
  refine ⟨fun userId => ?_, fun userId => ?_, fun senders hsenders userId => ?_⟩
  · rw [Answers.reported_answered, Answers.calls_answered]
    exact (congrFun hinfo userId).trans (h.info userId)
  · rw [Answers.reported_answered]
    exact h.userId userId
  · rw [Answers.unblocked_answered, hids]
    refine h.ids senders ?_ userId
    by_cases hpending : request ∈ s.answers.pending
    · rw [Answers.listed_answered hpending] at hsenders
      cases accepted with
      | true => cases hsenders
      | false => exact hsenders
    · rwa [Answers.answered, if_neg hpending] at hsenders

/-- An event that is nothing to the full infos and the ids of the list, and of which nothing is noted. -/
lemma right_unchanged (h : s.Right) (ht : s.Tracks) {m : ProfileManager}
    (hinfo : m.fullInfoByUserId = s.manager.fullInfoByUserId) (hids : m.blockedIds = s.manager.blockedIds) :
    ({ manager := m, answers := s.answers } : State).Right ∧
      ({ manager := m, answers := s.answers } : State).Tracks := by
  have hfull : ∀ userId, m.fullInfoFor userId = s.manager.fullInfoFor userId := congrFun hinfo
  constructor
  · rw [right_iff] at h ⊢
    intro userId hsettled
    obtain ⟨hbefore, hlisted⟩ := h userId hsettled
    exact ⟨by rwa [hfull], by rwa [hids]⟩
  · refine ⟨fun userId => (hfull userId).trans (ht.info userId), ht.userId, fun senders hsenders userId => ?_⟩
    rw [hids]
    exact ht.ids senders hsenders userId

/-- What one event leaves right. -/
lemma right_step_iff (h : s.Right) (ht : s.Tracks) (event : Event) :
    ((s.step event).Right ↔ s.Orderly event) ∧ (s.step event).Tracks := by
  have hsame : ∀ {m : ProfileManager}, m.fullInfoByUserId = s.manager.fullInfoByUserId →
      m.blockedIds = s.manager.blockedIds → (({ manager := m, answers := s.answers } : State).Right ↔ True) ∧
        ({ manager := m, answers := s.answers } : State).Tracks := by
    intro m hinfo hids
    obtain ⟨hright, htracks⟩ := right_unchanged h ht hinfo hids
    exact ⟨iff_true_intro hright, htracks⟩
  cases event with
  | loadUserProfile userId => exact hsame rfl rfl
  | loadBlockedUsers => exact hsame rfl rfl
  | user userId displayName => exact hsame rfl (s.manager.blockedIds_cacheUser userId displayName)
  | updateUser userId displayName => exact hsame rfl (s.manager.blockedIds_cacheUser userId displayName)
  | blockUser userId =>
      have hids : (s.manager.blockUser userId).blockedIds =
          s.manager.blockedIds.filter fun other => true ∨ other ≠ userId := by simp; rfl
      refine ⟨iff_of_true (right_called h (fun other hne => Function.update_of_ne hne _ _) fun other hne => ?_) trivial,
        ht.called rfl hids⟩
      exact Iff.rfl
  | unblockUser userId =>
      have hids : (s.manager.unblockUser userId).blockedIds =
          s.manager.blockedIds.filter fun other => false ∨ other ≠ userId := by
        simp [ProfileManager.blockedIds, ProfileManager.unblockUser, ProfileManager.setFullInfo, List.filter_map,
          Function.comp_def]
      refine ⟨iff_of_true (right_called h (fun other hne => Function.update_of_ne hne _ _) fun other hne => ?_) trivial,
        ht.called rfl hids⟩
      change other ∈ (s.manager.unblockUser userId).blockedIds ↔ _
      rw [hids, List.mem_filter]
      simp [hne]
  | userFullInfo userId info =>
      have hinfo : (s.manager.handleUserFullInfo userId info).fullInfoByUserId = Function.update
        s.manager.fullInfoByUserId userId (some (parseUserFullInfo info userId)) := rfl
      exact ⟨iff_of_true (right_told h (parseUserFullInfo info userId) hinfo rfl) trivial,
        ht.told (parseUserFullInfo info userId) hinfo rfl⟩
  | updateUserFullInfo userId info =>
      have hinfo : (s.manager.handleUpdateUserFullInfo userId info).fullInfoByUserId = Function.update
        s.manager.fullInfoByUserId userId (some (parseUserFullInfo info userId)) := rfl
      exact ⟨iff_of_true (right_told h (parseUserFullInfo info userId) hinfo rfl) trivial,
        ht.told (parseUserFullInfo info userId) hinfo rfl⟩
  | messageSenders senders =>
      obtain ⟨hids, hinfo⟩ := s.manager.handleBlockedSenders_eq (senders.take blockedLimit)
      exact ⟨right_reloaded_iff h senders hinfo hids, ht.reloaded senders hinfo hids⟩
  | ok request =>
      cases request with
      | setMessageSenderBlockList userId block =>
          have hiff := ht.right_answered_iff (m := s.manager.loadBlockedUsers) rfl rfl true h ⟨userId, block⟩
          refine ⟨hiff.trans ?_, ht.answered ⟨userId, block⟩ true rfl rfl⟩
          simp [Orderly]
      | _ => exact hsame rfl rfl
  | error request message =>
      cases request with
      | setMessageSenderBlockList userId block =>
          have hiff := ht.right_answered_iff (m := s.manager.handleError message) rfl rfl false h ⟨userId, block⟩
          refine ⟨hiff.trans ?_, ht.answered ⟨userId, block⟩ false rfl rfl⟩
          simp [Orderly]
      | _ => exact hsame rfl rfl

lemma right_start : Right {} := by
  refine ⟨?_, ?_, ?_⟩
  · intro userId _ info hinfo
    cases hinfo
  · intro userId _ info hinfo
    cases hinfo
  · intro senders hsenders
    cases hsenders

lemma tracks_start : Tracks {} := by
  refine ⟨fun userId => rfl, ?_, ?_⟩
  · intro userId reported hreported
    cases hreported
  · intro senders hsenders
    cases hsenders

end State

/-- **The runs in which blocking is right all along**: the last answer for a user is what was called for or reported
last, the calls have done the full info no harm, a user who stays blocked was not called to be unblocked since the
last reload, and no one is beyond the first hundred of the list. -/
theorem blocking_right_iff (events : List Event) :
    (∀ before, before <+: events → (before.foldl State.step {}).Right) ↔
      Meets State.step State.Orderly {} events := by
  exact forall_prefix_iff_meets_of_invariant (J := State.Tracks)
    (fun s event h ht => State.right_step_iff h ht event) State.right_start State.tracks_start events

/-- A user who could not be blocked is shown as blocked. -/
theorem rejected_block_not_right :
    ¬ ∀ events before : List Event, before <+: events → (before.foldl State.step {}).Right := by
  intro h
  have hright := h [.updateUserFullInfo 5 {}, .blockUser 5, .error (.setMessageSenderBlockList 5 true) none] _
    List.prefix_rfl
  have hblocked := hright.isBlocked 5 (by decide) _ rfl
  revert hblocked
  decide +kernel

end RioGram.Profiles
