import Mathlib.Data.Finset.Lattice.Basic
import RioGram.Core.Patterns
import RioGram.Settings.Managers

/-!
# The managers of contacts and profiles

Both load users one by one: the contacts are loading until the last of them has come, and every profile has a flag of
its own.
-/

namespace RioGram.Settings

open Js Secret SecretChatManager Patterns

/-! ## Contacts -/

/-- Where an import from the phone book waits. -/
inductive ImportStep where
  | permission | deviceContacts | result | returned
deriving DecidableEq

/-- What it waits for. -/
inductive ImportOutcome where
  | permission (granted : Bool)
  /-- With the phone numbers of each contact. -/
  | deviceContacts (phones : List (List Str))
  /-- Also when TDLib has not answered for 30 s. -/
  | result
  | failed (error : Str)

structure ContactManager where
  pendingContactUserIds : Finset ℤ := ∅
  pendingSearchUserIds : Finset ℤ := ∅
  isLoading : Bool := false
  isSearching : Bool := false
  isImporting : Bool := false
  lastError : Option Str := none
  /-- The timer of a search is running. -/
  searchDebounce : Bool := false
  imports : List ImportStep := []
  sent : List ContactRequest := []

inductive ContactCall where
  | loadContacts
  | setSearchQuery (query : Str)
  /-- The timer of a search fires. -/
  | searchDebounced
  | addContact (userId : ℤ)
  | removeContact (userId : ℤ)
  | importFromPhoneBook
  | importGoesOn (i : ℕ) (outcome : ImportOutcome)

namespace ContactManager

variable (m : ContactManager)

def send (request : ContactRequest) : ContactManager := { m with sent := m.sent ++ [request] }

def loadContacts : ContactManager :=
  { m with isLoading := true, lastError := none, pendingContactUserIds := ∅ }.send .load

def setSearchQuery (query : Str) : ContactManager := { m with searchDebounce := decide (trimDart query ≠ []) }

def searchDebounced : ContactManager :=
  if !m.searchDebounce then m else { m with searchDebounce := false, isSearching := true }.send .search

def addContact (userId : ℤ) : ContactManager := m.send (.add userId)

def removeContact (userId : ℤ) : ContactManager := m.send (.remove userId)

def importFromPhoneBook : ContactManager :=
  { m with isImporting := true, lastError := none, imports := m.imports ++ [.permission] }

/-- An import comes to its end, with an error or without. -/
def importReturns (i : ℕ) (error : Option Str) : ContactManager :=
  { m with imports := m.imports.set i .returned, isImporting := false, lastError := error.or m.lastError }

def importGoesOn (i : ℕ) (outcome : ImportOutcome) : ContactManager :=
  match m.imports[i]?, outcome with
  | some .permission, .permission granted =>
      if !granted then m.importReturns i (some (units "Нет доступа к контактам устройства"))
      else { m with imports := m.imports.set i .deviceContacts }
  | some .deviceContacts, .deviceContacts phones =>
      -- Contacts without a number are passed over, and no more than 500 are sent.
      if (phones.filterMap (·.head?)).take 500 = [] then
        m.importReturns i (some (units "В адресной книге нет телефонов"))
      else { m with imports := m.imports.set i .result }.send .importPhoneBook
  | some .permission, .failed error => m.importReturns i (some error)
  | some .deviceContacts, .failed error => m.importReturns i (some error)
  | some .result, .result => m.importReturns i none
  | _, _ => m

def call : ContactCall → ContactManager
  | .loadContacts => m.loadContacts
  | .setSearchQuery query => m.setSearchQuery query
  | .searchDebounced => m.searchDebounced
  | .addContact userId => m.addContact userId
  | .removeContact userId => m.removeContact userId
  | .importFromPhoneBook => m.importFromPhoneBook
  | .importGoesOn i outcome => m.importGoesOn i outcome

/-- The users that come in the answer itself are taken as they are, those of whom there is only an id are asked for. -/
def handleUsers (extra : Option Str) (users userIds : List ℤ) : ContactManager :=
  let ids := userIds.filter (0 < ·)
  if extra == some (ascii "contacts_load") then
    if users ≠ [] ∨ ids = [] then { m with isLoading := false }
    else { m with pendingContactUserIds := ids.toFinset, sent := m.sent ++ ids.map .user }
  else if extra == some (ascii "contacts_search") then
    if users ≠ [] ∨ ids = [] then { m with isSearching := false }
    else { m with pendingSearchUserIds := ids.toFinset, sent := m.sent ++ ids.map .searchUser }
  else m

def handleUser (extra : Option Str) (userId : ℤ) : ContactManager :=
  if begins extra "contacts_user_" then
    let pendingContactUserIds := m.pendingContactUserIds.erase userId
    { m with pendingContactUserIds, isLoading := m.isLoading && decide (pendingContactUserIds ≠ ∅) }
  else if begins extra "contacts_search_user_" then
    let pendingSearchUserIds := m.pendingSearchUserIds.erase userId
    { m with pendingSearchUserIds, isSearching := m.isSearching && decide (pendingSearchUserIds ≠ ∅) }
  else m

def handleImportedContacts (extra : Option Str) : ContactManager :=
  if extra != some (ascii "contacts_import") then m else m.loadContacts

def handleOk (extra : Option Str) : ContactManager :=
  let m := if extra == some (ascii "contacts_search") then { m with isSearching := false } else m
  if begins extra "contacts_add_" || begins extra "contacts_remove_" then m.loadContacts else m

def handleError (extra message : Option Str) : ContactManager :=
  if !begins extra "contacts_" && extra != some (ascii "contacts_import") then m
  else
    { m with
      lastError := some (message.getD (units "Ошибка контактов"))
      isLoading := false
      isSearching := false
      isImporting := false
      pendingContactUserIds := ∅ }

def handleUpdate (extra : Option Str) : SettingsUpdate → ContactManager
  | .users users userIds => m.handleUsers extra users userIds
  | .user userId _ => m.handleUser extra userId
  | .importedContacts => m.handleImportedContacts extra
  | .ok => m.handleOk extra
  | .error message => m.handleError extra message
  | _ => m

variable {m}

lemma handleUpdate_of_other {extra : Option Str} {update : SettingsUpdate} (h : begins extra "contacts_" = false)
    (hreply : update.isReply) : m.handleUpdate extra update = m := by
  have hsearch : (extra == some (ascii "contacts_search")) = false := ne_of_begins (by decide) h
  have himport : (extra == some (ascii "contacts_import")) = false := ne_of_begins (by decide) h
  have hadd : begins extra "contacts_add_" = false := begins_of_begins (by decide) h
  have hremove : begins extra "contacts_remove_" = false := begins_of_begins (by decide) h
  cases update with
  | ok => simp [handleUpdate, handleOk, hsearch, hadd, hremove]
  | error message => exact if_pos (by rw [h, bne, himport]; rfl)
  | _ => cases hreply

end ContactManager

/-! ## Profiles -/

structure ProfileManager where
  ownUser : Option ℤ := none
  /-- The users that are known. -/
  usersById : Finset ℤ := ∅
  isLoadingOwn : Bool := false
  isSavingOwn : Bool := false
  isLoadingBlocked : Bool := false
  loadingFullInfo : Finset ℤ := ∅
  loadingCommonChats : Finset ℤ := ∅
  lastError : Option Str := none
  sent : List ProfileRequest := []

inductive ProfileCall where
  | loadOwnProfile
  | loadUserProfile (userId : ℤ)
  | loadCommonChats (userId : ℤ)
  | loadBlockedUsers
  | setName
  | setBio
  | setUsername
  | setProfilePhoto
  | blockUser (userId : ℤ)
  | unblockUser (userId : ℤ)
  | blockFromReplies (messageId : ℤ)

namespace ProfileManager

variable (m : ProfileManager)

def send (request : ProfileRequest) : ProfileManager := { m with sent := m.sent ++ [request] }

def loadOwnProfile : ProfileManager := { m with isLoadingOwn := true, lastError := none }.send .ownMe

def loadUserProfile (userId : ℤ) : ProfileManager :=
  ({ m with loadingFullInfo := insert userId m.loadingFullInfo }.send (.user userId)).send (.full userId)

def loadCommonChats (userId : ℤ) : ProfileManager :=
  { m with loadingCommonChats := insert userId m.loadingCommonChats }.send (.common userId)

def loadBlockedUsers : ProfileManager := { m with isLoadingBlocked := true, lastError := none }.send .blocked

/-- What the four changes of the own profile have in common. -/
def save (request : ProfileRequest) : ProfileManager := { m with isSavingOwn := true }.send request

def setName : ProfileManager := m.save .setName

def setBio : ProfileManager := m.save .setBio

def setUsername : ProfileManager := m.save .setUsername

def setProfilePhoto : ProfileManager := m.save .setPhoto

def blockUser (userId : ℤ) : ProfileManager := m.send (.block userId)

def unblockUser (userId : ℤ) : ProfileManager := m.send (.unblock userId)

def blockFromReplies (messageId : ℤ) : ProfileManager := m.send (.blockReplies messageId)

def call : ProfileCall → ProfileManager
  | .loadOwnProfile => m.loadOwnProfile
  | .loadUserProfile userId => m.loadUserProfile userId
  | .loadCommonChats userId => m.loadCommonChats userId
  | .loadBlockedUsers => m.loadBlockedUsers
  | .setName => m.setName
  | .setBio => m.setBio
  | .setUsername => m.setUsername
  | .setProfilePhoto => m.setProfilePhoto
  | .blockUser userId => m.blockUser userId
  | .unblockUser userId => m.unblockUser userId
  | .blockFromReplies messageId => m.blockFromReplies messageId

/-- `profile_(?:full|user|common)_(\d+)`. -/
def userIdPattern : Pattern UInt16 :=
  .seq (.literal (ascii "profile_"))
    (.seq (.alt (.literal (ascii "full")) (.alt (.literal (ascii "user")) (.literal (ascii "common"))))
      (.seq (.literal (ascii "_")) (.group (.many (fun c => 48 ≤ c && c ≤ 57) 1 true))))

def userIdFromExtra (extra : Str) : Option ℤ :=
  if extra = ascii "profile_own_full" then m.ownUser
  else
    (extra.tails.filterMap userIdPattern.matchStart).head?.bind fun found => tryParseInt (found.groups.headD [])

def handleUser (extra : Option Str) (userId : ℤ) (isSelf : Bool) : ProfileManager :=
  let m := { m with usersById := insert userId m.usersById }
  let m :=
    if extra == some (ascii "profile_own_me") || isSelf then { m with ownUser := some userId }.send .ownFull else m
  if begins extra "profile_user_" || begins extra "profile_blocked_user_" then
    { m with loadingFullInfo := m.loadingFullInfo.erase userId }
  else m

def handleUserFullInfo (extra : Option Str) : ProfileManager :=
  if !begins extra "profile_" then m
  else
    match m.userIdFromExtra (extra.getD []) with
    | none => m
    | some userId =>
        { m with
          loadingFullInfo := m.loadingFullInfo.erase userId
          isLoadingOwn := m.isLoadingOwn && extra != some (ascii "profile_own_full") }

def handleUsers (extra : Option Str) (userIds : List ℤ) : ProfileManager :=
  if extra != some (ascii "profile_blocked") then m
  else { m with sent := m.sent ++ (userIds.filter (0 < ·)).map .blockedUser }

def handleChats (extra : Option Str) (chatIds : List ℤ) : ProfileManager :=
  if !begins extra "profile_common_" then m
  else
    match tryParseInt ((extra.getD []).drop (ascii "profile_common_").length) with
    | none => m
    | some userId =>
        { m with
          loadingCommonChats := m.loadingCommonChats.erase userId
          sent := m.sent ++ (chatIds.filter (0 < ·)).map (.commonChat userId) }

/-- The users of whom nothing is known are asked for. -/
def handleBlockedSenders (extra : Option Str) (userIds : List ℤ) : ProfileManager :=
  if extra != some (ascii "profile_blocked") then m
  else
    { m with
      isLoadingBlocked := false
      sent := m.sent ++ (userIds.filter (· ∉ m.usersById)).map .blockedUser }

def handleOk (extra : Option Str) : ProfileManager :=
  if !begins extra "profile_" then m
  else if begins extra "profile_set_" then { m with isSavingOwn := false }.loadOwnProfile
  else if begins extra "profile_block_" || begins extra "profile_unblock_" then m.loadBlockedUsers
  else m

def handleError (extra message : Option Str) : ProfileManager :=
  if !begins extra "profile_" then m
  else
    { m with
      lastError := some (message.getD (units "Ошибка профиля"))
      isLoadingOwn := false
      isSavingOwn := false
      isLoadingBlocked := false
      loadingFullInfo := ∅
      loadingCommonChats := ∅ }

def handleUpdate (extra : Option Str) : SettingsUpdate → ProfileManager
  | .user userId isSelf => m.handleUser extra userId isSelf
  | .userFullInfo => m.handleUserFullInfo extra
  | .users _ userIds => m.handleUsers extra userIds
  | .chats chatIds => m.handleChats extra chatIds
  | .messageSenders userIds => m.handleBlockedSenders extra userIds
  | .updateUser userId isSelf => m.handleUser none userId isSelf
  | .ok => m.handleOk extra
  | .error message => m.handleError extra message
  | _ => m

variable {m}

lemma handleUpdate_of_other {extra : Option Str} {update : SettingsUpdate} (h : begins extra "profile_" = false)
    (hreply : update.isReply) : m.handleUpdate extra update = m := by
  cases update with
  | ok => exact if_pos (by simp [h])
  | error message => exact if_pos (by simp [h])
  | _ => cases hreply

end ProfileManager

end RioGram.Settings
