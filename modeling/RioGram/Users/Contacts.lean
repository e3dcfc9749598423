import Mathlib.Data.List.Dedup
import Mathlib.Data.List.Lex
import RioGram.Core.Keyed
import RioGram.Core.Reachable
import RioGram.Core.Rounds
import RioGram.Js.Strings

/-!
# Contacts

`ContactManager` loads the contacts in two stages, first their ids and then the users one by one, and searches among
them in the same way.  What comes is put into one list for each, whatever it was asked for; an error to any request
ends the load, the search and the import that are going on.

The requests that have not been answered are kept beside the manager: a load and a search are rounds of requests,
which the manager does not tell from one another.

* `contacts_right` — as long as loads do not overlap, nor searches, and errors come alone, the lists and the flags are
  right.
-/

namespace RioGram.Contacts

open Asking Js Keyed Reaching

/-! ## The manager -/

structure UserSummary where
  id : ℤ
  displayName : String
deriving DecidableEq

structure ImportedContactsResult where
  importedCount : ℕ := 0
  userIds : List ℤ := []
deriving DecidableEq

def parseUserIds (userIds : List ℤ) : List ℤ := userIds.filter (0 < ·)

inductive Request where
  | getContacts
  | searchContacts (query : Str)
  /-- with the extra of a contact, or with that of a search -/
  | getUser (userId : ℤ) (search : Bool)
  | addContact (userId : ℤ) (firstName lastName : String)
  | removeContacts (userId : ℤ)
  | importContacts
deriving DecidableEq

structure ContactManager where
  contacts : List UserSummary := []
  usersById : ℤ → Option UserSummary := fun _ => none
  filteredContacts : List UserSummary := []
  pendingContactUserIds : List ℤ := []
  pendingSearchUserIds : List ℤ := []
  isLoading : Bool := false
  isSearching : Bool := false
  isImporting : Bool := false
  searchQuery : Str := []
  lastError : Option String := none
  lastImportResult : Option ImportedContactsResult := none
  /-- The timer of a search is running. -/
  searchDebounce : Bool := false
  /-- `_pendingImportCompleter`: whether the import that made it still waits for it. -/
  pendingImport : Option Bool := none
  sent : List Request := []

inductive Call where
  | loadContacts
  | setSearchQuery (query : Str)
  /-- The timer of a search fires. -/
  | searchDebounced
  | addContact (userId : ℤ) (firstName lastName : String)
  | removeContact (userId : ℤ)
  | importFromPhoneBook
  /-- The phone book may not be read, or there is nothing in it. -/
  | importRefused (message : String)
  /-- The phone book has been read. -/
  | importSent
  /-- An import has had no result for 30 s: the one whose completer is kept, or one before it. -/
  | importTimedOut (kept : Bool)

/-- The way contacts are sorted: by `displayName.toLowerCase()`, as `compareTo` orders it. -/
abbrev NameSorting {κ : Type} [LE κ] (lowerCase : String → κ) :=
  Sorting fun user : UserSummary => lowerCase user.displayName

namespace ContactManager

variable (m : ContactManager)

/-- The contacts that are shown. -/
def shown : List UserSummary := if m.searchQuery = [] then m.contacts else m.filteredContacts

def send (request : Request) : ContactManager := { m with sent := m.sent ++ [request] }

def loadContacts : ContactManager :=
  { m with isLoading := true, lastError := none, contacts := [], pendingContactUserIds := [] }.send .getContacts

def setSearchQuery (query : Str) : ContactManager :=
  { m with
    searchQuery := trimDart query
    searchDebounce := decide (trimDart query ≠ [])
    filteredContacts := if trimDart query = [] then [] else m.filteredContacts }

def searchDebounced : ContactManager :=
  if m.searchDebounce then
    { m with searchDebounce := false, isSearching := true, filteredContacts := [] }.send
      (.searchContacts m.searchQuery)
  else m

def addContact (userId : ℤ) (firstName lastName : String) : ContactManager :=
  m.send (.addContact userId firstName lastName)

/-- Where the list of a search cannot be changed, as it is the constant `[]`, this throws at its end. -/
def removeContact (userId : ℤ) : ContactManager :=
  { m with
    contacts := m.contacts.filter (·.id ≠ userId)
    filteredContacts := m.filteredContacts.filter (·.id ≠ userId) }.send (.removeContacts userId)

def importFromPhoneBook : ContactManager := { m with isImporting := true, lastError := none }

/-- An import comes to its end. -/
def importReturns : ContactManager := { m with isImporting := false }

def call : Call → ContactManager
  | .loadContacts => m.loadContacts
  | .setSearchQuery query => m.setSearchQuery query
  | .searchDebounced => m.searchDebounced
  | .addContact userId firstName lastName => m.addContact userId firstName lastName
  | .removeContact userId => m.removeContact userId
  | .importFromPhoneBook => m.importFromPhoneBook
  | .importRefused message => { m with lastError := some message }.importReturns
  | .importSent => { m with pendingImport := some true }.send .importContacts
  | .importTimedOut kept =>
      { m with pendingImport := if kept then m.pendingImport.map fun _ => false else m.pendingImport }.importReturns

/-- The users by their ids with some more. -/
def withUsers (users : List UserSummary) : ContactManager :=
  { m with usersById := users.foldl (fun known user => Function.update known user.id (some user)) m.usersById }

section Sorted

variable {κ : Type} [LE κ] {lowerCase : String → κ} (sort : NameSorting lowerCase)

/-- `_handleUsers` for a load: the users that come in the reply itself are taken as they are. -/
def handleContacts (users : List UserSummary) (userIds : List ℤ) : ContactManager :=
  if users ≠ [] then
    { m.withUsers users with contacts := sort.run (merge (·.id) users m.contacts).1, isLoading := false }
  else if parseUserIds userIds = [] then { m with isLoading := false }
  else
    { m with
      pendingContactUserIds := (parseUserIds userIds).dedup
      sent := m.sent ++ (parseUserIds userIds).map fun userId => .getUser userId false }

/-- `_handleUsers` for a search. -/
def handleFound (users : List UserSummary) (userIds : List ℤ) : ContactManager :=
  if users ≠ [] then { m.withUsers users with filteredContacts := users, isSearching := false }
  else if parseUserIds userIds = [] then { m with isSearching := false }
  else
    { m with
      pendingSearchUserIds := (parseUserIds userIds).dedup
      sent := m.sent ++ (parseUserIds userIds).map fun userId => .getUser userId true }

/-- `_handleUser` for a load. -/
def handleContactUser (user : UserSummary) : ContactManager :=
  let contacts := put (·.id) user m.contacts
  let pendingContactUserIds := m.pendingContactUserIds.erase user.id
  let m := { m.withUsers [user] with pendingContactUserIds }
  if pendingContactUserIds = [] then { m with contacts := sort.run contacts, isLoading := false }
  else { m with contacts }

/-- `_handleUser` for a search. -/
def handleFoundUser (user : UserSummary) : ContactManager :=
  let filteredContacts :=
    if m.filteredContacts.any (·.id == user.id) then m.filteredContacts else m.filteredContacts ++ [user]
  let pendingSearchUserIds := m.pendingSearchUserIds.erase user.id
  let m := { m.withUsers [user] with pendingSearchUserIds }
  if pendingSearchUserIds = [] then { m with filteredContacts := sort.run filteredContacts, isSearching := false }
  else { m with filteredContacts }

end Sorted

/-- The import returns if it still waits. -/
def handleImportedContacts (result : ImportedContactsResult) : ContactManager :=
  { m with
    lastImportResult := some result
    isImporting := m.isImporting && m.pendingImport != some true
    pendingImport := none }.loadContacts

def handleError (message : Option String) : ContactManager :=
  { m with
    lastError := some (message.getD "Ошибка контактов")
    isLoading := false
    isSearching := false
    isImporting := false
    pendingContactUserIds := []
    pendingImport := none }

end ContactManager

/-! ## Requests and replies -/

/-- What a load, or a search, asks for: the ids, and then the users. -/
inductive Part where
  | list
  | user (userId : ℤ)
deriving DecidableEq

inductive Change where
  | add (userId : ℤ)
  | remove (userId : ℤ)
deriving DecidableEq

/-- The request that is answered.  The number of a load, or of a search, is not in the extra. -/
inductive Target where
  | load (number : ℕ) (part : Part)
  | search (number : ℕ) (part : Part)
  | importing
  | change (change : Change)
deriving DecidableEq

inductive Answer where
  /-- The ids are what TDLib sends; users that come with them are taken for the answer. -/
  | users (users : List UserSummary) (userIds : List ℤ)
  /-- the user who was asked for -/
  | user (displayName : String)
  | importedContacts (result : ImportedContactsResult)
  | ok
  | error (message : Option String)

/-- The answers that TDLib gives to a request. -/
def Answer.fits : Target → Answer → Bool
  | _, .error _ => true
  | .load _ .list, .users _ _ | .search _ .list, .users _ _ => true
  | .load _ (.user _), .user _ | .search _ (.user _), .user _ => true
  | .importing, .importedContacts _ => true
  | .change _, .ok => true
  | _, _ => false

variable {κ : Type} [LE κ] {lowerCase : String → κ} (sort : NameSorting lowerCase)

/-- `_handleUpdate`, by the extra. -/
def ContactManager.handle (m : ContactManager) : Target → Answer → ContactManager
  | _, .error message => m.handleError message
  | .load _ .list, .users users userIds => m.handleContacts sort users userIds
  | .search _ .list, .users users userIds => m.handleFound users userIds
  | .load _ (.user userId), .user displayName => m.handleContactUser sort ⟨userId, displayName⟩
  | .search _ (.user userId), .user displayName => m.handleFoundUser sort ⟨userId, displayName⟩
  | .importing, .importedContacts result => m.handleImportedContacts result
  | .change _, .ok => m.loadContacts
  | .search _ .list, .ok => { m with isSearching := false }
  | _, _ => m

/-! ## What has been asked for -/

/-- The users that a reply has. -/
def returned (users : List UserSummary) (userIds : List ℤ) : List ℤ :=
  if users = [] then parseUserIds userIds else users.map (·.id)

/-- What is asked for after a reply. -/
def asked (users : List UserSummary) (userIds : List ℤ) : List Part :=
  if users = [] then (parseUserIds userIds).map .user else []

/-- The requests that are not answered, and what the last replies were. -/
structure Ledger where
  loads : Rounds Part := {}
  searches : Rounds Part := {}
  imports : ℕ := 0
  changes : List Change := []
  /-- the load that the last contacts reply was to -/
  listedBy : ℕ := 0
  /-- the users of that reply who were answered -/
  answered : List UserSummary := []
  /-- who has been removed since -/
  removed : List ℤ := []
  /-- the users that the latest search has returned -/
  returned : List ℤ := []

namespace Ledger

variable (l : Ledger)

/-- The users of the last contacts reply who were answered and have not been removed since. -/
def expected : List UserSummary := l.answered.filter (·.id ∉ l.removed)

def load : Ledger := { l with loads := l.loads.ask [.list] }

def call (searchDebounce : Bool) : Call → Ledger
  | .loadContacts => l.load
  | .searchDebounced =>
      if searchDebounce then { l with searches := l.searches.ask [.list], returned := [] } else l
  | .addContact userId _ _ => { l with changes := l.changes ++ [.add userId] }
  | .removeContact userId =>
      { l with changes := l.changes ++ [.remove userId], removed := userId :: l.removed }
  | .importSent => { l with imports := l.imports + 1 }
  | _ => l

/-- The request is not answered. -/
def Outstanding : Target → Prop
  | .load number part => (number, part) ∈ l.loads.outstanding
  | .search number part => (number, part) ∈ l.searches.outstanding
  | .importing => 0 < l.imports
  | .change change => change ∈ l.changes

instance : DecidablePred l.Outstanding
  | .load _ _ => inferInstanceAs (Decidable (_ ∈ l.loads.outstanding))
  | .search _ _ => inferInstanceAs (Decidable (_ ∈ l.searches.outstanding))
  | .importing => inferInstanceAs (Decidable (_ < _))
  | .change _ => inferInstanceAs (Decidable (_ ∈ l.changes))

/-- No request is outstanding. -/
structure Quiet : Prop where
  loads : l.loads.outstanding = []
  searches : l.searches.outstanding = []
  imports : l.imports = 0
  changes : l.changes = []

def settle : Target → Ledger
  | .load number part => { l with loads := l.loads.answer (number, part) }
  | .search number part => { l with searches := l.searches.answer (number, part) }
  | .importing => { l with imports := l.imports - 1 }
  | .change change => { l with changes := l.changes.erase change }

/-- What an answer brings, to a request that has been settled. -/
def reply : Target → Answer → Ledger
  | .load number .list, .users users userIds =>
      { l with
        loads := l.loads.join number (asked users userIds)
        listedBy := number
        answered := users
        removed := [] }
  | .search number .list, .users users userIds =>
      { l with
        searches := l.searches.join number (asked users userIds)
        returned := if number = l.searches.latest then Contacts.returned users userIds else l.returned }
  | .load number (.user userId), .user displayName =>
      { l with answered := if number = l.listedBy then l.answered ++ [⟨userId, displayName⟩] else l.answered }
  | .importing, .importedContacts _ | .change _, .ok => l.load
  | _, _ => l

end Ledger

/-! ## Runs -/

inductive Event where
  | call (call : Call)
  | reply (target : Target) (answer : Answer)

structure State where
  manager : ContactManager := {}
  ledger : Ledger := {}

/-- TDLib answers every request once. -/
def State.Receives (s : State) (target : Target) (answer : Answer) : Prop :=
  s.ledger.Outstanding target ∧ answer.fits target = true

instance (s : State) (target : Target) (answer : Answer) : Decidable (s.Receives target answer) :=
  inferInstanceAs (Decidable (_ ∧ _))

def step (s : State) : Event → State
  | .call call => ⟨s.manager.call call, s.ledger.call s.manager.searchDebounce call⟩
  | .reply target answer =>
      if s.Receives target answer then
        ⟨s.manager.handle sort target answer, (s.ledger.settle target).reply target answer⟩
      else s

/-- Sorted by name. -/
def ByName (lowerCase : String → κ) (users : List UserSummary) : Prop :=
  users.Pairwise fun user other => lowerCase user.displayName ≤ lowerCase other.displayName

/-- What is shown and the flags are those of what has been asked for. -/
structure Right (lowerCase : String → κ) (m : ContactManager) (l : Ledger) : Prop where
  found : m.searchQuery ≠ [] → (m.shown.map (·.id)).Nodup ∧ m.shown.map (·.id) ⊆ l.returned
  contacts : l.Quiet → (m.contacts.map (·.id)).Nodup ∧ ByName lowerCase m.contacts ∧
    ∀ user, user ∈ m.contacts ↔ user ∈ l.expected
  loading : m.isLoading = false ↔ l.loads.due = 0
  searching : m.isSearching = false ↔ l.searches.due = 0

/-- What goes on for a while. -/
inductive Operation where
  | load | search | importing
deriving DecidableEq

def Target.operation : Target → Option Operation
  | .load _ _ => some .load
  | .search _ _ => some .search
  | .importing => some .importing
  | .change _ => none

/-- An import goes on as long as its flag is set, or it waits for its result. -/
def ContactManager.goesOn (m : ContactManager) : Operation → Bool
  | .load => m.isLoading
  | .search => m.isSearching
  | .importing => m.isImporting || m.pendingImport == some true

/-- An error to one request ends nothing else. -/
def Spares (s s' : State) : Event → Prop
  | .reply target (.error _) =>
      ∀ operation, target.operation ≠ some operation → s'.manager.goesOn operation = s.manager.goesOn operation
  | _ => True

/-- What every step should do. -/
def Keeps (s : State) (e : Event) : Prop :=
  Right lowerCase (step sort s e).manager (step sort s e).ledger ∧ Spares s (step sort s e) e

namespace State

variable (lowerCase : String → κ) (s : State)

/-- A load begins when none is going on, and so does a search. -/
def CallFits : Call → Prop
  | .loadContacts => s.ledger.loads.outstanding = []
  | .searchDebounced => s.manager.searchDebounce = true → s.ledger.searches.outstanding = []
  | _ => True

/-- The list is right after the error: nobody was in it before the ids were asked for, or it is sorted though the
last user is missing, or the one who could not be removed has not come back. -/
def ListFits : Target → Prop
  | .load _ .list => s.ledger.expected = []
  | .load _ (.user _) => ByName lowerCase s.manager.contacts
  | .change (.remove userId) =>
      userId ∈ s.manager.contacts.map (·.id) → userId ∈ s.ledger.removed →
        .remove userId ∈ s.ledger.changes.erase (.remove userId)
  | _ => True

/-- Nothing is going on but what the error is to. -/
structure ErrorFits (target : Target) : Prop where
  loads : (s.ledger.settle target).loads.outstanding = []
  searches : (s.ledger.settle target).searches.outstanding = []
  importing : target ≠ .importing → s.manager.goesOn .importing = false
  contacts : s.ListFits lowerCase target

def ReplyFits (target : Target) : Answer → Prop
  | .users users userIds => (returned users userIds).Nodup
  | .user _ => True
  | .importedContacts _ | .ok => s.ledger.loads.outstanding = []
  | .error _ => s.ErrorFits lowerCase target

def Orderly : Event → Prop
  | .call call => s.CallFits call
  | .reply target answer => s.Receives target answer → s.ReplyFits lowerCase target answer

instance : DecidablePred s.CallFits
  | .loadContacts => inferInstanceAs (Decidable (_ = _))
  | .searchDebounced => inferInstanceAs (Decidable (_ → _))
  | .setSearchQuery _ | .addContact _ _ _ | .removeContact _ | .importFromPhoneBook | .importRefused _ | .importSent
  | .importTimedOut _ => isTrue trivial

section Decidable

variable [DecidableLE κ]

instance : DecidablePred (ByName lowerCase) := fun users => inferInstanceAs (Decidable (users.Pairwise _))

instance : DecidablePred (s.ListFits lowerCase)
  | .load _ .list => inferInstanceAs (Decidable (_ = _))
  | .load _ (.user _) => inferInstanceAs (Decidable (ByName _ _))
  | .change (.remove _) => inferInstanceAs (Decidable (_ → _ → _))
  | .change (.add _) | .search _ _ | .importing => isTrue trivial

instance : DecidablePred (s.ErrorFits lowerCase) := fun target =>
  decidable_of_iff ((s.ledger.settle target).loads.outstanding = [] ∧
    (s.ledger.settle target).searches.outstanding = [] ∧
    (target ≠ .importing → s.manager.goesOn .importing = false) ∧ s.ListFits lowerCase target)
    ⟨fun h => ⟨h.1, h.2.1, h.2.2.1, h.2.2.2⟩, fun h => ⟨h.loads, h.searches, h.importing, h.contacts⟩⟩

instance (target : Target) : DecidablePred (s.ReplyFits lowerCase target)
  | .users _ _ => inferInstanceAs (Decidable (List.Nodup _))
  | .user _ => isTrue trivial
  | .importedContacts _ | .ok => inferInstanceAs (Decidable (_ = _))
  | .error _ => inferInstanceAs (Decidable (s.ErrorFits lowerCase target))

instance : DecidablePred (s.Orderly lowerCase)
  | .call call => inferInstanceAs (Decidable (s.CallFits call))
  | .reply _ _ => inferInstanceAs (Decidable (_ → _))

end Decidable

end State

/-! ## Rounds -/

section Rounds

variable {rs : Rounds Part} {pending : List ℤ} {busy : Bool} {done listing users : Prop} {number : ℕ} {userId : ℤ}

/-- How far a round has come: it is done, or the ids are asked for, or the users who are pending.  Each time
something holds of what has come. -/
inductive Progress (rs : Rounds Part) (pending : List ℤ) (busy : Bool) (done listing users : Prop) : Prop where
  | done (houtstanding : rs.outstanding = []) (hbusy : busy = false) (h : done)
  | listing (houtstanding : rs.outstanding = [(rs.latest, .list)]) (hbusy : busy = true) (h : listing)
  | users (houtstanding : rs.outstanding = pending.map fun userId => (rs.latest, .user userId))
      (hne : pending ≠ []) (hnodup : pending.Nodup) (hbusy : busy = true) (h : users)

/-- The flag is that of the latest round. -/
lemma Progress.busy_iff (h : Progress rs pending busy done listing users) : busy = false ↔ rs.due = 0 := by
  cases h with
  | done houtstanding hbusy _ =>
      rw [hbusy, Rounds.due, houtstanding]
      exact iff_of_true rfl rfl
  | listing houtstanding hbusy _ =>
      rw [hbusy, Rounds.due, houtstanding]
      simp
  | users houtstanding hne _ hbusy _ =>
      have hdue : rs.due = pending.length := by
        rw [Rounds.due, houtstanding, List.countP_map, List.countP_eq_length]
        exact fun _ _ => beq_self_eq_true _
      rw [hbusy, hdue, List.length_eq_zero_iff]
      exact iff_of_false (by simp) hne

lemma Progress.of_empty (h : Progress rs pending busy done listing users) (hempty : rs.outstanding = []) :
    busy = false ∧ done := by
  cases h with
  | done _ hbusy h => exact ⟨hbusy, h⟩
  | listing houtstanding _ _ => cases houtstanding.symm.trans hempty
  | users houtstanding hne _ _ _ => exact absurd (List.map_eq_nil_iff.mp (houtstanding.symm.trans hempty)) hne

lemma Progress.mono {done' listing' users' : Prop} (h : Progress rs pending busy done listing users)
    (hdone : done → done') (hlisting : listing → listing') (husers : users → users') :
    Progress rs pending busy done' listing' users' := by
  cases h with
  | done houtstanding hbusy h => exact .done houtstanding hbusy (hdone h)
  | listing houtstanding hbusy h => exact .listing houtstanding hbusy (hlisting h)
  | users houtstanding hne hnodup hbusy h => exact .users houtstanding hne hnodup hbusy (husers h)

lemma Progress.ask (hempty : rs.outstanding = []) (h : listing) :
    Progress (rs.ask [.list]) pending true done listing users := by
  refine .listing ?_ rfl h
  rw [Rounds.ask, hempty]
  rfl

/-- The ids have come. -/
lemma Progress.of_list (h : Progress rs pending busy done listing users) (hmem : (number, .list) ∈ rs.outstanding) :
    number = rs.latest ∧ busy = true ∧ (rs.answer (number, .list)).outstanding = [] ∧ listing := by
  cases h with
  | done houtstanding _ _ =>
      rw [houtstanding] at hmem
      cases hmem
  | listing houtstanding hbusy h =>
      rw [houtstanding, List.mem_singleton, Prod.mk.injEq] at hmem
      obtain ⟨rfl, -⟩ := hmem
      rw [Rounds.answer, houtstanding, List.erase_cons_head]
      exact ⟨rfl, hbusy, rfl, h⟩
  | users houtstanding _ _ _ _ =>
      rw [houtstanding] at hmem
      simp at hmem

/-- A user has come. -/
lemma Progress.of_user (h : Progress rs pending busy done listing users)
    (hmem : (number, .user userId) ∈ rs.outstanding) :
    number = rs.latest ∧ userId ∈ pending ∧ pending.Nodup ∧ busy = true ∧ users ∧
      (rs.answer (number, .user userId)).outstanding =
        (pending.erase userId).map fun userId => (rs.latest, .user userId) := by
  cases h with
  | done houtstanding _ _ =>
      rw [houtstanding] at hmem
      cases hmem
  | listing houtstanding _ _ =>
      rw [houtstanding] at hmem
      simp at hmem
  | users houtstanding _ hnodup hbusy h =>
      rw [houtstanding] at hmem
      obtain ⟨userId', hpending, heq⟩ := List.mem_map.mp hmem
      rw [Prod.mk.injEq, Part.user.injEq] at heq
      obtain ⟨rfl, rfl⟩ := heq
      have hinjective : Function.Injective fun userId => (rs.latest, Part.user userId) := by
        intro userId other hsame
        rw [Prod.mk.injEq, Part.user.injEq] at hsame
        exact hsame.2
      refine ⟨rfl, hpending, hnodup, hbusy, h, ?_⟩
      rw [List.map_erase hinjective, Rounds.answer, houtstanding]

/-- The users are asked for. -/
lemma Progress.join {userIds : List ℤ} (hempty : rs.outstanding = []) (hne : userIds ≠ []) (hnodup : userIds.Nodup)
    (hbusy : busy = true) (h : users) :
    Progress (rs.join rs.latest (userIds.map .user)) userIds.dedup busy done listing users := by
  rw [List.Nodup.dedup hnodup]
  refine .users ?_ hne hnodup hbusy h
  rw [Rounds.join, hempty, List.nil_append, List.map_map]
  rfl

end Rounds

/-! ## Searches -/

section Searches

variable {m : ContactManager} {l : Ledger} {filtered : List UserSummary} {ids : List ℤ} {number : ℕ} {userId : ℤ}

/-- Everybody who is shown is one of the users, once. -/
structure Found (filtered : List UserSummary) (ids : List ℤ) : Prop where
  nodup : (filtered.map (·.id)).Nodup
  subset : filtered.map (·.id) ⊆ ids

lemma found_nil (ids : List ℤ) : Found [] ids := ⟨List.nodup_nil, List.nil_subset ids⟩

lemma Found.perm {filtered' : List UserSummary} (h : Found filtered ids) (hperm : filtered'.Perm filtered) :
    Found filtered' ids := by
  have hmap : (filtered'.map (·.id)).Perm (filtered.map (·.id)) := hperm.map _
  exact ⟨hmap.nodup_iff.mpr h.nodup, List.Subset.trans hmap.subset h.subset⟩

lemma Found.filter (h : Found filtered ids) (p : UserSummary → Bool) : Found (filtered.filter p) ids := by
  have hsublist : ((filtered.filter p).map (·.id)).Sublist (filtered.map (·.id)) := List.filter_sublist.map _
  exact ⟨h.nodup.sublist hsublist, List.Subset.trans hsublist.subset h.subset⟩

lemma Found.insert (h : Found filtered ids) (user : UserSummary) (hid : user.id ∈ ids) :
    Found (if filtered.any (·.id == user.id) then filtered else filtered ++ [user]) ids := by
  split_ifs with hany
  · exact h
  · have hnew : user.id ∉ filtered.map (·.id) := fun hmem => hany (any_key.mpr hmem)
    refine ⟨?_, ?_⟩
    · rw [List.map_append]
      exact h.nodup.append (List.nodup_singleton _) (List.disjoint_singleton.mpr hnew)
    · rw [List.map_append]
      exact List.append_subset.mpr ⟨h.subset, List.cons_subset.mpr ⟨hid, List.nil_subset ids⟩⟩

abbrev Searching (m : ContactManager) (l : Ledger) : Prop :=
  Progress l.searches m.pendingSearchUserIds m.isSearching (Found m.filteredContacts l.returned)
    (m.filteredContacts = []) (Found m.filteredContacts l.returned ∧ m.pendingSearchUserIds ⊆ l.returned)

lemma Searching.found (h : Searching m l) : Found m.filteredContacts l.returned := by
  cases h with
  | done _ _ h => exact h
  | listing _ _ h =>
      rw [h]
      exact found_nil _
  | users _ _ _ _ h => exact h.1

lemma searching_setSearchQuery (h : Searching m l) (query : Str) : Searching (m.setSearchQuery query) l := by
  by_cases hblank : trimDart query = []
  · have hnone : (m.setSearchQuery query).filteredContacts = [] := if_pos hblank
    refine h.mono (fun _ => ?_) (fun _ => hnone) fun husers => ⟨?_, husers.2⟩ <;>
      (rw [hnone]; exact found_nil _)
  · have hsame : (m.setSearchQuery query).filteredContacts = m.filteredContacts := if_neg hblank
    refine h.mono (fun hfound => ?_) (fun hnone => ?_) fun husers => ⟨?_, husers.2⟩
    · rw [hsame]
      exact hfound
    · rw [hsame]
      exact hnone
    · rw [hsame]
      exact husers.1

lemma searching_removeContact (h : Searching m l) (userId : ℤ) : Searching (m.removeContact userId) l := by
  refine h.mono (fun hfound => hfound.filter _) (fun hnone => ?_) fun husers => ⟨husers.1.filter _, husers.2⟩
  exact List.filter_eq_nil_iff.mpr (by simp [hnone])

lemma Searching.of_eq {m' : ContactManager} (h : Searching m l) (hfiltered : m'.filteredContacts = m.filteredContacts)
    (hpending : m'.pendingSearchUserIds = m.pendingSearchUserIds) (hbusy : m'.isSearching = m.isSearching) :
    Searching m' l := by
  rw [Searching, hfiltered, hpending, hbusy]
  exact h

/-- **The contacts reply** leaves a search alone. -/
lemma searching_handleContacts (h : Searching m l) (users : List UserSummary) (userIds : List ℤ) :
    Searching (m.handleContacts sort users userIds) l := by
  rw [ContactManager.handleContacts]
  split_ifs <;> exact h.of_eq rfl rfl rfl

/-- **A contact** leaves a search alone. -/
lemma searching_handleContactUser (h : Searching m l) (user : UserSummary) :
    Searching (m.handleContactUser sort user) l := by
  rw [ContactManager.handleContactUser]
  split_ifs <;> exact h.of_eq rfl rfl rfl

/-- **The reply to a search.** -/
lemma searching_handleFound (h : Searching m l) (users : List UserSummary) (userIds : List ℤ)
    (hmem : (number, .list) ∈ l.searches.outstanding) (hnodup : (returned users userIds).Nodup) :
    Searching (m.handleFound users userIds)
      ((l.settle (.search number .list)).reply (.search number .list) (.users users userIds)) := by
  obtain ⟨rfl, hbusy, hempty, hnone⟩ := h.of_list hmem
  have hreply : (l.settle (.search l.searches.latest .list)).reply (.search l.searches.latest .list)
      (.users users userIds) =
        { l with
          searches := (l.searches.answer (l.searches.latest, .list)).join l.searches.latest (asked users userIds)
          returned := returned users userIds } := by
    have hlatest : l.searches.latest = (l.settle (.search l.searches.latest .list)).searches.latest := rfl
    rw [Ledger.reply, if_pos hlatest]
    rfl
  have hfound : ∀ ids, Found m.filteredContacts ids := by
    rw [hnone]
    exact found_nil
  rw [hreply, ContactManager.handleFound, asked, returned]
  rw [returned] at hnodup
  by_cases husers : users = []
  · rw [if_pos husers, if_pos husers, if_neg (not_not.mpr husers)]
    rw [if_pos husers] at hnodup
    by_cases hids : parseUserIds userIds = []
    · rw [if_pos hids, hids]
      exact .done ((List.append_nil _).trans hempty) rfl (hfound _)
    · rw [if_neg hids]
      exact Progress.join hempty hids hnodup hbusy ⟨hfound _, List.dedup_subset _⟩
  · rw [if_neg husers, if_neg husers, if_pos husers]
    rw [if_neg husers] at hnodup
    exact .done ((List.append_nil _).trans hempty) rfl ⟨hnodup, List.Subset.refl _⟩

/-- **A user who was searched for.** -/
lemma searching_handleFoundUser (h : Searching m l) (displayName : String)
    (hmem : (number, .user userId) ∈ l.searches.outstanding) :
    Searching (m.handleFoundUser sort ⟨userId, displayName⟩)
      ((l.settle (.search number (.user userId))).reply (.search number (.user userId)) (.user displayName)) := by
  obtain ⟨rfl, hpending, hnodup, hbusy, ⟨hfound, hsubset⟩, houtstanding⟩ := h.of_user hmem
  have hinsert := hfound.insert ⟨userId, displayName⟩ (hsubset hpending)
  rw [ContactManager.handleFoundUser]
  by_cases hlast : m.pendingSearchUserIds.erase userId = []
  · rw [if_pos hlast]
    rw [hlast] at houtstanding
    exact .done houtstanding rfl (hinsert.perm (sort.perm _))
  · rw [if_neg hlast]
    refine .users houtstanding hlast (hnodup.erase _) hbusy ⟨hinsert, ?_⟩
    exact List.Subset.trans List.erase_subset hsubset

/-- **An error** ends the search. -/
lemma searching_handleError (h : Searching m l) (target : Target) (message : Option String)
    (hempty : (l.settle target).searches.outstanding = []) : Searching (m.handleError message) (l.settle target) := by
  refine .done hempty rfl ?_
  have hreturned : (l.settle target).returned = l.returned := by cases target <;> rfl
  rw [hreturned]
  exact h.found

end Searches

/-! ## Loads -/

section Loads

variable {m : ContactManager} {l : Ledger} {contacts answered : List UserSummary} {removed : List ℤ}
  {changes : List Change} {number : ℕ} {userId : ℤ}

/-- The list has those who were answered and have not been removed since, once.  Whoever was removed and is in it
again is still to be removed. -/
structure Listed (contacts answered : List UserSummary) (removed : List ℤ) (changes : List Change) : Prop where
  nodup : (contacts.map (·.id)).Nodup
  mem_answered : ∀ user ∈ contacts, user ∈ answered
  complete : ∀ user ∈ answered, user.id ∉ removed → user ∈ contacts
  removing : ∀ user ∈ contacts, user.id ∈ removed → .remove user.id ∈ changes

lemma listed_nil (h : ∀ user ∈ answered, user.id ∈ removed) : Listed [] answered removed changes :=
  { nodup := List.nodup_nil
    mem_answered := fun _ hnil => absurd hnil List.not_mem_nil
    complete := fun user huser hremoved => absurd (h user huser) hremoved
    removing := fun _ hnil => absurd hnil List.not_mem_nil }

lemma Listed.perm {contacts' : List UserSummary} (h : Listed contacts answered removed changes)
    (hperm : contacts'.Perm contacts) : Listed contacts' answered removed changes :=
  { nodup := (hperm.map _).nodup_iff.mpr h.nodup
    mem_answered := fun user huser => h.mem_answered user (hperm.mem_iff.mp huser)
    complete := fun user huser hremoved => hperm.mem_iff.mpr (h.complete user huser hremoved)
    removing := fun user huser => h.removing user (hperm.mem_iff.mp huser) }

lemma Listed.of_changes {changes' : List Change} (h : Listed contacts answered removed changes)
    (hchanges : ∀ user ∈ contacts, user.id ∈ removed → Change.remove user.id ∈ changes →
      .remove user.id ∈ changes') : Listed contacts answered removed changes' :=
  ⟨h.nodup, h.mem_answered, h.complete, fun user huser hremoved =>
    hchanges user huser hremoved (h.removing user huser hremoved)⟩

lemma Listed.remove (h : Listed contacts answered removed changes) (userId : ℤ) :
    Listed (contacts.filter (·.id ≠ userId)) answered (userId :: removed) (changes ++ [.remove userId]) := by
  have hmem : ∀ user, user ∈ contacts.filter (·.id ≠ userId) ↔ user ∈ contacts ∧ user.id ≠ userId := by
    intro user
    rw [List.mem_filter, decide_eq_true_iff]
  refine ⟨h.nodup.sublist (List.filter_sublist.map _), fun user huser => ?_, fun user huser hremoved => ?_,
    fun user huser hremoved => ?_⟩
  · exact h.mem_answered user ((hmem user).mp huser).1
  · rw [List.mem_cons, not_or] at hremoved
    exact (hmem user).mpr ⟨h.complete user huser hremoved.2, hremoved.1⟩
  · obtain ⟨hcontact, hne⟩ := (hmem user).mp huser
    exact List.mem_append_left _ (h.removing user hcontact (List.mem_of_ne_of_mem hne hremoved))

/-- A user who is not in the list is answered. -/
lemma Listed.add (h : Listed contacts answered removed changes) (user : UserSummary)
    (hnew : user.id ∉ contacts.map (·.id)) (hremoving : user.id ∈ removed → .remove user.id ∈ changes) :
    Listed (contacts ++ [user]) (answered ++ [user]) removed changes := by
  refine ⟨?_, fun other hother => ?_, fun other hother hremoved => ?_, fun other hother hremoved => ?_⟩
  · rw [List.map_append]
    exact h.nodup.append (List.nodup_singleton _) (List.disjoint_singleton.mpr hnew)
  · rcases List.mem_append.mp hother with hold | hlast
    · exact List.mem_append_left _ (h.mem_answered other hold)
    · exact List.mem_append_right _ hlast
  · rcases List.mem_append.mp hother with hold | hlast
    · exact List.mem_append_left _ (h.complete other hold hremoved)
    · exact List.mem_append_right _ hlast
  · rcases List.mem_append.mp hother with hold | hlast
    · exact h.removing other hold hremoved
    · rw [List.mem_singleton.mp hlast] at hremoved ⊢
      exact hremoving hremoved

/-- What holds while users are asked for: none of them has been answered, and whoever was removed is still to be. -/
structure Underway (pending : List ℤ) (answered : List UserSummary) (removed : List ℤ) (changes : List Change) :
    Prop where
  unanswered : ∀ user ∈ answered, user.id ∉ pending
  removing : ∀ userId ∈ removed, .remove userId ∈ changes

abbrev Loading (lowerCase : String → κ) (m : ContactManager) (l : Ledger) : Prop :=
  Progress l.loads m.pendingContactUserIds m.isLoading
    (Listed m.contacts l.answered l.removed l.changes ∧ ByName lowerCase m.contacts)
    (m.contacts = [])
    (l.listedBy = l.loads.latest ∧ Listed m.contacts l.answered l.removed l.changes ∧
      Underway m.pendingContactUserIds l.answered l.removed l.changes)

lemma loading_changes (h : Loading lowerCase m l) (change : Change) :
    Loading lowerCase m { l with changes := l.changes ++ [change] } := by
  have hlisted (hold : Listed m.contacts l.answered l.removed l.changes) :
      Listed m.contacts l.answered l.removed (l.changes ++ [change]) :=
    hold.of_changes fun _ _ _ hmem => List.mem_append_left _ hmem
  refine h.mono (fun hdone => ⟨hlisted hdone.1, hdone.2⟩) id fun husers => ?_
  obtain ⟨hlistedBy, hold, hanswered, hremoving⟩ := husers
  exact ⟨hlistedBy, hlisted hold, hanswered, fun userId hremoved => List.mem_append_left _ (hremoving userId hremoved)⟩

lemma loading_removeContact (h : Loading lowerCase m l) (userId : ℤ) :
    Loading lowerCase (m.removeContact userId)
      { l with changes := l.changes ++ [.remove userId], removed := userId :: l.removed } := by
  refine h.mono (fun hdone => ⟨hdone.1.remove userId, hdone.2.filter _⟩) (fun hnone => ?_) fun husers => ?_
  · exact List.filter_eq_nil_iff.mpr (by simp [hnone])
  · obtain ⟨hlistedBy, hlisted, hanswered, hremoving⟩ := husers
    refine ⟨hlistedBy, hlisted.remove userId, hanswered, fun other hremoved => ?_⟩
    rcases List.mem_cons.mp hremoved with rfl | hremoved
    · exact List.mem_append_right _ (List.mem_singleton_self _)
    · exact List.mem_append_left _ (hremoving other hremoved)

lemma Loading.of_eq {m' : ContactManager} (h : Loading lowerCase m l) (hcontacts : m'.contacts = m.contacts)
    (hpending : m'.pendingContactUserIds = m.pendingContactUserIds) (hbusy : m'.isLoading = m.isLoading) :
    Loading lowerCase m' l := by
  rw [Loading, hcontacts, hpending, hbusy]
  exact h

/-- **The reply to a search** leaves a load alone. -/
lemma loading_handleFound (h : Loading lowerCase m l) (users : List UserSummary) (userIds : List ℤ) :
    Loading lowerCase (m.handleFound users userIds) l := by
  rw [ContactManager.handleFound]
  split_ifs <;> exact h.of_eq rfl rfl rfl

/-- **A user who was searched for** leaves a load alone. -/
lemma loading_handleFoundUser (h : Loading lowerCase m l) (user : UserSummary) :
    Loading lowerCase (m.handleFoundUser sort user) l := by
  rw [ContactManager.handleFoundUser]
  split_ifs <;> exact h.of_eq rfl rfl rfl

/-- With nobody in the list, the users that come with the reply are the list. -/
lemma listed_merge {users : List UserSummary} (hnodup : (users.map (·.id)).Nodup) (changes : List Change) :
    Listed (merge (·.id) users []).1 users [] changes := by
  have hof : ∀ user ∈ (merge (·.id) users []).1, user ∈ users := by
    intro user huser
    rcases mem_of_mem_merge huser with hnil | husers
    · cases hnil
    · exact husers
  refine ⟨nodup_merge (l := []) List.nodup_nil, hof, fun user huser _ => ?_, fun _ _ hnil => by cases hnil⟩
  have hkey : user.id ∈ (merge (·.id) users []).1.map (·.id) :=
    mem_map_merge.mpr (Or.inr (List.mem_map_of_mem huser))
  obtain ⟨other, hother, hid⟩ := List.mem_map.mp hkey
  rw [← List.inj_on_of_nodup_map hnodup (hof other hother) huser hid]
  exact hother

/-- **The contacts reply.** -/
lemma loading_handleContacts (h : Loading lowerCase m l) (users : List UserSummary) (userIds : List ℤ)
    (hmem : (number, .list) ∈ l.loads.outstanding) (hnodup : (returned users userIds).Nodup) :
    Loading lowerCase (m.handleContacts sort users userIds)
      ((l.settle (.load number .list)).reply (.load number .list) (.users users userIds)) := by
  obtain ⟨rfl, hbusy, hempty, hnone⟩ := h.of_list hmem
  rw [Ledger.reply, ContactManager.handleContacts, asked]
  rw [returned] at hnodup
  by_cases husers : users = []
  · rw [if_pos husers, if_neg (not_not.mpr husers)]
    rw [if_pos husers] at hnodup
    have hlisted : Listed m.contacts users [] l.changes := by
      rw [hnone, husers]
      exact listed_nil fun _ hnil => absurd hnil List.not_mem_nil
    by_cases hids : parseUserIds userIds = []
    · rw [if_pos hids, hids]
      refine .done ((List.append_nil _).trans hempty) rfl ⟨hlisted, ?_⟩
      change ByName lowerCase m.contacts
      rw [hnone]
      exact List.Pairwise.nil
    · rw [if_neg hids]
      refine Progress.join hempty hids hnodup hbusy ⟨rfl, hlisted, ?_, fun _ hnil => absurd hnil List.not_mem_nil⟩
      rw [husers]
      exact fun _ hnil => absurd hnil List.not_mem_nil
  · rw [if_neg husers, if_pos husers, hnone]
    rw [if_neg husers] at hnodup
    have hlisted := (listed_merge hnodup l.changes).perm (sort.perm _)
    exact .done ((List.append_nil _).trans hempty) rfl ⟨hlisted, sort.sorted _⟩

/-- **A contact.** -/
lemma loading_handleContactUser (h : Loading lowerCase m l) (displayName : String)
    (hmem : (number, .user userId) ∈ l.loads.outstanding) :
    Loading lowerCase (m.handleContactUser sort ⟨userId, displayName⟩)
      ((l.settle (.load number (.user userId))).reply (.load number (.user userId)) (.user displayName)) := by
  obtain ⟨rfl, hpending, hnodup, hbusy, ⟨hlistedBy, hlisted, hunderway⟩, houtstanding⟩ := h.of_user hmem
  have hreply : (l.settle (.load l.loads.latest (.user userId))).reply (.load l.loads.latest (.user userId))
      (.user displayName) =
        { l with
          loads := l.loads.answer (l.loads.latest, .user userId)
          answered := l.answered ++ [⟨userId, displayName⟩] } := by
    have hlatest : l.loads.latest = (l.settle (.load l.loads.latest (.user userId))).listedBy := hlistedBy.symm
    rw [Ledger.reply, if_pos hlatest]
    rfl
  have hnew : userId ∉ m.contacts.map (·.id) := by
    intro hcontact
    obtain ⟨user, huser, rfl⟩ := List.mem_map.mp hcontact
    exact hunderway.unanswered user (hlisted.mem_answered user huser) hpending
  have hput : put (·.id) ⟨userId, displayName⟩ m.contacts = m.contacts ++ [⟨userId, displayName⟩] :=
    if_neg (mt any_key.mp hnew)
  have hlisted' := hlisted.add ⟨userId, displayName⟩ hnew (hunderway.removing userId)
  rw [hreply, ContactManager.handleContactUser, hput]
  by_cases hlast : m.pendingContactUserIds.erase userId = []
  · rw [if_pos hlast]
    rw [hlast] at houtstanding
    exact .done houtstanding rfl ⟨hlisted'.perm (sort.perm _), sort.sorted _⟩
  · rw [if_neg hlast]
    refine .users houtstanding hlast (hnodup.erase _) hbusy ⟨hlistedBy, hlisted', fun user huser => ?_,
      hunderway.removing⟩
    rcases List.mem_append.mp huser with hold | hnew
    · exact fun hrest => hunderway.unanswered user hold (List.mem_of_mem_erase hrest)
    · rw [List.mem_singleton.mp hnew]
      exact hnodup.not_mem_erase

/-- **An error** ends the load. -/
lemma loading_handleError {s : State} (h : Loading lowerCase s.manager s.ledger) (target : Target)
    (message : Option String) (houtstanding : s.ledger.Outstanding target) (hfits : s.ErrorFits lowerCase target) :
    Loading lowerCase (s.manager.handleError message) (s.ledger.settle target) := by
  refine .done hfits.loads rfl ?_
  have hcontacts := hfits.contacts
  cases target with
  | load number part =>
      cases part with
      | list =>
          obtain ⟨-, -, -, hnone⟩ := h.of_list houtstanding
          change Listed s.manager.contacts _ _ _ ∧ ByName lowerCase s.manager.contacts
          rw [hnone]
          refine ⟨listed_nil fun user huser => ?_, List.Pairwise.nil⟩
          have hremoved : user.id ∈ s.ledger.removed := by
            simpa using List.filter_eq_nil_iff.mp hcontacts user huser
          exact hremoved
      | user userId =>
          obtain ⟨-, -, -, -, ⟨-, hlisted, -⟩, -⟩ := h.of_user houtstanding
          exact ⟨hlisted, hcontacts⟩
  | search number part => exact (h.of_empty hfits.loads).2
  | importing => exact (h.of_empty hfits.loads).2
  | change change =>
      obtain ⟨-, hlisted, hsorted⟩ := h.of_empty hfits.loads
      refine ⟨hlisted.of_changes fun user huser hremoved hmem => ?_, hsorted⟩
      by_cases heq : Change.remove user.id = change
      · subst heq
        exact hcontacts (List.mem_map_of_mem huser) hremoved
      · exact (List.mem_erase_of_ne heq).mpr hmem

end Loads

/-! ## Steps -/

section Steps

variable {s : State}

structure Inv (lowerCase : String → κ) (s : State) : Prop where
  loading : Loading lowerCase s.manager s.ledger
  searching : Searching s.manager s.ledger

lemma inv_start : Inv lowerCase {} :=
  { loading := .done rfl rfl ⟨listed_nil fun _ hnil => absurd hnil List.not_mem_nil, List.Pairwise.nil⟩
    searching := .done rfl rfl (found_nil []) }

/-- A load begins. -/
lemma inv_load {m : ContactManager} {l : Ledger} (hsearching : Searching m l) (hempty : l.loads.outstanding = []) :
    Inv lowerCase ⟨m.loadContacts, l.load⟩ :=
  ⟨Progress.ask hempty rfl, hsearching⟩

lemma reply_error (l : Ledger) (target : Target) (message : Option String) : l.reply target (.error message) = l := by
  rcases target with ⟨_, _ | _⟩ | ⟨_, _ | _⟩ | _ | _ <;> rfl

lemma handle_error (m : ContactManager) (target : Target) (message : Option String) :
    m.handle sort target (.error message) = m.handleError message := by
  rcases target with ⟨_, _ | _⟩ | ⟨_, _ | _⟩ | _ | _ <;> rfl

lemma inv_call (h : Inv lowerCase s) (call : Call) (hfits : s.CallFits call) :
    Inv lowerCase (step sort s (.call call)) := by
  obtain ⟨hloading, hsearching⟩ := h
  cases call with
  | loadContacts => exact inv_load hsearching hfits
  | setSearchQuery query => exact ⟨hloading, searching_setSearchQuery hsearching query⟩
  | searchDebounced =>
      rw [step, ContactManager.call, ContactManager.searchDebounced, Ledger.call]
      by_cases htimer : s.manager.searchDebounce = true
      · rw [if_pos htimer, if_pos htimer]
        exact ⟨hloading, Progress.ask (hfits htimer) rfl⟩
      · rw [if_neg htimer, if_neg htimer]
        exact ⟨hloading, hsearching⟩
  | addContact userId firstName lastName => exact ⟨loading_changes hloading _, hsearching⟩
  | removeContact userId =>
      exact ⟨loading_removeContact hloading userId, searching_removeContact hsearching userId⟩
  | _ => exact ⟨hloading, hsearching⟩

lemma inv_reply (h : Inv lowerCase s) (target : Target) (answer : Answer) (hreceives : s.Receives target answer)
    (hfits : s.ReplyFits lowerCase target answer) :
    Inv lowerCase ⟨s.manager.handle sort target answer, (s.ledger.settle target).reply target answer⟩ := by
  obtain ⟨hloading, hsearching⟩ := h
  obtain ⟨houtstanding, hanswer⟩ := hreceives
  cases answer with
  | error message =>
      rw [reply_error, handle_error]
      exact ⟨loading_handleError hloading target message houtstanding hfits,
        searching_handleError hsearching target message hfits.searches⟩
  | users users userIds =>
      cases target with
      | load number part =>
          cases part with
          | list =>
              exact ⟨loading_handleContacts sort hloading users userIds houtstanding hfits,
                searching_handleContacts sort hsearching users userIds⟩
          | user userId => cases hanswer
      | search number part =>
          cases part with
          | list =>
              exact ⟨loading_handleFound hloading users userIds,
                searching_handleFound hsearching users userIds houtstanding hfits⟩
          | user userId => cases hanswer
      | importing => cases hanswer
      | change change => cases hanswer
  | user displayName =>
      cases target with
      | load number part =>
          cases part with
          | list => cases hanswer
          | user userId =>
              exact ⟨loading_handleContactUser sort hloading displayName houtstanding,
                searching_handleContactUser sort hsearching ⟨userId, displayName⟩⟩
      | search number part =>
          cases part with
          | list => cases hanswer
          | user userId =>
              exact ⟨loading_handleFoundUser sort hloading ⟨userId, displayName⟩,
                searching_handleFoundUser sort hsearching displayName houtstanding⟩
      | importing => cases hanswer
      | change change => cases hanswer
  | importedContacts result =>
      cases target with
      | importing => exact inv_load hsearching hfits
      | load number part => cases part <;> cases hanswer
      | search number part => cases part <;> cases hanswer
      | change change => cases hanswer
  | ok =>
      cases target with
      | change change => exact inv_load hsearching hfits
      | load number part => cases part <;> cases hanswer
      | search number part => cases part <;> cases hanswer
      | importing => cases hanswer

lemma inv_step (h : Inv lowerCase s) (e : Event) (horderly : s.Orderly lowerCase e) :
    Inv lowerCase (step sort s e) := by
  cases e with
  | call call => exact inv_call sort h call horderly
  | reply target answer =>
      by_cases hreceives : s.Receives target answer
      · rw [step, if_pos hreceives]
        exact inv_reply sort h target answer hreceives (horderly hreceives)
      · rw [step, if_neg hreceives]
        exact h

lemma Inv.right (h : Inv lowerCase s) : Right lowerCase s.manager s.ledger := by
  refine ⟨fun hquery => ?_, fun hquiet => ?_, h.loading.busy_iff, h.searching.busy_iff⟩
  · rw [ContactManager.shown, if_neg hquery]
    exact ⟨h.searching.found.nodup, h.searching.found.subset⟩
  · obtain ⟨-, hlisted, hsorted⟩ := h.loading.of_empty hquiet.loads
    refine ⟨hlisted.nodup, hsorted, fun user => ?_⟩
    rw [Ledger.expected, List.mem_filter, decide_eq_true_iff]
    refine ⟨fun huser => ⟨hlisted.mem_answered user huser, fun hremoved => ?_⟩, fun huser => ?_⟩
    · have hremoving := hlisted.removing user huser hremoved
      rw [hquiet.changes] at hremoving
      cases hremoving
    · exact hlisted.complete user huser.1 huser.2

/-- Only a request of a load settles one of a load. -/
lemma settle_loads {target : Target} (l : Ledger) (h : target.operation ≠ some .load) :
    (l.settle target).loads = l.loads := by
  cases target with
  | load number part => exact absurd rfl h
  | _ => rfl

lemma settle_searches {target : Target} (l : Ledger) (h : target.operation ≠ some .search) :
    (l.settle target).searches = l.searches := by
  cases target with
  | search number part => exact absurd rfl h
  | _ => rfl

/-- Nothing else goes on when an error comes. -/
lemma goesOn_of_errorFits (h : Inv lowerCase s) {target : Target} (hfits : s.ErrorFits lowerCase target)
    {operation : Operation} (hother : target.operation ≠ some operation) : s.manager.goesOn operation = false := by
  cases operation with
  | load =>
      have hempty := hfits.loads
      rw [settle_loads _ hother] at hempty
      exact (h.loading.of_empty hempty).1
  | search =>
      have hempty := hfits.searches
      rw [settle_searches _ hother] at hempty
      exact (h.searching.of_empty hempty).1
  | importing =>
      apply hfits.importing
      rintro rfl
      exact hother rfl

lemma spares_step (h : Inv lowerCase s) (e : Event) (horderly : s.Orderly lowerCase e) :
    Spares s (step sort s e) e := by
  rcases e with _ | ⟨target, _ | _ | _ | _ | message⟩
  case reply.error =>
    intro operation hother
    by_cases hreceives : s.Receives target (.error message)
    · rw [step, if_pos hreceives, goesOn_of_errorFits h (horderly hreceives) hother, handle_error]
      cases operation <;> rfl
    · rw [step, if_neg hreceives]
  all_goals trivial

end Steps

/-- **As long as loads do not overlap, nor searches, and an error finds nothing else going on**, the contacts that are
shown and the flags are right, and an error ends nothing else. -/
theorem contacts_right (events : List Event) (h : Meets (step sort) (State.Orderly lowerCase) {} events) :
    Meets (step sort) (Keeps sort) {} events := by
  have hstep : ∀ s e, Inv lowerCase s → s.Orderly lowerCase e → Inv lowerCase (step sort s e) :=
    fun s e hinv horderly => inv_step sort hinv e horderly
  refine (h.invariant inv_start hstep fun s e hinv horderly => ?_).1
  exact ⟨(hstep s e hinv horderly).right, spares_step sort hinv e horderly⟩

/-- Dart's `toLowerCase` for names of Latin letters. -/
def latinLowerCase (name : String) : List ℕ := name.toList.map fun c => c.toLower.toNat

def byLatinName : NameSorting latinLowerCase := Sorting.insertion _

/-- A contact is removed while another one is loaded, and the removal fails after a search. -/
theorem failed_removal_right :
    Meets (step byLatinName) (Keeps byLatinName) {}
      [.call .loadContacts, .reply (.load 1 .list) (.users [] [5, 3, 4]), .reply (.load 1 (.user 5)) (.user "bob"),
        .reply (.load 1 (.user 3)) (.user "Cleo"), .call (.removeContact 5), .reply (.load 1 (.user 4)) (.user "Ann"),
        .call (.setSearchQuery [97]), .call .searchDebounced, .reply (.search 1 .list) (.users [] [4]),
        .reply (.search 1 (.user 4)) (.user "Ann"), .reply (.change (.remove 5)) (.error none)] := by
  apply contacts_right
  decide +kernel

/-- A search that fails ends the load that is going on. -/
theorem failed_search_not_right : ¬ ∀ events, Meets (step byLatinName) (Keeps byLatinName) {} events := by
  intro h
  obtain ⟨-, -, -, ⟨hright, -⟩, -⟩ :=
    h [.call .loadContacts, .call (.setSearchQuery [97]), .call .searchDebounced,
      .reply (.search 1 .list) (.error none)]
  exact absurd (hright.loading.mp rfl) (by decide +kernel)

end RioGram.Contacts
