import Mathlib.Data.List.Nodup
import RioGram.Proxies.Saved

/-!
# The accounts of the app

`AccountManager` keeps the accounts and the id of the active one, and `AccountStore` stores them under two keys.
Each operation changes the manager first and saves afterwards, one key at a time, so a restart may find one of the
saves only: an operation is what it makes of the manager and the list of its saves (`Performed`).

**What is loaded.**  What was saved is read as it was (`read_saveAccounts`), and an entry that cannot be read is as
good as none.  The id of the active account is taken as it is, whatever the accounts are.

**The callback.**  `removeAccount` asks whether the active account is another one than the removed account after it
has seen to that, so it always calls back.

`keeps_iff_orderly` says in which runs neither matters.
-/

namespace RioGram.Accounts

open Reaching Proxies

/-! ## Sessions -/

/-- How `DateTime` writes and reads a time. -/
structure IsoFormat (Time : Type) where
  toIso8601String : Time → String
  tryParse : String → Option Time
  tryParse_toIso8601String : ∀ time, tryParse (toIso8601String time) = some time

structure AccountSession (Time : Type) where
  id : String
  userId : ℤ
  phoneNumber : String := ""
  displayName : String := ""
  lastActiveAt : Option Time := none
deriving DecidableEq

variable {Time : Type}

/-- The ids of the accounts. -/
def ids (accounts : List (AccountSession Time)) : List String := accounts.map (·.id)

/-- `'$value'` of an integer or `null`. -/
def interpolated : Option ℤ → String
  | some value => toString value
  | none => "null"

namespace AccountSession

def toJson (format : IsoFormat Time) (account : AccountSession Time) : JsonObject :=
  [("id", .string account.id), ("user_id", .number account.userId), ("phone_number", .string account.phoneNumber),
    ("display_name", .string account.displayName),
    ("last_active_at", (account.lastActiveAt.map fun time => .string (format.toIso8601String time)).getD .null)]

/-- There is no value where a cast fails. -/
def fromJson (format : IsoFormat Time) (json : JsonObject) : Option (AccountSession Time) := do
  let lastActiveRaw ← castString (json.lookup "last_active_at")
  let id ← castString (json.lookup "id")
  let userId ← castInt (json.lookup "user_id")
  let phoneNumber ← castString (json.lookup "phone_number")
  let displayName ← castString (json.lookup "display_name")
  pure
    { id := id.getD (interpolated userId)
      userId := userId.getD 0
      phoneNumber := phoneNumber.getD ""
      displayName := displayName.getD ""
      lastActiveAt := lastActiveRaw.bind format.tryParse }

lemma fromJson_toJson (format : IsoFormat Time) (account : AccountSession Time) :
    fromJson format (account.toJson format) = some account := by
  obtain ⟨id, userId, phoneNumber, displayName, lastActiveAt⟩ := account
  cases lastActiveAt with
  | none => simp [fromJson, toJson, castString, castInt, List.lookup_cons]
  | some time =>
      simp [fromJson, toJson, castString, castInt, List.lookup_cons, format.tryParse_toIso8601String]

end AccountSession

/-! ## The store -/

/-- What is stored for the accounts: nothing, a text that is no list, or a list. -/
inductive AccountsEntry where
  | missing
  | unreadable
  | list (values : List Json)

/-- The accounts of a list; what is no object is left out. -/
def accountsOf (format : IsoFormat Time) : List Json → Option (List (AccountSession Time))
  | [] => some []
  | .object fields :: rest => do
      let account ← AccountSession.fromJson format fields
      let accounts ← accountsOf format rest
      pure (account :: accounts)
  | _ :: rest => accountsOf format rest

/-- The accounts of an entry that can be read. -/
def AccountsEntry.read (format : IsoFormat Time) : AccountsEntry → Option (List (AccountSession Time))
  | missing => some []
  | unreadable => none
  | list values => accountsOf format values

/-- What `SharedPreferences` hold for `AccountStore`. -/
structure Store where
  accounts : AccountsEntry := .missing
  activeAccountId : Option String := none

/-- A save, which waits for its key to be written. -/
inductive Save (Time : Type) where
  | accounts (accounts : List (AccountSession Time))
  | activeAccountId (accountId : Option String)

namespace AccountStore

def loadAccounts (format : IsoFormat Time) (store : Store) : List (AccountSession Time) :=
  (store.accounts.read format).getD []

def saveAccounts (format : IsoFormat Time) (accounts : List (AccountSession Time)) : AccountsEntry :=
  .list (accounts.map fun account => .object (account.toJson format))

/-- `saveAccounts`, `saveActiveAccountId`: the key of an id that is missing or empty is removed. -/
def save (format : IsoFormat Time) (store : Store) : Save Time → Store
  | .accounts accounts => { store with accounts := saveAccounts format accounts }
  | .activeAccountId accountId => { store with activeAccountId := accountId.filter (· ≠ "") }

/-- **What is saved is read as it was.** -/
lemma read_saveAccounts (format : IsoFormat Time) (accounts : List (AccountSession Time)) :
    (saveAccounts format accounts).read format = some accounts := by
  rw [saveAccounts, AccountsEntry.read]
  induction accounts with
  | nil => rfl
  | cons account accounts ih =>
      rw [List.map_cons, accountsOf, AccountSession.fromJson_toJson, ih]
      rfl

end AccountStore

/-! ## The manager -/

/-- `AccountManager`. -/
structure Manager (Time : Type) where
  accounts : List (AccountSession Time) := []
  activeAccountId : Option String := none
deriving DecidableEq

/-- The operations, with the time at which an account was seen. -/
inductive Operation (Time : Type) where
  | upsertCurrentAccount (userId : ℤ) (phoneNumber displayName : String) (now : Time)
  | switchAccount (accountId : String)
  | removeAccount (accountId : String)

/-- What an operation makes of the manager, what it saves and whether it calls `onAccountChanged` at its end. -/
structure Performed (Time : Type) where
  manager : Manager Time
  saves : List (Save Time) := []
  accountChanged : Bool := false

namespace Manager

def activeAccount (m : Manager Time) : Option (AccountSession Time) :=
  match m.activeAccountId with
  | none => m.accounts.head?
  | some accountId => m.accounts.find? (·.id = accountId)

/-- `load`, by a manager that has just been made. -/
def load (format : IsoFormat Time) (store : Store) : Manager Time :=
  let accounts := AccountStore.loadAccounts format store
  { accounts, activeAccountId := store.activeAccountId.or (accounts.head?.map (·.id)) }

/-- The account that `upsertCurrentAccount` puts into the list. -/
def seen (m : Manager Time) (userId : ℤ) (phoneNumber displayName : String) (now : Time) : AccountSession Time :=
  let existing := m.accounts.find? (·.id = toString userId)
  { id := toString userId
    userId
    phoneNumber := if phoneNumber ≠ "" then phoneNumber else (existing.map (·.phoneNumber)).getD ""
    displayName := if displayName ≠ "" then displayName else (existing.map (·.displayName)).getD ""
    lastActiveAt := some now }

/-- The list with the account in the place of the first with its id, or at the end. -/
def upserted (accounts : List (AccountSession Time)) (account : AccountSession Time) : List (AccountSession Time) :=
  match accounts.findIdx? (·.id = account.id) with
  | some index => accounts.set index account
  | none => accounts ++ [account]

def upsertCurrentAccount (m : Manager Time) (userId : ℤ) (phoneNumber displayName : String) (now : Time) :
    Performed Time :=
  let accounts := upserted m.accounts (m.seen userId phoneNumber displayName now)
  { manager := { accounts, activeAccountId := some (toString userId) }
    saves := [.accounts accounts, .activeAccountId (some (toString userId))] }

def switchAccount (m : Manager Time) (accountId : String) : Performed Time :=
  if m.activeAccountId = some accountId then { manager := m }
  else if ¬ m.accounts.any (·.id = accountId) then { manager := m }
  else
    { manager := { m with activeAccountId := some accountId }
      saves := [.activeAccountId (some accountId)]
      accountChanged := true }

def removeAccount (m : Manager Time) (accountId : String) : Performed Time :=
  let accounts := m.accounts.filter (·.id ≠ accountId)
  let activeAccountId :=
    if m.activeAccountId = some accountId then accounts.head?.map (·.id) else m.activeAccountId
  { manager := { accounts, activeAccountId }
    saves := [.accounts accounts, .activeAccountId activeAccountId]
    accountChanged := activeAccountId ≠ some accountId }

def perform (m : Manager Time) : Operation Time → Performed Time
  | .upsertCurrentAccount userId phoneNumber displayName now =>
      m.upsertCurrentAccount userId phoneNumber displayName now
  | .switchAccount accountId => m.switchAccount accountId
  | .removeAccount accountId => m.removeAccount accountId

end Manager

/-! ## Runs -/

/-- The app with its store, and how often `onAccountChanged` has been called. -/
structure State (Time : Type) where
  manager : Manager Time := {}
  store : Store := {}
  changes : ℕ := 0

inductive Event (Time : Type) where
  /-- an operation, to its end -/
  | complete (operation : Operation Time)
  /-- an operation that is ended by a restart after some of its saves -/
  | interrupt (operation : Operation Time) (saves : ℕ)
  | restart
  /-- the entry of the accounts becomes unreadable -/
  | garble

section Runs

variable (format : IsoFormat Time)

/-- The store after the saves. -/
def saved (store : Store) (saves : List (Save Time)) : Store := saves.foldl (AccountStore.save format) store

/-- A restart, and `load`. -/
def started (s : State Time) (store : Store) : State Time := { s with manager := .load format store, store }

def step (s : State Time) : Event Time → State Time
  | .complete operation =>
      let performed := s.manager.perform operation
      { manager := performed.manager
        store := saved format s.store performed.saves
        changes := s.changes + if performed.accountChanged then 1 else 0 }
  | .interrupt operation saves =>
      started format s (saved format s.store ((s.manager.perform operation).saves.take saves))
  | .restart => started format s s.store
  | .garble => { s with store := { s.store with accounts := .unreadable } }

/-! ## What should hold -/

/-- No id is in the list twice, the active one is in it, and there is one if there are accounts. -/
structure Manager.IsValid (m : Manager Time) : Prop where
  nodup : (ids m.accounts).Nodup
  active : ∀ accountId ∈ m.activeAccountId, accountId ∈ ids m.accounts
  none_iff : m.activeAccountId = none ↔ m.accounts = []

instance (m : Manager Time) : Decidable m.IsValid :=
  decidable_of_iff ((ids m.accounts).Nodup ∧ (∀ accountId ∈ m.activeAccountId, accountId ∈ ids m.accounts) ∧
      (m.activeAccountId = none ↔ m.accounts = []))
    ⟨fun h => ⟨h.1, h.2.1, h.2.2⟩, fun h => ⟨h.nodup, h.active, h.none_iff⟩⟩

def Operation.isSwitchOrRemoval : Operation Time → Bool
  | upsertCurrentAccount .. => false
  | switchAccount _ => true
  | removeAccount _ => true

/-- The manager is valid after an operation or a start, a restart with a store that can be read brings it back,
and the callback is called where a switch or a removal has changed the active account. -/
def Keeps (s : State Time) (event : Event Time) : Prop :=
  match event with
  | .complete operation =>
      (step format s event).manager.IsValid ∧
        (step format s event).changes = s.changes + if operation.isSwitchOrRemoval ∧
          (step format s event).manager.activeAccountId ≠ s.manager.activeAccountId then 1 else 0
  | .interrupt _ _ => (step format s event).manager.IsValid ∧ (step format s event).changes = s.changes
  | .restart =>
      (step format s event).manager.IsValid ∧ (step format s event).changes = s.changes ∧
        (s.store.accounts.read format ≠ none → (step format s event).manager = s.manager)
  | .garble => True

/-- The accounts can be read, or there is no active one in the store. -/
def Loadable (store : Store) : Prop := store.accounts.read format ≠ none ∨ store.activeAccountId = none

/-- The account that is removed is the active one, and a removal that is interrupted after the first of its saves
is of another account than the stored active one.  A start finds accounts that can be read, or no active one: the
saves that come before it count. -/
def Orderly (s : State Time) : Event Time → Prop
  | .complete (.removeAccount accountId) => s.manager.activeAccountId = some accountId
  | .complete _ => True
  | .interrupt (.upsertCurrentAccount ..) saves => saves = 0 → Loadable format s.store
  | .interrupt (.removeAccount accountId) saves =>
      (saves = 0 → Loadable format s.store) ∧ (saves = 1 → s.store.activeAccountId ≠ some accountId)
  | .interrupt (.switchAccount accountId) saves =>
      if saves = 0 ∨ s.manager.activeAccountId = some accountId ∨ accountId ∉ ids s.manager.accounts then
        Loadable format s.store
      else s.store.accounts.read format ≠ none
  | .restart => Loadable format s.store
  | .garble => True

/-! ## The accounts in the store -/

/-- The manager is valid, and what the store says of it is right. -/
structure Invariant (s : State Time) : Prop where
  valid : s.manager.IsValid
  ne_empty : ∀ accountId ∈ ids s.manager.accounts, accountId ≠ ""
  stored : ∀ accounts, s.store.accounts.read format = some accounts → accounts = s.manager.accounts
  active : s.store.activeAccountId = s.manager.activeAccountId ∨
    s.store.activeAccountId = none ∧ s.manager.activeAccountId = s.manager.accounts.head?.map (·.id)

variable {format}

lemma mem_head?_map {accounts : List (AccountSession Time)} {accountId : String}
    (h : accountId ∈ accounts.head?.map (·.id)) : accountId ∈ ids accounts := by
  obtain ⟨account, haccount, rfl⟩ := Option.map_eq_some_iff.mp h
  exact List.mem_map_of_mem (List.mem_of_head? haccount)

lemma head?_map_eq_none {accounts : List (AccountSession Time)} :
    accounts.head?.map (·.id) = none ↔ accounts = [] := by
  rw [Option.map_eq_none_iff, List.head?_eq_none_iff]

/-- The accounts that are loaded are valid if the stored active one is among them. -/
lemma isValid_load_iff {store : Store} (hnodup : (ids (AccountStore.loadAccounts format store)).Nodup) :
    (Manager.load format store).IsValid ↔
      ∀ accountId ∈ store.activeAccountId, accountId ∈ ids (AccountStore.loadAccounts format store) := by
  cases hactive : store.activeAccountId with
  | none =>
      refine iff_of_true ⟨hnodup, fun accountId haccount => ?_, ?_⟩ fun accountId haccount => (by cases haccount)
      · rw [Manager.load, hactive, Option.none_or] at haccount
        exact mem_head?_map haccount
      · rw [Manager.load, hactive, Option.none_or]
        exact head?_map_eq_none
  | some accountId =>
      have hload : (Manager.load format store).activeAccountId = some accountId := by
        rw [Manager.load, hactive, Option.some_or]
      constructor
      · intro hvalid other hother
        exact hvalid.active other (by rwa [hload])
      · intro hlisted
        refine ⟨hnodup, fun other hother => hlisted other (by rwa [hload] at hother), ?_⟩
        refine iff_of_false (by rw [hload]; exact Option.some_ne_none _) fun hnil => ?_
        have hmem := hlisted accountId rfl
        have hempty : AccountStore.loadAccounts format store = [] := hnil
        rw [hempty] at hmem
        cases hmem

/-- After a save of accounts these are loaded. -/
lemma loadAccounts_saved (accounts : List (AccountSession Time)) (activeAccountId : Option String) :
    AccountStore.loadAccounts format { accounts := AccountStore.saveAccounts format accounts, activeAccountId } =
      accounts := by
  rw [AccountStore.loadAccounts, AccountStore.read_saveAccounts, Option.getD_some]

/-- A start keeps the invariant if what it loads is valid. -/
lemma invariant_started {s : State Time} {store : Store}
    (hne : ∀ accounts, store.accounts.read format = some accounts → ∀ accountId ∈ ids accounts, accountId ≠ "")
    (hvalid : (Manager.load format store).IsValid) : Invariant format (started format s store) := by
  refine ⟨hvalid, ?_, ?_, ?_⟩
  · intro accountId haccount
    change accountId ∈ ids ((store.accounts.read format).getD []) at haccount
    cases hread : store.accounts.read format with
    | none =>
        rw [hread] at haccount
        cases haccount
    | some accounts =>
        rw [hread] at haccount
        exact hne accounts hread accountId haccount
  · intro accounts hread
    change store.accounts.read format = some accounts at hread
    change accounts = (store.accounts.read format).getD []
    rw [hread, Option.getD_some]
  · change store.activeAccountId = store.activeAccountId.or _ ∨ store.activeAccountId = none ∧
      store.activeAccountId.or _ = _
    cases store.activeAccountId with
    | none => exact Or.inr ⟨rfl, rfl⟩
    | some accountId => exact Or.inl rfl

namespace Invariant

variable {s : State Time} (h : Invariant format s)

include h

/-- The stored active account is the active one. -/
lemma active_of_stored {accountId : String} (hstored : s.store.activeAccountId = some accountId) :
    s.manager.activeAccountId = some accountId := by
  rcases h.active with heq | ⟨hnone, -⟩
  · rw [← heq, hstored]
  · rw [hnone] at hstored
    cases hstored

lemma listed_of_stored {accountId : String} (hstored : s.store.activeAccountId = some accountId) :
    accountId ∈ ids s.manager.accounts :=
  h.valid.active accountId (h.active_of_stored hstored)

/-- A store that can be read brings the manager back. -/
lemma load_eq (hread : s.store.accounts.read format ≠ none) : Manager.load format s.store = s.manager := by
  obtain ⟨accounts, haccounts⟩ := Option.ne_none_iff_exists'.mp hread
  have hloaded : AccountStore.loadAccounts format s.store = s.manager.accounts := by
    rw [AccountStore.loadAccounts, haccounts, Option.getD_some, h.stored accounts haccounts]
  have hactive : s.store.activeAccountId.or (s.manager.accounts.head?.map (·.id)) = s.manager.activeAccountId := by
    rcases h.active with heq | ⟨hnone, hhead⟩
    · cases hmanager : s.manager.activeAccountId with
      | none =>
          rw [heq, hmanager, Option.none_or, head?_map_eq_none.mpr (h.valid.none_iff.mp hmanager)]
      | some accountId => rw [heq, hmanager, Option.some_or]
    · rw [hnone, Option.none_or, hhead]
  rw [Manager.load, hloaded, hactive]

/-- What is loaded without any more saves is valid exactly if the store is as a start needs it. -/
lemma isValid_load_iff_loadable : (Manager.load format s.store).IsValid ↔ Loadable format s.store := by
  cases hread : s.store.accounts.read format with
  | none =>
      have hnil : AccountStore.loadAccounts format s.store = [] := by
        rw [AccountStore.loadAccounts, hread, Option.getD_none]
      rw [isValid_load_iff (by rw [hnil]; exact List.nodup_nil), hnil, Loadable, hread]
      constructor
      · intro hlisted
        refine Or.inr (Option.eq_none_iff_forall_not_mem.mpr fun accountId haccount => ?_)
        cases hlisted accountId haccount
      · rintro (hnot | hnone) accountId haccount
        · exact absurd rfl hnot
        · rw [hnone] at haccount
          cases haccount
  | some accounts =>
      have hne : s.store.accounts.read format ≠ none := by
        rw [hread]
        exact Option.some_ne_none _
      rw [h.load_eq hne]
      exact iff_of_true h.valid (Or.inl hne)

end Invariant

/-! ## Operations -/

lemma toString_ne_empty (i : ℤ) : toString i ≠ "" := by
  intro h
  cases i with
  | ofNat n => simp [toString, Int.repr] at h
  | negSucc n => simp [toString, Int.repr] at h

/-- An account that is put into the list keeps the place of its id, or gets the last one. -/
lemma ids_upserted (accounts : List (AccountSession Time)) (account : AccountSession Time) :
    ids (Manager.upserted accounts account) =
      if account.id ∈ ids accounts then ids accounts else ids accounts ++ [account.id] := by
  unfold Manager.upserted
  cases hfind : accounts.findIdx? (·.id = account.id) with
  | none =>
      have hnot : account.id ∉ ids accounts := by
        intro hmem
        obtain ⟨other, hother, hid⟩ := List.mem_map.mp hmem
        simpa [hid] using List.findIdx?_eq_none_iff.mp hfind other hother
      rw [if_neg hnot]
      exact List.map_append
  | some index =>
      obtain ⟨hindex, hid, -⟩ := List.findIdx?_eq_some_iff_getElem.mp hfind
      have hid' : accounts[index].id = account.id := of_decide_eq_true hid
      have hmem : account.id ∈ ids accounts := by
        rw [← hid']
        exact List.mem_map_of_mem (List.getElem_mem hindex)
      rw [if_pos hmem]
      change (accounts.set index account).map (·.id) = accounts.map (·.id)
      have hsame : (accounts.map (·.id))[index]? = some account.id := by
        rw [List.getElem?_map, List.getElem?_eq_getElem hindex, Option.map_some, hid']
      rw [List.map_set]
      refine List.ext_getElem? fun i => ?_
      rw [List.getElem?_set]
      split_ifs with hi hlength
      · rw [← hi, hsame]
      · rw [List.length_map] at hlength
        exact absurd hindex hlength
      · rfl

namespace Invariant

variable {s : State Time} (h : Invariant format s)

include h

/-- Whose id is in the list after an account has been seen, and that none is there twice. -/
lemma ids_upserted_seen (userId : ℤ) (phoneNumber displayName : String) (now : Time) :
    (ids (Manager.upserted s.manager.accounts (s.manager.seen userId phoneNumber displayName now))).Nodup ∧
      ∀ accountId, accountId ∈ ids (Manager.upserted s.manager.accounts
          (s.manager.seen userId phoneNumber displayName now)) ↔
        accountId ∈ ids s.manager.accounts ∨ accountId = toString userId := by
  have hid : (s.manager.seen userId phoneNumber displayName now).id = toString userId := rfl
  rw [ids_upserted, hid]
  split_ifs with hmem
  · refine ⟨h.valid.nodup, fun accountId => ⟨Or.inl, ?_⟩⟩
    rintro (haccount | rfl)
    · exact haccount
    · exact hmem
  · refine ⟨List.nodup_append.mpr ⟨h.valid.nodup, List.nodup_singleton _, ?_⟩, fun accountId => ?_⟩
    · intro accountId haccount other hother heq
      rw [List.mem_singleton] at hother
      rw [heq, hother] at haccount
      exact hmem haccount
    · rw [List.mem_append, List.mem_singleton]

lemma ids_filter (accountId : String) :
    (ids (s.manager.accounts.filter (·.id ≠ accountId))).Nodup ∧
      ∀ other, other ∈ ids (s.manager.accounts.filter (·.id ≠ accountId)) ↔
        other ∈ ids s.manager.accounts ∧ other ≠ accountId := by
  have hids : ids (s.manager.accounts.filter (·.id ≠ accountId)) =
      (ids s.manager.accounts).filter (· ≠ accountId) := by
    rw [ids, ids, List.filter_map]
    rfl
  rw [hids]
  refine ⟨h.valid.nodup.filter _, fun other => ?_⟩
  rw [List.mem_filter, decide_eq_true_iff]

/-- The manager after an account has been seen. -/
lemma isValid_upsert (userId : ℤ) (phoneNumber displayName : String) (now : Time) :
    (s.manager.upsertCurrentAccount userId phoneNumber displayName now).manager.IsValid := by
  obtain ⟨hnodup, hmem⟩ := h.ids_upserted_seen userId phoneNumber displayName now
  have hlisted := (hmem (toString userId)).mpr (Or.inr rfl)
  refine ⟨hnodup, fun accountId haccount => ?_, iff_of_false (Option.some_ne_none _) fun hnil => ?_⟩
  · rw [← Option.some.inj haccount]
    exact hlisted
  · have hempty : Manager.upserted s.manager.accounts (s.manager.seen userId phoneNumber displayName now) = [] := hnil
    rw [hempty] at hlisted
    cases hlisted

/-- The manager after a removal. -/
lemma isValid_remove (accountId : String) : (s.manager.removeAccount accountId).manager.IsValid := by
  obtain ⟨hnodup, hmem⟩ := h.ids_filter accountId
  by_cases hactive : s.manager.activeAccountId = some accountId
  · have hnew : (s.manager.removeAccount accountId).manager.activeAccountId =
        (s.manager.accounts.filter (·.id ≠ accountId)).head?.map (·.id) := if_pos hactive
    refine ⟨hnodup, fun other hother => ?_, ?_⟩
    · rw [hnew] at hother
      exact mem_head?_map hother
    · rw [hnew]
      exact head?_map_eq_none
  · have hnew : (s.manager.removeAccount accountId).manager.activeAccountId = s.manager.activeAccountId :=
      if_neg hactive
    have hkept : ∀ other ∈ s.manager.activeAccountId,
        other ∈ ids (s.manager.accounts.filter (·.id ≠ accountId)) := by
      intro other hother
      refine (hmem other).mpr ⟨h.valid.active other hother, ?_⟩
      rintro rfl
      exact hactive hother
    refine ⟨hnodup, fun other hother => hkept other (by rwa [hnew] at hother), ?_⟩
    rw [hnew, h.valid.none_iff]
    constructor
    · intro hnil
      change s.manager.accounts.filter (·.id ≠ accountId) = []
      rw [hnil, List.filter_nil]
    · intro hnil
      have hempty : s.manager.accounts.filter (·.id ≠ accountId) = [] := hnil
      refine h.valid.none_iff.mp (Option.eq_none_iff_forall_not_mem.mpr fun other hother => ?_)
      have := hkept other hother
      rw [hempty] at this
      cases this

end Invariant

/-! ## Steps -/

variable (format) in
/-- A start from accounts that have just been saved. -/
lemma invariant_started_saved (s : State Time) {accounts : List (AccountSession Time)}
    (activeAccountId : Option String) (hnodup : (ids accounts).Nodup)
    (hne : ∀ accountId ∈ ids accounts, accountId ≠ "") :
    let store : Store := { accounts := AccountStore.saveAccounts format accounts, activeAccountId }
    ((Manager.load format store).IsValid ↔ ∀ accountId ∈ activeAccountId, accountId ∈ ids accounts) ∧
      ((Manager.load format store).IsValid → Invariant format (started format s store)) := by
  intro store
  refine ⟨?_, invariant_started fun others hread => ?_⟩
  · rw [isValid_load_iff, loadAccounts_saved]
    rw [loadAccounts_saved]
    exact hnodup
  · change (AccountStore.saveAccounts format accounts).read format = some others at hread
    rw [AccountStore.read_saveAccounts] at hread
    rw [← Option.some.inj hread]
    exact hne

/-- The id of an active account is saved as it is. -/
lemma Manager.IsValid.filter_active {m : Manager Time} (hvalid : m.IsValid)
    (hne : ∀ accountId ∈ ids m.accounts, accountId ≠ "") :
    m.activeAccountId.filter (· ≠ "") = m.activeAccountId := by
  cases hactive : m.activeAccountId with
  | none => rfl
  | some accountId =>
      have := hne accountId (hvalid.active accountId hactive)
      simp [Option.filter, this]

/-- A restart in the middle of an operation is judged by what it loads. -/
lemma keeps_interrupt {s : State Time} (operation : Operation Time) (saves : ℕ) :
    Keeps format s (.interrupt operation saves) ↔
      (Manager.load format
        (saved format s.store ((s.manager.perform operation).saves.take saves))).IsValid :=
  and_iff_left rfl

/-- The invariant after an operation whose saves are those of its accounts and of its active account. -/
lemma invariant_completed {s : State Time} {m : Manager Time} {changes : ℕ} (hvalid : m.IsValid)
    (hne : ∀ accountId ∈ ids m.accounts, accountId ≠ "") :
    Invariant format
      { manager := m
        store := saved format s.store [.accounts m.accounts, .activeAccountId m.activeAccountId]
        changes } := by
  refine ⟨hvalid, hne, fun accounts hread => ?_, Or.inl ?_⟩
  · change (AccountStore.saveAccounts format m.accounts).read format = some accounts at hread
    rw [AccountStore.read_saveAccounts] at hread
    exact (Option.some.inj hread).symm
  · exact hvalid.filter_active hne

/-- A restart with one or both of the saves of an operation that has two. -/
lemma interrupt_saved (s : State Time) (operation : Operation Time) {m : Manager Time}
    (hsaves : (s.manager.perform operation).saves = [.accounts m.accounts, .activeAccountId m.activeAccountId])
    (hvalid : m.IsValid) (hne : ∀ accountId ∈ ids m.accounts, accountId ≠ "") (saves : ℕ) :
    (Keeps format s (.interrupt operation (saves + 1)) ↔
        (saves = 0 → ∀ accountId ∈ s.store.activeAccountId, accountId ∈ ids m.accounts)) ∧
      (Keeps format s (.interrupt operation (saves + 1)) →
        Invariant format (step format s (.interrupt operation (saves + 1)))) := by
  rw [keeps_interrupt, step, hsaves]
  cases saves with
  | zero =>
      obtain ⟨hiff, hinvariant⟩ := invariant_started_saved format s s.store.activeAccountId hvalid.nodup hne
      exact ⟨hiff.trans ⟨fun hlisted _ => hlisted, fun hlisted => hlisted rfl⟩, hinvariant⟩
  | succ saves =>
      obtain ⟨hiff, hinvariant⟩ := invariant_started_saved format s m.activeAccountId hvalid.nodup hne
      have hstore : saved format s.store
          ([.accounts m.accounts, .activeAccountId m.activeAccountId].take (saves + 1 + 1)) =
          { accounts := AccountStore.saveAccounts format m.accounts, activeAccountId := m.activeAccountId } := by
        rw [List.take_of_length_le (by simp)]
        change ({ accounts := _, activeAccountId := m.activeAccountId.filter (· ≠ "") } : Store) = _
        rw [hvalid.filter_active hne]
        rfl
      rw [hstore]
      exact ⟨iff_of_true (hiff.mpr hvalid.active) fun hzero => absurd hzero (Nat.succ_ne_zero _), hinvariant⟩

/-- A switch that is ignored, or the one that is made. -/
lemma Manager.switchAccount_cases (m : Manager Time) (accountId : String) :
    (m.activeAccountId = some accountId ∨ accountId ∉ ids m.accounts) ∧
        m.switchAccount accountId = { manager := m } ∨
      (¬ (m.activeAccountId = some accountId ∨ accountId ∉ ids m.accounts)) ∧
        m.switchAccount accountId =
          { manager := { m with activeAccountId := some accountId }
            saves := [.activeAccountId (some accountId)]
            accountChanged := true } := by
  have hany : m.accounts.any (·.id = accountId) = true ↔ accountId ∈ ids m.accounts := by
    simp [ids]
  by_cases hsame : m.activeAccountId = some accountId
  · exact Or.inl ⟨Or.inl hsame, if_pos hsame⟩
  by_cases hlisted : accountId ∈ ids m.accounts
  · refine Or.inr ⟨not_or.mpr ⟨hsame, not_not.mpr hlisted⟩, ?_⟩
    rw [switchAccount, if_neg hsame, if_neg (not_not.mpr (hany.mpr hlisted))]
  · refine Or.inl ⟨Or.inr hlisted, ?_⟩
    rw [switchAccount, if_neg hsame, if_pos fun hmem => hlisted (hany.mp hmem)]

namespace Invariant

variable {s : State Time} (h : Invariant format s)

include h

/-- The ids that the entry in the store can have. -/
lemma ne_empty_of_read {accounts : List (AccountSession Time)}
    (hread : s.store.accounts.read format = some accounts) : ∀ accountId ∈ ids accounts, accountId ≠ "" := by
  rw [h.stored accounts hread]
  exact h.ne_empty

/-- A start from the store as it is. -/
lemma started_store (hload : Loadable format s.store) : Invariant format (started format s s.store) :=
  invariant_started (fun _ => h.ne_empty_of_read) (h.isValid_load_iff_loadable.mpr hload)

lemma ne_empty_upsert (userId : ℤ) (phoneNumber displayName : String) (now : Time) :
    ∀ accountId ∈ ids (s.manager.upsertCurrentAccount userId phoneNumber displayName now).manager.accounts,
      accountId ≠ "" := by
  intro accountId haccount
  rcases ((h.ids_upserted_seen userId phoneNumber displayName now).2 accountId).mp haccount with hold | rfl
  · exact h.ne_empty accountId hold
  · exact toString_ne_empty userId

lemma ne_empty_remove (accountId : String) :
    ∀ other ∈ ids (s.manager.removeAccount accountId).manager.accounts, other ≠ "" := fun other hother =>
  h.ne_empty other (((h.ids_filter accountId).2 other).mp hother).1

/-- **A switch.** -/
lemma complete_switch (accountId : String) :
    Keeps format s (.complete (.switchAccount accountId)) ∧
      Invariant format (step format s (.complete (.switchAccount accountId))) := by
  rcases s.manager.switchAccount_cases accountId with ⟨-, hswitch⟩ | ⟨hmade, hswitch⟩
  · have hstep : step format s (.complete (.switchAccount accountId)) = s := by
      simp [step, Manager.perform, hswitch, saved]
    rw [Keeps, hstep]
    refine ⟨⟨h.valid, ?_⟩, h⟩
    simp
  · have hstep : step format s (.complete (.switchAccount accountId)) =
        { manager := { s.manager with activeAccountId := some accountId }
          store := { s.store with activeAccountId := (some accountId).filter (· ≠ "") }
          changes := s.changes + 1 } := by
      simp [step, Manager.perform, hswitch, saved, AccountStore.save]
    obtain ⟨hother, hlisted⟩ := not_or.mp hmade
    rw [not_not] at hlisted
    have hne := h.ne_empty accountId hlisted
    have hvalid : ({ s.manager with activeAccountId := some accountId } : Manager Time).IsValid := by
      refine ⟨h.valid.nodup, fun other haccount => ?_, iff_of_false (Option.some_ne_none _) fun hnil => ?_⟩
      · rw [← Option.some.inj haccount]
        exact hlisted
      · have hempty : s.manager.accounts = [] := hnil
        rw [hempty] at hlisted
        cases hlisted
    rw [Keeps, hstep]
    refine ⟨⟨hvalid, ?_⟩, ⟨hvalid, h.ne_empty, h.stored, Or.inl ?_⟩⟩
    · simp [Operation.isSwitchOrRemoval, Ne.symm hother]
    · simp [Option.filter, hne]

/-- **A removal** calls back where it should exactly if it removes the active account. -/
lemma complete_remove (accountId : String) :
    (Keeps format s (.complete (.removeAccount accountId)) ↔ s.manager.activeAccountId = some accountId) ∧
      Invariant format (step format s (.complete (.removeAccount accountId))) := by
  have hvalid := h.isValid_remove accountId
  have hnew : (s.manager.removeAccount accountId).manager.activeAccountId ≠ some accountId := by
    intro hactive
    exact (((h.ids_filter accountId).2 accountId).mp (hvalid.active accountId hactive)).2 rfl
  have hcalled : (s.manager.removeAccount accountId).accountChanged = true := decide_eq_true hnew
  refine ⟨?_, invariant_completed hvalid (h.ne_empty_remove accountId)⟩
  have hchanges : (step format s (.complete (.removeAccount accountId))).changes = s.changes + 1 := by
    simp [step, Manager.perform, hcalled]
  have hmanager : (step format s (.complete (.removeAccount accountId))).manager =
      (s.manager.removeAccount accountId).manager := rfl
  rw [Keeps, hchanges, hmanager, and_iff_right hvalid]
  by_cases hactive : s.manager.activeAccountId = some accountId
  · rw [hactive]
    have hboth : (.removeAccount accountId : Operation Time).isSwitchOrRemoval = true ∧
        (s.manager.removeAccount accountId).manager.activeAccountId ≠ some accountId := ⟨rfl, hnew⟩
    exact iff_of_true (by rw [if_pos hboth]) rfl
  · have hsame : (s.manager.removeAccount accountId).manager.activeAccountId = s.manager.activeAccountId :=
      if_neg hactive
    refine iff_of_false ?_ hactive
    rw [if_neg fun hboth => hboth.2 hsame]
    omega

/-- A restart without any of the saves. -/
lemma interrupt_unsaved (operation : Operation Time) (saves : ℕ)
    (hnone : (s.manager.perform operation).saves.take saves = []) :
    (Keeps format s (.interrupt operation saves) ↔ Loadable format s.store) ∧
      (Keeps format s (.interrupt operation saves) →
        Invariant format (step format s (.interrupt operation saves))) := by
  rw [keeps_interrupt, step, hnone]
  exact ⟨h.isValid_load_iff_loadable, fun hvalid => h.started_store (h.isValid_load_iff_loadable.mp hvalid)⟩

/-- With another id of the active account, the store is right exactly if its accounts can be read. -/
lemma isValid_load_switch_iff {accountId : String} (hlisted : accountId ∈ ids s.manager.accounts) :
    (Manager.load format { s.store with activeAccountId := some accountId }).IsValid ↔
      s.store.accounts.read format ≠ none := by
  cases haccounts : s.store.accounts.read format with
  | none =>
      refine iff_of_false (fun hvalid => ?_) (not_not.mpr rfl)
      have hmem := hvalid.active accountId rfl
      change accountId ∈ ids ((s.store.accounts.read format).getD []) at hmem
      rw [haccounts] at hmem
      cases hmem
  | some accounts =>
      have hread : AccountStore.loadAccounts format { s.store with activeAccountId := some accountId } =
          s.manager.accounts := by
        change (s.store.accounts.read format).getD [] = _
        rw [haccounts, Option.getD_some, h.stored accounts haccounts]
      refine iff_of_true ?_ (Option.some_ne_none _)
      rw [isValid_load_iff (by rw [hread]; exact h.valid.nodup), hread]
      intro other hother
      rw [← Option.some.inj hother]
      exact hlisted

/-- A switch that is interrupted saves an active account, which is there if the accounts can be read. -/
lemma interrupt_switch (accountId : String) (saves : ℕ) :
    (Keeps format s (.interrupt (.switchAccount accountId) saves) ↔
        Orderly format s (.interrupt (.switchAccount accountId) saves)) ∧
      (Keeps format s (.interrupt (.switchAccount accountId) saves) →
        Invariant format (step format s (.interrupt (.switchAccount accountId) saves))) := by
  rcases s.manager.switchAccount_cases accountId with ⟨hignored, hswitch⟩ | ⟨hmade, hswitch⟩
  · have hnone : (s.manager.perform (.switchAccount accountId)).saves.take saves = [] := by
      rw [Manager.perform, hswitch, List.take_nil]
    rw [Orderly, if_pos (Or.inr hignored)]
    exact h.interrupt_unsaved _ _ hnone
  cases saves with
  | zero =>
      rw [Orderly, if_pos (Or.inl rfl)]
      exact h.interrupt_unsaved _ _ rfl
  | succ saves =>
      obtain ⟨-, hlisted⟩ := not_or.mp hmade
      rw [not_not] at hlisted
      have hne := h.ne_empty accountId hlisted
      have hstore : saved format s.store ((s.manager.perform (.switchAccount accountId)).saves.take (saves + 1)) =
          { s.store with activeAccountId := some accountId } := by
        simp [Manager.perform, hswitch, saved, AccountStore.save, Option.filter, hne]
      rw [Orderly, if_neg (not_or.mpr ⟨Nat.succ_ne_zero saves, hmade⟩), keeps_interrupt, step, hstore]
      exact ⟨h.isValid_load_switch_iff hlisted,
        invariant_started fun accounts haccounts => h.ne_empty_of_read haccounts⟩

/-- **Each step** keeps what should hold exactly if it is orderly, and then the invariant. -/
lemma keeps_iff (event : Event Time) :
    (Keeps format s event ↔ Orderly format s event) ∧
      (Keeps format s event → Invariant format (step format s event)) := by
  cases event with
  | complete operation =>
      cases operation with
      | upsertCurrentAccount userId phoneNumber displayName now =>
          have hvalid := h.isValid_upsert userId phoneNumber displayName now
          have hkeeps : Keeps format s (.complete (.upsertCurrentAccount userId phoneNumber displayName now)) :=
            ⟨hvalid, rfl⟩
          exact ⟨iff_of_true hkeeps trivial, fun _ =>
            invariant_completed hvalid (h.ne_empty_upsert userId phoneNumber displayName now)⟩
      | switchAccount accountId =>
          obtain ⟨hkeeps, hinvariant⟩ := h.complete_switch accountId
          exact ⟨iff_of_true hkeeps trivial, fun _ => hinvariant⟩
      | removeAccount accountId =>
          obtain ⟨hiff, hinvariant⟩ := h.complete_remove accountId
          exact ⟨hiff, fun _ => hinvariant⟩
  | interrupt operation saves =>
      cases operation with
      | upsertCurrentAccount userId phoneNumber displayName now =>
          cases saves with
          | zero =>
              obtain ⟨hiff, hinvariant⟩ :=
                h.interrupt_unsaved (.upsertCurrentAccount userId phoneNumber displayName now) 0 rfl
              exact ⟨hiff.trans ⟨fun hload _ => hload, fun hload => hload rfl⟩, hinvariant⟩
          | succ saves =>
              obtain ⟨hiff, hinvariant⟩ :=
                interrupt_saved s (.upsertCurrentAccount userId phoneNumber displayName now) rfl
                  (h.isValid_upsert userId phoneNumber displayName now)
                  (h.ne_empty_upsert userId phoneNumber displayName now) saves
              refine ⟨iff_of_true (hiff.mpr fun _ accountId haccount => ?_) fun hzero => ?_, hinvariant⟩
              · exact ((h.ids_upserted_seen userId phoneNumber displayName now).2 accountId).mpr
                  (Or.inl (h.listed_of_stored haccount))
              · exact absurd hzero (Nat.succ_ne_zero saves)
      | switchAccount accountId => exact h.interrupt_switch accountId saves
      | removeAccount accountId =>
          cases saves with
          | zero =>
              obtain ⟨hiff, hinvariant⟩ :=
                h.interrupt_unsaved (.removeAccount accountId) 0 rfl
              refine ⟨hiff.trans ⟨fun hload => ⟨fun _ => hload, fun hone => ?_⟩, fun hload => hload.1 rfl⟩, hinvariant⟩
              exact absurd hone (by decide)
          | succ saves =>
              obtain ⟨hiff, hinvariant⟩ := interrupt_saved s (.removeAccount accountId) rfl
                (h.isValid_remove accountId) (h.ne_empty_remove accountId) saves
              refine ⟨hiff.trans ⟨fun hlisted => ⟨fun hzero => ?_, fun hone hstored => ?_⟩, fun horderly hzero => ?_⟩,
                hinvariant⟩
              · exact absurd hzero (Nat.succ_ne_zero saves)
              · exact (((h.ids_filter accountId).2 accountId).mp
                  (hlisted (Nat.succ.inj hone) accountId hstored)).2 rfl
              · intro other hother
                refine ((h.ids_filter accountId).2 other).mpr ⟨h.listed_of_stored hother, ?_⟩
                rintro rfl
                exact horderly.2 (by rw [hzero]) hother
  | restart =>
      have hiff : Keeps format s .restart ↔ Loadable format s.store := by
        rw [← h.isValid_load_iff_loadable]
        exact ⟨fun hkeeps => hkeeps.1, fun hvalid => ⟨hvalid, rfl, h.load_eq⟩⟩
      exact ⟨hiff, fun hkeeps => h.started_store (hiff.mp hkeeps)⟩
  | garble =>
      refine ⟨Iff.rfl, fun _ => ⟨h.valid, h.ne_empty, fun accounts hread => ?_, h.active⟩⟩
      cases hread

end Invariant

/-- An app that starts with an empty store has no accounts. -/
lemma invariant_init : Invariant format ({} : State Time) where
  valid := ⟨List.nodup_nil, fun _ haccount => (by cases haccount), iff_of_true rfl rfl⟩
  ne_empty := fun _ haccount => (by cases haccount)
  stored := fun _ hread => (Option.some.inj hread).symm
  active := Or.inl rfl

/-- **The runs of which each step keeps what should hold** are the orderly ones. -/
theorem keeps_iff_orderly (format : IsoFormat Time) (events : List (Event Time)) :
    Meets (step format) (Keeps format) {} events ↔ Meets (step format) (Orderly format) {} events :=
  meets_iff_meets (I := Invariant format) (fun _ event h => (h.keeps_iff event).1)
    (fun _ event h hkeeps => (h.keeps_iff event).2 hkeeps) invariant_init events

end Runs

/-- Times that are written as they are. -/
def textFormat : IsoFormat String where
  toIso8601String := id
  tryParse := some
  tryParse_toIso8601String _ := rfl

/-- An account with the user's id for a name. -/
def signIn (userId : ℤ) : Event String := .complete (.upsertCurrentAccount userId "" "" "2026-01-01T00:00:00.000")

/-- Removing another account than the active one calls back; a restart between the two saves of a removal, or with
accounts that cannot be read, leaves an active account that is not in the list. -/
theorem remove_other_calls_back :
    ¬ Meets (step textFormat) (Keeps textFormat) {}
        [signIn 1, signIn 2, .complete (.removeAccount "1")] ∧
      ¬ Meets (step textFormat) (Keeps textFormat) {} [signIn 1, .interrupt (.removeAccount "1") 1] ∧
      ¬ Meets (step textFormat) (Keeps textFormat) {} [signIn 1, .garble, .restart] := by
  refine ⟨?_, ?_, ?_⟩
  · rintro ⟨-, -, hremove, -⟩
    exact absurd hremove.2 (by decide +kernel)
  · rintro ⟨-, hinterrupt, -⟩
    exact absurd hinterrupt.1 (by decide +kernel)
  · rintro ⟨-, -, hrestart, -⟩
    exact absurd hrestart.1 (by decide +kernel)

end RioGram.Accounts
