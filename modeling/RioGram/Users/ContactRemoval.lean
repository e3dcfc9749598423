import RioGram.Users.Contacts

/-!
# Removing a contact

`removeContact` takes a user from both lists in place, and the list of a search is the constant `[]` as soon as a search
begins or is given up, until something is found.  Constant lists throw.

* `Completes` — the user is in neither list any more, the others are, and the listeners are told.
* `removal_completes_iff` — the runs after which it is so; `cleared_search_throws` is one after which it is not.
* `removeContact_manager` — the run of the contacts goes on in the state that a call leaves, also where it throws.
-/

namespace RioGram.Contacts

open Js Reaching

variable {κ : Type} [LE κ] {lowerCase : String → κ} (sort : NameSorting lowerCase)

/-! ## The lists -/

/-- The contacts, and whether the list of the search is `const []`. -/
structure ContactRun where
  state : State := {}
  isConst : Bool := false

/-- What a call of `removeContact` leaves, also where it throws. -/
structure Removal where
  manager : ContactManager
  /-- The call returned normally. -/
  returned : Bool
  notified : Bool

namespace ContactRun

variable (r : ContactRun)

/-- `removeContact`, step by step: the request goes out and the contacts are changed before the other list is. -/
def removeContact (userId : ℤ) : Removal :=
  let m := r.state.manager.send (.removeContacts userId)
  let m := { m with contacts := m.contacts.filter (·.id ≠ userId) }
  if r.isConst then { manager := m, returned := false, notified := false }
  else
    { manager := { m with filteredContacts := m.filteredContacts.filter (·.id ≠ userId) }
      returned := true
      notified := true }

/-- The list of the search becomes constant. -/
def setsConst : Event → Bool
  | .call (.setSearchQuery query) => trimDart query = []
  | .call .searchDebounced => r.state.manager.searchDebounce
  | _ => false

/-- The list of the search becomes one that can be changed. -/
def setsGrowable : Event → Bool
  | .reply (.search number .list) (.users users userIds) =>
      r.state.Receives (.search number .list) (.users users userIds) ∧ users ≠ []
  | .reply (.search number (.user userId)) (.user displayName) =>
      r.state.Receives (.search number (.user userId)) (.user displayName)
  | _ => false

def step (r : ContactRun) (e : Event) : ContactRun where
  state := Contacts.step sort r.state e
  isConst := r.setsConst e || r.isConst && !r.setsGrowable e

/-- The call returns, the user is in neither list, everyone else is where they were, and the listeners are told. -/
structure Completes (userId : ℤ) : Prop where
  returned : (r.removeContact userId).returned = true
  absent : ∀ user ∈ (r.removeContact userId).manager.contacts ++ (r.removeContact userId).manager.filteredContacts,
    user.id ≠ userId
  contacts : (r.removeContact userId).manager.contacts = r.state.manager.contacts.filter (·.id ≠ userId)
  filtered : (r.removeContact userId).manager.filteredContacts = r.state.manager.filteredContacts.filter (·.id ≠ userId)
  notified : (r.removeContact userId).notified = true

/-- Every step that empties the list of the search has one after it that finds somebody. -/
def FoundSince (events : List Event) : Prop :=
  ∀ before e after, events = before ++ e :: after → (before.foldl (step sort) {}).setsConst e →
    ∃ middle e' rest, after = middle ++ e' :: rest ∧ ((before ++ e :: middle).foldl (step sort) {}).setsGrowable e'

/-! ## When a contact is removed -/

variable {r}

lemma completes_of_not_isConst (h : r.isConst = false) (userId : ℤ) : r.Completes userId := by
  have hremoval : r.removeContact userId =
      { manager := r.state.manager.removeContact userId, returned := true, notified := true } := by
    rw [removeContact, h]
    rfl
  refine ⟨by rw [hremoval], ?_, by rw [hremoval]; rfl, by rw [hremoval]; rfl, by rw [hremoval]⟩
  rw [hremoval]
  intro user huser
  rcases List.mem_append.mp huser with huser | huser
  · simpa using (List.mem_filter.mp huser).2
  · simpa using (List.mem_filter.mp huser).2

/-- Only the constant list is in the way. -/
lemma completes_iff_isConst (userId : ℤ) : r.Completes userId ↔ r.isConst = false := by
  refine ⟨fun h => ?_, fun h => completes_of_not_isConst h userId⟩
  rw [Bool.eq_false_iff]
  intro hconst
  have hreturned := h.returned
  rw [removeContact, if_pos hconst] at hreturned
  cases hreturned

/-- **A contact is removed after a run** exactly if everything that emptied the list of the search was followed by
something found. -/
theorem removal_completes_iff (sort : NameSorting lowerCase) (events : List Event) (userId : ℤ) :
    (events.foldl (step sort) {}).Completes userId ↔ FoundSince sort events := by
  rw [completes_iff_isConst]
  exact @foldl_flag_iff _ _ (step sort) {} isConst setsConst setsGrowable (fun _ _ => rfl) rfl events

/-- The user of a search that was given up goes from the contacts, and the call throws. -/
theorem cleared_search_throws :
    let r := [.call .loadContacts, .reply (.load 1 .list) (.users [⟨5, "Ann"⟩] []),
      .call (.setSearchQuery [])].foldl (step byLatinName) {}
    r.state.manager.contacts = [⟨5, "Ann"⟩] ∧ (r.removeContact 5).manager.contacts = [] ∧
      (r.removeContact 5).returned = false ∧ (r.removeContact 5).notified = false ∧ ¬r.Completes 5 := by
  refine ⟨by decide +kernel, by decide +kernel, by decide +kernel, by decide +kernel, fun h => ?_⟩
  exact absurd h.returned (by decide +kernel)

/-! ## The run of the contacts -/

/-- A constant list has nothing in it. -/
def ConstEmpty (r : ContactRun) : Prop := r.isConst → r.state.manager.filteredContacts = []

lemma filteredContacts_handleContacts (m : ContactManager) (users : List UserSummary) (userIds : List ℤ) :
    (m.handleContacts sort users userIds).filteredContacts = m.filteredContacts := by
  rw [ContactManager.handleContacts]
  split_ifs <;> rfl

lemma filteredContacts_handleContactUser (m : ContactManager) (user : UserSummary) :
    (m.handleContactUser sort user).filteredContacts = m.filteredContacts := by
  rw [ContactManager.handleContactUser]
  split_ifs <;> rfl

lemma filteredContacts_handleFound_nil (m : ContactManager) (userIds : List ℤ) :
    (m.handleFound [] userIds).filteredContacts = m.filteredContacts := by
  rw [ContactManager.handleFound, if_neg (not_not.mpr rfl)]
  split_ifs <;> rfl

/-- Answers that find nobody leave the list of the search as it was. -/
lemma filteredContacts_handle {target : Target} {answer : Answer} (hreceives : r.state.Receives target answer)
    (h : r.setsGrowable (.reply target answer) = false) :
    (r.state.manager.handle sort target answer).filteredContacts = r.state.manager.filteredContacts := by
  cases target with
  | load number part =>
      cases part <;> cases answer <;>
        first
        | rfl
        | exact filteredContacts_handleContacts sort _ _ _
        | exact filteredContacts_handleContactUser sort _ _
  | search number part =>
      cases part with
      | list =>
          cases answer with
          | users users userIds =>
              have hnone : users = [] := by
                by_contra hne
                exact absurd h (by simp [setsGrowable, hreceives, hne])
              rw [hnone]
              exact filteredContacts_handleFound_nil _ _
          | _ => rfl
      | user userId =>
          cases answer with
          | user displayName => exact absurd h (by simp [setsGrowable, hreceives])
          | _ => rfl
  | importing => cases answer <;> rfl
  | change change => cases answer <;> rfl

lemma constEmpty_step (h : r.ConstEmpty) (e : Event) : (r.step sort e).ConstEmpty := by
  intro hconst
  rw [step, Bool.or_eq_true, Bool.and_eq_true, Bool.not_eq_true'] at hconst
  cases e with
  | call call =>
      cases call with
      | setSearchQuery query =>
          by_cases hquery : trimDart query = []
          · exact if_pos hquery
          · have hfiltered := h (hconst.resolve_left (by simp [setsConst, hquery])).1
            exact (if_neg hquery).trans hfiltered
      | searchDebounced =>
          change (r.state.manager.searchDebounced).filteredContacts = []
          rw [ContactManager.searchDebounced]
          split_ifs with htimer
          · rfl
          · exact h (hconst.resolve_left (by simp [setsConst, htimer])).1
      | removeContact userId =>
          have hfiltered := h (hconst.resolve_left Bool.false_ne_true).1
          change r.state.manager.filteredContacts.filter _ = []
          rw [hfiltered, List.filter_nil]
      | _ => exact h (hconst.resolve_left Bool.false_ne_true).1
  | reply target answer =>
      have hkept := hconst.resolve_left Bool.false_ne_true
      change (Contacts.step sort r.state (.reply target answer)).manager.filteredContacts = []
      rw [Contacts.step]
      split_ifs with hreceives
      · exact (filteredContacts_handle sort hreceives hkept.2).trans (h hkept.1)
      · exact h hkept.1

lemma constEmpty_run (events : List Event) : (events.foldl (step sort) {}).ConstEmpty := by
  have hstart : ConstEmpty {} := fun hconst => absurd hconst Bool.false_ne_true
  have hrun := (meets_true {} events).invariant (I := ConstEmpty) (p := fun _ _ => True) hstart
    (fun _ e h _ => constEmpty_step sort h e) fun _ _ _ _ => trivial
  exact hrun.2

/-- The state that a call leaves is that of the run, whether the call throws or not. -/
theorem removeContact_manager (sort : NameSorting lowerCase) (events : List Event) (userId : ℤ) :
    ((events.foldl (step sort) {}).removeContact userId).manager =
      ((events.foldl (step sort) {}).step sort (.call (.removeContact userId))).state.manager := by
  have hempty := constEmpty_run sort events
  generalize events.foldl (step sort) {} = r at hempty ⊢
  change _ = r.state.manager.removeContact userId
  rw [removeContact, ContactManager.removeContact]
  split_ifs with hconst
  · have hfilter : r.state.manager.filteredContacts.filter (·.id ≠ userId) = r.state.manager.filteredContacts := by
      rw [hempty hconst]
      rfl
    rw [hfilter]
    rfl
  · rfl

end ContactRun

end RioGram.Contacts
