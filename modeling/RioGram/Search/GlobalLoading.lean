import RioGram.Core.Reachable
import RioGram.Search.Requests

/-!
# Whether a global search is loading

A global search sends its requests together and counts down by their answers; an error ends the loading at once.
More messages are asked for one page after the other, with the numbers of the searches.

`LoadingView` is what matters of the search for this and `step_global_loading` says that the manager does just
what `LoadingView.step` does.  `LoadingRun` has with it the requests that are not answered, the number of the
latest search and whether the answer for its sponsored chats has been an error.

* `loading_of_current` says when it loads only while something of the latest search is waited for.
* `loading_never_ends` are two runs after which it loads on, with everything answered.
-/

namespace RioGram.Search

open Chats Reaching

/-! ## Counting down the answers -/

/-- The requests of one search, to which no next page belongs. -/
structure SearchTargets where
  targets : List GlobalTarget
  nodup : targets.Nodup
  noMore : .messagesMore ∉ targets
  chats : .chats ∈ targets
  few : targets.length ≤ 20

/-- What matters of a global search. -/
structure LoadingView where
  debounce : Bool := false
  requestId : ℕ := 0
  pending : ℕ := 0
  isLoading : Bool := false
  isLoadingMore : Bool := false
  hasMore : Bool := false

/-- An answer, of the type that was asked for and with what it says of a next page, or an error. -/
inductive LoadingReply where
  | success (next : Bool)
  | error

inductive LoadingEvent where
  | other
  /-- The user types a query, and a timer runs. -/
  | begins
  | clears
  /-- The user picks a filter. -/
  | performs (targets : SearchTargets)
  /-- The timer fires. -/
  | fires (targets : SearchTargets)
  | more
  | answer (target : GlobalTarget) (requestId : ℕ) (reply : LoadingReply)

namespace LoadingView

variable (v : LoadingView)

def canLoadMore : Bool := v.hasMore && !v.isLoading && !v.isLoadingMore

@[grind =]
def perform (targets : SearchTargets) : LoadingView :=
  { v with requestId := v.requestId + 1, pending := targets.targets.length, isLoading := true, hasMore := false }

/-- One answer less is waited for. -/
@[grind =]
def complete : LoadingView :=
  { v with pending := min (v.pending - 1) 20, isLoading := decide (0 < min (v.pending - 1) 20) && v.isLoading }

@[grind =]
def answered (target : GlobalTarget) (requestId : ℕ) : LoadingReply → LoadingView
  | .success next =>
      if requestId ≠ v.requestId then v
      else if target = .messagesMore then { v with hasMore := next, isLoadingMore := false }
      else if target = .messages then ({ v with hasMore := next } : LoadingView).complete
      else v.complete
  | .error =>
      if target = .sponsoredChats ∨ requestId ≠ v.requestId then v
      else if target = .messagesMore then { v with isLoadingMore := false }
      else { v with isLoading := false }

@[grind =]
def step : LoadingEvent → LoadingView
  | .other => v
  | .begins => { v with debounce := true, isLoading := true }
  | .clears => { requestId := v.requestId }
  | .performs targets => v.perform targets
  | .fires targets => if v.debounce then { v.perform targets with debounce := false } else v
  | .more => if v.canLoadMore then { v with isLoadingMore := true, requestId := v.requestId + 1 } else v
  | .answer target requestId reply => v.answered target requestId reply

/-- A search is performed. -/
@[grind =]
def performsNow : LoadingEvent → Bool
  | .performs _ => true
  | .fires _ => v.debounce
  | _ => false

@[grind =]
def asks : LoadingEvent → List (GlobalTarget × ℕ)
  | .performs targets => targets.targets.map (·, v.requestId + 1)
  | .fires targets => if v.debounce then targets.targets.map (·, v.requestId + 1) else []
  | .more => if v.canLoadMore then [(.messagesMore, v.requestId + 1)] else []
  | _ => []

end LoadingView

/-- The requests are those that are not answered. -/
@[ext]
structure LoadingRun where
  view : LoadingView := {}
  requests : List (GlobalTarget × ℕ) := []
  /-- The number of the latest search. -/
  latest : ℕ := 0
  /-- The sponsored chats of the latest search have been answered by an error. -/
  missed : Bool := false

namespace LoadingRun

variable (r : LoadingRun)

@[grind =]
def requestsAfter : LoadingEvent → List (GlobalTarget × ℕ)
  | .answer target requestId _ => r.requests.filter (· != (target, requestId))
  | _ => r.requests

@[grind =]
def missedAfter : LoadingEvent → Bool
  | .answer .sponsoredChats requestId .error => r.missed || requestId == r.latest
  | e => !r.view.performsNow e && r.missed

@[grind =]
def step (e : LoadingEvent) : LoadingRun where
  view := r.view.step e
  requests := r.requestsAfter e ++ r.view.asks e
  latest := if r.view.performsNow e then r.view.requestId + 1 else r.latest
  missed := r.missedAfter e

/-- What of the latest search is waited for. -/
@[grind =]
def due : List (GlobalTarget × ℕ) := r.requests.filter (·.2 == r.latest)

/-- The next pages of the latest search that are waited for. -/
@[grind =]
def nextPages : List (GlobalTarget × ℕ) :=
  r.requests.filter fun request => request.1 == .messagesMore && decide (r.latest < request.2)

/-- It loads only while the timer or an answer to the latest search is waited for, and more only while its one
next page is. -/
structure Faithful (r : LoadingRun) : Prop where
  loading : r.view.debounce = false → r.due = [] → r.view.isLoading = false
  loadingMore : r.view.isLoadingMore → ∃ request, r.nextPages = [request]

/-- TDLib answers requests that were sent, each once. -/
def Served (r : LoadingRun) : LoadingEvent → Prop
  | .answer target requestId _ => (target, requestId) ∈ r.requests
  | _ => True

instance (r : LoadingRun) (e : LoadingEvent) : Decidable (r.Served e) :=
  match e with
  | .answer target requestId _ => inferInstanceAs (Decidable ((target, requestId) ∈ r.requests))
  | .other | .begins | .clears | .performs _ | .fires _ | .more => isTrue trivial

/-- An answer ends the loading if it comes last. -/
@[grind =]
def Ends (r : LoadingRun) (target : GlobalTarget) : LoadingReply → Prop
  | .success _ => r.missed = false
  | .error => target ≠ .sponsoredChats

/-- No search is performed while more is loaded, and the last answer to a search that loads still is an error for
something else than the sponsored chats, or they have not been answered by one. -/
def InTime (r : LoadingRun) : LoadingEvent → Prop
  | .performs _ => r.view.isLoadingMore = false
  | .fires _ => r.view.debounce → r.view.isLoadingMore = false
  | .answer target requestId reply =>
      requestId = r.latest → (∀ request ∈ r.due, request = (target, requestId)) → r.view.debounce = false →
        r.view.isLoading → r.Ends target reply
  | _ => True

/-! ## What holds in every run -/

structure Consistent (r : LoadingRun) : Prop where
  numbered : ∀ request ∈ r.requests, request.2 ≤ r.view.requestId
  latest : r.latest ≤ r.view.requestId
  nodup : r.requests.Nodup
  kinds : ∀ request ∈ r.requests, request.1 = .messagesMore ∨ request.2 ≤ r.latest
  noMore : (.messagesMore, r.latest) ∉ r.requests
  unmissed : (.sponsoredChats, r.latest) ∈ r.requests → r.missed = false
  counted : r.view.debounce = false → r.view.isLoading →
    r.view.requestId = r.latest ∧ r.view.pending = r.due.length + r.missed.toNat ∧ 0 < r.view.pending ∧
      r.view.pending ≤ 20
  current : ∀ request ∈ r.nextPages, request.2 = r.view.requestId
  idle : r.view.hasMore → r.view.isLoadingMore = false → r.nextPages = []

variable {r : LoadingRun}

lemma mem_nextPages {request : GlobalTarget × ℕ} :
    request ∈ r.nextPages ↔ request ∈ r.requests ∧ request.1 = .messagesMore ∧ r.latest < request.2 := by
  simp [nextPages]

lemma mem_due {request : GlobalTarget × ℕ} : request ∈ r.due ↔ request ∈ r.requests ∧ request.2 = r.latest := by
  simp [due]

/-- While the latest search has the latest number no next page of it is waited for. -/
lemma nextPages_of_latest (h : r.Consistent) (hlatest : r.view.requestId = r.latest) : r.nextPages = [] := by
  rw [List.eq_nil_iff_forall_not_mem]
  intro request hrequest
  rcases mem_nextPages.mp hrequest with ⟨hmem, -, hlt⟩
  have hle := h.numbered request hmem
  omega

lemma begins_consistent (h : r.Consistent) : (r.step .begins).Consistent := by
  have hsame : r.step .begins = { r with view := r.view.step .begins } := by
    simp [step, requestsAfter, LoadingView.asks, LoadingView.performsNow, missedAfter]
  rw [hsame]
  exact ⟨h.numbered, h.latest, h.nodup, h.kinds, h.noMore, h.unmissed, fun hdebounce => Bool.noConfusion hdebounce,
    h.current, h.idle⟩

lemma clears_consistent (h : r.Consistent) : (r.step .clears).Consistent := by
  have hsame : r.step .clears = { r with view := r.view.step .clears } := by
    simp [step, requestsAfter, LoadingView.asks, LoadingView.performsNow, missedAfter]
  rw [hsame]
  exact ⟨h.numbered, h.latest, h.nodup, h.kinds, h.noMore, h.unmissed, fun _ hloading => Bool.noConfusion hloading,
    h.current, fun hmore => Bool.noConfusion hmore⟩

/-! ### A search is performed -/

/-- The run after a search is performed. -/
def performed (r : LoadingRun) (targets : SearchTargets) (debounce : Bool) : LoadingRun where
  view := { r.view.perform targets with debounce }
  requests := r.requests ++ targets.targets.map (·, r.view.requestId + 1)
  latest := r.view.requestId + 1
  missed := false

lemma step_performs (targets : SearchTargets) :
    r.step (.performs targets) = r.performed targets r.view.debounce := by
  simp [step, performed, LoadingView.step, requestsAfter, LoadingView.asks, LoadingView.performsNow, missedAfter,
    LoadingView.perform]

lemma step_fires {targets : SearchTargets} (h : r.view.debounce) :
    r.step (.fires targets) = r.performed targets false := by
  simp [step, performed, LoadingView.step, requestsAfter, LoadingView.asks, LoadingView.performsNow, missedAfter, h]

lemma step_fires_of_idle {targets : SearchTargets} (h : r.view.debounce = false) : r.step (.fires targets) = r := by
  simp [step, LoadingView.step, requestsAfter, LoadingView.asks, LoadingView.performsNow, missedAfter, h]

/-- Just its own requests are waited for. -/
lemma performed_due (h : r.Consistent) (targets : SearchTargets) (debounce : Bool) :
    (r.performed targets debounce).due = targets.targets.map (·, r.view.requestId + 1) := by
  have hold : r.requests.filter (·.2 == r.view.requestId + 1) = [] := by
    rw [List.filter_eq_nil_iff]
    intro request hrequest heq
    have hle := h.numbered request hrequest
    rw [beq_iff_eq] at heq
    omega
  have hnew : (targets.targets.map (·, r.view.requestId + 1)).filter (·.2 == r.view.requestId + 1) =
      targets.targets.map (·, r.view.requestId + 1) := by
    rw [List.filter_eq_self, List.forall_mem_map]
    intro target _
    exact beq_self_eq_true _
  simp only [due, performed]
  rw [List.filter_append, hold, hnew, List.nil_append]

lemma performed_nextPages (h : r.Consistent) (targets : SearchTargets) (debounce : Bool) :
    (r.performed targets debounce).nextPages = [] := by
  rw [List.eq_nil_iff_forall_not_mem]
  intro request hrequest
  rcases mem_nextPages.mp hrequest with ⟨hmem, -, hlt⟩
  rcases List.mem_append.mp hmem with hold | hnew
  · have hle := h.numbered request hold
    simp only [performed] at hlt
    omega
  · rcases List.mem_map.mp hnew with ⟨target, -, rfl⟩
    exact absurd hlt (Nat.lt_irrefl _)

lemma performed_consistent (h : r.Consistent) (targets : SearchTargets) (debounce : Bool) :
    (r.performed targets debounce).Consistent where
  numbered request hrequest := by
    rcases List.mem_append.mp hrequest with hold | hnew
    · exact Nat.le_succ_of_le (h.numbered request hold)
    · rcases List.mem_map.mp hnew with ⟨target, -, rfl⟩
      exact Nat.le_refl _
  latest := Nat.le_refl _
  nodup := by
    simp only [performed]
    rw [List.nodup_append]
    refine ⟨h.nodup, targets.nodup.map (Prod.mk_left_injective _), ?_⟩
    intro request hrequest request' hrequest' heq
    rcases List.mem_map.mp hrequest' with ⟨target, -, rfl⟩
    have hle := h.numbered request hrequest
    rw [heq] at hle
    exact absurd hle (Nat.not_succ_le_self _)
  kinds request hrequest := by
    rcases List.mem_append.mp hrequest with hold | hnew
    · exact .inr (Nat.le_succ_of_le (h.numbered request hold))
    · rcases List.mem_map.mp hnew with ⟨target, -, rfl⟩
      exact .inr (Nat.le_refl _)
  noMore hmore := by
    rcases List.mem_append.mp hmore with hold | hnew
    · exact absurd (h.numbered _ hold) (Nat.not_succ_le_self _)
    · rcases List.mem_map.mp hnew with ⟨target, htarget, heq⟩
      rw [(Prod.mk.inj heq).1] at htarget
      exact targets.noMore htarget
  unmissed _ := rfl
  counted _ _ := by
    refine ⟨rfl, ?_, List.length_pos_of_mem targets.chats, targets.few⟩
    rw [performed_due h]
    simp [performed, LoadingView.perform]
  current request hrequest := by
    rw [performed_nextPages h] at hrequest
    cases hrequest
  idle _ _ := performed_nextPages h targets debounce

/-- The indication that more is loaded stays as it is. -/
lemma performed_faithful_iff (h : r.Consistent) (targets : SearchTargets) (debounce : Bool) :
    (r.performed targets debounce).Faithful ↔ r.view.isLoadingMore = false := by
  constructor
  · intro hafter
    by_contra hmore
    rcases hafter.loadingMore (Bool.not_eq_false _ ▸ hmore) with ⟨request, hrequest⟩
    rw [performed_nextPages h] at hrequest
    cases hrequest
  · intro hmore
    refine ⟨fun _ hdue => ?_, fun hafter => ?_⟩
    · rw [performed_due h, List.map_eq_nil_iff] at hdue
      exact absurd targets.chats (hdue ▸ List.not_mem_nil)
    · have hsame : r.view.isLoadingMore = true := hafter
      rw [hmore] at hsame
      cases hsame

/-! ### More is asked for -/

lemma step_more_of_not (h : r.view.canLoadMore = false) : r.step .more = r := by
  simp [step, LoadingView.step, requestsAfter, LoadingView.asks, LoadingView.performsNow, missedAfter, h]

lemma step_more (h : r.view.canLoadMore) :
    r.step .more =
      { r with
        view := { r.view with isLoadingMore := true, requestId := r.view.requestId + 1 }
        requests := r.requests ++ [(.messagesMore, r.view.requestId + 1)] } := by
  simp [step, LoadingView.step, requestsAfter, LoadingView.asks, LoadingView.performsNow, missedAfter, h]

/-- The next page that is asked for is the only one. -/
lemma more_nextPages (hr : r.Consistent) (h : r.view.canLoadMore) :
    (r.step .more).nextPages = [(.messagesMore, r.view.requestId + 1)] := by
  have hguard := h
  simp only [LoadingView.canLoadMore, Bool.and_eq_true, Bool.not_eq_true'] at hguard
  have hidle := hr.idle hguard.1.1 hguard.2
  have hlt : r.latest < r.view.requestId + 1 := Nat.lt_succ_of_le hr.latest
  rw [nextPages, List.filter_eq_nil_iff] at hidle
  rw [step_more h, nextPages]
  dsimp only
  rw [List.filter_append, List.filter_eq_nil_iff.mpr hidle]
  simp [hlt]

lemma more_consistent (hr : r.Consistent) : (r.step .more).Consistent := by
  cases h : r.view.canLoadMore with
  | false =>
      rw [step_more_of_not h]
      exact hr
  | true =>
      have hnext := more_nextPages hr h
      have hloading : r.view.isLoading = false := by
        simp only [LoadingView.canLoadMore, Bool.and_eq_true, Bool.not_eq_true'] at h
        exact h.1.2
      rw [step_more h] at hnext ⊢
      constructor
      · intro request hrequest
        rcases List.mem_append.mp hrequest with hold | hnew
        · exact Nat.le_succ_of_le (hr.numbered request hold)
        · rw [List.mem_singleton.mp hnew]
      · exact Nat.le_succ_of_le hr.latest
      · rw [List.nodup_append]
        refine ⟨hr.nodup, List.nodup_singleton _, ?_⟩
        intro request hrequest request' hrequest' heq
        have hle := hr.numbered request hrequest
        rw [heq, List.mem_singleton.mp hrequest'] at hle
        exact absurd hle (Nat.not_succ_le_self _)
      · intro request hrequest
        rcases List.mem_append.mp hrequest with hold | hnew
        · exact hr.kinds request hold
        · rw [List.mem_singleton.mp hnew]
          exact .inl rfl
      · intro hmore
        rcases List.mem_append.mp hmore with hold | hnew
        · exact hr.noMore hold
        · have heq : r.latest = r.view.requestId + 1 := (Prod.mk.inj (List.mem_singleton.mp hnew)).2
          have hle := hr.latest
          omega
      · intro hmissed
        rcases List.mem_append.mp hmissed with hold | hnew
        · exact hr.unmissed hold
        · cases (Prod.mk.inj (List.mem_singleton.mp hnew)).1
      · intro _ hafter
        rw [hloading] at hafter
        cases hafter
      · intro request hrequest
        rw [hnext] at hrequest
        rw [List.mem_singleton.mp hrequest]
      · exact fun _ hafter => Bool.noConfusion hafter

lemma more_faithful (hr : r.Consistent) (h : r.Faithful) : (r.step .more).Faithful := by
  cases hmore : r.view.canLoadMore with
  | false =>
      rw [step_more_of_not hmore]
      exact h
  | true =>
      refine ⟨fun _ _ => ?_, fun _ => ⟨_, more_nextPages hr hmore⟩⟩
      have hguard := hmore
      simp only [LoadingView.canLoadMore, Bool.and_eq_true, Bool.not_eq_true'] at hguard
      rw [step_more hmore]
      exact hguard.1.2

/-! ### Answers -/

section Answer

variable {target : GlobalTarget} {requestId : ℕ} {reply : LoadingReply}

lemma answer_requests :
    (r.step (.answer target requestId reply)).requests = r.requests.filter (· != (target, requestId)) := by
  simp [step, requestsAfter, LoadingView.asks]

lemma answer_latest : (r.step (.answer target requestId reply)).latest = r.latest := rfl

lemma answer_due : (r.step (.answer target requestId reply)).due = r.due.filter (· != (target, requestId)) := by
  rw [due, answer_requests, answer_latest, due, List.filter_filter, List.filter_filter]
  exact List.filter_congr fun request _ => Bool.and_comm _ _

lemma answer_nextPages :
    (r.step (.answer target requestId reply)).nextPages = r.nextPages.filter (· != (target, requestId)) := by
  rw [nextPages, answer_requests, answer_latest, nextPages, List.filter_filter, List.filter_filter]
  exact List.filter_congr fun request _ => Bool.and_comm _ _

/-- An answer to another search leaves what is due as it is. -/
lemma answer_due_of_ne (h : requestId ≠ r.latest) : (r.step (.answer target requestId reply)).due = r.due := by
  rw [answer_due, List.filter_eq_self]
  intro request hrequest
  rw [bne_iff_ne]
  rintro rfl
  exact h (mem_due.mp hrequest).2

variable (reply) in
lemma answer_due_length (hr : r.Consistent) (hserved : (target, r.latest) ∈ r.requests) :
    (r.step (.answer target r.latest reply)).due.length + 1 = r.due.length := by
  have hmem : (target, r.latest) ∈ r.due := mem_due.mpr ⟨hserved, rfl⟩
  have hnodup : r.due.Nodup := hr.nodup.filter _
  rw [answer_due, ← hnodup.erase_eq_filter, List.length_erase_of_mem hmem]
  exact Nat.succ_pred_eq_of_pos (List.length_pos_of_mem hmem)

/-- Nothing is due after the answer that comes last. -/
lemma answer_due_eq_nil_iff :
    (r.step (.answer target requestId reply)).due = [] ↔ ∀ request ∈ r.due, request = (target, requestId) := by
  rw [answer_due, List.filter_eq_nil_iff]
  simp

lemma answer_nextPages_of_ne (h : ∀ request ∈ r.nextPages, request ≠ (target, requestId)) :
    (r.step (.answer target requestId reply)).nextPages = r.nextPages := by
  rw [answer_nextPages, List.filter_eq_self]
  exact fun request hrequest => bne_iff_ne.mpr (h request hrequest)

lemma missedAfter_of_ne (h : target ≠ .sponsoredChats ∨ requestId ≠ r.latest) :
    (r.step (.answer target requestId reply)).missed = r.missed := by
  have hbeq : requestId ≠ r.latest → (requestId == r.latest) = false := beq_eq_false_iff_ne.mpr
  rcases reply with _ | _
  · cases target <;> rfl
  · cases target with
    | sponsoredChats =>
        rcases h with h | h
        · exact absurd rfl h
        · simp [step, missedAfter, hbeq h]
    | _ => rfl

/-- What no answer changes. -/
lemma answer_consistent_of {v : LoadingView} (hr : r.Consistent)
    (hview : (r.step (.answer target requestId reply)).view = v) (hid : v.requestId = r.view.requestId)
    (hmissed : (.sponsoredChats, r.latest) ∈ r.requests → target ≠ .sponsoredChats ∨ requestId ≠ r.latest →
      r.missed = false)
    (hcounted : v.debounce = false → v.isLoading → v.requestId = r.latest ∧
      v.pending = (r.step (.answer target requestId reply)).due.length +
        (r.step (.answer target requestId reply)).missed.toNat ∧ 0 < v.pending ∧ v.pending ≤ 20)
    (hidle : v.hasMore → v.isLoadingMore = false →
      (r.step (.answer target requestId reply)).nextPages = []) :
    (r.step (.answer target requestId reply)).Consistent := by
  have hold : ∀ request ∈ (r.step (.answer target requestId reply)).requests,
      request ∈ r.requests ∧ request ≠ (target, requestId) := by
    intro request hrequest
    rw [answer_requests, List.mem_filter, bne_iff_ne] at hrequest
    exact hrequest
  constructor
  · intro request hrequest
    rw [hview, hid]
    exact hr.numbered request (hold request hrequest).1
  · rw [hview, hid]
    exact hr.latest
  · rw [answer_requests]
    exact hr.nodup.filter _
  · exact fun request hrequest => hr.kinds request (hold request hrequest).1
  · exact fun hmore => hr.noMore (hold _ hmore).1
  · intro hsponsored
    rcases hold _ hsponsored with ⟨hmem, hne⟩
    have hother : target ≠ .sponsoredChats ∨ requestId ≠ r.latest := by
      by_contra hboth
      rw [not_or, not_not, not_not] at hboth
      exact hne (by rw [hboth.1, hboth.2]; rfl)
    rw [missedAfter_of_ne hother]
    exact hmissed hmem hother
  · rw [hview]
    exact hcounted
  · intro request hrequest
    rw [answer_nextPages] at hrequest
    rw [hview, hid]
    exact hr.current request (List.mem_filter.mp hrequest).1
  · rw [hview]
    exact hidle

/-! An answer to an earlier search is ignored. -/

lemma late_view (h : requestId ≠ r.view.requestId) :
    (r.step (.answer target requestId reply)).view = r.view := by
  cases reply with
  | success next =>
      simp only [step, LoadingView.step, LoadingView.answered]
      rw [if_pos h]
  | error =>
      simp only [step, LoadingView.step, LoadingView.answered]
      rw [if_pos (Or.inr h)]

lemma late_nextPages (hr : r.Consistent) (h : requestId ≠ r.view.requestId) :
    (r.step (.answer target requestId reply)).nextPages = r.nextPages := by
  refine answer_nextPages_of_ne ?_
  rintro request hrequest rfl
  exact h (hr.current _ hrequest)

lemma late_consistent (hr : r.Consistent) (h : requestId ≠ r.view.requestId) :
    (r.step (.answer target requestId reply)).Consistent := by
  refine answer_consistent_of hr (late_view h) rfl (fun hmem _ => hr.unmissed hmem) ?_ ?_
  · intro hdebounce hloading
    have hcounted := hr.counted hdebounce hloading
    have hne : requestId ≠ r.latest := by
      rw [← hcounted.1]
      exact h
    rw [answer_due_of_ne hne, missedAfter_of_ne (.inr hne)]
    exact hcounted
  · rw [late_nextPages hr h]
    exact hr.idle

lemma late_faithful_iff (hr : r.Consistent) (hright : r.Faithful) (h : requestId ≠ r.view.requestId) :
    (r.step (.answer target requestId reply)).Faithful ↔ r.InTime (.answer target requestId reply) := by
  refine iff_of_true ⟨?_, ?_⟩ ?_
  · rw [late_view h]
    intro hdebounce hdue
    by_contra hloading
    have hcounted := hr.counted hdebounce (Bool.not_eq_false _ ▸ hloading)
    have hne : requestId ≠ r.latest := by
      rw [← hcounted.1]
      exact h
    rw [answer_due_of_ne hne] at hdue
    exact hloading (hright.loading hdebounce hdue)
  · rw [late_view h, late_nextPages hr h]
    exact hright.loadingMore
  · intro hlatest _ hdebounce hloading
    exact absurd (hlatest.trans (hr.counted hdebounce hloading).1.symm) h

/-! The answer to the next page ends its loading. -/

variable (reply) in
lemma page_view (h : requestId = r.view.requestId) :
    ∃ hasMore, (r.step (.answer .messagesMore requestId reply)).view =
      { r.view with hasMore, isLoadingMore := false } := by
  cases reply with
  | success next => exact ⟨next, by simp [step, LoadingView.step, LoadingView.answered, h]⟩
  | error => exact ⟨r.view.hasMore, by simp [step, LoadingView.step, LoadingView.answered, h]⟩

lemma latest_ne_of_page (hr : r.Consistent) (hserved : (.messagesMore, requestId) ∈ r.requests) :
    requestId ≠ r.latest := by
  rintro rfl
  exact hr.noMore hserved

lemma page_nextPages (hr : r.Consistent) (h : requestId = r.view.requestId) :
    (r.step (.answer .messagesMore requestId reply)).nextPages = [] := by
  rw [answer_nextPages, List.filter_eq_nil_iff]
  intro request hrequest
  rw [bne_iff_ne, not_not]
  exact Prod.ext (mem_nextPages.mp hrequest).2.1 ((hr.current request hrequest).trans h.symm)

/-- With a next page of its own the latest search does not load. -/
lemma page_loading (hr : r.Consistent) (hserved : (.messagesMore, requestId) ∈ r.requests)
    (h : requestId = r.view.requestId) (hdebounce : r.view.debounce = false) : r.view.isLoading = false := by
  by_contra hloading
  have hcounted := hr.counted hdebounce (Bool.not_eq_false _ ▸ hloading)
  exact latest_ne_of_page hr hserved (h.trans hcounted.1)

lemma page_consistent (hr : r.Consistent) (hserved : (.messagesMore, requestId) ∈ r.requests)
    (h : requestId = r.view.requestId) : (r.step (.answer .messagesMore requestId reply)).Consistent := by
  rcases page_view reply h with ⟨hasMore, hview⟩
  refine answer_consistent_of hr hview rfl (fun hmem _ => hr.unmissed hmem) ?_ fun _ _ => page_nextPages hr h
  intro hdebounce hloading
  have hnot := page_loading hr hserved h hdebounce
  exact absurd (hloading.symm.trans hnot) Bool.noConfusion

lemma page_faithful_iff (hr : r.Consistent) (hserved : (.messagesMore, requestId) ∈ r.requests)
    (h : requestId = r.view.requestId) :
    (r.step (.answer .messagesMore requestId reply)).Faithful ↔
      r.InTime (.answer .messagesMore requestId reply) := by
  rcases page_view reply h with ⟨hasMore, hview⟩
  refine iff_of_true ⟨?_, ?_⟩ fun hlatest => absurd hlatest (latest_ne_of_page hr hserved)
  · rw [hview]
    exact fun hdebounce _ => page_loading hr hserved h hdebounce
  · rw [hview]
    exact fun hmore => Bool.noConfusion hmore

/-! An answer to the latest search is counted. -/

lemma complete_isLoading (v : LoadingView) : v.complete.isLoading → v.isLoading ∧ 0 < v.complete.pending := by
  intro hloading
  simp only [LoadingView.complete, Bool.and_eq_true, decide_eq_true_eq] at hloading
  exact hloading.symm

lemma counted_view (htarget : target ≠ .messagesMore) (h : requestId = r.view.requestId) (next : Bool) :
    ∃ hasMore, (r.step (.answer target requestId (.success next))).view =
      ({ r.view with hasMore } : LoadingView).complete := by
  by_cases hmessages : target = .messages
  · exact ⟨next, by simp [step, LoadingView.step, LoadingView.answered, h, hmessages]⟩
  · exact ⟨r.view.hasMore, by simp [step, LoadingView.step, LoadingView.answered, h, htarget, hmessages]⟩

lemma error_view (htarget : target ≠ .messagesMore) (hsponsored : target ≠ .sponsoredChats)
    (h : requestId = r.view.requestId) :
    (r.step (.answer target requestId .error)).view = { r.view with isLoading := false } := by
  simp [step, LoadingView.step, LoadingView.answered, h, htarget, hsponsored]

/-- An error for the sponsored chats is taken for one of an earlier search. -/
lemma sponsored_view (r : LoadingRun) (requestId : ℕ) :
    (r.step (.answer .sponsoredChats requestId .error)).view = r.view := by
  simp [step, LoadingView.step, LoadingView.answered]

lemma sponsored_missed : (r.step (.answer .sponsoredChats r.latest .error)).missed = true := by
  simp [step, missedAfter]

/-- What is answered of the latest search has its number. -/
lemma eq_latest_of_served (hr : r.Consistent) (htarget : target ≠ .messagesMore)
    (hserved : (target, r.view.requestId) ∈ r.requests) : r.view.requestId = r.latest := by
  rcases hr.kinds _ hserved with hmore | hle
  · exact absurd hmore htarget
  · exact Nat.le_antisymm hle hr.latest

lemma current_consistent (hr : r.Consistent) (htarget : target ≠ .messagesMore)
    (hserved : (target, r.latest) ∈ r.requests) (hlatest : r.view.requestId = r.latest) :
    (r.step (.answer target r.latest reply)).Consistent := by
  have hnext : (r.step (.answer target r.latest reply)).nextPages = [] := by
    rw [answer_nextPages, nextPages_of_latest hr hlatest]
    rfl
  have hlength := answer_due_length reply hr hserved
  cases reply with
  | success next =>
      rcases counted_view htarget hlatest.symm next with ⟨hasMore, hview⟩
      refine answer_consistent_of hr hview rfl (fun hmem _ => hr.unmissed hmem) ?_ fun _ _ => hnext
      intro hdebounce hloading
      rcases complete_isLoading _ hloading with ⟨hbefore, hpos⟩
      rcases hr.counted hdebounce hbefore with ⟨-, hpending, -, hfew⟩
      have hmissed : (r.step (.answer target r.latest (.success next))).missed = r.missed := by
        cases target <;> rfl
      rw [hmissed]
      refine ⟨hlatest, ?_, hpos, Nat.min_le_right _ _⟩
      simp only [LoadingView.complete] at hpos ⊢
      omega
  | error =>
      by_cases hsponsored : target = .sponsoredChats
      · subst hsponsored
        refine answer_consistent_of hr (sponsored_view r _) rfl (fun hmem _ => hr.unmissed hmem) ?_ fun _ _ => hnext
        intro hdebounce hloading
        rcases hr.counted hdebounce hloading with ⟨-, hpending, hpos, hfew⟩
        have hunmissed := hr.unmissed hserved
        rw [hunmissed, Bool.toNat_false] at hpending
        rw [sponsored_missed, Bool.toNat_true]
        exact ⟨hlatest, by omega, hpos, hfew⟩
      · exact answer_consistent_of hr (error_view htarget hsponsored hlatest.symm) rfl
          (fun hmem _ => hr.unmissed hmem) (fun _ hloading => Bool.noConfusion hloading) fun _ _ => hnext

variable (reply) in
lemma current_view_keeps (htarget : target ≠ .messagesMore) (h : requestId = r.view.requestId) :
    (r.step (.answer target requestId reply)).view.debounce = r.view.debounce ∧
      (r.step (.answer target requestId reply)).view.isLoadingMore = r.view.isLoadingMore := by
  cases reply with
  | success next =>
      rcases counted_view htarget h next with ⟨hasMore, hview⟩
      rw [hview]
      exact ⟨rfl, rfl⟩
  | error =>
      by_cases hsponsored : target = .sponsoredChats
      · subst hsponsored
        rw [sponsored_view]
        exact ⟨rfl, rfl⟩
      · rw [error_view htarget hsponsored h]
        exact ⟨rfl, rfl⟩

/-- No answer begins to load. -/
lemma current_loading_of_not (htarget : target ≠ .messagesMore) (h : requestId = r.view.requestId)
    (hloading : r.view.isLoading = false) :
    (r.step (.answer target requestId reply)).view.isLoading = false := by
  cases reply with
  | success next =>
      rcases counted_view htarget h next with ⟨hasMore, hview⟩
      simp only [hview, LoadingView.complete, hloading, Bool.and_false]
  | error =>
      by_cases hsponsored : target = .sponsoredChats
      · subst hsponsored
        rw [sponsored_view, hloading]
      · rw [error_view htarget hsponsored h]

/-- The answer that comes last ends the loading, if the count is right. -/
lemma last_loading_iff (hr : r.Consistent) (htarget : target ≠ .messagesMore)
    (hserved : (target, r.latest) ∈ r.requests) (hlatest : r.view.requestId = r.latest)
    (hdue : (r.step (.answer target r.latest reply)).due = []) (hdebounce : r.view.debounce = false)
    (hloading : r.view.isLoading) :
    (r.step (.answer target r.latest reply)).view.isLoading = false ↔ r.Ends target reply := by
  have hone : r.due.length = 1 := by
    rw [← answer_due_length reply hr hserved, hdue]
    rfl
  rcases hr.counted hdebounce hloading with ⟨-, hpending, -, -⟩
  rw [hone] at hpending
  cases reply with
  | success next =>
      rcases counted_view htarget hlatest.symm next with ⟨hasMore, hview⟩
      cases hmissed : r.missed with
      | false => simp [hview, LoadingView.complete, hpending, Ends, hmissed]
      | true => simp [hview, LoadingView.complete, hpending, Ends, hmissed, hloading]
  | error =>
      by_cases hsponsored : target = .sponsoredChats
      · subst hsponsored
        simp [sponsored_view, hloading, Ends]
      · simp [error_view htarget hsponsored hlatest.symm, Ends, hsponsored]

lemma current_faithful_iff (hr : r.Consistent) (hright : r.Faithful) (htarget : target ≠ .messagesMore)
    (hserved : (target, r.latest) ∈ r.requests) (hlatest : r.view.requestId = r.latest) :
    (r.step (.answer target r.latest reply)).Faithful ↔ r.InTime (.answer target r.latest reply) := by
  have hmore : r.view.isLoadingMore = false := by
    by_contra hmore
    rcases hright.loadingMore (Bool.not_eq_false _ ▸ hmore) with ⟨request, hrequest⟩
    rw [nextPages_of_latest hr hlatest] at hrequest
    cases hrequest
  rcases current_view_keeps reply htarget hlatest.symm with ⟨hsame, hsameMore⟩
  constructor
  · intro hafter _ hlast hdebounce hloading
    have hdue : (r.step (.answer target r.latest reply)).due = [] := answer_due_eq_nil_iff.mpr hlast
    exact (last_loading_iff hr htarget hserved hlatest hdue hdebounce hloading).mp
      (hafter.loading (hsame.trans hdebounce) hdue)
  · intro htime
    refine ⟨fun hdebounce hdue => ?_, fun hloads => ?_⟩
    · rw [hsame] at hdebounce
      cases hloading : r.view.isLoading with
      | false => exact current_loading_of_not htarget hlatest.symm hloading
      | true =>
          exact (last_loading_iff hr htarget hserved hlatest hdue hdebounce hloading).mpr
            (htime rfl (answer_due_eq_nil_iff.mp hdue) hdebounce hloading)
    · rw [hsameMore, hmore] at hloads
      cases hloads

end Answer

/-! ## Every step -/

lemma other_eq (r : LoadingRun) : r.step .other = r := by
  simp [step, LoadingView.step, requestsAfter, LoadingView.asks, LoadingView.performsNow, missedAfter]

lemma step_consistent (hr : r.Consistent) {e : LoadingEvent} (hserved : r.Served e) : (r.step e).Consistent := by
  cases e with
  | other =>
      rw [other_eq]
      exact hr
  | begins => exact begins_consistent hr
  | clears => exact clears_consistent hr
  | performs targets =>
      rw [step_performs]
      exact performed_consistent hr targets _
  | fires targets =>
      cases hdebounce : r.view.debounce with
      | false =>
          rw [step_fires_of_idle hdebounce]
          exact hr
      | true =>
          rw [step_fires hdebounce]
          exact performed_consistent hr targets false
  | more => exact more_consistent hr
  | answer target requestId reply =>
      by_cases hid : requestId = r.view.requestId
      · by_cases htarget : target = .messagesMore
        · subst htarget
          exact page_consistent hr hserved hid
        · have hlatest := eq_latest_of_served hr htarget (hid ▸ hserved)
          have heq : requestId = r.latest := hid.trans hlatest
          subst heq
          exact current_consistent hr htarget hserved hlatest
      · exact late_consistent hr hid

/-- A step keeps the indications right exactly if it is in time. -/
lemma step_faithful_iff (hr : r.Consistent) (h : r.Faithful) {e : LoadingEvent} (hserved : r.Served e) :
    (r.step e).Faithful ↔ r.InTime e := by
  cases e with
  | other =>
      rw [other_eq]
      exact iff_of_true h trivial
  | begins =>
      have hsame : r.step .begins = { r with view := r.view.step .begins } := by
        simp [step, requestsAfter, LoadingView.asks, LoadingView.performsNow, missedAfter]
      rw [hsame]
      exact iff_of_true ⟨fun hdebounce => Bool.noConfusion hdebounce, h.loadingMore⟩ trivial
  | clears =>
      have hsame : r.step .clears = { r with view := r.view.step .clears } := by
        simp [step, requestsAfter, LoadingView.asks, LoadingView.performsNow, missedAfter]
      rw [hsame]
      exact iff_of_true ⟨fun _ _ => rfl, fun hmore => Bool.noConfusion hmore⟩ trivial
  | performs targets =>
      rw [step_performs]
      exact performed_faithful_iff hr targets _
  | fires targets =>
      cases hdebounce : r.view.debounce with
      | false =>
          rw [step_fires_of_idle hdebounce]
          exact iff_of_true h fun hfires => absurd (hfires.symm.trans hdebounce) Bool.noConfusion
      | true =>
          rw [step_fires hdebounce, performed_faithful_iff hr targets false]
          exact ⟨fun hmore _ => hmore, fun htime => htime hdebounce⟩
  | more => exact iff_of_true (more_faithful hr h) trivial
  | answer target requestId reply =>
      by_cases hid : requestId = r.view.requestId
      · by_cases htarget : target = .messagesMore
        · subst htarget
          exact page_faithful_iff hr hserved hid
        · have hlatest := eq_latest_of_served hr htarget (hid ▸ hserved)
          have heq : requestId = r.latest := hid.trans hlatest
          subst heq
          exact current_faithful_iff hr h htarget hserved hlatest
      · exact late_faithful_iff hr h hid

end LoadingRun

/-! ## The manager -/

/-- What matters of the search of the manager. -/
def GlobalSearch.loading (search : GlobalSearch) : LoadingView where
  debounce := search.globalDebounce
  requestId := search.globalRequestId
  pending := search.pendingGlobalRequests
  isLoading := search.globalIsLoading
  isLoadingMore := search.globalIsLoadingMore
  hasMore := search.globalHasMoreMessages && search.globalMessagesOffset != ""

section Manager

variable (P : Platform) (tryParse : String → Option LinkUri) (s : SearchManager)

/-- What a search asks for, with advertisements blocked, a username, a phone number and an invite token or not. -/
def targetsWith (ads username phone token : Bool) : List GlobalTarget :=
  [.chats, .messages, .publicChatsChannel, .publicChatsBot] ++ (if ads then [.sponsoredChats] else []) ++
    (if username then [.publicChat] else []) ++ (if phone then [.userPhone] else []) ++
    (if token then [.userToken] else [])

lemma globalRequests_targets :
    (s.globalRequests P tryParse).map (·.2) =
      targetsWith s.shouldBlockAds (parseUsername P tryParse s.global.globalQuery).isSome
        (TdlibSearchParser.parsePhoneNumber P s.global.globalQuery).isSome
        (TdlibSearchParser.parseInviteToken P tryParse s.global.globalQuery).isSome := by
  simp only [SearchManager.globalRequests, List.map_append, List.map_cons, List.map_nil]
  cases s.shouldBlockAds <;> cases parseUsername P tryParse s.global.globalQuery <;>
    cases TdlibSearchParser.parsePhoneNumber P s.global.globalQuery <;>
    cases TdlibSearchParser.parseInviteToken P tryParse s.global.globalQuery <;> rfl

/-- Every kind is asked for once. -/
lemma targetsWith_spec (ads username phone token : Bool) :
    (targetsWith ads username phone token).Nodup ∧ .messagesMore ∉ targetsWith ads username phone token ∧
      .chats ∈ targetsWith ads username phone token ∧ (targetsWith ads username phone token).length ≤ 20 := by
  revert ads username phone token
  decide

lemma searchTargets_spec :
    ((s.globalRequests P tryParse).map (·.2)).Nodup ∧
      .messagesMore ∉ (s.globalRequests P tryParse).map (·.2) ∧
      .chats ∈ (s.globalRequests P tryParse).map (·.2) ∧
      ((s.globalRequests P tryParse).map (·.2)).length ≤ 20 := by
  rw [globalRequests_targets]
  exact targetsWith_spec _ _ _ _

namespace SearchManager

/-- The requests of a search. -/
def searchTargets : SearchTargets where
  targets := (s.globalRequests P tryParse).map (·.2)
  nodup := (searchTargets_spec P tryParse s).1
  noMore := (searchTargets_spec P tryParse s).2.1
  chats := (searchTargets_spec P tryParse s).2.2.1
  few := (searchTargets_spec P tryParse s).2.2.2

/-- What an update is for a global search. -/
@[grind =]
def loadingAnswer : SearchUpdate → LoadingEvent
  | .chats (some (.global .chats requestId)) _ => .answer .chats requestId (.success false)
  | .chats (some (.global .publicChatsChannel requestId)) _ =>
      .answer .publicChatsChannel requestId (.success false)
  | .chats (some (.global .publicChatsBot requestId)) _ => .answer .publicChatsBot requestId (.success false)
  | .sponsoredChats (some (.global .sponsoredChats requestId)) _ =>
      .answer .sponsoredChats requestId (.success false)
  | .foundMessages (some (.global .messages requestId)) _ nextOffset =>
      .answer .messages requestId (.success (nextOffset != ""))
  | .foundMessages (some (.global .messagesMore requestId)) _ nextOffset =>
      .answer .messagesMore requestId (.success (nextOffset != ""))
  | .chat (some (.global .publicChat requestId)) _ _ => .answer .publicChat requestId (.success false)
  | .user (some (.global .userPhone requestId)) _ => .answer .userPhone requestId (.success false)
  | .user (some (.global .userToken requestId)) _ => .answer .userToken requestId (.success false)
  | .error (some (.global target requestId)) _ => .answer target requestId .error
  | _ => .other

/-- What happens to the loading of a global search. -/
@[grind =]
def loadingEvent : SearchManagerEvent → LoadingEvent
  | .setGlobalQuery query => if P.trim query = "" then .clears else .begins
  | .setGlobalFilter filter =>
      if s.global.globalFilter = filter ∨ s.global.globalQuery = "" then .other
      else .performs
        (({ s with global := { s.global with globalFilter := filter } } : SearchManager).searchTargets P tryParse)
  | .clearGlobalSearch => .clears
  | .loadMoreGlobalMessages => .more
  | .globalDebounce => .fires (s.searchTargets P tryParse)
  | .update update => loadingAnswer update
  | _ => .other

end SearchManager

variable {P tryParse s}

lemma setGlobalQuery_loading (query : String) :
    (s.setGlobalQuery P query).global.loading =
      s.global.loading.step (s.loadingEvent P tryParse (.setGlobalQuery query)) := by
  simp only [SearchManager.setGlobalQuery, SearchManager.loadingEvent]
  split_ifs <;> rfl

lemma setGlobalFilter_loading (filter : SearchMessageFilterKind) :
    (s.setGlobalFilter P tryParse filter).global.loading =
      s.global.loading.step (s.loadingEvent P tryParse (.setGlobalFilter filter)) := by
  by_cases hfilter : s.global.globalFilter = filter
  · simp [SearchManager.setGlobalFilter, SearchManager.loadingEvent, hfilter, LoadingView.step]
  · by_cases hquery : s.global.globalQuery = ""
    · simp [SearchManager.setGlobalFilter, SearchManager.loadingEvent, hfilter, hquery, LoadingView.step,
        GlobalSearch.loading]
    · simp [SearchManager.setGlobalFilter, SearchManager.loadingEvent, hfilter, hquery, LoadingView.step,
        SearchManager.performGlobalSearch, SearchManager.send, LoadingView.perform, SearchManager.searchTargets,
        GlobalSearch.loading]

lemma fireGlobalDebounce_loading :
    (s.fireGlobalDebounce P tryParse).global.loading =
      s.global.loading.step (s.loadingEvent P tryParse .globalDebounce) := by
  cases hdebounce : s.global.globalDebounce with
  | false =>
      simp [SearchManager.fireGlobalDebounce, hdebounce, SearchManager.loadingEvent, LoadingView.step,
        GlobalSearch.loading]
  | true =>
      simp [SearchManager.fireGlobalDebounce, hdebounce, SearchManager.loadingEvent, LoadingView.step,
        SearchManager.performGlobalSearch, SearchManager.send, LoadingView.perform, SearchManager.searchTargets,
        GlobalSearch.loading, SearchManager.globalRequests]

lemma canLoadMoreGlobal_eq (s : SearchManager) : s.canLoadMoreGlobal = s.global.loading.canLoadMore := by
  simp only [SearchManager.canLoadMoreGlobal, LoadingView.canLoadMore, GlobalSearch.loading]
  cases s.global.globalHasMoreMessages <;> cases s.global.globalIsLoading <;>
    cases s.global.globalIsLoadingMore <;> simp

lemma loadMoreGlobalMessages_loading :
    s.loadMoreGlobalMessages.global.loading = s.global.loading.step .more := by
  rw [LoadingView.step, ← canLoadMoreGlobal_eq]
  cases hmore : s.canLoadMoreGlobal with
  | false =>
      rw [SearchManager.loadMoreGlobalMessages_of_not hmore]
      rfl
  | true =>
      rw [SearchManager.loadMoreGlobalMessages_of_can hmore]
      rfl

lemma completeGlobalRequest_loading (s : SearchManager) :
    (s.completeGlobalRequest false).global.loading = s.global.loading.complete := by
  by_cases hpending : 0 < min (s.global.pendingGlobalRequests - 1) 20
  · simp [SearchManager.completeGlobalRequest, LoadingView.complete, GlobalSearch.loading, hpending]
  · simp [SearchManager.completeGlobalRequest, LoadingView.complete, GlobalSearch.loading, hpending]

/-- An answer that only counts. -/
lemma counts_loading (target : GlobalTarget) (requestId : ℕ) {t : SearchManager}
    (ht : t.global.loading = s.global.loading) (hmore : target ≠ .messagesMore) (hmessages : target ≠ .messages)
    (next : Bool) :
    (if requestId ≠ s.global.globalRequestId then s else t.completeGlobalRequest false).global.loading =
      s.global.loading.step (.answer target requestId (.success next)) := by
  have hid : s.global.loading.requestId = s.global.globalRequestId := rfl
  simp only [LoadingView.step, LoadingView.answered, hid, hmore, hmessages, if_false]
  split_ifs
  · rfl
  · rw [completeGlobalRequest_loading, ht]

lemma handleChats_loading (extra : SearchExtra) (chatIds : List ℤ) :
    (s.handleChats extra chatIds).global.loading =
      s.global.loading.step (SearchManager.loadingAnswer (.chats (some extra) chatIds)) := by
  have hnewChats : ∀ requestId ids isPublic,
      (s.handleNewChats requestId ids isPublic).global.loading = s.global.loading := by
    intro requestId ids isPublic
    rw [SearchManager.handleNewChats]
    split_ifs <;> rfl
  cases extra with
  | global target requestId =>
      cases target with
      | chats => exact counts_loading .chats requestId (by rfl) (by simp) (by simp) false
      | publicChatsChannel => exact counts_loading .publicChatsChannel requestId (by rfl) (by simp) (by simp) false
      | publicChatsBot => exact counts_loading .publicChatsBot requestId (by rfl) (by simp) (by simp) false
      | _ => rfl
  | newChat target requestId =>
      cases target with
      | searchLocal => exact hnewChats _ _ _
      | search => exact hnewChats _ _ _
      | publicChatsChannel => exact hnewChats _ _ _
      | publicChatsBot => exact hnewChats _ _ _
      | _ => rfl
  | _ => rfl

lemma handleSponsoredChats_loading (extra : SearchExtra) (chatIds : List ℤ) :
    (s.handleSponsoredChats extra chatIds).global.loading =
      s.global.loading.step (SearchManager.loadingAnswer (.sponsoredChats (some extra) chatIds)) := by
  cases extra with
  | global target requestId =>
      cases target with
      | sponsoredChats => exact counts_loading .sponsoredChats requestId (by rfl) (by simp) (by simp) false
      | _ => rfl
  | _ => rfl

lemma handleFoundMessages_loading (extra : SearchExtra) (found : List FoundMessage) (nextOffset : String) :
    (s.handleFoundMessages extra found nextOffset).global.loading =
      s.global.loading.step (SearchManager.loadingAnswer (.foundMessages (some extra) found nextOffset)) := by
  have happlied : ∀ append, (s.applyGlobalMessages found nextOffset append).global.loading =
      { s.global.loading with hasMore := nextOffset != "" } := by
    intro append
    simp [SearchManager.applyGlobalMessages, SearchManager.ensureChatTitles, SearchManager.send,
      GlobalSearch.loading]
  have hid : s.global.loading.requestId = s.global.globalRequestId := rfl
  cases extra with
  | global target requestId =>
      cases target with
      | messages =>
          simp only [SearchManager.handleFoundMessages, SearchManager.loadingAnswer, LoadingView.step,
            LoadingView.answered, hid, reduceCtorEq, if_true, if_false]
          split_ifs
          · rfl
          · rw [completeGlobalRequest_loading, happlied]
            rfl
      | messagesMore =>
          simp only [SearchManager.handleFoundMessages, SearchManager.loadingAnswer, LoadingView.step,
            LoadingView.answered, hid, reduceCtorEq, if_true, if_false]
          split_ifs
          · rfl
          · exact congrArg (fun view : LoadingView => { view with isLoadingMore := false }) (happlied true)
      | _ => rfl
  | _ => rfl

lemma handleChat_loading (extra : Option SearchExtra) (chatId : ℤ) (title : String) :
    (s.handleChat extra chatId title).global.loading =
      s.global.loading.step (SearchManager.loadingAnswer (.chat extra chatId title)) := by
  cases extra with
  | none => rfl
  | some extra =>
      cases extra with
      | global target requestId =>
          cases target with
          | publicChat =>
              have hcounts := counts_loading (s := { s with
                chatTitles := fun i => if i = chatId then some title else s.chatTitles i }) .publicChat requestId
                (t := SearchManager.addPublicChats { s with
                  chatTitles := fun i => if i = chatId then some title else s.chatTitles i } [chatId])
                rfl (by simp) (by simp) false
              rw [ite_not] at hcounts
              exact hcounts
          | _ => rfl
      | newChat target requestId =>
          cases target with
          | publicChat =>
              simp only [SearchManager.handleChat, SearchManager.loadingAnswer]
              split_ifs <;> rfl
          | _ => rfl
      | _ => rfl

lemma handleUser_loading (extra : SearchExtra) (hit : SearchUserHit) :
    (s.handleUser extra hit).global.loading =
      s.global.loading.step (SearchManager.loadingAnswer (.user (some extra) hit)) := by
  have hnewChat : ∀ requestId, (s.handleNewChatUser requestId hit).global.loading = s.global.loading := by
    intro requestId
    rw [SearchManager.handleNewChatUser]
    split_ifs <;> rfl
  cases extra with
  | global target requestId =>
      cases target with
      | userPhone => exact counts_loading .userPhone requestId (by rfl) (by simp) (by simp) false
      | userToken => exact counts_loading .userToken requestId (by rfl) (by simp) (by simp) false
      | _ => rfl
  | newChat target requestId =>
      cases target with
      | phone => exact hnewChat requestId
      | token => exact hnewChat requestId
      | _ => rfl
  | _ => rfl

lemma handleError_loading (extra : SearchExtra) (message : Option String) :
    (s.handleError extra message).global.loading =
      s.global.loading.step (SearchManager.loadingAnswer (.error (some extra) message)) := by
  cases extra with
  | global target requestId =>
      have hguard : SearchManager.globalRequestIdFromExtra target requestId ≠ some s.global.globalRequestId ↔
          target = .sponsoredChats ∨ requestId ≠ s.global.loading.requestId := by
        by_cases hsponsored : target = .sponsoredChats
        · simp [SearchManager.globalRequestIdFromExtra, hsponsored]
        · simp [SearchManager.globalRequestIdFromExtra, hsponsored, GlobalSearch.loading]
      simp only [SearchManager.handleError, SearchManager.loadingAnswer, LoadingView.step, LoadingView.answered,
        hguard]
      split_ifs <;> rfl
  | newChat target requestId =>
      simp only [SearchManager.handleError, SearchManager.loadingAnswer]
      split_ifs <;> rfl
  | _ => rfl

lemma handleUpdate_loading (update : SearchUpdate) :
    (s.handleUpdate update).global.loading = s.global.loading.step (SearchManager.loadingAnswer update) := by
  cases update with
  | chat extra chatId title => exact handleChat_loading extra chatId title
  | chats extra chatIds =>
      cases extra with
      | none => rfl
      | some extra => exact handleChats_loading extra chatIds
  | sponsoredChats extra chatIds =>
      cases extra with
      | none => rfl
      | some extra => exact handleSponsoredChats_loading extra chatIds
  | foundMessages extra found nextOffset =>
      cases extra with
      | none => rfl
      | some extra => exact handleFoundMessages_loading extra found nextOffset
  | foundChatMessages extra found next totalCount =>
      cases extra with
      | none => rfl
      | some extra =>
          simp only [SearchManager.handleUpdate, SearchManager.handleFoundChatMessages.eq_def]
          split
          · rfl
          · split <;> rfl
  | user extra hit =>
      cases extra with
      | none => rfl
      | some extra => exact handleUser_loading extra hit
  | error extra message =>
      cases extra with
      | none => rfl
      | some extra => exact handleError_loading extra message

/-- **What the manager does** to the loading of a global search. -/
theorem step_global_loading (s : SearchManager) (e : SearchManagerEvent) :
    (s.step P tryParse e).global.loading = s.global.loading.step (s.loadingEvent P tryParse e) := by
  cases e with
  | setGlobalQuery query => exact setGlobalQuery_loading query
  | setGlobalFilter filter => exact setGlobalFilter_loading filter
  | loadMoreGlobalMessages => exact loadMoreGlobalMessages_loading
  | globalDebounce => exact fireGlobalDebounce_loading
  | searchForNewChat query =>
      simp only [SearchManager.step, SearchManager.searchForNewChat]
      split_ifs <;> rfl
  | newChatDebounce =>
      simp only [SearchManager.step, SearchManager.fireNewChatDebounce]
      split <;> rfl
  | setChatSearchQuery chatId query forumTopicId filter =>
      simp only [SearchManager.step, SearchManager.setChatSearchQuery]
      split_ifs <;> rfl
  | setChatSearchFilter filter =>
      simp only [SearchManager.step, SearchManager.setChatSearchFilter, SearchManager.setChatSearchQuery]
      split
      · rfl
      · split_ifs <;> rfl
  | loadMoreChatMessages =>
      simp only [SearchManager.step, SearchManager.loadMoreChatMessages]
      split_ifs
      · rfl
      · exact congrArg GlobalSearch.loading (SearchManager.requestChatMessageSearch_others _ false).1
  | chatSearchDebounce =>
      simp only [SearchManager.step, SearchManager.fireChatSearchDebounce]
      split_ifs
      · exact congrArg GlobalSearch.loading (SearchManager.requestChatMessageSearch_others _ true).1
      · rfl
  | update update => exact handleUpdate_loading update
  | _ => rfl

end Manager

/-! ## Runs of the manager -/

/-- The request of a global search. -/
def globalRequest : SearchRequest × SearchExtra → Option (GlobalTarget × ℕ)
  | (_, .global target requestId) => some (target, requestId)
  | _ => none

/-- The manager, and beside it the requests of its global searches that are not answered, the number of the latest
search and whether the answer for its sponsored chats has been an error. -/
structure GlobalSearchRun where
  manager : SearchManager := {}
  requests : List (GlobalTarget × ℕ) := []
  latest : ℕ := 0
  missed : Bool := false

namespace GlobalSearchRun

variable (P : Platform) (tryParse : String → Option LinkUri) (r : GlobalSearchRun)

/-- What of the run the loading is about. -/
def loadingRun : LoadingRun where
  view := r.manager.global.loading
  requests := r.requests
  latest := r.latest
  missed := r.missed

def event (e : SearchManagerEvent) : LoadingEvent := r.manager.loadingEvent P tryParse e

/-- An answer takes away its request, and what is sent is waited for. -/
@[grind =]
def step (e : SearchManagerEvent) : GlobalSearchRun where
  manager := r.manager.step P tryParse e
  requests := r.loadingRun.requestsAfter (r.event P tryParse e) ++
    (r.manager.asks P tryParse e).filterMap globalRequest
  latest := if r.manager.global.loading.performsNow (r.event P tryParse e) then
      r.manager.global.globalRequestId + 1
    else r.latest
  missed := r.loadingRun.missedAfter (r.event P tryParse e)

/-- TDLib answers requests that were sent, each once. -/
def Served (e : SearchManagerEvent) : Prop := r.loadingRun.Served (r.event P tryParse e)

instance (e : SearchManagerEvent) : Decidable (r.Served P tryParse e) :=
  inferInstanceAs (Decidable (r.loadingRun.Served (r.event P tryParse e)))

/-- No search is performed while more is loaded, and no count of answers is wrong at its end. -/
def InTime (e : SearchManagerEvent) : Prop := r.loadingRun.InTime (r.event P tryParse e)

variable {P tryParse r}

lemma filterMap_globalRequest (requests : List (SearchRequest × GlobalTarget)) (requestId : ℕ) :
    (requests.map fun request => (request.1, SearchExtra.global request.2 requestId)).filterMap globalRequest =
      (requests.map (·.2)).map (·, requestId) := by
  rw [List.filterMap_map, List.map_map, ← List.filterMap_eq_map]
  rfl

lemma asks_global (s : SearchManager) (e : SearchManagerEvent) :
    (s.asks P tryParse e).filterMap globalRequest = s.global.loading.asks (s.loadingEvent P tryParse e) := by
  cases e with
  | setGlobalQuery query =>
      rw [SearchManager.asks_setGlobalQuery, SearchManager.loadingEvent]
      split_ifs <;> rfl
  | setGlobalFilter filter =>
      by_cases h : s.global.globalFilter = filter ∨ s.global.globalQuery = ""
      · rw [SearchManager.asks_setGlobalFilter_of_same h, SearchManager.loadingEvent, if_pos h]
        rfl
      · rw [SearchManager.loadingEvent, if_neg h]
        rw [not_or] at h
        rw [SearchManager.asks_setGlobalFilter h.1 h.2]
        exact filterMap_globalRequest _ _
  | globalDebounce =>
      cases h : s.global.globalDebounce with
      | false =>
          have hidle : s.global.loading.debounce = false := h
          rw [SearchManager.asks_globalDebounce_of_idle h, SearchManager.loadingEvent, LoadingView.asks, hidle]
          rfl
      | true =>
          have hfires : s.global.loading.debounce = true := h
          rw [SearchManager.asks_globalDebounce h, SearchManager.loadingEvent, LoadingView.asks, hfires]
          exact filterMap_globalRequest _ _
  | loadMoreGlobalMessages =>
      rw [SearchManager.loadingEvent, LoadingView.asks, ← canLoadMoreGlobal_eq]
      cases h : s.canLoadMoreGlobal with
      | false =>
          rw [SearchManager.asks_loadMoreGlobalMessages_of_not h]
          rfl
      | true =>
          rw [SearchManager.asks_loadMoreGlobalMessages h]
          rfl
  | searchForNewChat query =>
      rw [SearchManager.asks_searchForNewChat]
      rfl
  | newChatDebounce =>
      cases h : s.newChat.newChatDebounce with
      | none =>
          rw [SearchManager.asks_newChatDebounce_of_idle h]
          rfl
      | some trimmed =>
          rw [SearchManager.asks_newChatDebounce h, List.filterMap_map]
          exact List.filterMap_eq_nil_iff.mpr fun _ _ => rfl
  | setChatSearchQuery chatId query forumTopicId filter =>
      have hasks : s.asks P tryParse (.setChatSearchQuery chatId query forumTopicId filter) = [] :=
        SearchManager.asks_of_sent_eq (SearchManager.setChatSearchQuery_sent chatId query forumTopicId filter)
      rw [hasks]
      rfl
  | setChatSearchFilter filter =>
      rw [SearchManager.asks_setChatSearchFilter]
      rfl
  | loadMoreChatMessages => exact SearchManager.asks_loadMoreChatMessages.filterMap_eq_nil fun _ _ => ⟨rfl, rfl⟩
  | chatSearchDebounce => exact SearchManager.asks_chatSearchDebounce.filterMap_eq_nil fun _ _ => ⟨rfl, rfl⟩
  | update update =>
      have hnone : s.global.loading.asks (SearchManager.loadingAnswer update) = [] := by
        rw [SearchManager.loadingAnswer.eq_def]
        split <;> rfl
      rw [(SearchManager.asks_update update).filterMap_eq_nil fun _ => rfl]
      exact hnone.symm
  | clearGlobalSearch | clearNewChatSearch | clearChatSearch | changeBlockAds _ =>
      rw [SearchManager.asks_of_sent_eq rfl]
      rfl

/-- The run is one that counts down answers. -/
theorem step_loadingRun (r : GlobalSearchRun) (e : SearchManagerEvent) :
    (r.step P tryParse e).loadingRun = r.loadingRun.step (r.event P tryParse e) := by
  have hview : (r.step P tryParse e).loadingRun.view = (r.loadingRun.step (r.event P tryParse e)).view :=
    step_global_loading r.manager e
  have hrequests : (r.step P tryParse e).loadingRun.requests =
      (r.loadingRun.step (r.event P tryParse e)).requests := by
    have hasks : (r.manager.asks P tryParse e).filterMap globalRequest =
        r.loadingRun.view.asks (r.event P tryParse e) := asks_global r.manager e
    simp only [loadingRun, step, LoadingRun.step] at hasks ⊢
    rw [hasks]
  exact LoadingRun.ext hview hrequests rfl rfl

lemma start_consistent : (loadingRun {}).Consistent where
  numbered _ hrequest := absurd hrequest List.not_mem_nil
  latest := Nat.le_refl _
  nodup := List.nodup_nil
  kinds _ hrequest := absurd hrequest List.not_mem_nil
  noMore hrequest := absurd hrequest List.not_mem_nil
  unmissed _ := rfl
  counted _ hloading := Bool.noConfusion hloading
  current _ hrequest := absurd hrequest List.not_mem_nil
  idle _ _ := rfl

lemma start_faithful : (loadingRun {}).Faithful where
  loading _ _ := rfl
  loadingMore hmore := Bool.noConfusion hmore

lemma step_faithful_iff (hr : r.loadingRun.Consistent) (h : r.loadingRun.Faithful) {e : SearchManagerEvent}
    (hserved : r.Served P tryParse e) : (r.step P tryParse e).loadingRun.Faithful ↔ r.InTime P tryParse e := by
  rw [step_loadingRun]
  exact LoadingRun.step_faithful_iff hr h hserved

lemma step_consistent (hr : r.loadingRun.Consistent) {e : SearchManagerEvent} (hserved : r.Served P tryParse e) :
    (r.step P tryParse e).loadingRun.Consistent := by
  rw [step_loadingRun]
  exact LoadingRun.step_consistent hr hserved

/-- **It loads only while something of the latest search is waited for**, in every state of every run in which no
search is performed while more is loaded and the last answer to a search that loads still is no error for the
sponsored chats and comes after none; and wherever it is so, a step keeps it so exactly then. -/
theorem loading_of_current (P : Platform) (tryParse : String → Option LinkUri) :
    (∀ r, Reachable (step P tryParse) (fun r e => r.Served P tryParse e ∧ r.InTime P tryParse e) {} r →
      r.loadingRun.Faithful) ∧
    ∀ r, Reachable (step P tryParse) (Served P tryParse) {} r → r.loadingRun.Faithful →
      ∀ e, r.Served P tryParse e → ((r.step P tryParse e).loadingRun.Faithful ↔ r.InTime P tryParse e) := by
  constructor
  · intro r h
    have hboth := h.invariant (I := fun r => r.loadingRun.Consistent ∧ r.loadingRun.Faithful)
      ⟨start_consistent, start_faithful⟩ fun r e hr he =>
        ⟨step_consistent hr.1 he.1, (step_faithful_iff hr.1 hr.2 he.1).mpr he.2⟩
    exact hboth.2
  · intro r h hfaithful e hserved
    have hr := h.invariant (I := fun r => r.loadingRun.Consistent) start_consistent fun r e hr he =>
      step_consistent hr he
    exact step_faithful_iff hr hfaithful hserved

/-- A search whose messages go on, and all of whose requests are answered. -/
def searched : List SearchManagerEvent :=
  [.setGlobalQuery "a b", .globalDebounce, .update (.chats (some (.global .chats 1)) [5]),
    .update (.foundMessages (some (.global .messages 1)) [] "next"),
    .update (.chats (some (.global .publicChatsChannel 1)) []),
    .update (.chats (some (.global .publicChatsBot 1)) [])]

theorem loading_of_current_searched :
    (searched.foldl (step .plain fun _ => none) {}).manager.global.globalChatIds = [5] ∧
      (searched.foldl (step .plain fun _ => none) {}).loadingRun.Faithful := by
  exact ⟨by decide, (loading_of_current .plain fun _ => none).1 _ (Reachable.start.run ⟨⟨trivial, trivial⟩,
    ⟨trivial, fun _ => rfl⟩, ⟨by decide, fun _ _ _ _ => rfl⟩, ⟨by decide, fun _ _ _ _ => rfl⟩,
    ⟨by decide, fun _ _ _ _ => rfl⟩, ⟨by decide, fun _ _ _ _ => rfl⟩, trivial⟩)⟩

/-- The sponsored chats are answered by an error and everything else by success. -/
def sponsoredError : List SearchManagerEvent :=
  .changeBlockAds true :: searched ++ [.update (.error (some (.global .sponsoredChats 1)) none)]

/-- The filter is changed while more is loaded; everything is answered. -/
def filteredMeanwhile : List SearchManagerEvent :=
  searched ++ [.loadMoreGlobalMessages, .setGlobalFilter .media,
    .update (.foundMessages (some (.global .messagesMore 2)) [] ""),
    .update (.chats (some (.global .chats 3)) []), .update (.foundMessages (some (.global .messages 3)) [] ""),
    .update (.chats (some (.global .publicChatsChannel 3)) []),
    .update (.chats (some (.global .publicChatsBot 3)) [])]

/-- **A search loads on**, and another one loads more on, with everything answered. -/
theorem loading_never_ends :
    (∃ r, Reachable (step .plain fun _ => none) (Served .plain fun _ => none) {} r ∧ r.requests = [] ∧
      r.manager.global.globalDebounce = false ∧ r.manager.global.globalIsLoading ∧ ¬r.loadingRun.Faithful) ∧
    ∃ r, Reachable (step .plain fun _ => none) (Served .plain fun _ => none) {} r ∧ r.requests = [] ∧
      r.manager.global.globalIsLoadingMore ∧ ¬r.loadingRun.Faithful := by
  constructor
  · refine ⟨sponsoredError.foldl (step .plain fun _ => none) {}, Reachable.start.run ⟨trivial, trivial, trivial,
      by decide, by decide, by decide, by decide, by decide, trivial⟩, by decide, by decide, by decide, ?_⟩
    intro hright
    exact absurd (hright.loading (by decide) (by decide)) (by decide)
  · refine ⟨filteredMeanwhile.foldl (step .plain fun _ => none) {}, Reachable.start.run ⟨trivial, trivial,
      by decide, by decide, by decide, by decide, trivial, trivial, by decide, by decide, by decide, by decide,
      by decide, trivial⟩, by decide, by decide, ?_⟩
    intro hright
    rcases hright.loadingMore (by decide) with ⟨request, hrequest⟩
    have hnone : (filteredMeanwhile.foldl (step .plain fun _ => none) {}).loadingRun.nextPages = [] := by decide
    rw [hnone] at hrequest
    cases hrequest

end GlobalSearchRun

end RioGram.Search
