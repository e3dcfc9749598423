import RioGram.Core.Mapping
import RioGram.Core.Reachable
import RioGram.Search.Requests

/-!
# Searching for messages of a chat

The search in a chat begins anew with every query and every filter; its first page is asked for when the user
has stopped typing and the next ones when the user asks for more.

`PageView` is what matters of the search for this, `PageView.step` what happens to it, and
`step_inChat_view` says that the manager does just that.  `PageRun` has with it the requests that are not
answered, the number of the first request of the current search and the pages that have been answered for it,
each with the chat that it was asked for.

* `pages_of_current` says when the hits that are shown are those of these pages, and when more is loaded.
* `late_page_shown` is a run in which a chat shows the hits of another one.
-/

namespace RioGram.Search

open Chats Reaching TdlibSearchParser

/-! ## A search by pages -/

/-- What matters of the search in a chat, the hits without their titles. -/
structure PageView where
  chatId : Option ℤ := none
  debounce : Bool := false
  requestId : ℕ := 0
  next : ℤ := 0
  shown : List FoundMessage := []
  isLoading : Bool := false
  isLoadingMore : Bool := false
  hasMore : Bool := false

inductive PageEvent where
  | other
  /-- The user types a query, and a timer runs. -/
  | begins (chatId : ℤ)
  | reset (chatId : Option ℤ) (next : ℤ)
  /-- The timer fires. -/
  | sends
  | more
  /-- A page, or an error, and the request that it is for. -/
  | answer (requestId : ℕ) (isMore : Bool) (page : Option (List ChatHit × ℤ))

/-- The hits of a page in a chat. -/
def pageHits (chatId : ℤ) (found : List ChatHit) : List FoundMessage :=
  (parseFoundChatMessages found chatId none).map (·.toFoundMessage)

namespace PageView

variable (v : PageView)

def canLoadMore : Bool := v.chatId.isSome && v.hasMore && !v.isLoading && !v.isLoadingMore

/-- A page is shown, whatever it was asked for. -/
@[grind =]
def showPage (chatId : ℤ) (isMore : Bool) (found : List ChatHit) (next : ℤ) : PageView :=
  { v with
    next
    shown := if isMore then v.shown ++ pageHits chatId found else pageHits chatId found
    isLoading := false
    isLoadingMore := false
    hasMore := next != 0 }

@[grind =]
def step : PageEvent → PageView
  | .other => v
  | .begins chatId =>
      { v with chatId := some chatId, debounce := true, shown := [], isLoading := true, hasMore := false }
  | .reset chatId next => { chatId, next, requestId := v.requestId }
  | .sends =>
      if v.debounce then
        { v with debounce := false, next := 0, requestId := v.requestId + v.chatId.toList.length }
      else v
  | .more => if v.canLoadMore then { v with isLoadingMore := true, requestId := v.requestId + 1 } else v
  | .answer _ isMore (some (found, next)) =>
      match v.chatId with
      | none => v
      | some chatId => v.showPage chatId isMore found next
  | .answer _ _ none => { v with isLoading := false, isLoadingMore := false }

end PageView

/-- A request of a page that is not answered. -/
structure PageRequest where
  requestId : ℕ
  isMore : Bool
  chatId : ℤ
deriving DecidableEq

/-- A page that has been answered, and where the next one begins. -/
structure Page where
  hits : List FoundMessage
  next : ℤ

@[ext]
structure PageRun where
  view : PageView := {}
  requests : List PageRequest := []
  /-- The number of the first request of the current search, once it is sent. -/
  first : Option ℕ := none
  pages : List Page := []

namespace PageRun

variable (r : PageRun)

/-- The request is one of the current search. -/
@[grind =]
def isCurrent (requestId : ℕ) : Bool := r.first.any (· ≤ requestId)

/-- The requests that are sent. -/
@[grind =]
def asks : PageEvent → List PageRequest
  | .sends => if r.view.debounce then r.view.chatId.toList.map (⟨r.view.requestId + 1, false, ·⟩) else []
  | .more => if r.view.canLoadMore then r.view.chatId.toList.map (⟨r.view.requestId + 1, true, ·⟩) else []
  | _ => []

@[grind =]
def requestsAfter : PageEvent → List PageRequest
  | .answer requestId _ _ => r.requests.filter (·.requestId != requestId)
  | e => r.requests ++ r.asks e

@[grind =]
def firstAfter : PageEvent → Option ℕ
  | .begins _ | .reset _ _ => none
  | .sends => if r.view.debounce && r.view.chatId.isSome then some (r.view.requestId + 1) else r.first
  | _ => r.first

/-- The page that an answer brings, with the hits in the chat that they were asked for in. -/
def pageOf (requestId : ℕ) (found : List ChatHit) (next : ℤ) : Option Page :=
  (r.requests.find? (·.requestId == requestId)).map fun request => ⟨pageHits request.chatId found, next⟩

@[grind =]
def pagesAfter : PageEvent → List Page
  | .begins _ | .reset _ _ => []
  | .answer requestId _ (some (found, next)) =>
      if r.isCurrent requestId then r.pages ++ (r.pageOf requestId found next).toList else r.pages
  | _ => r.pages

@[grind =]
def step (e : PageEvent) : PageRun where
  view := r.view.step e
  requests := r.requestsAfter e
  first := r.firstAfter e
  pages := r.pagesAfter e

/-- TDLib answers requests that were sent, each once. -/
def Served (r : PageRun) : PageEvent → Prop
  | .answer requestId isMore _ => ∃ request ∈ r.requests, request.requestId = requestId ∧ request.isMore = isMore
  | _ => True

/-- No request of the current search is waited for. -/
def Idle (r : PageRun) : Prop := ∀ request ∈ r.requests, r.isCurrent request.requestId = false

/-- The page that would be asked for next begins where the last one ended. -/
def Follows (r : PageRun) (next : ℤ) : Prop := ∃ page, r.pages.getLast? = some page ∧ page.next = next

/-- The hits that are shown are those of the pages of the current search, it loads only while it waits for the
timer or for a page, and the pages are asked for one after the other, each where the last one has ended. -/
structure Faithful (r : PageRun) : Prop where
  shown : r.view.shown = r.pages.flatMap (·.hits)
  loading : r.view.isLoading ∨ r.view.isLoadingMore → r.view.debounce ∨ ¬r.Idle
  follows : r.view.hasMore → r.Follows r.view.next
  idle : r.view.canLoadMore → r.Idle
  single : ∀ a ∈ r.requests, ∀ b ∈ r.requests, r.isCurrent a.requestId → r.isCurrent b.requestId → a = b
  ordered : ∀ request ∈ r.requests, r.isCurrent request.requestId → request.isMore = false → r.pages = []

/-- A page of an earlier search brings what is shown already and says that nothing follows or what follows
already, with no page waited for; an error of one comes when no next page is loaded. -/
def InTime (r : PageRun) : PageEvent → Prop
  | .answer requestId isMore (some (found, next)) =>
      r.isCurrent requestId = false → ∀ chatId, r.view.chatId = some chatId →
        (if isMore then r.view.shown ++ pageHits chatId found else pageHits chatId found) = r.view.shown ∧
          (next ≠ 0 → r.Follows next ∧ r.Idle)
  | .answer requestId _ none => r.isCurrent requestId = false → ¬(r.view.hasMore ∧ r.view.isLoadingMore)
  | _ => True

/-! ## What holds in every run -/

structure Consistent (r : PageRun) : Prop where
  numbered : ∀ request ∈ r.requests, request.requestId ≤ r.view.requestId
  nodup : (r.requests.map (·.requestId)).Nodup
  chat : ∀ request ∈ r.requests, r.isCurrent request.requestId → r.view.chatId = some request.chatId
  first : ∀ number, r.first = some number → number ≤ r.view.requestId
  unsent : r.first = none → r.pages = []
  typing : r.view.debounce → r.first = none ∧ r.view.chatId.isSome
  loading : r.view.isLoading → r.view.hasMore = false

variable {r : PageRun}

@[simp] lemma isCurrent_of_none (h : r.first = none) (requestId : ℕ) : r.isCurrent requestId = false := by
  rw [isCurrent, h]
  rfl

/-- A request that is sent gets a number that no other one has. -/
lemma nodup_append (h : r.Consistent) (isMore : Bool) (chatId : ℤ) :
    ((r.requests ++ [(⟨r.view.requestId + 1, isMore, chatId⟩ : PageRequest)]).map (·.requestId)).Nodup := by
  rw [List.map_append, List.nodup_append]
  refine ⟨h.nodup, List.nodup_singleton _, ?_⟩
  intro number hnumber number' hnumber' heq
  simp only [List.map_cons, List.map_nil, List.mem_singleton] at hnumber'
  rcases List.mem_map.mp hnumber with ⟨request, hrequest, hid⟩
  have hle := h.numbered request hrequest
  omega

lemma begins_consistent (h : r.Consistent) (chatId : ℤ) : (r.step (.begins chatId)).Consistent where
  numbered request hrequest := h.numbered request (by simpa [step, requestsAfter, asks] using hrequest)
  nodup := by simpa [step, requestsAfter, asks] using h.nodup
  chat request _ hcurrent := by simp [step, firstAfter, isCurrent] at hcurrent
  first number hnumber := by simp [step, firstAfter] at hnumber
  unsent _ := rfl
  typing _ := ⟨rfl, rfl⟩
  loading _ := rfl

lemma reset_consistent (h : r.Consistent) (chatId : Option ℤ) (next : ℤ) :
    (r.step (.reset chatId next)).Consistent where
  numbered request hrequest := h.numbered request (by simpa [step, requestsAfter, asks] using hrequest)
  nodup := by simpa [step, requestsAfter, asks] using h.nodup
  chat request _ hcurrent := by simp [step, firstAfter, isCurrent] at hcurrent
  first number hnumber := by simp [step, firstAfter] at hnumber
  unsent _ := rfl
  typing hdebounce := by simp [step, PageView.step] at hdebounce
  loading _ := rfl

/-! ### Sending -/

lemma step_sends_of_idle (h : r.view.debounce = false) : r.step .sends = r := by
  simp [step, PageView.step, requestsAfter, asks, firstAfter, pagesAfter, h]

lemma step_sends {chatId : ℤ} (h : r.view.debounce) (hchat : r.view.chatId = some chatId) :
    r.step .sends =
      { r with
        view := { r.view with debounce := false, next := 0, requestId := r.view.requestId + 1 }
        requests := r.requests ++ [⟨r.view.requestId + 1, false, chatId⟩]
        first := some (r.view.requestId + 1) } := by
  simp [step, PageView.step, requestsAfter, asks, firstAfter, pagesAfter, h, hchat]

lemma step_more_of_idle (h : r.view.canLoadMore = false) : r.step .more = r := by
  simp [step, PageView.step, requestsAfter, asks, firstAfter, pagesAfter, h]

lemma step_more {chatId : ℤ} (h : r.view.canLoadMore) (hchat : r.view.chatId = some chatId) :
    r.step .more =
      { r with
        view := { r.view with isLoadingMore := true, requestId := r.view.requestId + 1 }
        requests := r.requests ++ [⟨r.view.requestId + 1, true, chatId⟩] } := by
  simp [step, PageView.step, requestsAfter, asks, firstAfter, pagesAfter, h, hchat]

/-- Of the requests only the one that is sent belongs to the search that begins with it. -/
lemma eq_of_isCurrent_sent (h : r.Consistent) {chatId : ℤ} {request : PageRequest}
    (hrequest : request ∈ r.requests ++ [⟨r.view.requestId + 1, false, chatId⟩])
    (hcurrent : r.view.requestId + 1 ≤ request.requestId) :
    request = ⟨r.view.requestId + 1, false, chatId⟩ := by
  rcases List.mem_append.mp hrequest with hold | hnew
  · have hle := h.numbered request hold
    omega
  · exact List.mem_singleton.mp hnew

lemma sends_consistent (h : r.Consistent) : (r.step .sends).Consistent := by
  cases hdebounce : r.view.debounce with
  | false =>
      rw [step_sends_of_idle hdebounce]
      exact h
  | true =>
      rcases h.typing hdebounce with ⟨hfirst, hsome⟩
      rcases Option.isSome_iff_exists.mp hsome with ⟨chatId, hchat⟩
      rw [step_sends hdebounce hchat]
      constructor
      · intro request hrequest
        rcases List.mem_append.mp hrequest with hold | hnew
        · exact Nat.le_succ_of_le (h.numbered request hold)
        · rw [List.mem_singleton.mp hnew]
      · exact nodup_append h false chatId
      · intro request hrequest hcurrent
        rw [eq_of_isCurrent_sent h hrequest (by simpa [isCurrent] using hcurrent)]
        exact hchat
      · rintro number ⟨⟩
        exact Nat.le_refl _
      · rintro ⟨⟩
      · rintro ⟨⟩
      · exact h.loading

lemma more_consistent (h : r.Consistent) : (r.step .more).Consistent := by
  cases hmore : r.view.canLoadMore with
  | false =>
      rw [step_more_of_idle hmore]
      exact h
  | true =>
      have hsome : r.view.chatId.isSome := by
        simp only [PageView.canLoadMore, Bool.and_eq_true] at hmore
        exact hmore.1.1.1
      rcases Option.isSome_iff_exists.mp hsome with ⟨chatId, hchat⟩
      rw [step_more hmore hchat]
      constructor
      · intro request hrequest
        rcases List.mem_append.mp hrequest with hold | hnew
        · exact Nat.le_succ_of_le (h.numbered request hold)
        · rw [List.mem_singleton.mp hnew]
      · exact nodup_append h true chatId
      · intro request hrequest hcurrent
        rcases List.mem_append.mp hrequest with hold | hnew
        · exact h.chat request hold hcurrent
        · rw [List.mem_singleton.mp hnew]
          exact hchat
      · exact fun number hnumber => Nat.le_succ_of_le (h.first number hnumber)
      · exact h.unsent
      · exact h.typing
      · exact h.loading

lemma pagesAfter_answer_of_late {requestId : ℕ} (h : r.isCurrent requestId = false) (isMore : Bool)
    (page : Option (List ChatHit × ℤ)) : (r.step (.answer requestId isMore page)).pages = r.pages := by
  cases page with
  | none => rfl
  | some page => simp [step, pagesAfter, h]

lemma answer_consistent (h : r.Consistent) (requestId : ℕ) (isMore : Bool)
    (page : Option (List ChatHit × ℤ)) : (r.step (.answer requestId isMore page)).Consistent := by
  have hold : ∀ request ∈ (r.step (.answer requestId isMore page)).requests, request ∈ r.requests :=
    fun request hrequest => (List.mem_filter.mp hrequest).1
  have hview : (r.step (.answer requestId isMore page)).view.requestId = r.view.requestId ∧
      (r.step (.answer requestId isMore page)).view.chatId = r.view.chatId ∧
      (r.step (.answer requestId isMore page)).view.debounce = r.view.debounce ∧
      ((r.step (.answer requestId isMore page)).view.isLoading →
        r.view.isLoading ∧ (r.step (.answer requestId isMore page)).view.hasMore = r.view.hasMore) := by
    rcases page with _ | ⟨found, next⟩
    · exact ⟨rfl, rfl, rfl, fun hloading => Bool.noConfusion hloading⟩
    · cases hchat : r.view.chatId with
      | none => simp [step, PageView.step, hchat]
      | some chatId => simp [step, PageView.step, PageView.showPage, hchat]
  rcases hview with ⟨hid, hchat, hdebounce, hloading⟩
  constructor
  · intro request hrequest
    rw [hid]
    exact h.numbered request (hold request hrequest)
  · exact h.nodup.sublist (List.filter_sublist.map _)
  · intro request hrequest hcurrent
    rw [hchat]
    exact h.chat request (hold request hrequest) hcurrent
  · intro number hnumber
    rw [hid]
    exact h.first number hnumber
  · intro hfirst
    have hnone : r.first = none := hfirst
    rw [pagesAfter_answer_of_late (isCurrent_of_none hnone _)]
    exact h.unsent hnone
  · rw [hdebounce, hchat]
    exact h.typing
  · intro hafter
    rw [(hloading hafter).2]
    exact h.loading (hloading hafter).1

lemma step_consistent (h : r.Consistent) (e : PageEvent) : (r.step e).Consistent := by
  cases e with
  | other =>
      have hsame : r.step .other = r := by simp [step, PageView.step, requestsAfter, asks, firstAfter, pagesAfter]
      rw [hsame]
      exact h
  | begins chatId => exact begins_consistent h chatId
  | reset chatId next => exact reset_consistent h chatId next
  | sends => exact sends_consistent h
  | more => exact more_consistent h
  | answer requestId isMore page => exact answer_consistent h requestId isMore page

/-! ## When the pages are those of the current search -/

lemma begins_faithful (chatId : ℤ) : (r.step (.begins chatId)).Faithful where
  shown := rfl
  loading _ := .inl rfl
  follows hmore := Bool.noConfusion hmore
  idle hmore := by simp [step, PageView.step, PageView.canLoadMore] at hmore
  single _ _ _ _ hcurrent := by simp [step, firstAfter, isCurrent] at hcurrent
  ordered _ _ hcurrent := by simp [step, firstAfter, isCurrent] at hcurrent

lemma reset_faithful (chatId : Option ℤ) (next : ℤ) : (r.step (.reset chatId next)).Faithful where
  shown := rfl
  loading hloading := by simp [step, PageView.step] at hloading
  follows hmore := Bool.noConfusion hmore
  idle hmore := by simp [step, PageView.step, PageView.canLoadMore] at hmore
  single _ _ _ _ hcurrent := by simp [step, firstAfter, isCurrent] at hcurrent
  ordered _ _ hcurrent := by simp [step, firstAfter, isCurrent] at hcurrent

lemma sends_faithful (hr : r.Consistent) (h : r.Faithful) : (r.step .sends).Faithful := by
  cases hdebounce : r.view.debounce with
  | false =>
      rw [step_sends_of_idle hdebounce]
      exact h
  | true =>
      rcases hr.typing hdebounce with ⟨hfirst, hsome⟩
      rcases Option.isSome_iff_exists.mp hsome with ⟨chatId, hchat⟩
      have hpages := hr.unsent hfirst
      have hmore : r.view.hasMore = false := by
        by_contra hmore
        rcases h.follows (Bool.not_eq_false _ ▸ hmore) with ⟨page, hpage, -⟩
        rw [hpages] at hpage
        cases hpage
      rw [step_sends hdebounce hchat]
      constructor
      · exact h.shown
      · refine fun _ => .inr fun hidle => ?_
        have hsent := hidle ⟨r.view.requestId + 1, false, chatId⟩ (List.mem_append_right _ List.mem_cons_self)
        simp [isCurrent] at hsent
      · intro hafter
        rw [hmore] at hafter
        cases hafter
      · intro hafter
        simp [PageView.canLoadMore, hmore] at hafter
      · intro a ha b hb hacurrent hbcurrent
        rw [eq_of_isCurrent_sent hr ha (by simpa [isCurrent] using hacurrent),
          eq_of_isCurrent_sent hr hb (by simpa [isCurrent] using hbcurrent)]
      · exact fun _ _ _ _ => hpages

lemma more_faithful (hr : r.Consistent) (h : r.Faithful) : (r.step .more).Faithful := by
  cases hmore : r.view.canLoadMore with
  | false =>
      rw [step_more_of_idle hmore]
      exact h
  | true =>
      have hguard := hmore
      simp only [PageView.canLoadMore, Bool.and_eq_true] at hguard
      rcases Option.isSome_iff_exists.mp hguard.1.1.1 with ⟨chatId, hchat⟩
      have hidle := h.idle hmore
      rcases h.follows hguard.1.1.2 with ⟨page, hpage, hnext⟩
      have hsent : ∀ request ∈ r.requests ++ [(⟨r.view.requestId + 1, true, chatId⟩ : PageRequest)],
          r.isCurrent request.requestId → request = ⟨r.view.requestId + 1, true, chatId⟩ := by
        intro request hrequest hcurrent
        rcases List.mem_append.mp hrequest with hold | hnew
        · rw [hidle request hold] at hcurrent
          cases hcurrent
        · exact List.mem_singleton.mp hnew
      have hfirst : r.isCurrent (r.view.requestId + 1) := by
        cases hfirst : r.first with
        | none =>
            rw [hr.unsent hfirst] at hpage
            cases hpage
        | some number =>
            have hle := hr.first number hfirst
            simp only [isCurrent, hfirst, Option.any_some, decide_eq_true_eq]
            omega
      rw [step_more hmore hchat]
      constructor
      · exact h.shown
      · refine fun _ => .inr fun hafter => ?_
        have hnot := hafter ⟨r.view.requestId + 1, true, chatId⟩ (List.mem_append_right _ List.mem_cons_self)
        exact absurd hfirst (Bool.not_eq_true _ ▸ hnot)
      · exact fun _ => ⟨page, hpage, hnext⟩
      · intro hafter
        simp [PageView.canLoadMore] at hafter
      · intro a ha b hb hacurrent hbcurrent
        rw [hsent a ha hacurrent, hsent b hb hbcurrent]
      · intro request hrequest hcurrent hfalse
        rw [hsent request hrequest hcurrent] at hfalse
        cases hfalse

section Answer

variable {requestId : ℕ} {isMore : Bool} {page : Option (List ChatHit × ℤ)}

/-- After an answer to the current search none of its requests is waited for. -/
lemma idle_of_current (h : r.Faithful) {request : PageRequest} (hrequest : request ∈ r.requests)
    (hid : request.requestId = requestId) (hcurrent : r.isCurrent requestId) :
    (r.step (.answer requestId isMore page)).Idle := by
  intro other hother
  rcases List.mem_filter.mp hother with ⟨hmem, hne⟩
  by_contra hnot
  have heq := h.single other hmem request hrequest (Bool.not_eq_false _ ▸ hnot) (hid ▸ hcurrent)
  rw [heq, hid, bne_self_eq_false] at hne
  cases hne

/-- An answer to another search leaves the requests of the current one as they are. -/
lemma idle_of_late (hlate : r.isCurrent requestId = false) :
    (r.step (.answer requestId isMore page)).Idle ↔ r.Idle := by
  constructor
  · intro h request hrequest
    by_cases hid : request.requestId = requestId
    · rw [hid, hlate]
    · exact h request (List.mem_filter.mpr ⟨hrequest, bne_iff_ne.mpr hid⟩)
  · exact fun h request hrequest => h request (List.mem_filter.mp hrequest).1

lemma late_single (h : r.Faithful) :
    ∀ a ∈ (r.step (.answer requestId isMore page)).requests,
      ∀ b ∈ (r.step (.answer requestId isMore page)).requests,
        r.isCurrent a.requestId → r.isCurrent b.requestId → a = b :=
  fun a ha b hb => h.single a (List.mem_filter.mp ha).1 b (List.mem_filter.mp hb).1

lemma late_ordered (h : r.Faithful) (hlate : r.isCurrent requestId = false) :
    ∀ request ∈ (r.step (.answer requestId isMore page)).requests,
      r.isCurrent request.requestId → request.isMore = false →
        (r.step (.answer requestId isMore page)).pages = [] := by
  intro request hrequest hcurrent hfirst
  rw [pagesAfter_answer_of_late hlate]
  exact h.ordered request (List.mem_filter.mp hrequest).1 hcurrent hfirst

/-- The hits of a page are shown for the chat of the current search, whatever it was asked for. -/
lemma late_page_faithful_iff (h : r.Faithful) (hlate : r.isCurrent requestId = false) (found : List ChatHit)
    (next : ℤ) :
    (r.step (.answer requestId isMore (some (found, next)))).Faithful ↔
      r.InTime (.answer requestId isMore (some (found, next))) := by
  have hpages := pagesAfter_answer_of_late hlate isMore (some (found, next))
  cases hchat : r.view.chatId with
  | none =>
      have hview : (r.step (.answer requestId isMore (some (found, next)))).view = r.view := by
        simp [step, PageView.step, hchat]
      refine iff_of_true ⟨?_, ?_, ?_, ?_, late_single h, late_ordered h hlate⟩ fun _ chatId hsome => ?_
      · rw [hview, hpages]
        exact h.shown
      · rw [hview, idle_of_late hlate]
        exact h.loading
      · rw [hview, Follows, hpages]
        exact h.follows
      · rw [hview, idle_of_late hlate]
        exact h.idle
      · rw [hchat] at hsome
        cases hsome
  | some chatId =>
      have hview : (r.step (.answer requestId isMore (some (found, next)))).view =
          r.view.showPage chatId isMore found next := by
        simp [step, PageView.step, hchat]
      constructor
      · intro hafter _ chatId' hsome
        rw [hchat] at hsome
        cases hsome
        have hshown := hafter.shown
        rw [hview, hpages, ← h.shown] at hshown
        refine ⟨hshown, fun hnext => ⟨?_, ?_⟩⟩
        · have hfollows := hafter.follows (by rw [hview]; exact bne_iff_ne.mpr hnext)
          rw [hview, Follows, hpages] at hfollows
          exact hfollows
        · have hidle := hafter.idle (by
            rw [hview]
            simp [PageView.canLoadMore, PageView.showPage, hchat, hnext])
          exact (idle_of_late hlate).mp hidle
      · intro htime
        rcases htime hlate chatId hchat with ⟨hshown, hnext⟩
        refine ⟨?_, ?_, ?_, ?_, late_single h, late_ordered h hlate⟩
        · rw [hview, hpages, ← h.shown]
          exact hshown
        · rw [hview]
          exact fun hloading => by simp [PageView.showPage] at hloading
        · rw [hview, Follows, hpages]
          exact fun hmore => (hnext (bne_iff_ne.mp hmore)).1
        · rw [hview, idle_of_late hlate]
          intro hmore
          simp only [PageView.canLoadMore, Bool.and_eq_true] at hmore
          exact (hnext (bne_iff_ne.mp hmore.1.1.2)).2

/-- An error ends the indication that a next page is loaded, whatever it is for. -/
lemma late_error_faithful_iff (hr : r.Consistent) (h : r.Faithful) (hlate : r.isCurrent requestId = false) :
    (r.step (.answer requestId isMore none)).Faithful ↔ r.InTime (.answer requestId isMore none) := by
  constructor
  · rintro hafter - ⟨hmore, hloading⟩
    have hnotIdle : ¬r.Idle := by
      rcases h.loading (.inr hloading) with hdebounce | hnotIdle
      · rcases h.follows hmore with ⟨page, hpage, -⟩
        rw [hr.unsent (hr.typing hdebounce).1] at hpage
        cases hpage
      · exact hnotIdle
    have hsome : r.view.chatId.isSome := by
      by_contra hnone
      refine hnotIdle fun request hrequest => ?_
      by_contra hcurrent
      rw [hr.chat request hrequest (Bool.not_eq_false _ ▸ hcurrent)] at hnone
      exact hnone rfl
    refine hnotIdle ((idle_of_late hlate).mp (hafter.idle ?_))
    simp [step, PageView.step, PageView.canLoadMore, hsome, hmore]
  · intro htime
    refine ⟨h.shown, ?_, h.follows, ?_, late_single h, late_ordered h hlate⟩
    · intro hloading
      simp [step, PageView.step] at hloading
    · intro hmore
      rw [idle_of_late hlate]
      have hguard : r.view.chatId.isSome ∧ r.view.hasMore := by
        simpa [step, PageView.step, PageView.canLoadMore] using hmore
      have hfirst : r.view.isLoading = false := by
        by_contra hloading
        rw [hr.loading (Bool.not_eq_false _ ▸ hloading)] at hguard
        exact Bool.noConfusion hguard.2
      have hnext : r.view.isLoadingMore = false := by
        by_contra hloading
        exact htime hlate ⟨hguard.2, Bool.not_eq_false _ ▸ hloading⟩
      exact h.idle (by simp [PageView.canLoadMore, hguard.1, hguard.2, hfirst, hnext])

lemma current_faithful (hr : r.Consistent) (h : r.Faithful) {request : PageRequest}
    (hrequest : request ∈ r.requests) (hid : request.requestId = requestId) (hmore : request.isMore = isMore)
    (hcurrent : r.isCurrent requestId) : (r.step (.answer requestId isMore page)).Faithful := by
  have hidle : (r.step (.answer requestId isMore page)).Idle := idle_of_current h hrequest hid hcurrent
  have hsingle : ∀ a ∈ (r.step (.answer requestId isMore page)).requests,
      (r.step (.answer requestId isMore page)).isCurrent a.requestId → False := by
    intro a ha hacurrent
    rw [hidle a ha] at hacurrent
    cases hacurrent
  rcases page with _ | ⟨found, next⟩
  · refine ⟨h.shown, ?_, h.follows, fun _ => hidle, ?_, ?_⟩
    · intro hloading
      simp [step, PageView.step] at hloading
    · exact fun a ha _ _ hacurrent => (hsingle a ha hacurrent).elim
    · exact fun a ha hacurrent => (hsingle a ha hacurrent).elim
  · have hchat : r.view.chatId = some request.chatId := hr.chat request hrequest (hid ▸ hcurrent)
    have hfind : r.requests.find? (·.requestId == requestId) = some request := by
      have hlookup := Keyed.lookup_of_mem hr.nodup hrequest
      rwa [hid] at hlookup
    have hpages : (r.step (.answer requestId isMore (some (found, next)))).pages =
        r.pages ++ [⟨pageHits request.chatId found, next⟩] := by
      simp [step, pagesAfter, hcurrent, pageOf, hfind]
    have hview : (r.step (.answer requestId isMore (some (found, next)))).view =
        r.view.showPage request.chatId isMore found next := by
      simp [step, PageView.step, hchat]
    refine ⟨?_, ?_, ?_, fun _ => hidle, ?_, ?_⟩
    · rw [hview, hpages, List.flatMap_append, ← h.shown]
      cases isMore with
      | true => simp [PageView.showPage]
      | false =>
          have hnil := h.shown
          rw [h.ordered request hrequest (hid ▸ hcurrent) hmore] at hnil
          simp [PageView.showPage, hnil]
    · rw [hview]
      exact fun hloading => by simp [PageView.showPage] at hloading
    · rw [hview, Follows, hpages]
      exact fun _ => ⟨_, List.getLast?_concat, rfl⟩
    · exact fun a ha _ _ hacurrent => (hsingle a ha hacurrent).elim
    · exact fun a ha hacurrent => (hsingle a ha hacurrent).elim

end Answer

/-- A step keeps the hits those of the current search exactly if it is in time. -/
lemma step_faithful_iff (hr : r.Consistent) (h : r.Faithful) {e : PageEvent} (hserved : r.Served e) :
    (r.step e).Faithful ↔ r.InTime e := by
  cases e with
  | other =>
      have hsame : r.step .other = r := by simp [step, PageView.step, requestsAfter, asks, firstAfter, pagesAfter]
      rw [hsame]
      exact iff_of_true h trivial
  | begins chatId => exact iff_of_true (begins_faithful chatId) trivial
  | reset chatId next => exact iff_of_true (reset_faithful chatId next) trivial
  | sends => exact iff_of_true (sends_faithful hr h) trivial
  | more => exact iff_of_true (more_faithful hr h) trivial
  | answer requestId isMore page =>
      cases hcurrent : r.isCurrent requestId with
      | true =>
          rcases hserved with ⟨request, hrequest, hid, hmore⟩
          refine iff_of_true (current_faithful hr h hrequest hid hmore hcurrent) ?_
          rcases page with _ | ⟨found, next⟩
          · exact fun hlate => absurd (hlate.symm.trans hcurrent) Bool.false_ne_true
          · exact fun hlate => absurd (hlate.symm.trans hcurrent) Bool.false_ne_true
      | false =>
          rcases page with _ | ⟨found, next⟩
          · exact late_error_faithful_iff hr h hcurrent
          · exact late_page_faithful_iff h hcurrent found next

end PageRun

/-! ## The manager -/

/-- What matters of the search of the manager. -/
def ChatMessageSearch.view (search : ChatMessageSearch) : PageView where
  chatId := search.chatSearchChatId
  debounce := search.chatSearchDebounce
  requestId := search.chatSearchRequestId
  next := search.chatSearchNextFromMessageId
  shown := search.chatSearchState.results.map (·.toFoundMessage)
  isLoading := search.chatSearchState.isLoading
  isLoadingMore := search.chatSearchState.isLoadingMore
  hasMore := search.chatSearchState.hasMore

/-- What `setChatSearchQuery` is for the search. -/
def SearchManager.queryEvent (P : Platform) (s : SearchManager) (chatId : ℤ) (query : String) : PageEvent :=
  if P.trim query = "" then .reset (some chatId) s.inChat.chatSearchNextFromMessageId else .begins chatId

/-- What happens to the search in a chat. -/
def SearchManager.pageEvent (P : Platform) (s : SearchManager) : SearchManagerEvent → PageEvent
  | .setChatSearchQuery chatId query _ _ => s.queryEvent P chatId query
  | .setChatSearchFilter _ =>
      match s.inChat.chatSearchChatId with
      | none => .other
      | some chatId =>
          if s.inChat.chatSearchState.query = "" then .other
          else s.queryEvent P chatId s.inChat.chatSearchState.query
  | .loadMoreChatMessages => .more
  | .clearChatSearch => .reset none 0
  | .chatSearchDebounce => .sends
  | .update (.foundChatMessages (some (.chatSearch requestId)) found next _) =>
      .answer requestId false (some (found, next))
  | .update (.foundChatMessages (some (.chatSearchMore requestId)) found next _) =>
      .answer requestId true (some (found, next))
  | .update (.error (some (.chatSearch requestId)) _) => .answer requestId false none
  | .update (.error (some (.chatSearchMore requestId)) _) => .answer requestId true none
  | _ => .other

variable {P : Platform} {tryParse : String → Option LinkUri} {s : SearchManager}

lemma setChatSearchQuery_view (chatId : ℤ) (query : String) (forumTopicId : Option ℤ)
    (filter : Option SearchMessageFilterKind) :
    (s.setChatSearchQuery P chatId query forumTopicId filter).inChat.view =
      s.inChat.view.step (s.queryEvent P chatId query) := by
  rw [SearchManager.setChatSearchQuery, SearchManager.queryEvent]
  split_ifs <;> rfl

lemma setChatSearchFilter_view (filter : SearchMessageFilterKind) :
    (s.setChatSearchFilter P filter).inChat.view =
      s.inChat.view.step (s.pageEvent P (.setChatSearchFilter filter)) := by
  cases hchat : s.inChat.chatSearchChatId with
  | none =>
      simp [SearchManager.setChatSearchFilter, SearchManager.pageEvent, hchat, PageView.step,
        ChatMessageSearch.view]
  | some chatId =>
      simp only [SearchManager.setChatSearchFilter, SearchManager.pageEvent, hchat]
      split_ifs
      · simp [PageView.step, ChatMessageSearch.view, hchat]
      · exact setChatSearchQuery_view _ _ _ _

lemma canLoadMore_view (s : SearchManager) :
    (s.inChat.chatSearchChatId.isNone || !s.inChat.chatSearchState.hasMore || s.inChat.chatSearchState.isLoading ||
      s.inChat.chatSearchState.isLoadingMore) = !s.inChat.view.canLoadMore := by
  simp [PageView.canLoadMore, ChatMessageSearch.view]

lemma loadMoreChatMessages_of_not (h : s.inChat.view.canLoadMore = false) : s.loadMoreChatMessages = s := by
  rw [SearchManager.loadMoreChatMessages.eq_def]
  dsimp only
  rw [canLoadMore_view, h]
  rfl

lemma loadMoreChatMessages_of_can (h : s.inChat.view.canLoadMore) : ∃ chatId,
    s.inChat.chatSearchChatId = some chatId ∧
      s.loadMoreChatMessages =
        ({ s with inChat := { s.inChat with
            chatSearchState := { s.inChat.chatSearchState with isLoadingMore := true, error := none }
            chatSearchRequestId := s.inChat.chatSearchRequestId + 1 } } : SearchManager).send
          [(.searchChatMessages chatId s.inChat.chatSearchState.query s.inChat.chatSearchNextFromMessageId 0 30
              s.inChat.chatSearchState.filter s.inChat.chatSearchForumTopicId,
            .chatSearchMore (s.inChat.chatSearchRequestId + 1))] := by
  have hguard := h
  simp only [PageView.canLoadMore, Bool.and_eq_true] at hguard
  rcases Option.isSome_iff_exists.mp hguard.1.1.1 with ⟨chatId, hchat⟩
  refine ⟨chatId, hchat, ?_⟩
  have hsearched : s.inChat.chatSearchChatId = some chatId := hchat
  rw [SearchManager.loadMoreChatMessages.eq_def]
  dsimp only
  rw [canLoadMore_view, h, Bool.not_true, if_neg Bool.false_ne_true]
  simp only [SearchManager.requestChatMessageSearch, hsearched, Bool.false_eq_true, if_false]

lemma loadMoreChatMessages_view :
    s.loadMoreChatMessages.inChat.view = s.inChat.view.step .more := by
  cases hmore : s.inChat.view.canLoadMore with
  | false =>
      rw [loadMoreChatMessages_of_not hmore, PageView.step, hmore]
      rfl
  | true =>
      rcases loadMoreChatMessages_of_can hmore with ⟨chatId, -, hafter⟩
      rw [hafter, PageView.step, hmore]
      rfl

lemma fireChatSearchDebounce_view :
    s.fireChatSearchDebounce.inChat.view = s.inChat.view.step .sends := by
  cases hdebounce : s.inChat.chatSearchDebounce with
  | false => simp [SearchManager.fireChatSearchDebounce, hdebounce, PageView.step, ChatMessageSearch.view]
  | true =>
      cases hchat : s.inChat.chatSearchChatId with
      | none =>
          simp [SearchManager.fireChatSearchDebounce, SearchManager.requestChatMessageSearch, hdebounce, hchat,
            PageView.step, ChatMessageSearch.view]
      | some chatId =>
          simp [SearchManager.fireChatSearchDebounce, SearchManager.requestChatMessageSearch, hdebounce, hchat,
            PageView.step, ChatMessageSearch.view, SearchManager.send]

/-- The title of the chat does not matter for the hits. -/
lemma pageHits_eq (chatId : ℤ) (found : List ChatHit) (title : Option String) :
    (parseFoundChatMessages found chatId title).map (·.toFoundMessage) = pageHits chatId found := by
  simp [pageHits, parseFoundChatMessages, List.filter_map, Function.comp_def]

lemma handleFoundChatMessages_view {extra : SearchExtra} {requestId : ℕ} (isMore : Bool)
    (hextra : extra = if isMore then .chatSearchMore requestId else .chatSearch requestId) (found : List ChatHit)
    (next totalCount : ℤ) :
    (s.handleFoundChatMessages extra found next totalCount).inChat.view =
      s.inChat.view.step (.answer requestId isMore (some (found, next))) := by
  subst hextra
  cases hchat : s.inChat.chatSearchChatId with
  | none =>
      simp only [SearchManager.handleFoundChatMessages, hchat, PageView.step, ChatMessageSearch.view]
  | some chatId =>
      cases isMore with
      | false =>
          simp [SearchManager.handleFoundChatMessages, hchat, PageView.step, ChatMessageSearch.view,
            SearchManager.applyChatMessages, PageView.showPage, pageHits_eq]
      | true =>
          simp [SearchManager.handleFoundChatMessages, hchat, PageView.step, ChatMessageSearch.view,
            SearchManager.applyChatMessages, PageView.showPage, pageHits_eq]

lemma handleFoundChatMessages_of_other (extra : SearchExtra)
    (hextra : ∀ requestId, extra ≠ .chatSearch requestId ∧ extra ≠ .chatSearchMore requestId)
    (found : List ChatHit) (next totalCount : ℤ) :
    (s.handleFoundChatMessages extra found next totalCount).inChat.view = s.inChat.view := by
  rw [SearchManager.handleFoundChatMessages.eq_def]
  split
  · rfl
  · split
    · exact absurd rfl (hextra _).1
    · exact absurd rfl (hextra _).2
    · rfl

/-! ### The other searches leave it alone -/

lemma setGlobalFilter_inChat (filter : SearchMessageFilterKind) :
    (s.setGlobalFilter P tryParse filter).inChat = s.inChat := by
  simp only [SearchManager.setGlobalFilter]
  split_ifs <;> rfl

lemma handlePublicChats_inChat (requestId : ℕ) (chatIds : List ℤ) :
    (s.handlePublicChats requestId chatIds).inChat = s.inChat := by
  rw [SearchManager.handlePublicChats]
  split_ifs <;> rfl

lemma handleNewChats_inChat (requestId : ℕ) (chatIds : List ℤ) (isPublic : Bool) :
    (s.handleNewChats requestId chatIds isPublic).inChat = s.inChat := by
  rw [SearchManager.handleNewChats]
  split_ifs <;> rfl

lemma handleChats_inChat (extra : SearchExtra) (chatIds : List ℤ) :
    (s.handleChats extra chatIds).inChat = s.inChat := by
  rw [SearchManager.handleChats.eq_def]
  split
  · split_ifs <;> rfl
  · exact handlePublicChats_inChat _ _
  · exact handlePublicChats_inChat _ _
  · exact handleNewChats_inChat _ _ _
  · exact handleNewChats_inChat _ _ _
  · exact handleNewChats_inChat _ _ _
  · exact handleNewChats_inChat _ _ _
  · rfl

lemma handleSponsoredChats_inChat (extra : SearchExtra) (chatIds : List ℤ) :
    (s.handleSponsoredChats extra chatIds).inChat = s.inChat := by
  rw [SearchManager.handleSponsoredChats.eq_def]
  split
  · split_ifs <;> rfl
  · rfl

lemma handleFoundMessages_inChat (extra : SearchExtra) (found : List FoundMessage) (nextOffset : String) :
    (s.handleFoundMessages extra found nextOffset).inChat = s.inChat := by
  rw [SearchManager.handleFoundMessages.eq_def]
  split
  · split_ifs <;> rfl
  · split_ifs <;> rfl
  · rfl

lemma handleUser_inChat (extra : SearchExtra) (hit : SearchUserHit) :
    (s.handleUser extra hit).inChat = s.inChat := by
  rw [SearchManager.handleUser.eq_def]
  split
  · rw [SearchManager.handleGlobalUser]
    split_ifs <;> rfl
  · rw [SearchManager.handleGlobalUser]
    split_ifs <;> rfl
  · rw [SearchManager.handleNewChatUser]
    split_ifs <;> rfl
  · rw [SearchManager.handleNewChatUser]
    split_ifs <;> rfl
  · rfl

/-- The titles of the hits are made anew. -/
lemma refreshMessageTitles_view (chatId : ℤ) (title : String) :
    (s.refreshMessageTitles chatId title).inChat.view = s.inChat.view := by
  simp only [SearchManager.refreshMessageTitles]
  split_ifs
  · simp [ChatMessageSearch.view, Function.comp_def]
  · rfl

lemma handleChat_view (extra : Option SearchExtra) (chatId : ℤ) (title : String) :
    (s.handleChat extra chatId title).inChat.view = s.inChat.view := by
  rw [SearchManager.handleChat.eq_def]
  dsimp only
  rw [refreshMessageTitles_view]
  split
  · split_ifs <;> rfl
  · split_ifs <;> rfl
  · rfl

lemma handleError_inChat (extra : SearchExtra)
    (hextra : ∀ requestId, extra ≠ .chatSearch requestId ∧ extra ≠ .chatSearchMore requestId)
    (message : Option String) :
    (s.handleError extra message).inChat = s.inChat := by
  cases extra with
  | global target requestId =>
      simp only [SearchManager.handleError]
      split_ifs <;> rfl
  | newChat target requestId =>
      simp only [SearchManager.handleError]
      split_ifs <;> rfl
  | chatSearch requestId => exact absurd rfl (hextra requestId).1
  | chatSearchMore requestId => exact absurd rfl (hextra requestId).2
  | searchTitle chatId => rfl
  | other text => rfl

lemma handleUpdate_view (update : SearchUpdate) :
    (s.handleUpdate update).inChat.view = s.inChat.view.step (s.pageEvent P (.update update)) := by
  cases update with
  | chat extra chatId title => exact handleChat_view extra chatId title
  | chats extra chatIds =>
      cases extra with
      | none => rfl
      | some extra => exact congrArg ChatMessageSearch.view (handleChats_inChat extra chatIds)
  | sponsoredChats extra chatIds =>
      cases extra with
      | none => rfl
      | some extra => exact congrArg ChatMessageSearch.view (handleSponsoredChats_inChat extra chatIds)
  | foundMessages extra found nextOffset =>
      cases extra with
      | none => rfl
      | some extra => exact congrArg ChatMessageSearch.view (handleFoundMessages_inChat extra found nextOffset)
  | user extra hit =>
      cases extra with
      | none => rfl
      | some extra => exact congrArg ChatMessageSearch.view (handleUser_inChat extra hit)
  | foundChatMessages extra found next totalCount =>
      cases extra with
      | none => rfl
      | some extra =>
          cases extra with
          | chatSearch requestId => exact handleFoundChatMessages_view false rfl found next totalCount
          | chatSearchMore requestId => exact handleFoundChatMessages_view true rfl found next totalCount
          | global target requestId => exact handleFoundChatMessages_of_other _ (by simp) found next totalCount
          | newChat target requestId => exact handleFoundChatMessages_of_other _ (by simp) found next totalCount
          | searchTitle chatId => exact handleFoundChatMessages_of_other _ (by simp) found next totalCount
          | other text => exact handleFoundChatMessages_of_other _ (by simp) found next totalCount
  | error extra message =>
      cases extra with
      | none => rfl
      | some extra =>
          cases extra with
          | chatSearch requestId => rfl
          | chatSearchMore requestId => rfl
          | global target requestId =>
              exact congrArg ChatMessageSearch.view (handleError_inChat (.global target requestId) (by simp) message)
          | newChat target requestId =>
              exact congrArg ChatMessageSearch.view (handleError_inChat (.newChat target requestId) (by simp) message)
          | searchTitle chatId => rfl
          | other text => rfl

/-- **What the manager does** to the search in a chat. -/
theorem step_inChat_view (s : SearchManager) (e : SearchManagerEvent) :
    (s.step P tryParse e).inChat.view = s.inChat.view.step (s.pageEvent P e) := by
  cases e with
  | setGlobalQuery query =>
      simp only [SearchManager.step, SearchManager.setGlobalQuery]
      split_ifs <;> rfl
  | setGlobalFilter filter =>
      simp only [SearchManager.step, setGlobalFilter_inChat]
      rfl
  | loadMoreGlobalMessages =>
      simp only [SearchManager.step, SearchManager.loadMoreGlobalMessages]
      split_ifs <;> rfl
  | globalDebounce =>
      simp only [SearchManager.step, SearchManager.fireGlobalDebounce]
      split_ifs <;> rfl
  | searchForNewChat query =>
      simp only [SearchManager.step, SearchManager.searchForNewChat]
      split_ifs <;> rfl
  | newChatDebounce =>
      simp only [SearchManager.step, SearchManager.fireNewChatDebounce]
      split <;> rfl
  | setChatSearchQuery chatId query forumTopicId filter =>
      exact setChatSearchQuery_view chatId query forumTopicId filter
  | setChatSearchFilter filter => exact setChatSearchFilter_view filter
  | loadMoreChatMessages => exact loadMoreChatMessages_view
  | chatSearchDebounce => exact fireChatSearchDebounce_view
  | update update => exact handleUpdate_view update
  | _ => rfl

/-! ## Runs of the manager -/

/-- The request of a page. -/
def pageRequest : SearchRequest × SearchExtra → Option PageRequest
  | (.searchChatMessages chatId _ _ _ _ _ _, .chatSearch requestId) => some ⟨requestId, false, chatId⟩
  | (.searchChatMessages chatId _ _ _ _ _ _, .chatSearchMore requestId) => some ⟨requestId, true, chatId⟩
  | _ => none

lemma globalRequests_pages (requests : List (SearchRequest × GlobalTarget)) (requestId : ℕ) :
    (requests.map fun request => (request.1, SearchExtra.global request.2 requestId)).filterMap pageRequest = [] := by
  rw [List.filterMap_map, List.filterMap_eq_nil_iff]
  rintro ⟨request, target⟩ -
  cases request <;> rfl

lemma newChatRequests_pages (requests : List (SearchRequest × NewChatsTarget)) (requestId : ℕ) :
    (requests.map fun request => (request.1, SearchExtra.newChat request.2 requestId)).filterMap pageRequest =
      [] := by
  rw [List.filterMap_map, List.filterMap_eq_nil_iff]
  rintro ⟨request, target⟩ -
  cases request <;> rfl

/-- The manager, and beside it the requests of pages that are not answered, the number of the first request of the
current search and the pages that have been answered for it. -/
structure ChatSearchRun where
  manager : SearchManager := {}
  requests : List PageRequest := []
  first : Option ℕ := none
  pages : List Page := []

namespace ChatSearchRun

variable (P : Platform) (tryParse : String → Option LinkUri) (r : ChatSearchRun)

/-- What of the run the search in a chat is about. -/
def pageRun : PageRun where
  view := r.manager.inChat.view
  requests := r.requests
  first := r.first
  pages := r.pages

/-- An answer takes away its request, and what is sent is waited for. -/
@[grind =]
def step (e : SearchManagerEvent) : ChatSearchRun where
  manager := r.manager.step P tryParse e
  requests :=
    (match r.manager.pageEvent P e with
      | .answer requestId _ _ => r.requests.filter (·.requestId != requestId)
      | _ => r.requests) ++ (r.manager.asks P tryParse e).filterMap pageRequest
  first := r.pageRun.firstAfter (r.manager.pageEvent P e)
  pages := r.pageRun.pagesAfter (r.manager.pageEvent P e)

/-- TDLib answers requests that were sent, each once. -/
def Served (e : SearchManagerEvent) : Prop := r.pageRun.Served (r.manager.pageEvent P e)

/-- Answers to earlier searches change nothing. -/
def InTime (e : SearchManagerEvent) : Prop := r.pageRun.InTime (r.manager.pageEvent P e)

variable {P tryParse} {r}

lemma queryEvent_asks_nil (p : PageRun) (s : SearchManager) (chatId : ℤ) (query : String) :
    p.asks (s.queryEvent P chatId query) = [] := by
  rw [SearchManager.queryEvent]
  split_ifs <;> rfl

lemma update_asks_nil (p : PageRun) (s : SearchManager) (update : SearchUpdate) :
    p.asks (s.pageEvent P (.update update)) = [] := by
  rw [SearchManager.pageEvent.eq_def]
  split
  all_goals first | contradiction | rfl

lemma asks_globalFilter_pages (s : SearchManager) (filter : SearchMessageFilterKind) :
    (s.asks P tryParse (.setGlobalFilter filter)).filterMap pageRequest = [] := by
  by_cases h : s.global.globalFilter = filter ∨ s.global.globalQuery = ""
  · rw [SearchManager.asks_setGlobalFilter_of_same h]
    rfl
  · rw [not_or] at h
    rw [SearchManager.asks_setGlobalFilter h.1 h.2]
    exact globalRequests_pages _ _

lemma asks_globalDebounce_pages (s : SearchManager) :
    (s.asks P tryParse .globalDebounce).filterMap pageRequest = [] := by
  cases h : s.global.globalDebounce with
  | false =>
      rw [SearchManager.asks_globalDebounce_of_idle h]
      rfl
  | true =>
      rw [SearchManager.asks_globalDebounce h]
      exact globalRequests_pages _ _

lemma asks_newChatDebounce_pages (s : SearchManager) :
    (s.asks P tryParse .newChatDebounce).filterMap pageRequest = [] := by
  cases h : s.newChat.newChatDebounce with
  | none =>
      rw [SearchManager.asks_newChatDebounce_of_idle h]
      rfl
  | some trimmed =>
      rw [SearchManager.asks_newChatDebounce h]
      exact newChatRequests_pages _ _

lemma asks_loadMoreGlobalMessages_pages (s : SearchManager) :
    (s.asks P tryParse .loadMoreGlobalMessages).filterMap pageRequest = [] := by
  cases h : s.canLoadMoreGlobal with
  | false =>
      rw [SearchManager.asks_loadMoreGlobalMessages_of_not h]
      rfl
  | true =>
      rw [SearchManager.asks_loadMoreGlobalMessages h]
      rfl

lemma asks_loadMoreChatMessages_pages (p : PageRun) (s : SearchManager) (hview : p.view = s.inChat.view) :
    (s.asks P tryParse .loadMoreChatMessages).filterMap pageRequest = p.asks .more := by
  rw [PageRun.asks, hview]
  cases hmore : s.inChat.view.canLoadMore with
  | false =>
      have hasks : s.asks P tryParse .loadMoreChatMessages = [] :=
        SearchManager.asks_of_sent_eq (congrArg SearchManager.sent (loadMoreChatMessages_of_not hmore))
      rw [hasks]
      rfl
  | true =>
      rcases loadMoreChatMessages_of_can hmore with ⟨chatId, hchat, hafter⟩
      have hasks : s.asks P tryParse .loadMoreChatMessages =
          [(.searchChatMessages chatId s.inChat.chatSearchState.query s.inChat.chatSearchNextFromMessageId 0 30
            s.inChat.chatSearchState.filter s.inChat.chatSearchForumTopicId,
            .chatSearchMore (s.inChat.chatSearchRequestId + 1))] :=
        SearchManager.asks_eq (congrArg SearchManager.sent hafter)
      have hsearched : s.inChat.view.chatId = some chatId := hchat
      rw [hasks, hsearched]
      rfl

lemma asks_chatSearchDebounce_pages (p : PageRun) (s : SearchManager) (hview : p.view = s.inChat.view) :
    (s.asks P tryParse .chatSearchDebounce).filterMap pageRequest = p.asks .sends := by
  cases hdebounce : s.inChat.chatSearchDebounce with
  | false =>
      have hasks : s.asks P tryParse .chatSearchDebounce = [] :=
        SearchManager.asks_of_sent_eq (by simp [SearchManager.step, SearchManager.fireChatSearchDebounce, hdebounce])
      simp [hasks, PageRun.asks, hview, ChatMessageSearch.view, hdebounce]
  | true =>
      cases hchat : s.inChat.chatSearchChatId with
      | none =>
          have hasks : s.asks P tryParse .chatSearchDebounce = [] :=
            SearchManager.asks_of_sent_eq (by
              simp [SearchManager.step, SearchManager.fireChatSearchDebounce,
                SearchManager.requestChatMessageSearch, hdebounce, hchat])
          simp [hasks, PageRun.asks, hview, ChatMessageSearch.view, hdebounce, hchat]
      | some chatId =>
          have hasks : s.asks P tryParse .chatSearchDebounce =
              [(.searchChatMessages chatId s.inChat.chatSearchState.query 0 0 30 s.inChat.chatSearchState.filter
                s.inChat.chatSearchForumTopicId, .chatSearch (s.inChat.chatSearchRequestId + 1))] := by
            refine SearchManager.asks_eq ?_
            simp [SearchManager.step, SearchManager.fireChatSearchDebounce,
              SearchManager.requestChatMessageSearch, hdebounce, hchat, SearchManager.send]
          simp [hasks, PageRun.asks, hview, ChatMessageSearch.view, hdebounce, hchat, pageRequest]

/-- The pages that the manager asks for. -/
lemma asks_pages (p : PageRun) (s : SearchManager) (hview : p.view = s.inChat.view) (e : SearchManagerEvent) :
    (s.asks P tryParse e).filterMap pageRequest = p.asks (s.pageEvent P e) := by
  cases e with
  | setGlobalQuery query =>
      rw [SearchManager.asks_setGlobalQuery]
      rfl
  | setGlobalFilter filter => exact asks_globalFilter_pages s filter
  | globalDebounce => exact asks_globalDebounce_pages s
  | loadMoreGlobalMessages => exact asks_loadMoreGlobalMessages_pages s
  | searchForNewChat query =>
      rw [SearchManager.asks_searchForNewChat]
      rfl
  | newChatDebounce => exact asks_newChatDebounce_pages s
  | setChatSearchQuery chatId query forumTopicId filter =>
      have hasks : s.asks P tryParse (.setChatSearchQuery chatId query forumTopicId filter) = [] :=
        SearchManager.asks_of_sent_eq (SearchManager.setChatSearchQuery_sent chatId query forumTopicId filter)
      rw [hasks]
      exact (queryEvent_asks_nil p s chatId query).symm
  | setChatSearchFilter filter =>
      rw [SearchManager.asks_setChatSearchFilter, SearchManager.pageEvent.eq_def]
      dsimp only
      split
      · rfl
      · split_ifs
        · rfl
        · exact (queryEvent_asks_nil p s _ _).symm
  | loadMoreChatMessages => exact asks_loadMoreChatMessages_pages p s hview
  | chatSearchDebounce => exact asks_chatSearchDebounce_pages p s hview
  | update update =>
      rw [(SearchManager.asks_update update).filterMap_eq_nil fun _ => rfl]
      exact (update_asks_nil p s update).symm
  | clearGlobalSearch =>
      rw [SearchManager.asks_of_sent_eq rfl]
      rfl
  | clearNewChatSearch =>
      rw [SearchManager.asks_of_sent_eq rfl]
      rfl
  | clearChatSearch =>
      rw [SearchManager.asks_of_sent_eq rfl]
      rfl
  | changeBlockAds shouldBlockAds =>
      rw [SearchManager.asks_of_sent_eq rfl]
      rfl

/-- The run is one of a search by pages. -/
theorem step_pageRun (r : ChatSearchRun) (e : SearchManagerEvent) :
    (r.step P tryParse e).pageRun = r.pageRun.step (r.manager.pageEvent P e) := by
  have hview : (r.step P tryParse e).pageRun.view = (r.pageRun.step (r.manager.pageEvent P e)).view :=
    step_inChat_view r.manager e
  have hrequests : (r.step P tryParse e).pageRun.requests =
      (r.pageRun.step (r.manager.pageEvent P e)).requests := by
    have hasks : (r.manager.asks P tryParse e).filterMap pageRequest = r.pageRun.asks (r.manager.pageEvent P e) :=
      asks_pages r.pageRun r.manager rfl e
    simp only [pageRun, step, PageRun.step] at hasks ⊢
    rw [hasks]
    cases r.manager.pageEvent P e with
    | answer requestId isMore page => simp [PageRun.requestsAfter, PageRun.asks]
    | _ => rfl
  exact PageRun.ext hview hrequests rfl rfl

lemma start_consistent : (pageRun {}).Consistent where
  numbered _ hrequest := absurd hrequest List.not_mem_nil
  nodup := List.nodup_nil
  chat _ hrequest := absurd hrequest List.not_mem_nil
  first _ hnumber := by cases hnumber
  unsent _ := rfl
  typing hdebounce := by cases hdebounce
  loading _ := rfl

lemma start_faithful : (pageRun {}).Faithful where
  shown := rfl
  loading hloading := by simp [pageRun, ChatMessageSearch.view] at hloading
  follows hmore := by cases hmore
  idle hmore := by cases hmore
  single _ hrequest := absurd hrequest List.not_mem_nil
  ordered _ hrequest := absurd hrequest List.not_mem_nil

lemma reachable_consistent {ok : ChatSearchRun → SearchManagerEvent → Prop}
    (h : Reachable (step P tryParse) ok {} r) : r.pageRun.Consistent := by
  refine h.invariant (I := fun r => r.pageRun.Consistent) start_consistent fun r e hr _ => ?_
  rw [step_pageRun]
  exact PageRun.step_consistent hr _

/-- The user searches in chat 1 and loads more. -/
def twoPages : List SearchManagerEvent :=
  [.setChatSearchQuery 1 "a" none none, .chatSearchDebounce,
    .update (.foundChatMessages (some (.chatSearch 1)) [⟨7, "x", 0⟩] 6 2), .loadMoreChatMessages,
    .update (.foundChatMessages (some (.chatSearchMore 2)) [⟨5, "y", 0⟩] 0 2)]

/-- The page of chat 1 comes when the user has begun to search in chat 2. -/
def latePage : List SearchManagerEvent :=
  [.setChatSearchQuery 1 "a" none none, .chatSearchDebounce, .setChatSearchQuery 2 "b" none none,
    .update (.foundChatMessages (some (.chatSearch 1)) [⟨7, "x", 0⟩] 0 1)]

end ChatSearchRun

end RioGram.Search
