import RioGram.Net.Creator.Steps

/-!
# The query tokens of the two resolver slots

Each slot has a token, which is not zero while a query counts, and a timestamp, from which on a new
query may be sent.  `loop` relies on a slot with a token having a timestamp in the past; handlers reset
one half of the pair or both.  `TokensInOrder` is the invariant behind it, together with the bookkeeping
of link tokens that makes at most one query current.

`loop_checks_hold` is the result for every run.
-/

namespace RioGram

/-- The link token an answer comes with. -/
def Query.linkToken : Query → Option ℕ
  | .transport token _ _ => some token
  | .main token _ _ => some token
  | .ping _ _ => none

namespace ConnectionCreator

open Transition

/-- The link tokens of the queries that are not answered yet. -/
def linkTokens (queries : List Query) : List ℕ := queries.filterMap Query.linkToken

/-- A slot that waits for an answer has a timestamp in the past, and link tokens are given out once. -/
def TokensInOrder (s : ConnectionCreator) : Prop :=
  (s.resolveTransportProxyQueryToken ≠ 0 → s.resolveTransportProxyTimestamp ≤ s.now) ∧
  (s.resolveProxyQueryToken ≠ 0 → s.resolveProxyTimestamp ≤ s.now) ∧
  (∀ token ∈ linkTokens s.resolving, token ≤ s.currentToken) ∧
  (linkTokens s.resolving).Nodup

/-- The failures other than those of the two slots. -/
def NotSlot (k : CheckFailure) : Prop := k ≠ .transportQueryToken ∧ k ≠ .proxyQueryToken

/-! ## Link tokens -/

lemma linkTokens_append (queries : List Query) (query : Query) :
    linkTokens (queries ++ [query]) = linkTokens queries ++ query.linkToken.toList := by
  cases h : query.linkToken with
  | none => simp [linkTokens, List.filterMap_append, h]
  | some token => simp [linkTokens, List.filterMap_append, h]

/-- A query that is sent with the next token leaves link tokens distinct. -/
lemma linkTokens_fresh {queries : List Query} {current : ℕ} {query : Query}
    (hquery : query.linkToken = some (current + 1))
    (hissued : ∀ token ∈ linkTokens queries, token ≤ current) (hdistinct : (linkTokens queries).Nodup) :
    (∀ token ∈ linkTokens (queries ++ [query]), token ≤ current + 1) ∧
    (linkTokens (queries ++ [query])).Nodup := by
  rw [linkTokens_append, hquery]
  constructor
  · intro token htoken
    rcases List.mem_append.mp htoken with h | h
    · exact Nat.le_succ_of_le (hissued token h)
    · exact (List.mem_singleton.mp h).le
  · refine List.nodup_append'.mpr ⟨hdistinct, List.nodup_singleton _, ?_⟩
    intro token htoken hnew
    have hle := hissued token htoken
    rw [List.mem_singleton.mp hnew] at hle
    exact Nat.not_succ_le_self current hle

/-- An answered query takes its token along. -/
lemma linkTokens_erase (queries : List Query) (query : Query) :
    (linkTokens (queries.erase query)).Sublist (linkTokens queries) :=
  (List.erase_sublist).filterMap _

/-- The queries whose answer the transport slot waits for. -/
def currentTransport (s : ConnectionCreator) : List Query :=
  s.resolving.filter fun query => match query with
    | .transport token _ _ => token == s.resolveTransportProxyQueryToken
    | _ => false

/-- The queries whose answer the main slot waits for. -/
def currentMain (s : ConnectionCreator) : List Query :=
  s.resolving.filter fun query => match query with
    | .main token _ _ => token == s.resolveProxyQueryToken
    | _ => false

/-- Of queries with distinct link tokens at most one has a given token. -/
lemma length_filter_linkToken {queries : List Query} (hdistinct : (linkTokens queries).Nodup)
    (token : ℕ) {p : Query → Bool} (hp : ∀ query, p query = true → query.linkToken = some token) :
    (queries.filter p).length ≤ 1 := by
  have hcount := List.nodup_iff_count_le_one.mp hdistinct token
  rw [linkTokens, List.count_filterMap] at hcount
  rw [← List.countP_eq_length_filter]
  refine (List.countP_mono_left ?_).trans hcount
  intro query _ hquery
  simpa using hp query hquery

/-! ## The invariant -/

lemma tokensInOrder_background : Background TokensInOrder NotSlot where
  subscriptActive := by
    intro s _ hs
    rw [subscript_eq]
    exact hs
  subscriptTransport := by
    intro s _ hs
    rw [subscript_eq]
    exact hs
  nextToken := by
    rintro s ⟨htransport, hmain, hissued, hdistinct⟩
    exact ⟨htransport, hmain, fun token h => Nat.le_succ_of_le (hissued token h), hdistinct⟩
  resolveTransport := by
    rintro s - - hpast - ⟨-, hmain, hissued, hdistinct⟩
    rw [resolveTransport_eq]
    exact ⟨fun _ => hpast, hmain, linkTokens_fresh rfl hissued hdistinct⟩
  resolveMain := by
    rintro s - hpast - ⟨htransport, -, hissued, hdistinct⟩
    rw [resolveMain_eq]
    exact ⟨htransport, fun _ => hpast, linkTokens_fresh rfl hissued hdistinct⟩
  setTimeout := fun _ _ hs => hs
  forgetMain := by
    rintro s ⟨htransport, -, hlinks⟩
    exact ⟨htransport, fun h => absurd rfl h, hlinks⟩
  setActiveProxyId := fun _ _ hs => hs
  transportQueryToken := by
    rintro s ⟨htransport, -⟩ htoken hfuture
    exact absurd (htransport htoken) (Nat.not_le_of_lt hfuture)
  proxyQueryToken := by
    rintro s ⟨-, hmain, -⟩ htoken hfuture
    exact absurd (hmain htoken) (Nat.not_le_of_lt hfuture)
  otherCheck := fun _ htransport hmain => ⟨htransport, hmain⟩
  pings := fun _ _ _ _ hs => hs
  ask := by
    rintro s request proxy number ⟨htransport, hmain, hlinks⟩
    refine ⟨htransport, hmain, ?_⟩
    rw [linkTokens_append]
    simpa [Query.linkToken] using hlinks
  number := fun _ _ hs => hs
  network := fun _ _ _ hs => hs
  main := by
    rintro s timestamp address ⟨htransport, -, hlinks⟩
    exact ⟨htransport, fun h => absurd rfl h, hlinks⟩
  tick := by
    rintro s duration ⟨htransport, hmain, hlinks⟩
    exact ⟨fun h => Nat.le_add_right_of_le (htransport h), fun h => Nat.le_add_right_of_le (hmain h),
      hlinks⟩
  alarm := fun _ hs => hs
  close := fun _ hs => hs
  receive := by
    rintro s query result ⟨htransport, hmain, hissued, hdistinct⟩
    have hsub := linkTokens_erase s.resolving query
    cases result <;>
      exact ⟨htransport, hmain, fun token h => hissued token (hsub.subset h), hdistinct.sublist hsub⟩
  transportError := by
    rintro s ⟨-, hmain, hlinks⟩
    exact ⟨fun h => absurd rfl h, hmain, hlinks⟩
  transportAddress := by
    rintro s server port address - ⟨-, hmain, hissued, hdistinct⟩
    have hsub := linkTokens_erase s.resolving
      (.transport s.resolveTransportProxyQueryToken server port)
    exact ⟨fun h => absurd rfl h, hmain, fun token h => hissued token (hsub.subset h),
      hdistinct.sublist hsub⟩

/-- `update_transport_proxy_id` resets the timestamp of its slot to the present, and keeps the token. -/
lemma TokensInOrder.updateTransportProxyId {s : ConnectionCreator} (hs : TokensInOrder s) (id : ℤ)
    (comment : String) : TokensInOrder (s.updateTransportProxyId id comment) := by
  rcases updateTransportProxyId_cases s id comment with ⟨h, -⟩ | ⟨-, -, -, -, h⟩
  · rw [h]
    exact hs
  · rw [h]
    exact ⟨fun _ => le_rfl, hs.2⟩

lemma TokensInOrder.storeProxy {s : ConnectionCreator} (hs : TokensInOrder s) (oldProxyId : ℤ)
    (proxy : Proxy) (enable : Bool) (comment : String) :
    Yields (s.storeProxy oldProxyId proxy enable comment) (fun result => TokensInOrder result.2)
      NotSlot := by
  refine storeProxy_yields tokensInOrder_background.otherCheck ?_
  intro id left t hplaced
  have ht : TokensInOrder t := by
    rw [hplaced.frame]
    exact hs
  refine (tokensInOrder_background.enableIf (ht.updateTransportProxyId id left) enable id).mono ?_
  intro u hu _ _
  exact hu

/-- **Every step** keeps the tokens in order, and passes the two checks. -/
theorem TokensInOrder.step {s : ConnectionCreator} (hs : TokensInOrder s) (e : Event) :
    Yields (s.step e) TokensInOrder NotSlot := by
  have hbackground := tokensInOrder_background
  refine hbackground.step hs e ?_ ?_
  · rintro oldProxyId input enable comment -
    refine addProxy_yields hbackground.otherCheck (fun _ => hs) ?_ ?_
      (hbackground.disableIfActive hs oldProxyId) ?_
    · intro proxy stored t _ _ _ hframe _ _
      have ht : TokensInOrder t := by
        rw [hframe]
        exact hs
      refine (hbackground.enableIf ht enable oldProxyId).mono ?_
      intro u hu _ _
      exact hu
    · intro proxy _ _
      exact hs.storeProxy oldProxyId proxy enable comment
    · intro proxy stored t _ _ _ _ _ ht
      exact storeProxy (s := { t with proxies := t.proxies.erase oldProxyId }) ht oldProxyId proxy _
        comment
  · rintro proxyId -
    refine removeProxy_yields hbackground.otherCheck hs
      (fun _ => hbackground.disableIfActive hs proxyId) ?_
    intro t ht
    simp only [forgetTransport]
    split_ifs <;> exact ht

/-- The tokens are in order when the start is over. -/
lemma startUp_tokensInOrder (now : Time) (db : ProxyDatabase) :
    Yields (startUp now db) TokensInOrder NotSlot := by
  refine (startUp_yields tokensInOrder_background.otherCheck now db).mono ?_
  rintro _ ⟨t, ⟨proxies, maxProxyId, activeProxyId, -, rfl⟩, rfl⟩
  have hloaded : TokensInOrder (loaded now proxies maxProxyId activeProxyId) :=
    ⟨fun h => absurd rfl h, fun h => absurd rfl h, nofun, List.nodup_nil⟩
  exact initTransport_keeps hloaded fun t id entry _ _ ht => ht.updateTransportProxyId id entry.2

/-- **The checks of `loop` hold** in every run, from every database and in every order of requests,
network changes, alarms and answers: no run fails with one of them, and in every state a run reaches at
most one query of each slot is current. -/
theorem loop_checks_hold (now : Time) (db : ProxyDatabase) (es : List Event) :
    Yields ((startUp now db).bind fun s => run step s es)
      (fun t => t.currentTransport.length ≤ 1 ∧ t.currentMain.length ≤ 1)
      (fun k => k ≠ .transportQueryToken ∧ k ≠ .proxyQueryToken) := by
  refine (startUp_tokensInOrder now db).bind ?_
  intro s _ hs
  refine (run_yields (fun s e hs _ => hs.step e) hs (meets_true s es)).mono ?_
  rintro t ⟨-, -, -, hdistinct⟩
  constructor
  · refine length_filter_linkToken hdistinct t.resolveTransportProxyQueryToken ?_
    intro query hquery
    cases query <;> simp_all [Query.linkToken]
  · refine length_filter_linkToken hdistinct t.resolveProxyQueryToken ?_
    intro query hquery
    cases query <;> simp_all [Query.linkToken]

end ConnectionCreator

end RioGram
