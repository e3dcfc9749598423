import RioGram.Core.Reachable
import RioGram.Web.Bridge

/-!
# Restarts of the client of the web

The application has one `TdlibClient`.  `ensureClient` lets the bridge create a client of tdweb and waits for its first
authorization update; `resetForStorageClear` closes the client and waits 300 ms.  Updates and replies of the clients
that were closed come in between.

* `taken_of_meets` — the runs in which all that is taken comes from the client that is there.
-/

namespace RioGram.Web

open Reaching

structure TdlibClient where
  isRunning : Bool := false
  clientCreated : Bool := false
  initialAuthorizationUpdate : Option WebUpdate := none
  initialAuthorizationState : Option String := none
  updates : List WebUpdate := []
deriving DecidableEq

def TdlibClient.handleUpdate (c : TdlibClient) (update : WebUpdate) : TdlibClient :=
  if !c.isRunning then c else { c with updates := c.updates ++ [update] }

/-- `ensureClient` and where it goes on; the wait of the bridge that is over; what the clients of tdweb do; and what
closes them, where `resetForStorageClear` waits and goes on. -/
inductive RestartEvent where
  | ensureClient
  | resume (wait : ℕ)
  | readyTimeout
  | started (client : ℕ)
  | update (update : WebUpdate)
  | reply (update : WebUpdate)
  | channelCloses (client : ℕ)
  | close
  | clearStorage
  | resetForStorageClear
  | resetEnds
  | takeInitialAuthorizationUpdate
deriving DecidableEq

/-- The bridge and the client, and how many resets wait. -/
structure RestartRun where
  bridge : TdlibBridge := {}
  client : TdlibClient := {}
  resets : ℕ := 0
deriving DecidableEq

namespace RestartRun

variable (r : RestartRun)

/-- The bridge has handed updates to the callback. -/
def dispatched (after : TdlibBridge × List WebUpdate) : RestartRun :=
  { r with bridge := after.1, client := after.2.foldl TdlibClient.handleUpdate r.client }

def ensureClient : RestartRun :=
  if r.client.clientCreated then r
  else
    { r with
      client := { r.client with isRunning := true }
      bridge := r.bridge.waitForAuthorizationUpdate.create }

/-- `ensureClient` goes on with what it has waited for. -/
def resume (wait : ℕ) : RestartRun :=
  match r.bridge.waits[wait]? with
  | some (.resolved update) =>
      { r with
        client := { r.client with
          initialAuthorizationUpdate := some update
          initialAuthorizationState := update.authorizationState
          clientCreated := true }
        bridge := { r.bridge with waits := r.bridge.waits.set wait .done } }
  | some .rejected =>
      { r with
        client := { r.client with isRunning := false }
        bridge := { r.bridge with waits := r.bridge.waits.set wait .done } }
  | _ => r

def cleared (c : TdlibClient) : TdlibClient :=
  { c with clientCreated := false, initialAuthorizationUpdate := none, initialAuthorizationState := none }

def resetForStorageClear : RestartRun :=
  let r := { r with client := { r.client with isRunning := false } }
  if r.client.clientCreated then { r.dispatched r.bridge.close with resets := r.resets + 1 }
  else { r with client := cleared r.client }

def resetEnds : RestartRun :=
  if r.resets = 0 then r else { r with resets := r.resets - 1, client := cleared r.client }

@[grind =]
def step (r : RestartRun) : RestartEvent → RestartRun
  | .ensureClient => r.ensureClient
  | .resume wait => r.resume wait
  | .readyTimeout => { r with bridge := r.bridge.readyTimeout }
  | .started client => { r with bridge := r.bridge.started client }
  | .update update => r.dispatched (r.bridge.onUpdate update)
  | .reply update => r.dispatched (r.bridge.onReply update)
  | .channelCloses client => r.dispatched (r.bridge.closeClient client)
  | .close => r.dispatched r.bridge.close
  | .clearStorage => r.dispatched r.bridge.clearStorage
  | .resetForStorageClear => r.resetForStorageClear
  | .resetEnds => r.resetEnds
  | .takeInitialAuthorizationUpdate => { r with client := { r.client with initialAuthorizationUpdate := none } }

/-- What `ensureClient` goes on with, and what comes to the updates once there is a client, is of the client that is
there. -/
structure Keeps (e : RestartEvent) : Prop where
  initial : ∀ wait update, e = .resume wait → r.bridge.waits[wait]? = some (.resolved update) →
    r.bridge.tdClient = some update.client
  updates : r.client.clientCreated = true →
    ∀ update ∈ (r.step e).client.updates.drop r.client.updates.length, r.bridge.tdClient = some update.client

/-- What a client has sent is taken only where it is the one that is there. -/
structure FromCurrent (update : WebUpdate) : Prop where
  stream : r.client.isRunning = true → r.client.clientCreated = true → r.bridge.tdClient = some update.client
  wait : update.isAuthorizationUpdate = true → r.bridge.readyResolve ≠ none → r.bridge.tdClient = some update.client

/-- No wait is resolved with which `ensureClient` has not gone on yet. -/
def NoneResolved : Prop := ∀ wait ∈ r.bridge.waits, wait.isResolved = false

/-- A client is created where no authorization update is left from before; a client that is not there any more sends
nothing while the application runs, and no authorization update while it waits for one; and no client is created or
closed between a wait that is resolved and where `ensureClient` goes on. -/
def Orderly : RestartEvent → Prop
  | .ensureClient => r.client.clientCreated = false → r.bridge.lastAuthorizationUpdate = none ∧ r.NoneResolved
  | .update update => r.bridge.isStarted update.client = true → r.FromCurrent update
  | .reply update => update.client < r.bridge.clients.length → r.FromCurrent update
  | .channelCloses client => r.bridge.clients[client]? = some .start → r.FromCurrent (TdlibBridge.closedUpdate client)
  | .close => r.NoneResolved
  | .clearStorage => r.NoneResolved ∧ (r.bridge.readyResolve ≠ none →
      ∀ client ∈ r.bridge.tdClient, r.bridge.clients[client]? ≠ some .start)
  | .resetForStorageClear => r.client.clientCreated = true → r.NoneResolved
  | _ => True

instance (update : WebUpdate) : Decidable (r.FromCurrent update) :=
  decidable_of_iff ((r.client.isRunning = true → r.client.clientCreated = true →
      r.bridge.tdClient = some update.client) ∧
    (update.isAuthorizationUpdate = true → r.bridge.readyResolve ≠ none → r.bridge.tdClient = some update.client))
    ⟨fun h => ⟨h.1, h.2⟩, fun h => ⟨h.stream, h.wait⟩⟩

instance : Decidable r.NoneResolved := inferInstanceAs (Decidable (∀ wait ∈ r.bridge.waits, wait.isResolved = false))

instance (e : RestartEvent) : Decidable (r.Orderly e) :=
  match e with
  | .ensureClient => inferInstanceAs (Decidable (_ → _ ∧ _))
  | .update _ => inferInstanceAs (Decidable (_ → _))
  | .reply _ => inferInstanceAs (Decidable (_ → _))
  | .channelCloses _ => inferInstanceAs (Decidable (_ → _))
  | .close => inferInstanceAs (Decidable r.NoneResolved)
  | .clearStorage => inferInstanceAs (Decidable (_ ∧ (_ → ∀ client ∈ r.bridge.tdClient, _)))
  | .resetForStorageClear => inferInstanceAs (Decidable (_ → _))
  | .resume _ => inferInstanceAs (Decidable True)
  | .readyTimeout => inferInstanceAs (Decidable True)
  | .started _ => inferInstanceAs (Decidable True)
  | .resetEnds => inferInstanceAs (Decidable True)
  | .takeInitialAuthorizationUpdate => inferInstanceAs (Decidable True)

/-! ### What a run keeps -/

/-- A wait that is resolved has an update of the client that is there. -/
def Current (b : TdlibBridge) : Prop := ∀ update, .resolved update ∈ b.waits → b.tdClient = some update.client

/-- What the bridge hands to the callback in a step, where the application still runs. -/
def handed : RestartEvent → List WebUpdate
  | .update update => (r.bridge.onUpdate update).2
  | .reply update => (r.bridge.onReply update).2
  | .channelCloses client => (r.bridge.closeClient client).2
  | .close => r.bridge.close.2
  | .clearStorage => r.bridge.clearStorage.2
  | _ => []

lemma foldl_handleUpdate (c : TdlibClient) (updates : List WebUpdate) :
    (updates.foldl TdlibClient.handleUpdate c).updates = c.updates ++ if c.isRunning then updates else [] := by
  induction updates generalizing c with
  | nil => simp
  | cons update updates ih =>
      rw [List.foldl_cons, ih, TdlibClient.handleUpdate]
      by_cases hrunning : c.isRunning = true
      · simp [hrunning]
      · simp [hrunning]

variable {r}

lemma updates_step (e : RestartEvent) :
    (r.step e).client.updates = r.client.updates ++ if r.client.isRunning then r.handed e else [] := by
  have hnone : r.client.updates = r.client.updates ++ if r.client.isRunning then [] else [] := by
    rw [ite_self, List.append_nil]
  cases e with
  | ensureClient =>
      refine Eq.trans ?_ hnone
      rw [step, ensureClient]
      split_ifs <;> rfl
  | resume wait =>
      refine Eq.trans ?_ hnone
      rw [step, resume]
      split <;> rfl
  | update update => exact foldl_handleUpdate _ _
  | reply update => exact foldl_handleUpdate _ _
  | channelCloses client => exact foldl_handleUpdate _ _
  | close => exact foldl_handleUpdate _ _
  | clearStorage => exact foldl_handleUpdate _ _
  | resetForStorageClear =>
      refine Eq.trans ?_ hnone
      simp only [step, resetForStorageClear]
      split_ifs
      · exact (foldl_handleUpdate _ _).trans (List.append_nil _)
      · rfl
  | resetEnds =>
      refine Eq.trans ?_ hnone
      rw [step, resetEnds]
      split_ifs <;> rfl
  | _ => exact hnone

lemma mem_handed {e : RestartEvent} (hmove : r.Orderly e) (hrunning : r.client.isRunning = true)
    (hcreated : r.client.clientCreated = true) : ∀ update ∈ r.handed e, r.bridge.tdClient = some update.client := by
  intro u hu
  cases e with
  | update update =>
      rcases TdlibBridge.mem_onUpdate hu with ⟨rfl, hstarted⟩
      exact (hmove hstarted).stream hrunning hcreated
  | reply update =>
      rcases TdlibBridge.mem_onReply hu with ⟨rfl, hlt⟩
      exact (hmove hlt).stream hrunning hcreated
  | channelCloses client =>
      rcases TdlibBridge.mem_closeClient hu with ⟨rfl, hstart⟩
      exact (hmove hstart).stream hrunning hcreated
  | close =>
      rcases TdlibBridge.exists_revokeUrls { r.bridge with
        readyResolve := none, lastAuthorizationUpdate := none } with ⟨urls, heq, -⟩
      have hcurrent := TdlibBridge.mem_closeCurrent hu
      rw [heq] at hcurrent
      exact hcurrent
  | clearStorage => exact TdlibBridge.mem_closeCurrent hu
  | _ => exact absurd hu List.not_mem_nil

lemma current_of_noneResolved {b : TdlibBridge} (h : ∀ wait ∈ b.waits, wait.isResolved = false) : Current b :=
  fun _ hmem => nomatch h _ hmem

lemma current_set {b : TdlibBridge} (h : Current b) (n : ℕ) {wait : ReadyWait} (hwait : wait.isResolved = false) :
    ∀ update, .resolved update ∈ b.waits.set n wait → b.tdClient = some update.client := by
  intro update hmem
  rcases List.mem_or_eq_of_mem_set hmem with hold | rfl
  · exact h update hold
  · exact nomatch hwait

lemma current_close (h : r.NoneResolved) : Current r.bridge.close.1 := by
  intro update hmem
  rcases TdlibBridge.exists_revokeUrls { r.bridge with
    readyResolve := none, lastAuthorizationUpdate := none } with ⟨urls, heq, -⟩
  rcases TdlibBridge.resolved_mem_closeCurrent hmem with hold | ⟨-, hready⟩
  · rw [heq] at hold
    exact nomatch h _ hold
  · rw [heq] at hready
    exact absurd rfl hready

lemma current_clearStorage (h : r.Orderly .clearStorage) : Current r.bridge.clearStorage.1 := by
  rcases h with ⟨hnone, hstart⟩
  intro update hmem
  rcases TdlibBridge.exists_revokeUrls { r.bridge.closeCurrent.1 with
    tdClient := none, lastAuthorizationUpdate := none } with ⟨urls, heq, -⟩
  change _ ∈ (TdlibBridge.revokeUrls _).waits at hmem
  rw [heq] at hmem
  rcases TdlibBridge.resolved_mem_closeCurrent hmem with hold | ⟨⟨client, hclient, hstart'⟩, hready⟩
  · exact nomatch hnone _ hold
  · exact absurd hstart' (hstart hready client hclient)

/-- A step that is orderly resolves a wait only with an update of the client that is there. -/
lemma current_step (h : Current r.bridge) {e : RestartEvent} (hmove : r.Orderly e) : Current (r.step e).bridge := by
  cases e with
  | ensureClient =>
      rw [step, ensureClient]
      split_ifs with hcreated
      · exact h
      · rcases hmove (Bool.not_eq_true _ |>.mp hcreated) with ⟨hlast, hnone⟩
        refine current_of_noneResolved ?_
        change ∀ wait ∈ r.bridge.waitForAuthorizationUpdate.waits, _
        rw [TdlibBridge.waitForAuthorizationUpdate, hlast]
        exact List.forall_mem_append.mpr ⟨hnone, List.forall_mem_singleton.mpr rfl⟩
  | resume wait =>
      rw [step, resume]
      split
      · exact current_set h wait rfl
      · exact current_set h wait rfl
      · exact h
  | readyTimeout =>
      rw [step, TdlibBridge.readyTimeout]
      split
      · exact h
      · exact current_set h _ rfl
  | started client =>
      rw [step, TdlibBridge.started]
      split <;> exact h
  | update update =>
      intro u hmem
      change (r.bridge.onUpdate update).1.tdClient = some u.client
      rw [TdlibBridge.onUpdate_tdClient]
      rcases TdlibBridge.resolved_mem_onUpdate hmem with hold | ⟨rfl, hauthorization, hready, hstarted⟩
      · exact h u hold
      · exact (hmove hstarted).wait hauthorization hready
  | reply update =>
      intro u hmem
      change (r.bridge.onReply update).1.tdClient = some u.client
      rw [TdlibBridge.onReply_tdClient]
      rcases TdlibBridge.resolved_mem_onReply hmem with hold | ⟨rfl, hauthorization, hready, hlt⟩
      · exact h u hold
      · exact (hmove hlt).wait hauthorization hready
  | channelCloses client =>
      intro u hmem
      change (r.bridge.closeClient client).1.tdClient = some u.client
      rw [TdlibBridge.closeClient_tdClient]
      rcases TdlibBridge.resolved_mem_closeClient hmem with hold | ⟨rfl, hstart, hready⟩
      · exact h u hold
      · exact (hmove hstart).wait rfl hready
  | close => exact current_close hmove
  | clearStorage => exact current_clearStorage hmove
  | resetForStorageClear =>
      simp only [step, resetForStorageClear]
      split_ifs with hcreated
      · exact current_close (hmove hcreated)
      · exact h
  | resetEnds =>
      rw [step, resetEnds]
      split_ifs <;> exact h
  | takeInitialAuthorizationUpdate => exact h

lemma keeps_of_orderly (h : Current r.bridge) {e : RestartEvent} (hmove : r.Orderly e) : r.Keeps e := by
  refine ⟨?_, fun hcreated update hmem => ?_⟩
  · rintro wait update - hwait
    exact h update (List.mem_of_getElem? hwait)
  · rw [updates_step, List.drop_left] at hmem
    split_ifs at hmem with hrunning
    · exact mem_handed hmove hrunning hcreated update hmem
    · exact absurd hmem List.not_mem_nil

/-- **All that is taken comes from the client that is there**, in each run in which what was closed sends nothing where
it would be taken. -/
theorem taken_of_meets (events : List RestartEvent) (h : Meets step Orderly {} events) : Meets step Keeps {} events :=
  (h.invariant (I := fun r => Current r.bridge) (fun _ hmem => absurd hmem List.not_mem_nil)
    (fun _ _ hcurrent hmove => current_step hcurrent hmove)
    fun _ _ hcurrent hmove => keeps_of_orderly hcurrent hmove).1

def waitsForParameters (client : ℕ) : WebUpdate := ⟨client, some "authorizationStateWaitTdlibParameters"⟩

/-- A reset; the client that was closed sends nothing that is an authorization update. -/
theorem keeps_after_reset :
    let events : List RestartEvent := [.ensureClient, .started 0, .update (waitsForParameters 0), .resume 0,
      .update ⟨0, none⟩, .resetForStorageClear, .reply ⟨0, none⟩, .resetEnds, .ensureClient, .started 1,
      .update ⟨0, none⟩, .update (waitsForParameters 1), .resume 1, .reply ⟨1, none⟩]
    (events.foldl step {}).client.initialAuthorizationUpdate = some (waitsForParameters 1) ∧
      Meets step Keeps {} events := by
  exact ⟨by decide +kernel, taken_of_meets _ (by decide +kernel)⟩

/-- The storage is cleared, and the client that is being closed says so: its update is the first one of the next client,
and what it says then is one of the updates of the application. -/
theorem closing_taken :
    let closing : WebUpdate := ⟨0, some "authorizationStateClosing"⟩
    let events : List RestartEvent := [.ensureClient, .started 0, .update (waitsForParameters 0), .resume 0,
      .clearStorage, .resetForStorageClear, .update closing, .resetEnds, .ensureClient, .resume 1]
    let after := events ++ [.update (TdlibBridge.closedUpdate 0)]
    (events.foldl step {}).client.initialAuthorizationUpdate = some closing ∧
      (events.foldl step {}).bridge.tdClient = some 1 ∧
      (after.foldl step {}).client.updates = [waitsForParameters 0, TdlibBridge.closedUpdate 0] ∧
      ¬Meets step Keeps {} events := by
  intro closing events after
  refine ⟨by decide +kernel, by decide +kernel, by decide +kernel, ?_⟩
  rintro ⟨-, -, -, -, -, -, -, -, -, hresume, -⟩
  have hcurrent := hresume.initial 1 closing rfl (by decide +kernel)
  exact absurd hcurrent (by decide +kernel)

end RestartRun

end RioGram.Web
