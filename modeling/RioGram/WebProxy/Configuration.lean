import RioGram.Core.Processes
import RioGram.Core.Reachable
import RioGram.WebProxy.Manager

/-!
# Copies of the configuration of the WSS proxy

The manager has the configuration in memory, the preferences have stored it, and the hook in the page was handed it.
The calls that change it wait for the preferences, and take turns in any order.  A call that finds another one applying
returns and does nothing.

What is encoded is taken to be what is decoded; `fallback` is what is loaded where nothing is stored.

* `ConfigRun.Agrees` — what holds when all calls are done: the copies are equal, and have what was set last.
* `agrees_of_meets` — the runs in which no call is left out, and after which it holds.
-/

namespace RioGram.WebProxy

open Js Interleaving Reaching

inductive ConfigCall where
  | setup
  | applyConfig (config : WssProxyConfig) (persist : Bool)
  | setEnabled (enabled : Bool)
  | setProxyUrl (url : Str)
  | setAutoReconnect (enabled : Bool)
deriving DecidableEq

/-- What the calls have set each field to, if they have. -/
structure LastSet where
  enabled : Option Bool := none
  url : Option Str := none
  autoReconnect : Option Bool := none
  maxReconnectAttempts : Option ℤ := none
  reconnectDelayMs : Option ℤ := none
deriving DecidableEq

/-- The manager, the stored configuration and the one of the hook; what was set last is not of the source. -/
structure Copies where
  manager : WebProxyManager := {}
  stored : Option WssProxyConfig
  hook : Option WssProxyConfig := none
  lastSet : LastSet := {}

/-- Where a call is: before it begins; in `setup`, where it waits for the preferences and for what it has loaded; in
`applyConfig`, where it waits for the preferences, for the write and for `save` to return; and at its end, if it was
let in or not. -/
inductive ConfigStage where
  | called
  | loading
  | loaded (config : WssProxyConfig)
  | opening (config : WssProxyConfig)
  | writing (config : WssProxyConfig)
  | saved (config : WssProxyConfig)
  | done
  | leftOut
deriving DecidableEq

structure ConfigProcess where
  call : ConfigCall
  stage : ConfigStage := .called
deriving DecidableEq

/-- The configuration that a call that is applying has handed in. -/
def ConfigStage.applying : ConfigStage → Option WssProxyConfig
  | .opening config => some config
  | .writing config => some config
  | .saved config => some config
  | _ => none

/-- The configuration that a call asks for, given the one in memory. -/
def ConfigCall.asked (current : WssProxyConfig) : ConfigCall → WssProxyConfig
  | .setup => current
  | .applyConfig config _ => config
  | .setEnabled enabled => { current with enabled := enabled }
  | .setProxyUrl url => { current with url := trimDart url }
  | .setAutoReconnect enabled => { current with autoReconnect := enabled }

def ConfigCall.persist : ConfigCall → Bool
  | .applyConfig _ persist => persist
  | _ => true

namespace LastSet

def after (l : LastSet) : ConfigCall → LastSet
  | .setup => l
  | .applyConfig config _ =>
      { enabled := some config.enabled
        url := some config.url
        autoReconnect := some config.autoReconnect
        maxReconnectAttempts := some config.maxReconnectAttempts
        reconnectDelayMs := some config.reconnectDelayMs }
  | .setEnabled enabled => { l with enabled := some enabled }
  | .setProxyUrl url => { l with url := some (trimDart url) }
  | .setAutoReconnect enabled => { l with autoReconnect := some enabled }

/-- A configuration has what was set. -/
structure IsIn (l : LastSet) (config : WssProxyConfig) : Prop where
  enabled : ∀ value, l.enabled = some value → config.enabled = value
  url : ∀ value, l.url = some value → config.url = value
  autoReconnect : ∀ value, l.autoReconnect = some value → config.autoReconnect = value
  maxReconnectAttempts : ∀ value, l.maxReconnectAttempts = some value → config.maxReconnectAttempts = value
  reconnectDelayMs : ∀ value, l.reconnectDelayMs = some value → config.reconnectDelayMs = value

/-- A call that starts from what was set asks for that and for what it sets. -/
lemma isIn_after {l : LastSet} {config : WssProxyConfig} (h : l.IsIn config) (call : ConfigCall) :
    (l.after call).IsIn (call.asked config) := by
  cases call with
  | setup => exact h
  | applyConfig c persist => constructor <;> exact fun value heq => Option.some_inj.mp heq
  | setEnabled enabled => exact { h with enabled := fun value heq => Option.some_inj.mp heq }
  | setProxyUrl url => exact { h with url := fun value heq => Option.some_inj.mp heq }
  | setAutoReconnect enabled => exact { h with autoReconnect := fun value heq => Option.some_inj.mp heq }

end LastSet

namespace Copies

variable (fallback : WssProxyConfig) (s : Copies)

/-- What the preferences load. -/
def persisted : WssProxyConfig := s.stored.getD fallback

/-- `applyConfig` is called: it goes on if no other call is applying, and waits if it stores the configuration. -/
def begins (process : ConfigProcess) (status : WssTransportStatus) : Copies × ConfigProcess :=
  let config := process.call.asked s.manager.config
  let s := { s with lastSet := s.lastSet.after process.call }
  if s.manager.isApplying then (s, { process with stage := .leftOut })
  else if process.call.persist then
    ({ s with manager := s.manager.applyBegins config }, { process with stage := .opening config })
  else
    ({ s with manager := (s.manager.applyBegins config).applyEnds status, hook := some config },
      { process with stage := .done })

/-- `setup` goes on with what it has loaded, which is in memory also where another call is applying. -/
def setsUp (process : ConfigProcess) (config : WssProxyConfig) (status : WssTransportStatus) :
    Copies × ConfigProcess :=
  if s.manager.isApplying then
    ({ s with manager := { s.manager with config := config }.startHealthMonitor }, { process with stage := .leftOut })
  else
    ({ s with manager := (s.manager.setupApplies config status).startHealthMonitor, hook := some config },
      { process with stage := .done })

end Copies

/-- A call goes on to where it waits next; the status is what it reads of the transport. -/
def ConfigProcess.resume (fallback : WssProxyConfig) (s : Copies) (process : ConfigProcess)
    (status : WssTransportStatus) : Copies × ConfigProcess :=
  match process.stage with
  | .called => if process.call = .setup then (s, { process with stage := .loading }) else s.begins process status
  | .loading => (s, { process with stage := .loaded (s.persisted fallback) })
  | .loaded config => s.setsUp process config status
  | .opening config => ({ s with stored := some config }, { process with stage := .writing config })
  | .writing config => (s, { process with stage := .saved config })
  | .saved config =>
      ({ s with manager := s.manager.applyEnds status, hook := some config }, { process with stage := .done })
  | .done => (s, process)
  | .leftOut => (s, process)

/-- A call begins where no other one is applying, and applies what is stored if it does not store it; `setup` goes on
where no call is applying and what it has loaded is stored still. -/
def ConfigProcess.Orderly (fallback : WssProxyConfig) (s : Copies) : ConfigProcess → Prop
  | ⟨call, .called⟩ => call ≠ .setup → s.manager.isApplying = false ∧
      (call.persist = false → call.asked s.manager.config = s.persisted fallback)
  | ⟨_, .loaded config⟩ => s.manager.isApplying = false ∧ config = s.persisted fallback
  | _ => True

instance (fallback : WssProxyConfig) (s : Copies) : DecidablePred (ConfigProcess.Orderly fallback s)
  | ⟨_, .called⟩ => inferInstanceAs (Decidable (_ → _))
  | ⟨_, .loaded _⟩ => inferInstanceAs (Decidable (_ ∧ _))
  | ⟨_, .loading⟩ => inferInstanceAs (Decidable True)
  | ⟨_, .opening _⟩ => inferInstanceAs (Decidable True)
  | ⟨_, .writing _⟩ => inferInstanceAs (Decidable True)
  | ⟨_, .saved _⟩ => inferInstanceAs (Decidable True)
  | ⟨_, .done⟩ => inferInstanceAs (Decidable True)
  | ⟨_, .leftOut⟩ => inferInstanceAs (Decidable True)

abbrev ConfigRun := Pool Copies ConfigProcess

abbrev ConfigMove := Move ConfigCall WssTransportStatus

namespace ConfigRun

variable (fallback : WssProxyConfig) (r : ConfigRun)

def start (stored : Option WssProxyConfig) : ConfigRun := { shared := { stored } }

def step (r : ConfigRun) (move : ConfigMove) : ConfigRun :=
  Pool.step (fun _ call => ⟨call, .called⟩) (ConfigProcess.resume fallback) r move

/-- The calls have come to their end. -/
def Complete : Prop := ∀ process ∈ r.processes, process.stage = .done ∨ process.stage = .leftOut

instance : Decidable r.Complete :=
  inferInstanceAs (Decidable (∀ process ∈ r.processes, process.stage = .done ∨ process.stage = .leftOut))

/-- The copies are equal, and have what was set last. -/
structure Agrees : Prop where
  stored : r.shared.persisted fallback = r.shared.manager.config
  hook : r.shared.hook = some r.shared.manager.config
  lastSet : r.shared.lastSet.IsIn r.shared.manager.config

/-- No call is left out, and when all calls are done the copies agree. -/
structure Keeps : Prop where
  notLeftOut : ∀ process ∈ r.processes, process.stage ≠ .leftOut
  agrees : r.Complete → r.processes ≠ [] → r.Agrees fallback

def Orderly : ConfigMove → Prop
  | .start _ => True
  | .advance i _ => ∀ process ∈ r.processes[i]?, process.Orderly fallback r.shared

instance (move : ConfigMove) : Decidable (r.Orderly fallback move) :=
  match move with
  | .start _ => inferInstanceAs (Decidable True)
  | .advance _ _ => inferInstanceAs (Decidable (∀ process ∈ _, _))

/-! ### What a run keeps -/

/-- Where no call is applying: either none has applied anything yet, or the copies agree. -/
def Settled (s : Copies) : Prop :=
  (s.hook = none ∧ s.lastSet = {}) ∨
    (s.hook = some s.manager.config ∧ s.persisted fallback = s.manager.config ∧ s.lastSet.IsIn s.manager.config)

/-- The process at the place is applying the configuration that is in memory, and has stored it unless it still waits
for the preferences. -/
structure Applies (s : Copies) (process : ConfigProcess) : Prop where
  config : process.stage.applying = some s.manager.config
  stored : process.stage ≠ .opening s.manager.config → s.stored = some s.manager.config
  lastSet : s.lastSet.IsIn s.manager.config

structure Inv (r : ConfigRun) (place : Option ℕ) : Prop where
  onlyAt : OnlyAt (fun process => process.stage.applying ≠ none) place r.processes
  isApplying : r.shared.manager.isApplying = place.isSome
  settled : place = none → Settled fallback r.shared
  applies : ∀ i, place = some i → ∃ process, r.processes[i]? = some process ∧ Applies r.shared process
  notLeftOut : ∀ process ∈ r.processes, process.stage ≠ .leftOut
  done : ∀ process ∈ r.processes, process.stage = .done → r.shared.hook ≠ none

variable {fallback r} {place : Option ℕ}

lemma Inv.start (h : Inv fallback r place) (call : ConfigCall) :
    Inv fallback (r.step fallback (.start call)) place where
  onlyAt := h.onlyAt.append fun happlying => happlying rfl
  isApplying := h.isApplying
  settled := h.settled
  applies i hi := by
    rcases h.applies i hi with ⟨process, hprocess, happlies⟩
    rcases List.getElem?_eq_some_iff.mp hprocess with ⟨hlt, -⟩
    exact ⟨process, (List.getElem?_append_left hlt).trans hprocess, happlies⟩
  notLeftOut := List.forall_mem_append.mpr ⟨h.notLeftOut, List.forall_mem_singleton.mpr fun heq => nomatch heq⟩
  done := List.forall_mem_append.mpr ⟨h.done, List.forall_mem_singleton.mpr fun heq => nomatch heq⟩

/-- A turn of a process that applies nothing, and only comes to wait elsewhere. -/
lemma Inv.wait (h : Inv fallback r place) {i : ℕ} {process process' : ConfigProcess}
    (hi : r.processes[i]? = some process) (hold : process.stage.applying = none)
    (hnew : process'.stage.applying = none) (hleft : process'.stage ≠ .leftOut)
    (hdone : process'.stage = .done → r.shared.hook ≠ none) :
    Inv fallback ⟨r.shared, r.processes.set i process'⟩ place where
  onlyAt := h.onlyAt.set i fun happlying => happlying hnew
  isApplying := h.isApplying
  settled := h.settled
  applies j hj := by
    rcases h.applies j hj with ⟨other, hother, happlies⟩
    have hne : i ≠ j := by
      rintro rfl
      rw [Option.some_inj.mp (hi.symm.trans hother), happlies.config] at hold
      exact nomatch hold
    exact ⟨other, (List.getElem?_set_ne hne).trans hother, happlies⟩
  notLeftOut := forall_mem_set h.notLeftOut i hleft
  done := forall_mem_set h.done i hdone

/-- A turn after which the process is applying. -/
lemma Inv.applying (h : Inv fallback r place) {i : ℕ} {process process' : ConfigProcess} {s : Copies}
    (hi : r.processes[i]? = some process)
    (hold : OnlyAt (fun process => process.stage.applying ≠ none) (some i) (r.processes.set i process'))
    (hs : s.manager.isApplying = true) (hhook : s.hook = r.shared.hook) (happlies : Applies s process') :
    Inv fallback ⟨s, r.processes.set i process'⟩ (some i) where
  onlyAt := hold
  isApplying := hs
  settled := nofun
  applies j hj := by
    rcases List.getElem?_eq_some_iff.mp hi with ⟨hlt, -⟩
    rw [← Option.some_inj.mp hj]
    exact ⟨process', List.getElem?_set_self hlt, happlies⟩
  notLeftOut := by
    refine forall_mem_set h.notLeftOut i fun heq => ?_
    have hconfig := happlies.config
    rw [heq] at hconfig
    exact nomatch hconfig
  done := by
    rw [hhook]
    refine forall_mem_set h.done i fun heq => ?_
    have hconfig := happlies.config
    rw [heq] at hconfig
    exact nomatch hconfig

/-- A turn after which the process is done, and no process is applying. -/
lemma Inv.finished (h : Inv fallback r place) {i : ℕ} {call : ConfigCall} {s : Copies} {config : WssProxyConfig}
    (hold : OnlyAt (fun process => process.stage.applying ≠ none) none (r.processes.set i ⟨call, .done⟩))
    (hs : s.manager.isApplying = false) (hconfig : s.manager.config = config) (hhook : s.hook = some config)
    (hstored : s.persisted fallback = config) (hset : s.lastSet.IsIn config) :
    Inv fallback ⟨s, r.processes.set i ⟨call, .done⟩⟩ none where
  onlyAt := hold
  isApplying := hs
  settled _ := by
    subst hconfig
    exact .inr ⟨hhook, hstored, hset⟩
  applies := nofun
  notLeftOut := forall_mem_set h.notLeftOut i nofun
  done := forall_mem_set (fun _ _ _ hnone => nomatch hhook.symm.trans hnone) i fun _ hnone =>
    nomatch hhook.symm.trans hnone

lemma Inv.place_none (h : Inv fallback r place) (hidle : r.shared.manager.isApplying = false) : place = none := by
  rw [h.isApplying] at hidle
  exact Option.not_isSome_iff_eq_none.mp (Bool.not_eq_true _ |>.mpr hidle)

/-- What is set is in what is stored, where no call is applying. -/
lemma Settled.isIn_persisted {s : Copies} (h : Settled fallback s) : s.lastSet.IsIn (s.persisted fallback) := by
  rcases h with ⟨-, hset⟩ | ⟨-, hstored, hset⟩
  · rw [hset]
    exact ⟨nofun, nofun, nofun, nofun, nofun⟩
  · rwa [hstored]

lemma Settled.isIn_config {s : Copies} (h : Settled fallback s) : s.lastSet.IsIn s.manager.config := by
  rcases h with ⟨-, hset⟩ | ⟨-, -, hset⟩
  · rw [hset]
    exact ⟨nofun, nofun, nofun, nofun, nofun⟩
  · exact hset

/-- A call begins where no other one is applying. -/
lemma Inv.begins (h : Inv fallback r none) {i : ℕ} {call : ConfigCall} (status : WssTransportStatus)
    (hi : r.processes[i]? = some ⟨call, .called⟩)
    (hmove : call.persist = false → call.asked r.shared.manager.config = r.shared.persisted fallback) :
    ∃ place, Inv fallback ⟨(r.shared.begins ⟨call, .called⟩ status).1,
      r.processes.set i (r.shared.begins ⟨call, .called⟩ status).2⟩ place := by
  have hset := LastSet.isIn_after (h.settled rfl).isIn_config call
  have hidle : ¬r.shared.manager.isApplying = true := by
    rw [h.isApplying]
    exact Bool.false_ne_true
  by_cases hpersist : call.persist = true
  · have hbegins : r.shared.begins ⟨call, .called⟩ status =
        ({ r.shared with
            lastSet := r.shared.lastSet.after call
            manager := r.shared.manager.applyBegins (call.asked r.shared.manager.config) },
          ⟨call, .opening (call.asked r.shared.manager.config)⟩) := by
      simp only [Copies.begins, if_neg hidle, if_pos hpersist]
    rw [hbegins]
    exact ⟨some i, h.applying hi (h.onlyAt.enter i _) rfl rfl ⟨rfl, fun hne => absurd rfl hne, hset⟩⟩
  · have hbegins : r.shared.begins ⟨call, .called⟩ status =
        ({ r.shared with
            lastSet := r.shared.lastSet.after call
            manager := (r.shared.manager.applyBegins (call.asked r.shared.manager.config)).applyEnds status
            hook := some (call.asked r.shared.manager.config) },
          ⟨call, .done⟩) := by
      simp only [Copies.begins, if_neg hidle, if_neg hpersist]
    have hconfig : ((r.shared.manager.applyBegins (call.asked r.shared.manager.config)).applyEnds status).config =
        call.asked r.shared.manager.config :=
      WebProxyManager.applyEnds_config _ _
    rw [hbegins]
    exact ⟨none, h.finished (h.onlyAt.set i fun happlying => happlying rfl) rfl hconfig rfl
      (hmove (Bool.not_eq_true _ |>.mp hpersist)).symm hset⟩

/-- `setup` goes on where no call is applying, with what is stored. -/
lemma Inv.setsUp (h : Inv fallback r none) {i : ℕ} {call : ConfigCall} {config : WssProxyConfig}
    (hstored : r.shared.persisted fallback = config) (status : WssTransportStatus) :
    Inv fallback ⟨(r.shared.setsUp ⟨call, .loaded config⟩ config status).1,
      r.processes.set i (r.shared.setsUp ⟨call, .loaded config⟩ config status).2⟩ none := by
  have hidle : ¬r.shared.manager.isApplying = true := by
    rw [h.isApplying]
    exact Bool.false_ne_true
  have hsetsUp : r.shared.setsUp ⟨call, .loaded config⟩ config status =
      ({ r.shared with
          manager := (r.shared.manager.setupApplies config status).startHealthMonitor
          hook := some config },
        ⟨call, .done⟩) := by
    simp only [Copies.setsUp, if_neg hidle]
  have hconfig : (r.shared.manager.setupApplies config status).startHealthMonitor.config = config :=
    WebProxyManager.applyEnds_config _ _
  have hset : r.shared.lastSet.IsIn config := hstored ▸ (h.settled rfl).isIn_persisted
  rw [hsetsUp]
  exact h.finished (h.onlyAt.set i fun happlying => happlying rfl) rfl hconfig rfl hstored hset

/-- The turn of a call that is applying. -/
lemma Inv.goesOn (h : Inv fallback r place) {i : ℕ} {process : ConfigProcess} (hi : r.processes[i]? = some process)
    (happlying : process.stage.applying ≠ none) (status : WssTransportStatus) :
    ∃ place, Inv fallback ⟨(process.resume fallback r.shared status).1,
      r.processes.set i (process.resume fallback r.shared status).2⟩ place := by
  rcases process with ⟨call, stage⟩
  have hplace := h.onlyAt i _ hi happlying
  subst hplace
  rcases h.applies i rfl with ⟨other, hother, happlies⟩
  rw [← Option.some_inj.mp (hi.symm.trans hother)] at happlies
  have hbusy : r.shared.manager.isApplying = true := h.isApplying
  cases stage with
  | opening config =>
      cases Option.some_inj.mp happlies.config
      exact ⟨some i, h.applying hi (h.onlyAt.stay _) hbusy rfl ⟨rfl, fun _ => rfl, happlies.lastSet⟩⟩
  | writing config =>
      cases Option.some_inj.mp happlies.config
      exact ⟨some i, h.applying hi (h.onlyAt.stay _) hbusy rfl ⟨rfl, fun _ => happlies.stored nofun, happlies.lastSet⟩⟩
  | saved config =>
      cases Option.some_inj.mp happlies.config
      have hstored : r.shared.persisted fallback = r.shared.manager.config := by
        rw [Copies.persisted, happlies.stored nofun, Option.getD_some]
      exact ⟨none, h.finished (h.onlyAt.leave fun hnot => hnot rfl) rfl (WebProxyManager.applyEnds_config _ _) rfl
        hstored happlies.lastSet⟩
  | _ => exact absurd rfl happlying

lemma Inv.advance (h : Inv fallback r place) {i : ℕ} {status : WssTransportStatus}
    (hmove : r.Orderly fallback (.advance i status)) :
    ∃ place, Inv fallback (r.step fallback (.advance i status)) place := by
  rw [step]
  cases hi : r.processes[i]? with
  | none =>
      rw [Pool.step_advance_of_none hi]
      exact ⟨place, h⟩
  | some process =>
      rw [Pool.step_advance_of_some hi]
      have horderly := hmove process hi
      rcases process with ⟨call, stage⟩
      cases stage with
      | called =>
          by_cases hcall : call = .setup
          · subst hcall
            exact ⟨place, h.wait hi rfl rfl nofun nofun⟩
          · rcases horderly hcall with ⟨hidle, hpersist⟩
            have hplace := h.place_none hidle
            subst hplace
            rw [show ConfigProcess.resume fallback r.shared ⟨call, .called⟩ status =
              r.shared.begins ⟨call, .called⟩ status from if_neg hcall]
            exact h.begins status hi hpersist
      | loading => exact ⟨place, h.wait hi rfl rfl nofun nofun⟩
      | loaded config =>
          rcases horderly with ⟨hidle, hconfig⟩
          have hplace := h.place_none hidle
          subst hplace
          exact ⟨none, h.setsUp hconfig.symm status⟩
      | done => exact ⟨place, h.wait hi rfl rfl nofun fun _ => h.done _ (List.mem_of_getElem? hi) rfl⟩
      | leftOut => exact absurd rfl (h.notLeftOut _ (List.mem_of_getElem? hi))
      | _ => exact h.goesOn hi nofun status

lemma Inv.step (h : Inv fallback r place) {move : ConfigMove} (hmove : r.Orderly fallback move) :
    ∃ place, Inv fallback (r.step fallback move) place := by
  cases move with
  | start call => exact ⟨place, h.start call⟩
  | advance i status => exact h.advance hmove

lemma Inv.keeps (h : Inv fallback r place) : Keeps fallback r := by
  refine ⟨h.notLeftOut, fun hcomplete hsome => ?_⟩
  have hdone : ∀ process ∈ r.processes, process.stage = .done := fun process hprocess =>
    (hcomplete process hprocess).resolve_right (h.notLeftOut process hprocess)
  cases place with
  | some i =>
      rcases h.applies i rfl with ⟨process, hprocess, happlies⟩
      have hconfig := happlies.config
      rw [hdone process (List.mem_of_getElem? hprocess)] at hconfig
      exact nomatch hconfig
  | none =>
      rcases List.exists_mem_of_ne_nil _ hsome with ⟨process, hprocess⟩
      rcases h.settled rfl with ⟨hnone, -⟩ | ⟨hhook, hstored, hset⟩
      · exact absurd hnone (h.done process hprocess (hdone process hprocess))
      · exact ⟨hstored, hhook, hset⟩

lemma inv_start (fallback : WssProxyConfig) (stored : Option WssProxyConfig) : Inv fallback (start stored) none where
  onlyAt i process hi := by
    rw [start, List.getElem?_nil] at hi
    exact nomatch hi
  isApplying := rfl
  settled _ := .inl ⟨rfl, rfl⟩
  applies i hi := nomatch hi
  notLeftOut := List.forall_mem_nil _
  done := List.forall_mem_nil _

/-- **The copies of the configuration agree** when all calls are done and none is left out, in each run whose calls
begin where no other one is applying. -/
theorem agrees_of_meets (fallback : WssProxyConfig) (stored : Option WssProxyConfig) (moves : List ConfigMove)
    (hmoves : Meets (step fallback) (Orderly fallback) (start stored) moves) :
    Keeps fallback (moves.foldl (step fallback) (start stored)) := by
  have hinv := hmoves.invariant (I := fun r => ∃ place, Inv fallback r place) ⟨none, inv_start fallback stored⟩
    (fun r move ⟨place, h⟩ hmove => h.step hmove) fun r move h hmove => hmove
  rcases hinv.2 with ⟨place, h⟩
  exact h.keeps

def idleStatus : WssTransportStatus := { state := .idle }

def env : WssProxyConfig := { enabled := true, url := units "wss://proxy.example" }

/-- After `setup` the user switches the reconnection off, and then sets the address. -/
theorem agrees_one_after_another :
    let moves : List ConfigMove := [.start .setup, .advance 0 idleStatus, .advance 0 idleStatus, .advance 0 idleStatus,
      .start (.setAutoReconnect false), .advance 1 idleStatus, .start (.setProxyUrl (units " wss://other.example ")),
      .advance 1 idleStatus, .advance 1 idleStatus, .advance 1 idleStatus, .advance 2 idleStatus,
      .advance 2 idleStatus, .advance 2 idleStatus, .advance 2 idleStatus]
    (moves.foldl (step env) (start (some env))).shared.hook =
        some { env with autoReconnect := false, url := units "wss://other.example" } ∧
      Keeps env (moves.foldl (step env) (start (some env))) := by
  exact ⟨by decide +kernel, agrees_of_meets env (some env) _ (by decide +kernel)⟩

/-- The user switches the proxy off while its address is being stored: nothing happens, and the proxy stays on. -/
theorem switching_off_lost :
    let moves : List ConfigMove := [.start .setup, .advance 0 idleStatus, .advance 0 idleStatus, .advance 0 idleStatus,
      .start (.setProxyUrl (units "wss://other.example")), .advance 1 idleStatus, .start (.setEnabled false),
      .advance 2 idleStatus, .advance 1 idleStatus, .advance 1 idleStatus, .advance 1 idleStatus]
    Complete (moves.foldl (step env) (start (some env))) ∧
      (moves.foldl (step env) (start (some env))).shared.manager.config.enabled = true ∧
      ¬Keeps env (moves.foldl (step env) (start (some env))) := by
  intro moves
  have hleft : ⟨.setEnabled false, .leftOut⟩ ∈ (moves.foldl (step env) (start (some env))).processes := by
    decide +kernel
  refine ⟨by decide +kernel, by decide +kernel, ?_⟩
  intro h
  exact h.notLeftOut _ hleft rfl

end ConfigRun

end RioGram.WebProxy
