import RioGram.Core.Overlay
import RioGram.Core.Quoted
import RioGram.Core.Reachable
import RioGram.Js.Strings

/-!
# Secret chats

`SecretChatManager` asks TDLib to create and to close secret chats and to set the time after which their messages are
deleted.  Whose answer it gets it knows from what the extra begins with.

`SecretRun` has beside the manager what TDLib knows: the requests that are not answered, and the times that it has
reported or confirmed.

* `SecretRun.Follows` — the times are those of TDLib, and the manager is creating as long as TDLib is.
* `follows_iff` — the steps after which it is so; `forall_follows_iff` — the runs.
-/

namespace RioGram.Secret

open Js PartialMap Quoted Reaching

inductive SecretChatStateKind where
  | pending | ready | closed | unknown
deriving DecidableEq

structure SecretChatSummary where
  id : ℤ
  userId : ℤ
  state : SecretChatStateKind := .unknown
  isOutbound : Bool := false
  keyHash : Str := []
  layer : ℤ := 0
deriving DecidableEq

inductive SecretChatTtlPreset where
  | off | fiveSeconds | tenSeconds | thirtySeconds | oneMinute | oneHour | oneDay | oneWeek
deriving DecidableEq

namespace SecretChatTtlPreset

def seconds : SecretChatTtlPreset → ℤ
  | off => 0
  | fiveSeconds => 5
  | tenSeconds => 10
  | thirtySeconds => 30
  | oneMinute => 60
  | oneHour => 3600
  | oneDay => 86400
  | oneWeek => 604800

/-- The time of the timer, if there is one. -/
def toSelfDestructType (preset : SecretChatTtlPreset) : Option ℤ :=
  if preset = off then none else some preset.seconds

lemma toSelfDestructType_eq (preset : SecretChatTtlPreset) :
    preset.toSelfDestructType = if preset.seconds = 0 then none else some preset.seconds := by
  cases preset <;> rfl

end SecretChatTtlPreset

inductive SecretRequest where
  | createNewSecretChat (userId : ℤ)
  | getSecretChat (secretChatId : ℤ)
  | closeSecretChat (secretChatId : ℤ)
  | setChatMessageAutoDeleteTime (chatId : ℤ) (preset : SecretChatTtlPreset)
deriving DecidableEq

def SecretRequest.extra : SecretRequest → Str
  | createNewSecretChat userId => ascii "secret_create_" ++ intToString userId
  | getSecretChat secretChatId => ascii "secret_get_" ++ intToString secretChatId
  | closeSecretChat secretChatId => ascii "secret_close_" ++ intToString secretChatId
  | setChatMessageAutoDeleteTime chatId _ => ascii "secret_ttl_" ++ intToString chatId

/-- What a request can be answered with. -/
inductive SecretReply where
  | ok
  | error (message : Option Str)
  | secretChat (summary : SecretChatSummary)
  | chat (chatId messageAutoDeleteTime : ℤ)

/-! ## The manager -/

structure SecretChatManager where
  secretChatsById : ℤ → Option SecretChatSummary := PartialMap.empty
  ttlByChatId : ℤ → Option SecretChatTtlPreset := PartialMap.empty
  isCreating : Bool := false
  lastError : Option Str := none
  sent : List SecretRequest := []

namespace SecretChatManager

variable (m : SecretChatManager)

def ttlForChat (chatId : ℤ) : SecretChatTtlPreset := (m.ttlByChatId chatId).getD .off

def selfDestructTypeForChat (chatId : ℤ) : Option ℤ := (m.ttlForChat chatId).toSelfDestructType

def send (request : SecretRequest) : SecretChatManager := { m with sent := m.sent ++ [request] }

def createSecretChat (userId : ℤ) : SecretChatManager :=
  { m with isCreating := true, lastError := none }.send (.createNewSecretChat userId)

def loadSecretChat (secretChatId : ℤ) : SecretChatManager := m.send (.getSecretChat secretChatId)

def closeSecretChat (secretChatId : ℤ) : SecretChatManager := m.send (.closeSecretChat secretChatId)

def setChatTtl (chatId : ℤ) (preset : SecretChatTtlPreset) : SecretChatManager :=
  { m with ttlByChatId := put chatId preset m.ttlByChatId }.send (.setChatMessageAutoDeleteTime chatId preset)

def applySecretChat (summary : SecretChatSummary) : SecretChatManager :=
  { m with secretChatsById := put summary.id summary m.secretChatsById, isCreating := false }

/-- An extra that begins with a text. -/
def begins (extra : Option Str) (start : String) : Bool := extra.any ((ascii start).isPrefixOf ·)

def handleSecretChatResponse (extra : Option Str) (summary : SecretChatSummary) : SecretChatManager :=
  if !begins extra "secret_get_" && !begins extra "secret_create_" then m else m.applySecretChat summary

def handleCreatedChat (extra : Option Str) : SecretChatManager :=
  if !begins extra "secret_create_" then m else { m with isCreating := false }

def handleOk (extra : Option Str) : SecretChatManager :=
  if !begins extra "secret_" then m
  else if begins extra "secret_close_" then
    match tryParseInt ((extra.getD []).drop (ascii "secret_close_").length) with
    | none => m
    | some id =>
        match m.secretChatsById id with
        | none => m
        | some current => { m with secretChatsById := put id { current with state := .closed } m.secretChatsById }
  else m

def handleError (extra message : Option Str) : SecretChatManager :=
  if !begins extra "secret_" then m
  else { m with isCreating := false, lastError := some (message.getD (units "Ошибка секретного чата")) }

def handleReply (extra : Option Str) : SecretReply → SecretChatManager
  | .ok => m.handleOk extra
  | .error message => m.handleError extra message
  | .secretChat summary => m.handleSecretChatResponse extra summary
  | .chat _ _ => m.handleCreatedChat extra

end SecretChatManager

/-! ## What TDLib knows -/

inductive SecretEvent where
  | createSecretChat (userId : ℤ)
  | loadSecretChat (secretChatId : ℤ)
  | closeSecretChat (secretChatId : ℤ)
  | setChatTtl (chatId : ℤ) (preset : SecretChatTtlPreset)
  /-- One of the requests that are not answered is. -/
  | answer (request : ℕ) (reply : SecretReply)
  /-- The answer to a request of another component. -/
  | otherAnswer (extra : Option Str) (reply : SecretReply)
  | updateSecretChat (summary : SecretChatSummary)
  /-- An update that the manager does not look at. -/
  | updateChatMessageAutoDeleteTime (chatId messageAutoDeleteTime : ℤ)

structure SecretRun where
  manager : SecretChatManager := {}
  unanswered : List SecretRequest := []
  /-- The time of each chat that TDLib has reported or confirmed last. -/
  times : ℤ → ℤ := fun _ => 0

def SecretRequest.isCreate : SecretRequest → Bool
  | createNewSecretChat _ => true
  | _ => false

namespace SecretRun

variable (r : SecretRun)

/-- TDLib has not answered a request to create a chat. -/
def isCreating : Bool := r.unanswered.any (·.isCreate)

/-- The times after the answer to a request: a chat has its time, and `ok` confirms one that was set. -/
def timesAfter (times : ℤ → ℤ) (request : Option SecretRequest) : SecretReply → ℤ → ℤ
  | .chat chatId messageAutoDeleteTime => Function.update times chatId messageAutoDeleteTime
  | .ok =>
      match request with
      | some (.setChatMessageAutoDeleteTime chatId preset) => Function.update times chatId preset.seconds
      | _ => times
  | _ => times

/-- The manager sends a request. -/
def sends (m : SecretChatManager) (request : SecretRequest) : SecretRun :=
  { r with manager := m, unanswered := r.unanswered ++ [request] }

def answered (i : ℕ) (reply : SecretReply) : SecretRun :=
  match r.unanswered[i]? with
  | none => r
  | some request =>
      { manager := r.manager.handleReply (some request.extra) reply
        unanswered := r.unanswered.eraseIdx i
        times := timesAfter r.times (some request) reply }

def step (r : SecretRun) : SecretEvent → SecretRun
  | .createSecretChat userId => r.sends (r.manager.createSecretChat userId) (.createNewSecretChat userId)
  | .loadSecretChat secretChatId => r.sends (r.manager.loadSecretChat secretChatId) (.getSecretChat secretChatId)
  | .closeSecretChat secretChatId => r.sends (r.manager.closeSecretChat secretChatId) (.closeSecretChat secretChatId)
  | .setChatTtl chatId preset =>
      r.sends (r.manager.setChatTtl chatId preset) (.setChatMessageAutoDeleteTime chatId preset)
  | .answer i reply => r.answered i reply
  | .otherAnswer extra reply =>
      { r with manager := r.manager.handleReply extra reply, times := timesAfter r.times none reply }
  | .updateSecretChat summary => { r with manager := r.manager.applySecretChat summary }
  | .updateChatMessageAutoDeleteTime chatId messageAutoDeleteTime =>
      { r with times := Function.update r.times chatId messageAutoDeleteTime }

/-- The manager has the times of TDLib, and is creating exactly while TDLib is. -/
structure Follows : Prop where
  ttl : ∀ chatId, (r.manager.ttlForChat chatId).seconds = r.times chatId
  creating : r.manager.isCreating = r.isCreating

/-- No timer is attached that a chat does not have. -/
lemma selfDestructTypeForChat_of_follows {r : SecretRun} (h : r.Follows) (chatId : ℤ) :
    r.manager.selfDestructTypeForChat chatId = if r.times chatId = 0 then none else some (r.times chatId) := by
  rw [SecretChatManager.selfDestructTypeForChat, SecretChatTtlPreset.toSelfDestructType_eq, h.ttl]

/-! ## When it does -/

/-- What ends the creating in the manager. -/
def clears (extra : Option Str) : SecretReply → Bool
  | .ok => false
  | .error _ => SecretChatManager.begins extra "secret_"
  | .secretChat _ =>
      SecretChatManager.begins extra "secret_get_" || SecretChatManager.begins extra "secret_create_"
  | .chat _ _ => SecretChatManager.begins extra "secret_create_"

/-- A chat comes with the time that is known. -/
def ReportsKnown : SecretReply → Prop
  | .chat chatId messageAutoDeleteTime => messageAutoDeleteTime = r.times chatId
  | _ => True

/-- The user sets the time that a chat has, and TDLib reports that; what ends the creating comes where no request to
create a chat is left, and a request to create one is answered with such. -/
def Orderly : SecretEvent → Prop
  | .setChatTtl chatId preset => preset.seconds = r.times chatId
  | .answer i reply => ∀ request, r.unanswered[i]? = some request → r.ReportsKnown reply ∧
      if clears (some request.extra) reply then ∀ other ∈ r.unanswered.eraseIdx i, other.isCreate = false
      else request.isCreate → ∃ other ∈ r.unanswered.eraseIdx i, other.isCreate
  | .otherAnswer extra reply => r.ReportsKnown reply ∧ (clears extra reply → r.isCreating = false)
  | .updateSecretChat _ => r.isCreating = false
  | .updateChatMessageAutoDeleteTime chatId messageAutoDeleteTime => messageAutoDeleteTime = r.times chatId
  | _ => True

/-- What a run needs beside: times that are still to be confirmed are those that are known. -/
structure Inv (r : SecretRun) : Prop where
  follows : r.Follows
  unanswered : ∀ chatId preset, .setChatMessageAutoDeleteTime chatId preset ∈ r.unanswered →
    preset.seconds = r.times chatId

variable {r}

lemma handleReply_ttlByChatId (m : SecretChatManager) (extra : Option Str) (reply : SecretReply) :
    (m.handleReply extra reply).ttlByChatId = m.ttlByChatId := by
  cases reply with
  | ok =>
      rw [SecretChatManager.handleReply, SecretChatManager.handleOk]
      split_ifs
      · rfl
      · split
        · rfl
        · split <;> rfl
      · rfl
  | error message => rw [SecretChatManager.handleReply, SecretChatManager.handleError]; split_ifs <;> rfl
  | secretChat summary =>
      rw [SecretChatManager.handleReply, SecretChatManager.handleSecretChatResponse]; split_ifs <;> rfl
  | chat chatId time => rw [SecretChatManager.handleReply, SecretChatManager.handleCreatedChat]; split_ifs <;> rfl

lemma handleReply_isCreating (m : SecretChatManager) (extra : Option Str) (reply : SecretReply) :
    (m.handleReply extra reply).isCreating = if clears extra reply then false else m.isCreating := by
  cases reply with
  | ok =>
      rw [SecretChatManager.handleReply, SecretChatManager.handleOk, clears, if_neg Bool.false_ne_true]
      split_ifs
      · rfl
      · split
        · rfl
        · split <;> rfl
      · rfl
  | error message =>
      rw [SecretChatManager.handleReply, SecretChatManager.handleError, clears]
      cases SecretChatManager.begins extra "secret_" <;> rfl
  | secretChat summary =>
      rw [SecretChatManager.handleReply, SecretChatManager.handleSecretChatResponse, clears]
      cases SecretChatManager.begins extra "secret_get_" <;> cases SecretChatManager.begins extra "secret_create_" <;>
        rfl
  | chat chatId time =>
      rw [SecretChatManager.handleReply, SecretChatManager.handleCreatedChat, clears]
      cases SecretChatManager.begins extra "secret_create_" <;> rfl

/-! ### Times -/

lemma ttl_iff (h : r.Follows) {m : SecretChatManager} (hm : m.ttlByChatId = r.manager.ttlByChatId) (times : ℤ → ℤ) :
    (∀ chatId, (m.ttlForChat chatId).seconds = times chatId) ↔ times = r.times := by
  have hsame : ∀ chatId, (m.ttlForChat chatId).seconds = r.times chatId := fun chatId => by
    rw [SecretChatManager.ttlForChat, hm]
    exact h.ttl chatId
  constructor
  · intro htimes
    funext chatId
    rw [← htimes, hsame]
  · rintro rfl
    exact hsame

lemma timesAfter_eq_iff {request : Option SecretRequest}
    (h : ∀ chatId preset, request = some (.setChatMessageAutoDeleteTime chatId preset) →
      preset.seconds = r.times chatId) (reply : SecretReply) :
    timesAfter r.times request reply = r.times ↔ r.ReportsKnown reply := by
  cases reply with
  | chat chatId time => exact Function.update_eq_self_iff
  | ok =>
      refine iff_of_true ?_ trivial
      cases request with
      | none => rfl
      | some request =>
          cases request with
          | setChatMessageAutoDeleteTime chatId preset => exact Function.update_eq_self_iff.mpr (h chatId preset rfl)
          | _ => rfl
  | error message => exact iff_of_true rfl trivial
  | secretChat summary => exact iff_of_true rfl trivial

/-- The time that the user sets is that of the chat. -/
lemma ttl_setChatTtl_iff (h : r.Follows) (chatId : ℤ) (preset : SecretChatTtlPreset) :
    (∀ c, ((r.manager.setChatTtl chatId preset).ttlForChat c).seconds = r.times c) ↔
      preset.seconds = r.times chatId := by
  have hset : ∀ c, (r.manager.setChatTtl chatId preset).ttlForChat c =
      if c = chatId then preset else r.manager.ttlForChat c := fun c => by
    change (put chatId preset r.manager.ttlByChatId c).getD .off = _
    rw [put_apply]
    split_ifs <;> rfl
  constructor
  · intro httl
    have hchat := httl chatId
    rwa [hset, if_pos rfl] at hchat
  · intro hpreset c
    rw [hset]
    split_ifs with hc
    · rw [hc, hpreset]
    · exact h.ttl c

/-! ### Creating -/

lemma isCreating_sends (m : SecretChatManager) (request : SecretRequest) :
    (r.sends m request).isCreating = (r.isCreating || request.isCreate) := by
  rw [isCreating, sends, List.any_append, List.any_cons, List.any_nil, Bool.or_false]
  rfl

lemma isCreating_erase {i : ℕ} {request : SecretRequest} (h : r.unanswered[i]? = some request) :
    r.isCreating = (request.isCreate || (r.unanswered.eraseIdx i).any (·.isCreate)) := by
  rcases List.getElem?_eq_some_iff.mp h with ⟨hi, rfl⟩
  rw [isCreating, ← List.any_cons]
  exact (List.getElem_cons_eraseIdx_perm hi).symm.any_eq

lemma creating_answered_iff (h : r.Follows) {i : ℕ} {request : SecretRequest}
    (hrequest : r.unanswered[i]? = some request) (reply : SecretReply) :
    (r.manager.handleReply (some request.extra) reply).isCreating = (r.unanswered.eraseIdx i).any (·.isCreate) ↔
      if clears (some request.extra) reply then ∀ other ∈ r.unanswered.eraseIdx i, other.isCreate = false
      else request.isCreate → ∃ other ∈ r.unanswered.eraseIdx i, other.isCreate := by
  rw [handleReply_isCreating]
  split_ifs with hclears
  · rw [eq_comm, List.any_eq_false]
    simp
  · rw [h.creating, isCreating_erase hrequest, Bool.or_eq_right_iff_imp, List.any_eq_true]

/-! ### Steps -/

/-- An answer leaves the times if it reports what is known: what it can confirm is. -/
lemma timesAfter_answered_iff (h : r.Inv) {i : ℕ} {request : SecretRequest} (hrequest : r.unanswered[i]? = some request)
    (reply : SecretReply) : timesAfter r.times (some request) reply = r.times ↔ r.ReportsKnown reply := by
  refine timesAfter_eq_iff (fun chatId preset heq => ?_) reply
  exact h.unanswered chatId preset (Option.some_inj.mp heq ▸ List.mem_of_getElem? hrequest)

lemma timesAfter_other_iff (reply : SecretReply) : timesAfter r.times none reply = r.times ↔ r.ReportsKnown reply :=
  timesAfter_eq_iff (fun _ _ hnone => absurd hnone (Option.some_ne_none _).symm) reply

/-- A request that is sent leaves the times and creates a chat or not. -/
lemma follows_sends (h : r.Follows) {m : SecretChatManager} {request : SecretRequest}
    (httl : m.ttlByChatId = r.manager.ttlByChatId)
    (hcreating : m.isCreating = (r.manager.isCreating || request.isCreate)) : (r.sends m request).Follows :=
  ⟨(ttl_iff h httl r.times).mpr rfl, by rw [isCreating_sends, ← h.creating]; exact hcreating⟩

lemma follows_setChatTtl_iff (h : r.Follows) (chatId : ℤ) (preset : SecretChatTtlPreset) :
    (r.step (.setChatTtl chatId preset)).Follows ↔ preset.seconds = r.times chatId := by
  constructor
  · intro hfollows
    exact (ttl_setChatTtl_iff h chatId preset).mp hfollows.ttl
  · intro hpreset
    refine ⟨(ttl_setChatTtl_iff h chatId preset).mpr hpreset, ?_⟩
    rw [step, isCreating_sends, ← h.creating]
    exact (Bool.or_false _).symm

lemma follows_answer_iff (h : r.Inv) (i : ℕ) (reply : SecretReply) :
    (r.step (.answer i reply)).Follows ↔ r.Orderly (.answer i reply) := by
  rw [step, answered, Orderly]
  cases hrequest : r.unanswered[i]? with
  | none => exact iff_of_true h.follows fun _ hnone => nomatch hnone
  | some request =>
      have httl := (ttl_iff h.follows (handleReply_ttlByChatId r.manager (some request.extra) reply)
        (timesAfter r.times (some request) reply)).trans (timesAfter_answered_iff h hrequest reply)
      have hcreating := creating_answered_iff h.follows hrequest reply
      constructor
      · rintro hfollows _ ⟨⟩
        exact ⟨httl.mp hfollows.ttl, hcreating.mp hfollows.creating⟩
      · intro horderly
        exact ⟨httl.mpr (horderly _ rfl).1, hcreating.mpr (horderly _ rfl).2⟩

lemma follows_otherAnswer_iff (h : r.Follows) (extra : Option Str) (reply : SecretReply) :
    (r.step (.otherAnswer extra reply)).Follows ↔ r.Orderly (.otherAnswer extra reply) := by
  have httl := (ttl_iff h (handleReply_ttlByChatId r.manager extra reply) (timesAfter r.times none reply)).trans
    (timesAfter_other_iff reply)
  have hcreating : (r.manager.handleReply extra reply).isCreating = r.isCreating ↔
      (clears extra reply → r.isCreating = false) := by
    rw [handleReply_isCreating, h.creating]
    split_ifs with hclears
    · exact ⟨fun heq _ => heq.symm, fun himp => (himp hclears).symm⟩
    · exact iff_of_true rfl fun hpos => absurd hpos hclears
  constructor
  · intro hfollows
    exact ⟨httl.mp hfollows.ttl, hcreating.mp hfollows.creating⟩
  · intro horderly
    exact ⟨httl.mpr horderly.1, hcreating.mpr horderly.2⟩

/-- **When a step follows TDLib.** -/
theorem follows_iff (h : r.Inv) (e : SecretEvent) : (r.step e).Follows ↔ r.Orderly e := by
  cases e with
  | createSecretChat userId => exact iff_of_true (follows_sends h.follows rfl (Bool.or_true _).symm) trivial
  | loadSecretChat secretChatId => exact iff_of_true (follows_sends h.follows rfl (Bool.or_false _).symm) trivial
  | closeSecretChat secretChatId => exact iff_of_true (follows_sends h.follows rfl (Bool.or_false _).symm) trivial
  | setChatTtl chatId preset => exact follows_setChatTtl_iff h.follows chatId preset
  | answer i reply => exact follows_answer_iff h i reply
  | otherAnswer extra reply => exact follows_otherAnswer_iff h.follows extra reply
  | updateSecretChat summary =>
      constructor
      · intro hfollows
        exact hfollows.creating.symm
      · intro hcreating
        exact ⟨h.follows.ttl, hcreating.symm⟩
  | updateChatMessageAutoDeleteTime chatId time =>
      have httl := (ttl_iff h.follows rfl (Function.update r.times chatId time)).trans Function.update_eq_self_iff
      constructor
      · intro hfollows
        exact httl.mp hfollows.ttl
      · intro htime
        exact ⟨httl.mpr htime, h.follows.creating⟩

/-- Times that are still to be confirmed are known also after a step in order, which changes no time. -/
lemma inv_step (h : r.Inv) (e : SecretEvent) (hfollows : (r.step e).Follows) : (r.step e).Inv := by
  refine ⟨hfollows, ?_⟩
  have horderly := (follows_iff h e).mp hfollows
  have hsends : ∀ m request, (∀ chatId preset, request = .setChatMessageAutoDeleteTime chatId preset →
      preset.seconds = r.times chatId) → ∀ chatId preset,
        .setChatMessageAutoDeleteTime chatId preset ∈ (r.sends m request).unanswered →
          preset.seconds = r.times chatId := by
    intro m request hnew chatId preset hmem
    rcases List.mem_append.mp hmem with hold | hlast
    · exact h.unanswered chatId preset hold
    · exact hnew chatId preset (List.mem_singleton.mp hlast).symm
  cases e with
  | createSecretChat userId => exact hsends _ _ fun _ _ heq => nomatch heq
  | loadSecretChat secretChatId => exact hsends _ _ fun _ _ heq => nomatch heq
  | closeSecretChat secretChatId => exact hsends _ _ fun _ _ heq => nomatch heq
  | setChatTtl chatId preset =>
      refine hsends _ _ fun chatId' preset' heq => ?_
      rw [← (SecretRequest.setChatMessageAutoDeleteTime.inj heq).1,
        ← (SecretRequest.setChatMessageAutoDeleteTime.inj heq).2]
      exact horderly
  | answer i reply =>
      rw [step, answered]
      cases hrequest : r.unanswered[i]? with
      | none => exact h.unanswered
      | some request =>
          intro chatId preset hmem
          have htimes := (timesAfter_answered_iff h hrequest reply).mpr (horderly request hrequest).1
          change preset.seconds = timesAfter r.times (some request) reply chatId
          rw [htimes]
          exact h.unanswered chatId preset (List.mem_of_mem_eraseIdx hmem)
  | otherAnswer extra reply =>
      intro chatId preset hmem
      have htimes := (timesAfter_other_iff reply).mpr horderly.1
      change preset.seconds = timesAfter r.times none reply chatId
      rw [htimes]
      exact h.unanswered chatId preset hmem
  | updateSecretChat summary => exact h.unanswered
  | updateChatMessageAutoDeleteTime chatId time =>
      intro chatId' preset hmem
      change preset.seconds = Function.update r.times chatId time chatId'
      have htimes : Function.update r.times chatId time = r.times := Function.update_eq_self_iff.mpr horderly
      rw [htimes]
      exact h.unanswered chatId' preset hmem

/-- **When a run follows TDLib**: exactly if each of its steps is in order. -/
theorem forall_follows_iff (events : List SecretEvent) :
    Meets step (fun r e => (r.step e).Follows) {} events ↔ Meets step Orderly {} events :=
  meets_iff_meets (I := Inv) (fun _ e h => follows_iff h e) (fun _ e h hfollows => inv_step h e hfollows)
    ⟨⟨fun _ => rfl, rfl⟩, fun _ _ hmem => absurd hmem List.not_mem_nil⟩ events

/-- TDLib refuses the time that the user sets, and messages are still sent with it. -/
theorem refused_time_stays :
    let events := [.setChatTtl 5 .oneMinute, .answer 0 (.error (some (ascii "CHAT_ADMIN_REQUIRED")))]
    (events.foldl step {}).manager.selfDestructTypeForChat 5 = some 60 ∧ (events.foldl step {}).times 5 = 0 ∧
      (events.foldl step {}).unanswered = [] ∧ ¬Meets step (fun r e => (r.step e).Follows) {} events := by
  refine ⟨by decide, by decide, by decide, ?_⟩
  rw [forall_follows_iff]
  rintro ⟨hknown, -⟩
  exact absurd (show SecretChatTtlPreset.oneMinute.seconds = 0 from hknown) (by decide)

/-- Another secret chat changes while one is created. -/
theorem update_ends_creating :
    let events := [.createSecretChat 7, .updateSecretChat { id := 3, userId := 8, state := .ready }]
    (events.foldl step {}).manager.isCreating = false ∧
      (events.foldl step {}).unanswered = [.createNewSecretChat 7] := by
  decide

end SecretRun

end RioGram.Secret
