import RioGram.Chats.Models
import RioGram.Core.Overlay
import RioGram.Core.Processes
import RioGram.Core.Reachable

/-!
# The store of recalled messages

`AntiRecallStore` keeps a snapshot of each message under `<chatId>:<messageId>`, in memory and in a file.  A
call of `captureMessage` or of `markDeleted` loads the file if no load has finished yet, writes its snapshot and
then the file; `RecallStage` has a stage for each point at which a call waits, and the calls take turns in any
order.  `Storage` is the store with the file and with the writes in the order in which they are made.

What the file has is what can be read of it: nothing of one that does not decode, and of one with an entry that
is no snapshot the entries before that.  A write empties the file first, and overlapping ones may leave it
broken.

* `snapshots_as_written` says when the snapshots are those of the file changed by the writes in their order.
* `late_load_restores` is a run in which a load that finishes late brings an old snapshot back.
-/

namespace RioGram.Features

open Chats PartialMap Interleaving Reaching

/-! ## Snapshots -/

inductive AntiRecallSnapshotReason where
  | received | edited | deleted
deriving DecidableEq

structure AntiRecallContent where
  kind : MessageKind
  preview : String
  caption : Option String := none
  fileName : Option String := none
  localPath : Option String := none
deriving DecidableEq

def AntiRecallContent.fromMessageContent (content : MessageContent) : AntiRecallContent where
  kind := content.kind
  preview := content.preview
  caption := content.caption <|> content.formattedCaption
  fileName := content.fileName
  localPath := content.localPath

/-- A snapshot; times are counted from a fixed one. -/
structure AntiRecallSnapshot where
  chatId : ℤ
  messageId : ℤ
  content : AntiRecallContent
  capturedAt : ℤ
  reason : AntiRecallSnapshotReason
  senderName : Option String := none
  isOutgoing : Bool := false
  editDate : Option ℤ := none
deriving DecidableEq

def AntiRecallSnapshot.fromMessage (message : ChatMessage) (reason : AntiRecallSnapshotReason)
    (capturedAt : ℤ) (preservedContent : Option AntiRecallContent) : AntiRecallSnapshot where
  chatId := message.chatId
  messageId := message.id
  content := preservedContent.getD (.fromMessageContent message.content)
  capturedAt
  reason
  senderName := message.senderName
  isOutgoing := message.isOutgoing
  editDate := message.editDate

abbrev Snapshots := ℤ × ℤ → Option AntiRecallSnapshot

/-- The key `<chatId>:<messageId>`. -/
def snapshotKey (message : ChatMessage) : ℤ × ℤ := (message.chatId, message.id)

namespace Snapshots

variable (snapshots : Snapshots)

/-- What `captureMessage` writes once the store is loaded, if it writes. -/
def captureMessage (message : ChatMessage) (reason : AntiRecallSnapshotReason) (now : ℤ) :
    Option Snapshots :=
  if (snapshots (snapshotKey message)).isSome ∧ reason = .received then none
  else some (put (snapshotKey message) (.fromMessage message reason now none) snapshots)

/-- What `markDeleted` writes once the store is loaded. -/
def markDeleted (message : ChatMessage) (now : ℤ) : Snapshots :=
  let existing := snapshots (snapshotKey message)
  put (snapshotKey message)
    (.fromMessage message .deleted ((existing.map (·.capturedAt)).getD now)
      (some ((existing.map (·.content)).getD (.fromMessageContent message.content))))
    snapshots

end Snapshots

/-! ## Calls -/

inductive RecallCall where
  | load
  | captureMessage (message : ChatMessage) (reason : AntiRecallSnapshotReason)
  | markDeleted (message : ChatMessage)

/-- What a call writes once the store is loaded, if it writes. -/
def RecallCall.write (call : RecallCall) (now : ℤ) (snapshots : Snapshots) : Option Snapshots :=
  match call with
  | .load => none
  | .captureMessage message reason => snapshots.captureMessage message reason now
  | .markDeleted message => some (snapshots.markDeleted message now)

/-- What a call makes of the snapshots. -/
def RecallCall.update (call : RecallCall) (now : ℤ) (snapshots : Snapshots) : Snapshots :=
  (call.write now snapshots).getD snapshots

/-- The message that a call is about. -/
def RecallCall.message : RecallCall → Option ChatMessage
  | .load => none
  | .captureMessage message _ => some message
  | .markDeleted message => some message

/-- The message that a call marks as deleted. -/
def RecallCall.deletes : RecallCall → Option (ℤ × ℤ)
  | .markDeleted message => some (snapshotKey message)
  | _ => none

/-- The message whose snapshot a call writes over another one. -/
def RecallCall.overwrites : RecallCall → Option ChatMessage
  | .captureMessage message reason => if reason = .received then none else some message
  | _ => none

structure AntiRecallStore where
  snapshots : Snapshots := PartialMap.empty
  isLoaded : Bool := false

/-- The store and the file, if there is one; `writes` is not of the source. -/
structure Storage where
  store : AntiRecallStore := {}
  file : Option Snapshots
  writes : List (RecallCall × ℤ) := []

/-- Where a call waits: in `load`, until it is done, for the path of the file, for whether there is one and for
its text, and in `_persist` for the path and for the file to be written. -/
inductive RecallStage where
  | locating
  | checking
  | checked (found : Bool)
  | reading
  | read (contents : Snapshots)
  | loaded
  | persisting
  | writing (contents : Snapshots)
  | emptied (contents : Snapshots)
  | done

/-- Whether the `load` of the call is done. -/
def RecallStage.hasLoaded : RecallStage → Bool
  | .locating | .checking | .checked _ | .reading | .read _ => false
  | .loaded | .persisting | .writing _ | .emptied _ | .done => true

structure RecallProcess where
  call : RecallCall
  stage : RecallStage

/-- A turn of a call: the time, and whether a file that it has written is whole. -/
structure RecallTurn where
  now : ℤ := 0
  isWhole : Bool := true

/-- A call begins with `load`, which waits only if no load has finished. -/
def enter (s : Storage) (call : RecallCall) : RecallProcess :=
  ⟨call, if s.store.isLoaded then .loaded else .locating⟩

namespace Storage

variable (s : Storage)

/-- The end of a load that has read `contents`. -/
def finishLoad (contents : Snapshots) : Storage :=
  { s with store := { snapshots := overlay contents s.store.snapshots, isLoaded := true } }

/-- A file that does not exist is as good as an empty one. -/
def skipLoad : Storage := { s with store := { s.store with isLoaded := true } }

/-- The call goes on when the store is loaded. -/
def write (call : RecallCall) (now : ℤ) : Storage × RecallProcess :=
  match call.write now s.store.snapshots with
  | none => ({ s with writes := s.writes ++ [(call, now)] }, ⟨call, .done⟩)
  | some snapshots =>
      ({ s with
          store := { s.store with snapshots }
          writes := s.writes ++ [(call, now)] }, ⟨call, .persisting⟩)

end Storage

def resume (s : Storage) (process : RecallProcess) (turn : RecallTurn) : Storage × RecallProcess :=
  match process.stage with
  | .locating => (s, { process with stage := .checking })
  | .checking => (s, { process with stage := .checked s.file.isSome })
  | .checked false => (s.skipLoad, { process with stage := .loaded })
  | .checked true => (s, { process with stage := .reading })
  -- a file that cannot be read gives nothing
  | .reading => (s, { process with stage := .read (s.file.getD PartialMap.empty) })
  | .read contents => (s.finishLoad contents, { process with stage := .loaded })
  | .loaded => s.write process.call turn.now
  | .persisting => (s, { process with stage := .writing s.store.snapshots })
  | .writing contents => ({ s with file := some PartialMap.empty }, { process with stage := .emptied contents })
  | .emptied contents =>
      ({ s with file := some (if turn.isWhole then contents else PartialMap.empty) },
        { process with stage := .done })
  | .done => (s, process)

/-! ## Runs -/

abbrev RecallRun := Pool Storage RecallProcess

abbrev RecallMove := Move RecallCall RecallTurn

namespace RecallRun

def start (file : Option Snapshots) : RecallRun := { shared := { file } }

def step (r : RecallRun) (move : RecallMove) : RecallRun := Pool.step enter resume r move

/-- The file as it was at the start, changed by the writes. -/
def written (file : Option Snapshots) (writes : List (RecallCall × ℤ)) : Snapshots :=
  writes.foldl (fun snapshots w => w.1.update w.2 snapshots) (file.getD PartialMap.empty)

/-- Once a load has finished, the snapshots are those of the file changed by the writes. -/
def AsWritten (file : Option Snapshots) (r : RecallRun) : Prop :=
  r.shared.store.isLoaded → r.shared.store.snapshots = written file r.shared.writes

def Complete (r : RecallRun) : Prop := ∀ process ∈ r.processes, process.stage = .done

/-- A load that finishes when another has finished before has read nothing that is not in the store. -/
def LoadsCurrent (r : RecallRun) : RecallMove → Prop
  | .start _ => True
  | .advance i _ =>
      ∀ call contents, r.processes[i]? = some ⟨call, .read contents⟩ → r.shared.store.isLoaded →
        ∀ key snapshot, contents key = some snapshot → r.shared.store.snapshots key = some snapshot

end RecallRun

/-! ## What a call makes of the snapshots -/

section Update

variable (message : ChatMessage) (now : ℤ) (snapshots : Snapshots)

lemma update_of_ne_received {reason : AntiRecallSnapshotReason} (h : reason ≠ .received) :
    (RecallCall.captureMessage message reason).update now snapshots =
      put (snapshotKey message) (.fromMessage message reason now none) snapshots := by
  simp [RecallCall.update, RecallCall.write, Snapshots.captureMessage, h]

lemma update_received_of_none (h : snapshots (snapshotKey message) = none) :
    (RecallCall.captureMessage message .received).update now snapshots =
      put (snapshotKey message) (.fromMessage message .received now none) snapshots := by
  simp [RecallCall.update, RecallCall.write, Snapshots.captureMessage, h]

/-- A message that comes is not captured again. -/
lemma update_received_of_isSome (h : (snapshots (snapshotKey message)).isSome) :
    (RecallCall.captureMessage message .received).update now snapshots = snapshots := by
  simp [RecallCall.update, RecallCall.write, Snapshots.captureMessage, h]

/-- **A message that comes changes no snapshot** that is there. -/
lemma update_received_of_some {key : ℤ × ℤ} {snapshot : AntiRecallSnapshot} (h : snapshots key = some snapshot) :
    (RecallCall.captureMessage message .received).update now snapshots key = some snapshot := by
  by_cases hkey : key = snapshotKey message
  · subst hkey
    rw [update_received_of_isSome message now snapshots (by rw [h]; rfl), h]
  · cases hmessage : snapshots (snapshotKey message) with
    | none => rw [update_received_of_none message now snapshots hmessage, put_of_ne hkey, h]
    | some _ => rw [update_received_of_isSome message now snapshots (by rw [hmessage]; rfl), h]

end Update

/-! ## What a turn does -/

variable {s : Storage} {process : RecallProcess} {turn : RecallTurn} {file : Option Snapshots}

/-- What a turn of a call can do to the store and to the writes. -/
inductive Turned (s : Storage) (process : RecallProcess) (turn : RecallTurn) : Storage → Prop where
  | same : Turned s process turn s
  | skips (h : process.stage = .checked false) : Turned s process turn s.skipLoad
  | finishes {contents : Snapshots} (h : process.stage = .read contents) :
      Turned s process turn (s.finishLoad contents)
  | writes (h : process.stage = .loaded) : Turned s process turn (s.write process.call turn.now).1
  | files (h : process.stage.hasLoaded) (file : Option Snapshots) : Turned s process turn { s with file }

lemma resume_turned (s : Storage) (process : RecallProcess) (turn : RecallTurn) :
    Turned s process turn (resume s process turn).1 := by
  rcases process with ⟨call, stage⟩
  cases stage with
  | checked found =>
      cases found with
      | false => exact .skips rfl
      | true => exact .same
  | read contents => exact .finishes rfl
  | loaded => exact .writes rfl
  | writing contents => exact .files rfl _
  | emptied contents => exact .files rfl _
  | _ => exact .same

lemma write_snapshots (s : Storage) (call : RecallCall) (now : ℤ) :
    (s.write call now).1.store.snapshots = call.update now s.store.snapshots := by
  rw [Storage.write.eq_def, RecallCall.update]
  split <;> simp_all

@[simp] lemma write_isLoaded (s : Storage) (call : RecallCall) (now : ℤ) :
    (s.write call now).1.store.isLoaded = s.store.isLoaded := by
  rw [Storage.write.eq_def]
  split <;> rfl

@[simp] lemma write_writes (s : Storage) (call : RecallCall) (now : ℤ) :
    (s.write call now).1.writes = s.writes ++ [(call, now)] := by
  rw [Storage.write.eq_def]
  split <;> rfl

lemma Turned.isLoaded {s' : Storage} (h : Turned s process turn s') (hloaded : s.store.isLoaded) :
    s'.store.isLoaded := by
  cases h with
  | same => exact hloaded
  | skips _ => rfl
  | finishes _ => rfl
  | writes _ => rw [write_isLoaded]; exact hloaded
  | files _ _ => exact hloaded

/-! ## Before a load has finished -/

/-- Until a load has finished, all is as it was at the start. -/
structure Untouched (file : Option Snapshots) (s : Storage) : Prop where
  file : s.store.isLoaded = false → s.file = file
  snapshots : s.store.isLoaded = false → s.store.snapshots = PartialMap.empty
  writes : s.store.isLoaded = false → s.writes = []

/-- What a call knows of the file, and that it does not go on before the store is loaded. -/
structure Informed (file : Option Snapshots) (s : Storage) (process : RecallProcess) : Prop where
  loaded : process.stage.hasLoaded → s.store.isLoaded
  checked : ∀ found, process.stage = .checked found → s.store.isLoaded = false → found = file.isSome
  read : ∀ contents, process.stage = .read contents → s.store.isLoaded = false →
    contents = file.getD PartialMap.empty

lemma Informed.mono {s' : Storage} (h : Informed file s process)
    (hloaded : s.store.isLoaded → s'.store.isLoaded) : Informed file s' process := by
  have hbefore : s'.store.isLoaded = false → s.store.isLoaded = false := by
    intro hs'
    by_contra hs
    rw [hloaded (Bool.not_eq_false _ ▸ hs)] at hs'
    exact Bool.noConfusion hs'
  exact ⟨fun hstage => hloaded (h.loaded hstage), fun found hfound hs' => h.checked found hfound (hbefore hs'),
    fun contents hcontents hs' => h.read contents hcontents (hbefore hs')⟩

lemma informed_of_loaded (h : s.store.isLoaded) : Informed file s process := by
  have hnot (hfalse : s.store.isLoaded = false) : False := by
    rw [h] at hfalse
    exact Bool.noConfusion hfalse
  exact ⟨fun _ => h, fun _ _ hfalse => (hnot hfalse).elim, fun _ _ hfalse => (hnot hfalse).elim⟩

lemma untouched_of_loaded (h : s.store.isLoaded) : Untouched file s := by
  constructor <;> intro hnot <;> rw [h] at hnot <;> cases hnot

lemma Turned.untouched {s' : Storage} (h : Turned s process turn s') (hs : Untouched file s)
    (hinformed : Informed file s process) : Untouched file s' := by
  cases h with
  | same => exact hs
  | skips _ => exact untouched_of_loaded rfl
  | finishes _ => exact untouched_of_loaded rfl
  | writes hstage =>
      refine untouched_of_loaded ?_
      rw [write_isLoaded]
      exact hinformed.loaded (hstage ▸ rfl)
  | files hstage file => exact untouched_of_loaded (hinformed.loaded hstage)

lemma enter_informed (s : Storage) (call : RecallCall) : Informed file s (enter s call) := by
  rw [enter]
  split_ifs with h
  · exact informed_of_loaded h
  · constructor
    · exact fun hstage => Bool.noConfusion hstage
    · exact fun _ hchecked => RecallStage.noConfusion hchecked
    · exact fun _ hread => RecallStage.noConfusion hread

/-- A call learns what the file is only from the file. -/
lemma resume_informed (hs : Untouched file s) (h : Informed file s process) (turn : RecallTurn) :
    Informed file (resume s process turn).1 (resume s process turn).2 := by
  have hmono := (resume_turned s process turn).isLoaded
  rcases process with ⟨call, stage⟩
  cases stage with
  | locating =>
      constructor
      · exact fun hstage => Bool.noConfusion hstage
      · exact fun _ hchecked => RecallStage.noConfusion hchecked
      · exact fun _ hread => RecallStage.noConfusion hread
  | checking =>
      constructor
      · exact fun hstage => Bool.noConfusion hstage
      · intro found hfound hbefore
        rw [← RecallStage.checked.inj hfound, hs.file hbefore]
      · exact fun _ hread => RecallStage.noConfusion hread
  | checked found =>
      cases found with
      | false => exact informed_of_loaded rfl
      | true =>
          constructor
          · exact fun hstage => Bool.noConfusion hstage
          · exact fun _ hchecked => RecallStage.noConfusion hchecked
          · exact fun _ hread => RecallStage.noConfusion hread
  | reading =>
      constructor
      · exact fun hstage => Bool.noConfusion hstage
      · exact fun _ hchecked => RecallStage.noConfusion hchecked
      · intro contents hread hbefore
        rw [← RecallStage.read.inj hread, hs.file hbefore]
  | read contents => exact informed_of_loaded rfl
  | _ => exact informed_of_loaded (hmono (h.loaded rfl))

namespace RecallRun

variable {r : RecallRun}

/-- What holds in every state of every run. -/
structure Consistent (file : Option Snapshots) (r : RecallRun) : Prop where
  untouched : Untouched file r.shared
  informed : ∀ process ∈ r.processes, Informed file r.shared process

lemma step_consistent (h : r.Consistent file) (move : RecallMove) : (r.step move).Consistent file := by
  constructor
  · cases move with
    | start call => exact h.untouched
    | advance i turn =>
        cases hi : r.processes[i]? with
        | none =>
            rw [step, Pool.step_advance_of_none hi]
            exact h.untouched
        | some process =>
            rw [step, Pool.step_advance_of_some hi]
            exact (resume_turned _ _ _).untouched h.untouched (h.informed process (List.mem_of_getElem? hi))
  · refine Pool.forall_step h.informed (fun call => enter_informed r.shared call)
      (fun process turn hprocess => resume_informed h.untouched hprocess turn)
      (fun process turn other _ hother => ?_) move
    exact hother.mono (resume_turned _ _ _).isLoaded

lemma consistent_of_reachable {ok : RecallRun → RecallMove → Prop} (h : Reachable step ok (start file) r) :
    r.Consistent file := by
  refine h.invariant ⟨⟨fun _ => rfl, fun _ => rfl, fun _ => rfl⟩, List.forall_mem_nil _⟩ ?_
  exact fun r move hr _ => step_consistent hr move

/-! ## When the snapshots are as written -/

lemma written_append (file : Option Snapshots) (writes : List (RecallCall × ℤ)) (call : RecallCall) (now : ℤ) :
    written file (writes ++ [(call, now)]) = call.update now (written file writes) := by
  rw [written, List.foldl_append]
  rfl

/-- The first load that finishes brings in the file, and a later one must not change anything. -/
lemma finishLoad_asWritten_iff {contents : Snapshots} (hr : r.Consistent file) (h : r.AsWritten file)
    (hcontents : r.shared.store.isLoaded = false → contents = file.getD PartialMap.empty) :
    (r.shared.finishLoad contents).store.snapshots = written file (r.shared.finishLoad contents).writes ↔
      (r.shared.store.isLoaded →
        ∀ key snapshot, contents key = some snapshot → r.shared.store.snapshots key = some snapshot) := by
  cases hloaded : r.shared.store.isLoaded with
  | false =>
      refine iff_of_true ?_ fun h => Bool.noConfusion h
      simp only [Storage.finishLoad, hr.untouched.snapshots hloaded, hr.untouched.writes hloaded,
        overlay_empty_right, hcontents hloaded]
      rfl
  | true =>
      rw [← overlay_eq_right_iff, Storage.finishLoad, ← h hloaded]
      exact ⟨fun heq _ => heq, fun heq => heq rfl⟩

/-- A call that finds no file takes the store for loaded, with nothing in it. -/
lemma skipLoad_asWritten (hr : r.Consistent file) (h : r.AsWritten file)
    (hfile : r.shared.store.isLoaded = false → false = file.isSome) :
    r.shared.skipLoad.store.snapshots = written file r.shared.skipLoad.writes := by
  cases hloaded : r.shared.store.isLoaded with
  | false =>
      have hnone : file = none := Option.not_isSome_iff_eq_none.mp (by simp [← hfile hloaded])
      simp only [Storage.skipLoad, hr.untouched.snapshots hloaded, hr.untouched.writes hloaded, hnone]
      rfl
  | true => exact h hloaded

lemma write_asWritten (h : r.shared.store.snapshots = written file r.shared.writes) (call : RecallCall)
    (now : ℤ) :
    (r.shared.write call now).1.store.snapshots = written file (r.shared.write call now).1.writes := by
  rw [write_snapshots, write_writes, written_append, h]

/-- Only a turn that ends a load can make the snapshots other than written. -/
lemma advance_asWritten_iff (hr : r.Consistent file) (h : r.AsWritten file) {process : RecallProcess}
    (hprocess : process ∈ r.processes) (turn : RecallTurn) (processes : List RecallProcess) :
    AsWritten file ⟨(resume r.shared process turn).1, processes⟩ ↔
      ∀ contents, process.stage = .read contents → r.shared.store.isLoaded →
        ∀ key snapshot, contents key = some snapshot → r.shared.store.snapshots key = some snapshot := by
  have hinformed := hr.informed process hprocess
  by_cases hread : ∃ contents, process.stage = .read contents
  · rcases hread with ⟨contents, hread⟩
    have hfinish := finishLoad_asWritten_iff hr h (hinformed.read contents hread)
    have hresume : (resume r.shared process turn).1 = r.shared.finishLoad contents := by
      rw [resume, hread]
    rw [hresume]
    constructor
    · rintro hafter _ hcontents
      obtain rfl := RecallStage.read.inj (hread.symm.trans hcontents)
      exact hfinish.mp (hafter rfl)
    · exact fun hcurrent _ => hfinish.mpr (hcurrent contents hread)
  · have hnot : ∀ contents, process.stage ≠ .read contents := fun contents hstage => hread ⟨contents, hstage⟩
    refine iff_of_true (fun hloaded => ?_) fun contents hstage => absurd hstage (hnot contents)
    have hturned := resume_turned r.shared process turn
    generalize (resume r.shared process turn).1 = s' at hturned hloaded
    cases hturned with
    | same => exact h hloaded
    | skips hstage => exact skipLoad_asWritten hr h (hinformed.checked false hstage)
    | finishes hstage => exact absurd hstage (hnot _)
    | writes hstage => exact write_asWritten (h (hinformed.loaded (hstage ▸ rfl))) process.call turn.now
    | files _ _ => exact h hloaded

lemma step_asWritten_iff (hr : r.Consistent file) (h : r.AsWritten file) (move : RecallMove) :
    (r.step move).AsWritten file ↔ r.LoadsCurrent move := by
  cases move with
  | start call => exact iff_of_true h trivial
  | advance i turn =>
      cases hi : r.processes[i]? with
      | none =>
          rw [step, Pool.step_advance_of_none hi]
          refine iff_of_true h fun call contents hprocess => ?_
          rw [hi] at hprocess
          cases hprocess
      | some process =>
          rw [step, Pool.step_advance_of_some hi,
            advance_asWritten_iff hr h (List.mem_of_getElem? hi) turn]
          simp only [LoadsCurrent, hi, Option.some.injEq]
          constructor
          · rintro hcurrent call contents rfl
            exact hcurrent contents rfl
          · rintro hcurrent contents hstage
            exact hcurrent process.call contents (by rw [← hstage])

/-- A call that is complete has loaded the store. -/
lemma isLoaded_of_complete (hr : r.Consistent file) (hcomplete : r.Complete) (hcalls : r.processes ≠ []) :
    r.shared.store.isLoaded := by
  rcases List.exists_mem_of_ne_nil r.processes hcalls with ⟨process, hprocess⟩
  refine (hr.informed process hprocess).loaded ?_
  rw [hcomplete process hprocess]
  rfl

/-- **The snapshots are those of the file, changed by the writes in their order**, from the first load that
finishes on and with that when all calls are complete, in every run in which no load that finishes later has
read what is not in the store any more; and wherever it is so, a move keeps it so exactly if it ends no such
load. -/
theorem snapshots_as_written (file : Option Snapshots) :
    (∀ r, Reachable step LoadsCurrent (start file) r → r.AsWritten file ∧
      (r.Complete → r.processes ≠ [] → r.shared.store.snapshots = written file r.shared.writes)) ∧
    ∀ r move, Reachable step (fun _ _ => True) (start file) r → r.AsWritten file →
      ((r.step move).AsWritten file ↔ r.LoadsCurrent move) := by
  constructor
  · intro r h
    have hr := consistent_of_reachable h
    have hstart : (start file).Consistent file := @consistent_of_reachable file _ LoadsCurrent .start
    have hwritten : r.Consistent file ∧ r.AsWritten file := by
      refine h.invariant (I := fun r => r.Consistent file ∧ r.AsWritten file)
        ⟨hstart, fun hloaded => Bool.noConfusion hloaded⟩ ?_
      exact fun r move hr hmove => ⟨step_consistent hr.1 move, (step_asWritten_iff hr.1 hr.2 move).mpr hmove⟩
    exact ⟨hwritten.2, fun hcomplete hcalls => hwritten.2 (isLoaded_of_complete hr hcomplete hcalls)⟩
  · exact fun r move hr h => step_asWritten_iff (consistent_of_reachable hr) h move

/-- A text of chat 1. -/
def textOf (id : ℤ) (text : String) : ChatMessage where
  id
  chatId := 1
  content := { kind := .text, preview := text }
  date := 0
  isOutgoing := false

/-- The snapshot of message 5 when it came. -/
def firstSnapshot : AntiRecallSnapshot := .fromMessage (textOf 5 "first") .received 0 none

/-- The file has message 5 as it came. -/
def fileOfFive : Option Snapshots := some (put (1, 5) firstSnapshot PartialMap.empty)

def turns (i count : ℕ) : List RecallMove := List.replicate count (.advance i { now := 9 })

/-- A call is complete before the other one comes. -/
def oneAfterTheOther : List RecallMove :=
  [.start (.captureMessage (textOf 5 "second") .edited)] ++ turns 0 9 ++
    [.start (.captureMessage (textOf 6 "other") .received)] ++ turns 1 4

lemma complete_of_stages {r : RecallRun} (count : ℕ)
    (h : r.processes.map (·.stage) = List.replicate count .done) : r.Complete := by
  intro process hprocess
  have hstage := List.mem_map_of_mem (f := (·.stage)) hprocess
  rw [h] at hstage
  exact List.eq_of_mem_replicate hstage

/-- Most moves end no load after the first one. -/
lemma loadsCurrent_of_stage {r : RecallRun} {i : ℕ} {turn : RecallTurn} {call : RecallCall} {stage : RecallStage}
    (hi : r.processes[i]? = some ⟨call, stage⟩)
    (h : r.shared.store.isLoaded = false ∨ stage.hasLoaded) : r.LoadsCurrent (.advance i turn) := by
  intro call' contents hread hloaded
  rw [hi] at hread
  cases hread
  rcases h with h | h
  · rw [h] at hloaded
    cases hloaded
  · cases h

theorem snapshots_as_written_two :
    (oneAfterTheOther.foldl step (start fileOfFive)).shared.store.snapshots =
      written fileOfFive (oneAfterTheOther.foldl step (start fileOfFive)).shared.writes := by
  have hrun : Reachable step LoadsCurrent (start fileOfFive)
      (oneAfterTheOther.foldl step (start fileOfFive)) := by
    refine Reachable.run .start ⟨trivial, ?_, ?_, ?_, ?_, ?_, ?_, ?_, ?_, ?_, trivial, ?_, ?_, ?_, ?_, trivial⟩
    · exact loadsCurrent_of_stage rfl (.inl rfl)
    · exact loadsCurrent_of_stage rfl (.inl rfl)
    · exact loadsCurrent_of_stage rfl (.inl rfl)
    · exact loadsCurrent_of_stage rfl (.inl rfl)
    · exact loadsCurrent_of_stage rfl (.inl rfl)
    · exact loadsCurrent_of_stage rfl (.inr rfl)
    · exact loadsCurrent_of_stage rfl (.inr rfl)
    · exact loadsCurrent_of_stage rfl (.inr rfl)
    · exact loadsCurrent_of_stage rfl (.inr rfl)
    · exact loadsCurrent_of_stage rfl (.inr rfl)
    · exact loadsCurrent_of_stage rfl (.inr rfl)
    · exact loadsCurrent_of_stage rfl (.inr rfl)
    · exact loadsCurrent_of_stage rfl (.inr rfl)
  refine ((snapshots_as_written fileOfFive).1 _ hrun).2 ?_ (List.cons_ne_nil _ _)
  exact complete_of_stages 2 rfl

/-- Both calls have read the file before either goes on. -/
def bothAtOnce : List RecallMove :=
  [.start (.captureMessage (textOf 5 "second") .edited),
    .start (.captureMessage (textOf 6 "other") .received)] ++ turns 0 4 ++ turns 1 4 ++ turns 0 5 ++ turns 1 5

/-- **A load that finishes late brings an old snapshot back**, and the snapshot of the edit is lost. -/
theorem late_load_restores :
    ∃ r, Reachable step (fun _ _ => True) (start fileOfFive) r ∧ r.Complete ∧
      r.shared.store.snapshots (1, 5) = some firstSnapshot ∧
      written fileOfFive r.shared.writes (1, 5) =
        some (.fromMessage (textOf 5 "second") .edited 9 none) := by
  refine ⟨bothAtOnce.foldl step (start fileOfFive), Reachable.run .start ?_, complete_of_stages 2 rfl, by decide,
    by decide⟩
  exact meets_true _ _

end RecallRun

end RioGram.Features
