import Mathlib
import RioGram.Auth.Accounts
import RioGram.Core.Keyed
import RioGram.Features.AntiRecallStore

/-!
# The file of recalled messages

`AntiRecallStore` writes all its snapshots as one JSON object, each under `<chatId>:<messageId>`, and reads them
back one after another.  What is encoded is taken to be what is decoded.

* `AntiRecallSnapshot.fromJson_toJson`: a snapshot is read as it was written.
* `AntiRecallMap.snapshots_write`: with the keys as texts the store does what it does with them as pairs.
* `antiRecall_round_trip`: a store that is filled from the file is the one that was written.
-/

namespace RioGram.Chats

namespace MessageKind

def name : MessageKind → String
  | text => "text"
  | photo => "photo"
  | video => "video"
  | videoNote => "videoNote"
  | voice => "voice"
  | audio => "audio"
  | document => "document"
  | sticker => "sticker"
  | animation => "animation"
  | poll => "poll"
  | service => "service"
  | call => "call"
  | location => "location"
  | liveLocation => "liveLocation"
  | venue => "venue"
  | unsupported => "unsupported"

def values : List MessageKind :=
  [text, photo, video, videoNote, voice, audio, document, sticker, animation, poll, service, call, location,
    liveLocation, venue, unsupported]

lemma name_injective : Function.Injective name := by
  intro kind kind' h
  cases kind <;> cases kind' <;> first | rfl | exact absurd h (by decide)

lemma mem_values (kind : MessageKind) : kind ∈ values := by
  cases kind <;> decide

end MessageKind

end RioGram.Chats

namespace RioGram.Features

open Accounts Chats Keyed Proxies

/-! ## Snapshots as JSON -/

/-- `values.firstWhere((item) => item.name == json, orElse: () => fallback)`. -/
def enumOfName {α : Type} (name : α → String) (values : List α) (fallback : α) (json : Option Json) : α :=
  match json with
  | some (.string text) => (values.find? (name · == text)).getD fallback
  | _ => fallback

/-- A value of an enumeration is found by its name. -/
lemma enumOfName_name {α : Type} {name : α → String} {values : List α} {value : α} (fallback : α)
    (hname : Function.Injective name) (hvalue : value ∈ values) :
    enumOfName name values fallback (some (.string (name value))) = value := by
  rw [enumOfName]
  cases hfind : values.find? (name · == name value) with
  | none =>
      have hnone := List.find?_eq_none.mp hfind value hvalue
      exact absurd (beq_self_eq_true _) hnone
  | some found =>
      have hsame := List.find?_some hfind
      exact hname (beq_iff_eq.mp hsame)

def stringOrNull (value : Option String) : Json := (value.map Json.string).getD .null

@[simp] lemma castString_string (value : String) : castString (some (.string value)) = some (some value) := rfl

@[simp] lemma castInt_number (value : ℤ) : castInt (some (.number value)) = some (some value) := rfl

@[simp] lemma castBool_bool (value : Bool) : castBool (some (.bool value)) = some (some value) := rfl

@[simp] lemma castString_stringOrNull (value : Option String) :
    castString (some (stringOrNull value)) = some value := by
  cases value with
  | none => rfl
  | some value => rfl

namespace AntiRecallSnapshotReason

def name : AntiRecallSnapshotReason → String
  | received => "received"
  | edited => "edited"
  | deleted => "deleted"

def values : List AntiRecallSnapshotReason := [received, edited, deleted]

lemma name_injective : Function.Injective name := by
  intro reason reason' h
  cases reason <;> cases reason' <;> first | rfl | exact absurd h (by decide)

lemma mem_values (reason : AntiRecallSnapshotReason) : reason ∈ values := by
  cases reason <;> decide

end AntiRecallSnapshotReason

namespace AntiRecallContent

def toJson (content : AntiRecallContent) : JsonObject :=
  [("kind", .string content.kind.name), ("preview", .string content.preview),
    ("caption", stringOrNull content.caption), ("file_name", stringOrNull content.fileName),
    ("local_path", stringOrNull content.localPath)]

/-- There is no value where a cast fails. -/
def fromJson (json : JsonObject) : Option AntiRecallContent := do
  let preview ← castString (json.lookup "preview")
  let caption ← castString (json.lookup "caption")
  let fileName ← castString (json.lookup "file_name")
  let localPath ← castString (json.lookup "local_path")
  pure
    { kind := enumOfName MessageKind.name MessageKind.values .text (json.lookup "kind")
      preview := preview.getD ""
      caption
      fileName
      localPath }

lemma fromJson_toJson (content : AntiRecallContent) : fromJson content.toJson = some content := by
  have hkind := enumOfName_name .text MessageKind.name_injective content.kind.mem_values
  simp [fromJson, toJson, List.lookup_cons, hkind]

end AntiRecallContent

namespace AntiRecallSnapshot

variable (format : IsoFormat ℤ)

def toJson (snapshot : AntiRecallSnapshot) : JsonObject :=
  [("chat_id", .number snapshot.chatId), ("message_id", .number snapshot.messageId),
    ("content", .object snapshot.content.toJson),
    ("captured_at", .string (format.toIso8601String snapshot.capturedAt)),
    ("reason", .string snapshot.reason.name), ("sender_name", stringOrNull snapshot.senderName),
    ("is_outgoing", .bool snapshot.isOutgoing),
    ("edit_date", stringOrNull (snapshot.editDate.map format.toIso8601String))]

/-- There is no value where a cast fails, or where `DateTime.parse` does. -/
def fromJson (json : JsonObject) : Option AntiRecallSnapshot := do
  let chatId ← ← castInt (json.lookup "chat_id")
  let messageId ← ← castInt (json.lookup "message_id")
  let .object fields ← json.lookup "content" | none
  let content ← AntiRecallContent.fromJson fields
  let capturedAtRaw ← ← castString (json.lookup "captured_at")
  let capturedAt ← format.tryParse capturedAtRaw
  let senderName ← castString (json.lookup "sender_name")
  let isOutgoing ← castBool (json.lookup "is_outgoing")
  let editDateRaw ← castString (json.lookup "edit_date")
  pure
    { chatId
      messageId
      content
      capturedAt
      reason :=
        enumOfName AntiRecallSnapshotReason.name AntiRecallSnapshotReason.values .received (json.lookup "reason")
      senderName
      isOutgoing := isOutgoing.getD false
      editDate := editDateRaw.bind format.tryParse }

/-- **A snapshot is read as it was written.** -/
lemma fromJson_toJson (snapshot : AntiRecallSnapshot) :
    fromJson format (snapshot.toJson format) = some snapshot := by
  have hreason := enumOfName_name .received AntiRecallSnapshotReason.name_injective snapshot.reason.mem_values
  have heditDate : (snapshot.editDate.map format.toIso8601String).bind format.tryParse = snapshot.editDate := by
    cases snapshot.editDate with
    | none => rfl
    | some editDate => exact format.tryParse_toIso8601String editDate
  simp [fromJson, toJson, List.lookup_cons, hreason, heditDate, AntiRecallContent.fromJson_toJson,
    format.tryParse_toIso8601String]

end AntiRecallSnapshot

/-! ## Keys -/

/-- The key under which a snapshot is stored. -/
def storageKey (key : ℤ × ℤ) : String := toString key.1 ++ ":" ++ toString key.2

/-- The digits and the sign of an integer are no colon. -/
lemma colon_notMem_toString (i : ℤ) : ':' ∉ (toString i).toList := by
  have hnat (n : ℕ) : ':' ∉ n.repr.toList := by
    intro hcolon
    rw [Nat.repr, String.toList_ofList] at hcolon
    exact absurd (Nat.isDigit_of_mem_toDigits (by decide) (by decide) hcolon) (by decide)
  rw [Int.toString_eq_repr, Int.repr_eq_if]
  split_ifs
  · exact hnat _
  · rw [String.toList_append, List.mem_append]
    rintro (hsign | hdigits)
    · exact absurd hsign (by decide)
    · exact hnat _ hdigits

lemma storageKey_injective : Function.Injective storageKey := by
  rintro ⟨chatId, messageId⟩ ⟨chatId', messageId'⟩ h
  have hlist := congrArg String.toList h
  have hcolon : (":" : String).toList = [':'] := rfl
  simp only [storageKey, String.toList_append, hcolon, List.append_assoc, List.singleton_append] at hlist
  rcases (List.append_cons_inj_of_notMem (colon_notMem_toString chatId)
    (colon_notMem_toString messageId)).mp hlist with ⟨hchat, -, hmessage⟩
  exact Prod.ext (Int.repr_injective (String.toList_inj.mp hchat)) (Int.repr_injective (String.toList_inj.mp hmessage))

/-! ## The map and the file -/

/-- `_snapshots`: a map has every key once, in the order in which they were added. -/
@[ext]
structure AntiRecallMap where
  entries : List (String × AntiRecallSnapshot) := []
  nodup : (entries.map Prod.fst).Nodup := by simp

namespace AntiRecallMap

variable (format : IsoFormat ℤ) (map : AntiRecallMap)

def get (key : String) : Option AntiRecallSnapshot := (map.entries.find? (·.1 == key)).map Prod.snd

def set (key : String) (snapshot : AntiRecallSnapshot) : AntiRecallMap where
  entries := put Prod.fst (key, snapshot) map.entries
  nodup := nodup_put map.nodup

/-- What `_persist` writes. -/
def persist : JsonObject := map.entries.map fun entry => (entry.1, .object (entry.2.toJson format))

/-- `load`, which keeps what it has read when a cast fails. -/
def load (map : AntiRecallMap) : JsonObject → AntiRecallMap
  | [] => map
  | (key, .object fields) :: rest =>
      match AntiRecallSnapshot.fromJson format fields with
      | some snapshot => load (map.set key snapshot) rest
      | none => map
  | _ => map

def captureMessage (message : ChatMessage) (reason : AntiRecallSnapshotReason) (now : ℤ) : AntiRecallMap :=
  let key := storageKey (snapshotKey message)
  if (map.get key).isSome ∧ reason = .received then map
  else map.set key (.fromMessage message reason now none)

def markDeleted (message : ChatMessage) (now : ℤ) : AntiRecallMap :=
  let key := storageKey (snapshotKey message)
  let existing := map.get key
  map.set key (.fromMessage message .deleted ((existing.map (·.capturedAt)).getD now)
    (some ((existing.map (·.content)).getD (.fromMessageContent message.content))))

/-- What a call does once the store is loaded. -/
def write (call : RecallCall) (now : ℤ) : AntiRecallMap :=
  match call with
  | .load => map
  | .captureMessage message reason => map.captureMessage message reason now
  | .markDeleted message => map.markDeleted message now

/-- Every snapshot is stored under its own key. -/
def KeysMatch : Prop := ∀ entry ∈ map.entries, entry.1 = storageKey (entry.2.chatId, entry.2.messageId)

/-- The snapshots by chat and message. -/
def snapshots : Snapshots := fun key => map.get (storageKey key)

variable {format} {map}

/-! ### Reading what was written -/

lemma set_new {key : String} (snapshot : AntiRecallSnapshot) (h : key ∉ map.entries.map Prod.fst) :
    (map.set key snapshot).entries = map.entries ++ [(key, snapshot)] :=
  if_neg (mt any_key.mp h)

/-- Entries with keys that are not there come after those that are. -/
lemma load_entries (entries : List (String × AntiRecallSnapshot))
    (h : ((map.entries ++ entries).map Prod.fst).Nodup) :
    (load format map (entries.map fun entry => (entry.1, .object (entry.2.toJson format)))).entries =
      map.entries ++ entries := by
  induction entries generalizing map with
  | nil => simp [load]
  | cons entry entries ih =>
      have hnew : entry.1 ∉ map.entries.map Prod.fst := by
        rw [List.map_append, List.map_cons] at h
        exact fun hmem => (List.nodup_append.mp h).2.2 _ hmem _ List.mem_cons_self rfl
      have hset := set_new entry.2 hnew
      rw [List.map_cons, load, AntiRecallSnapshot.fromJson_toJson]
      simp only
      rw [ih, hset, List.append_assoc, List.singleton_append]
      rw [hset, List.append_assoc]
      exact h

/-- **A fresh store that is filled from the file is the one that was written.** -/
lemma load_persist (map : AntiRecallMap) : load format {} (map.persist format) = map := by
  refine AntiRecallMap.ext ?_
  have hload := @load_entries format {} map.entries (by simpa using map.nodup)
  simpa [persist] using hload

/-! ### What the store does -/

lemma get_eq_some_iff {key : String} {snapshot : AntiRecallSnapshot} :
    map.get key = some snapshot ↔ (key, snapshot) ∈ map.entries := by
  rw [get, Option.map_eq_some_iff]
  constructor
  · rintro ⟨entry, hfind, rfl⟩
    have hkey := List.find?_some hfind
    rw [beq_iff_eq] at hkey
    rw [← hkey]
    exact List.mem_of_find?_eq_some hfind
  · intro hmem
    cases hfind : map.entries.find? (·.1 == key) with
    | none => exact absurd (beq_self_eq_true key) (List.find?_eq_none.mp hfind _ hmem)
    | some entry =>
        have hkey := List.find?_some hfind
        rw [beq_iff_eq] at hkey
        have hentry := List.mem_of_find?_eq_some hfind
        have hsame : entry = (key, snapshot) := List.inj_on_of_nodup_map map.nodup hentry hmem hkey
        exact ⟨entry, rfl, congrArg Prod.snd hsame⟩

lemma mem_set {key key' : String} {snapshot snapshot' : AntiRecallSnapshot} :
    (key', snapshot') ∈ (map.set key snapshot).entries ↔
      (key', snapshot') = (key, snapshot) ∨ (key', snapshot') ∈ map.entries ∧ key' ≠ key :=
  mem_put map.nodup

lemma get_set (key : String) (snapshot : AntiRecallSnapshot) (key' : String) :
    (map.set key snapshot).get key' = if key' = key then some snapshot else map.get key' := by
  ext snapshot'
  rw [get_eq_some_iff, mem_set]
  split_ifs with h
  · simp [h, eq_comm]
  · simp [h, get_eq_some_iff]

lemma snapshots_set (key : ℤ × ℤ) (snapshot : AntiRecallSnapshot) :
    (map.set (storageKey key) snapshot).snapshots = PartialMap.put key snapshot map.snapshots := by
  funext key'
  have hsame : storageKey key' = storageKey key ↔ key' = key := storageKey_injective.eq_iff
  rw [snapshots, get_set, PartialMap.put_apply]
  simp only [hsame]
  rfl

/-- With the keys as texts the store does what it does with them as pairs. -/
lemma snapshots_write (call : RecallCall) (now : ℤ) :
    (map.write call now).snapshots = call.update now map.snapshots := by
  cases call with
  | load => rfl
  | captureMessage message reason =>
      simp only [write, captureMessage, RecallCall.update, RecallCall.write, Snapshots.captureMessage]
      have hget : map.get (storageKey (snapshotKey message)) = map.snapshots (snapshotKey message) := rfl
      rw [hget]
      split_ifs
      · rfl
      · exact snapshots_set _ _
  | markDeleted message => exact snapshots_set _ _

lemma KeysMatch.set (h : map.KeysMatch) {key : ℤ × ℤ} {snapshot : AntiRecallSnapshot}
    (hkey : (snapshot.chatId, snapshot.messageId) = key) : (map.set (storageKey key) snapshot).KeysMatch := by
  rintro ⟨key', snapshot'⟩ hentry
  rcases mem_set.mp hentry with hnew | ⟨hold, -⟩
  · cases hnew
    rw [hkey]
  · exact h _ hold

lemma KeysMatch.write (h : map.KeysMatch) (call : RecallCall) (now : ℤ) : (map.write call now).KeysMatch := by
  cases call with
  | load => exact h
  | captureMessage message reason =>
      simp only [AntiRecallMap.write, captureMessage]
      split_ifs
      · exact h
      · exact h.set rfl
  | markDeleted message => exact h.set rfl

end AntiRecallMap

/-! ## Runs -/

/-- A call on the loaded store, after which the file is written, or a start of the app, which loads the file into a
fresh store. -/
inductive RecallFileEvent where
  | call (call : RecallCall) (now : ℤ)
  | restart

def AntiRecallMap.step (format : IsoFormat ℤ) (map : AntiRecallMap) : RecallFileEvent → AntiRecallMap
  | .call call now => map.write call now
  | .restart => AntiRecallMap.load format {} (map.persist format)

lemma AntiRecallMap.KeysMatch.run {map : AntiRecallMap} (h : map.KeysMatch) (format : IsoFormat ℤ)
    (es : List RecallFileEvent) : (es.foldl (step format) map).KeysMatch := by
  induction es generalizing map with
  | nil => exact h
  | cons e es ih =>
      cases e with
      | call call now => exact ih (h.write call now)
      | restart =>
          rw [List.foldl_cons, AntiRecallMap.step, load_persist]
          exact ih h

/-- **What is persisted is loaded as it was**: every snapshot by itself, and every map as a whole.  In every run the
snapshots are stored under their own keys, so that what is found of a message is a snapshot of it. -/
theorem antiRecall_round_trip (format : IsoFormat ℤ) :
    (∀ snapshot : AntiRecallSnapshot,
        AntiRecallSnapshot.fromJson format (snapshot.toJson format) = some snapshot) ∧
      (∀ map : AntiRecallMap, AntiRecallMap.load format {} (map.persist format) = map) ∧
      ∀ es : List RecallFileEvent,
        let map := es.foldl (AntiRecallMap.step format) {}
        map.KeysMatch ∧ ∀ key snapshot, map.snapshots key = some snapshot →
          (snapshot.chatId, snapshot.messageId) = key := by
  refine ⟨AntiRecallSnapshot.fromJson_toJson format, AntiRecallMap.load_persist, fun es => ?_⟩
  intro map
  have hstart : ({} : AntiRecallMap).KeysMatch := fun entry hentry => absurd hentry List.not_mem_nil
  have hmatch : map.KeysMatch := hstart.run format es
  refine ⟨hmatch, fun key snapshot hsnapshot => ?_⟩
  have hkey := hmatch _ (AntiRecallMap.get_eq_some_iff.mp hsnapshot)
  exact (storageKey_injective hkey).symm

/-- Times as decimal numbers. -/
def decimalFormat : IsoFormat ℤ where
  toIso8601String := toString
  tryParse := String.toInt?
  tryParse_toIso8601String := Int.toInt?_repr

/-- A snapshot of a group, whose id is negative, in a store that is loaded again. -/
theorem antiRecall_round_trip_group :
    let snapshot : AntiRecallSnapshot :=
      { chatId := -100, messageId := 7, content := { kind := .videoNote, preview := "Видео", fileName := some "a.mp4" }
        capturedAt := 1700000000000001, reason := .edited, editDate := some (-1) }
    let map := AntiRecallMap.set {} (storageKey (-100, 7)) snapshot
    AntiRecallMap.load decimalFormat {} (map.persist decimalFormat) = map :=
  (antiRecall_round_trip decimalFormat).2.1 _

end RioGram.Features
