import RioGram.Chats.Models
import RioGram.Core.Overlay
import RioGram.Core.Reachable

/-!
# What is downloaded by itself

TDLib has settings with the largest sizes of photos, videos and other files that are downloaded without being asked
for.  `MediaCacheManager` has them for each type of network, and takes a size of zero for no bound at all.

* `RespectsLimits` — files are within the limit, and with higher limits or smaller files no fewer are downloaded.
* `respectsLimits_iff` says for which settings it is so, and `zero_is_unlimited` has ones for which it is not.
* `shouldAutoDownload_within` — in the runs whose settings are all of these, what is downloaded is within the limits.
-/

namespace RioGram.Features

open Chats Reaching PartialMap

/-! ## Settings -/

inductive DownloadNetworkType where
  | wifi | mobile | roaming | other
deriving DecidableEq

/-- `autoDownloadSettings` of TDLib; sizes are as `tdInt` reads them. -/
structure AutoDownloadSettings where
  isAutoDownloadEnabled : Option Bool
  maxPhotoFileSize : Option ℕ
  maxVideoFileSize : Option ℕ
  maxOtherFileSize : Option ℕ
  preloadNextAudio : Option Bool
  preloadLargeVideos : Option Bool

structure AutoDownloadSettingsModel where
  networkType : DownloadNetworkType
  isEnabled : Bool
  maxPhotoBytes : ℤ
  maxVideoBytes : ℤ
  maxOtherBytes : ℤ
  preloadNextAudio : Bool := true
  preloadLargeVideo : Bool := false
deriving DecidableEq

namespace AutoDownloadSettingsModel

def mb1 : ℕ := 1024 * 1024

def mb10 : ℕ := 10 * mb1

/-- The settings with one size for all. -/
def ofSize (networkType : DownloadNetworkType) (isEnabled : Bool) (size : ℕ) : AutoDownloadSettingsModel where
  networkType := networkType
  isEnabled := isEnabled
  maxPhotoBytes := size
  maxVideoBytes := size
  maxOtherBytes := size

def defaults : DownloadNetworkType → AutoDownloadSettingsModel
  | .wifi => ofSize .wifi true mb10
  | .mobile => ofSize .mobile true mb1
  | .roaming => ofSize .roaming false 0
  | .other => ofSize .other true mb10

def fromTdlib (json : AutoDownloadSettings) (networkType : DownloadNetworkType) : AutoDownloadSettingsModel where
  networkType := networkType
  isEnabled := json.isAutoDownloadEnabled.getD true
  maxPhotoBytes := (json.maxPhotoFileSize.getD mb10 : ℕ)
  maxVideoBytes := (json.maxVideoFileSize.getD mb10 : ℕ)
  maxOtherBytes := (json.maxOtherFileSize.getD mb10 : ℕ)
  preloadNextAudio := json.preloadNextAudio.getD true
  preloadLargeVideo := json.preloadLargeVideos.getD false

def allowsMessageDownload (m : AutoDownloadSettingsModel) (kind : MessageKind) (fileSizeBytes : Option ℤ)
    (isOutgoing : Bool) : Bool :=
  if isOutgoing then true
  else if !m.isEnabled then false
  else
    let size := fileSizeBytes.getD 0
    match kind with
    | .photo | .sticker | .animation => m.maxPhotoBytes ≤ 0 || size ≤ m.maxPhotoBytes
    | .video | .videoNote => m.maxVideoBytes ≤ 0 || size ≤ m.maxVideoBytes
    | .voice | .audio | .document => m.maxOtherBytes ≤ 0 || size ≤ m.maxOtherBytes
    | _ => false

end AutoDownloadSettingsModel

open AutoDownloadSettingsModel

/-- The one of three limits that is for a kind. -/
def limitOf {α : Type*} (photo video other : α) : MessageKind → Option α
  | .photo | .sticker | .animation => some photo
  | .video | .videoNote => some video
  | .voice | .audio | .document => some other
  | _ => none

def AutoDownloadSettingsModel.limitFor (m : AutoDownloadSettingsModel) : MessageKind → Option ℤ :=
  limitOf m.maxPhotoBytes m.maxVideoBytes m.maxOtherBytes

namespace AutoDownloadSettings

variable (json : AutoDownloadSettings)

def isEnabled : Bool := json.isAutoDownloadEnabled.getD true

/-- The limit that TDLib has for a kind, if there is one; where the object has none it is ten megabytes. -/
def limitFor : MessageKind → Option ℕ :=
  limitOf (json.maxPhotoFileSize.getD mb10) (json.maxVideoFileSize.getD mb10) (json.maxOtherFileSize.getD mb10)

/-- The same, with limits that are at least as high. -/
structure Raised (raised : AutoDownloadSettings) : Prop where
  isEnabled : raised.isEnabled = json.isEnabled
  photo : json.maxPhotoFileSize.getD mb10 ≤ raised.maxPhotoFileSize.getD mb10
  video : json.maxVideoFileSize.getD mb10 ≤ raised.maxVideoFileSize.getD mb10
  other : json.maxOtherFileSize.getD mb10 ≤ raised.maxOtherFileSize.getD mb10

/-- What is downloaded of others' messages is within the limit, and still is when limits are raised or the file is
smaller. -/
structure RespectsLimits (kind : MessageKind) (size : ℕ) : Prop where
  within : ∀ network, (fromTdlib json network).allowsMessageDownload kind (some size) false = true →
    json.isEnabled ∧ ∃ limit, json.limitFor kind = some limit ∧ size ≤ limit
  monotone : ∀ network raised (smaller : ℕ), json.Raised raised → 0 < smaller → smaller ≤ size →
    (fromTdlib json network).allowsMessageDownload kind (some size) false = true →
      (fromTdlib raised network).allowsMessageDownload kind (some smaller) false = true

/-- No limit of zero for a kind is in force. -/
def Bounded (kind : MessageKind) : Prop := json.isEnabled → json.limitFor kind ≠ some 0

end AutoDownloadSettings

/-! ## When limits are respected -/

lemma limitOf_map {α β : Type*} (f : α → β) (photo video other : α) (kind : MessageKind) :
    limitOf (f photo) (f video) (f other) kind = (limitOf photo video other kind).map f := by
  cases kind <;> rfl

lemma AutoDownloadSettingsModel.limitFor_fromTdlib (json : AutoDownloadSettings) (network : DownloadNetworkType)
    (kind : MessageKind) : (fromTdlib json network).limitFor kind = (json.limitFor kind).map (Nat.cast : ℕ → ℤ) :=
  limitOf_map (Nat.cast : ℕ → ℤ) _ _ _ _

/-- A file is downloaded up to the limit for its kind, or with any size where the limit is not positive. -/
lemma AutoDownloadSettingsModel.allowsMessageDownload_iff {m : AutoDownloadSettingsModel} {kind : MessageKind}
    {size : ℤ} : m.allowsMessageDownload kind (some size) false = true ↔
      m.isEnabled ∧ ∃ limit, m.limitFor kind = some limit ∧ (limit ≤ 0 ∨ size ≤ limit) := by
  rw [allowsMessageDownload, limitFor]
  cases m.isEnabled <;> cases kind <;> simp [limitOf]

namespace AutoDownloadSettings

variable {json raised : AutoDownloadSettings} {kind : MessageKind} {limit size : ℕ}

lemma Raised.exists_limit (h : json.Raised raised) (hlimit : json.limitFor kind = some limit) :
    ∃ limit', raised.limitFor kind = some limit' ∧ limit ≤ limit' := by
  have hle := And.intro h.photo (And.intro h.video h.other)
  rw [limitFor] at hlimit ⊢
  cases kind <;> simp_all [limitOf]

/-- The same for the settings of TDLib. -/
lemma allows_iff {network : DownloadNetworkType} :
    (fromTdlib json network).allowsMessageDownload kind (some size) false = true ↔
      json.isEnabled ∧ ∃ limit, json.limitFor kind = some limit ∧ (limit = 0 ∨ size ≤ limit) := by
  rw [allowsMessageDownload_iff, limitFor_fromTdlib]
  cases json.limitFor kind with
  | none => simp
  | some limit => simp [isEnabled, fromTdlib]

/-- **When limits are respected**: a limit of zero is taken for none. -/
theorem respectsLimits_iff (json : AutoDownloadSettings) (kind : MessageKind) (size : ℕ) (h : 0 < size) :
    json.RespectsLimits kind size ↔ json.Bounded kind := by
  constructor
  · intro hrespects henabled hzero
    have hallows : (fromTdlib json .other).allowsMessageDownload kind (some size) false = true :=
      allows_iff.mpr ⟨henabled, 0, hzero, .inl rfl⟩
    rcases (hrespects.within .other hallows).2 with ⟨limit, hlimit, hle⟩
    rw [hzero, Option.some.injEq] at hlimit
    omega
  · intro hbounded
    have hwithin : ∀ network, (fromTdlib json network).allowsMessageDownload kind (some size) false = true →
        json.isEnabled ∧ ∃ limit, json.limitFor kind = some limit ∧ size ≤ limit := by
      intro network hallows
      rcases allows_iff.mp hallows with ⟨henabled, limit, hlimit, rfl | hle⟩
      · exact absurd hlimit (hbounded henabled)
      · exact ⟨henabled, limit, hlimit, hle⟩
    refine ⟨hwithin, ?_⟩
    intro network raised smaller hraised _ hsmaller hallows
    rcases hwithin network hallows with ⟨henabled, limit, hlimit, hle⟩
    rcases hraised.exists_limit hlimit with ⟨limit', hlimit', hle'⟩
    rw [← hraised.isEnabled] at henabled
    exact allows_iff.mpr ⟨henabled, limit', hlimit', .inr (by omega)⟩

/-- Settings that allow photos of a megabyte, and nothing else. -/
def onlyPhotos : AutoDownloadSettings where
  isAutoDownloadEnabled := some true
  maxPhotoFileSize := some 1048576
  maxVideoFileSize := some 0
  maxOtherFileSize := some 0
  preloadNextAudio := some false
  preloadLargeVideos := some false

theorem respectsLimits_onlyPhotos : 0 < 500 ∧ onlyPhotos.Bounded .photo ∧ onlyPhotos.RespectsLimits .photo 500 := by
  have hbounded : onlyPhotos.Bounded .photo := by
    intro _ hzero
    exact absurd hzero (by decide)
  exact ⟨by decide, hbounded, (respectsLimits_iff onlyPhotos .photo 500 (by decide)).mpr hbounded⟩

/-- Videos are downloaded whole, and with a limit of a megabyte they are not any more. -/
theorem zero_is_unlimited :
    let raised := { onlyPhotos with maxVideoFileSize := some 1048576 }
    (fromTdlib onlyPhotos .roaming).allowsMessageDownload .video (some 2000000000) false = true ∧
      (fromTdlib raised .roaming).allowsMessageDownload .video (some 2000000000) false = false ∧
      ¬onlyPhotos.RespectsLimits .video 2000000000 := by
  refine ⟨by decide, by decide, fun h => ?_⟩
  rcases (h.within .roaming (by decide)).2 with ⟨limit, hlimit, hle⟩
  cases hlimit
  exact absurd hle (by decide)

end AutoDownloadSettings

/-! ## The manager -/

/-- `autoDownloadSettingsPresets` of TDLib. -/
structure AutoDownloadSettingsPresets where
  low : Option AutoDownloadSettings
  medium : Option AutoDownloadSettings
  high : Option AutoDownloadSettings

structure MediaCacheManager where
  currentNetwork : DownloadNetworkType := .other
  autoDownload : DownloadNetworkType → Option AutoDownloadSettingsModel := PartialMap.empty

/-- What is looked at of a message. -/
structure MediaMessage where
  mediaFileId : Option ℤ
  kind : MessageKind
  fileSizeBytes : Option ℤ
  isOutgoing : Bool

inductive MediaCacheEvent where
  | startListening
  | connectivity (network : DownloadNetworkType)
  | saveAutoDownloadSettings (settings : AutoDownloadSettingsModel)
  | autoDownloadSettingsPresets (presets : AutoDownloadSettingsPresets)

namespace MediaCacheManager

variable (m : MediaCacheManager)

def settingsFor (type : DownloadNetworkType) : AutoDownloadSettingsModel :=
  (m.autoDownload type).getD (AutoDownloadSettingsModel.defaults type)

def currentAutoDownloadSettings : AutoDownloadSettingsModel := m.settingsFor m.currentNetwork

def initializeDefaultSettings : MediaCacheManager :=
  { m with autoDownload := fun type => some (m.settingsFor type) }

def saveAutoDownloadSettings (settings : AutoDownloadSettingsModel) : MediaCacheManager :=
  { m with autoDownload := put settings.networkType settings m.autoDownload }

def applyPreset (preset : Option AutoDownloadSettings) (network : DownloadNetworkType) : MediaCacheManager :=
  preset.elim m fun preset => { m with autoDownload := put network (fromTdlib preset network) m.autoDownload }

def handlePresets (presets : AutoDownloadSettingsPresets) : MediaCacheManager :=
  (((m.applyPreset presets.low .roaming).applyPreset presets.medium .mobile).applyPreset presets.high .wifi).applyPreset
    presets.high .other

def shouldAutoDownload (message : MediaMessage) : Bool :=
  message.mediaFileId.isSome &&
    m.currentAutoDownloadSettings.allowsMessageDownload message.kind message.fileSizeBytes message.isOutgoing

def step (m : MediaCacheManager) : MediaCacheEvent → MediaCacheManager
  | .startListening => m.initializeDefaultSettings
  | .connectivity network => { m with currentNetwork := network }
  | .saveAutoDownloadSettings settings => m.saveAutoDownloadSettings settings
  | .autoDownloadSettingsPresets presets => m.handlePresets presets

end MediaCacheManager

/-! ## Runs -/

/-- No limit that is in force is zero or less. -/
def AutoDownloadSettingsModel.Bounded (m : AutoDownloadSettingsModel) : Prop :=
  m.isEnabled → ∀ kind limit, m.limitFor kind = some limit → 0 < limit

lemma AutoDownloadSettingsModel.bounded_defaults (type : DownloadNetworkType) : (defaults type).Bounded := by
  intro henabled kind limit hlimit
  cases type <;> cases kind <;> cases hlimit <;> first | decide | cases henabled

lemma AutoDownloadSettings.bounded_fromTdlib {json : AutoDownloadSettings} (h : ∀ kind, json.Bounded kind)
    (network : DownloadNetworkType) : (fromTdlib json network).Bounded := by
  intro henabled kind limit hlimit
  rw [limitFor_fromTdlib, Option.map_eq_some_iff] at hlimit
  rcases hlimit with ⟨size, hsize, rfl⟩
  refine Int.natCast_pos.mpr (Nat.pos_of_ne_zero ?_)
  rintro rfl
  exact h kind henabled hsize

namespace MediaCacheManager

variable {m : MediaCacheManager}

/-- All settings of the manager are bounded. -/
def Bounded (m : MediaCacheManager) : Prop := ∀ type, (m.settingsFor type).Bounded

/-- What is saved and what comes from TDLib is. -/
def BringsBounded : MediaCacheEvent → Prop
  | .saveAutoDownloadSettings settings => settings.Bounded
  | .autoDownloadSettingsPresets presets =>
      ∀ preset ∈ [presets.low, presets.medium, presets.high], ∀ json, preset = some json → ∀ kind, json.Bounded kind
  | _ => True

lemma Bounded.put (h : m.Bounded) {settings : AutoDownloadSettingsModel} (hsettings : settings.Bounded)
    (network : DownloadNetworkType) :
    ({ m with autoDownload := put network settings m.autoDownload } : MediaCacheManager).Bounded := by
  intro type
  by_cases htype : type = network
  · subst htype
    simp only [settingsFor, put_self, Option.getD_some]
    exact hsettings
  · simp only [settingsFor, put_of_ne htype]
    exact h type

lemma Bounded.applyPreset (h : m.Bounded) {preset : Option AutoDownloadSettings}
    (hpreset : ∀ json, preset = some json → ∀ kind, json.Bounded kind) (network : DownloadNetworkType) :
    (m.applyPreset preset network).Bounded := by
  cases preset with
  | none => exact h
  | some json => exact h.put (AutoDownloadSettings.bounded_fromTdlib (hpreset json rfl) network) network

lemma Bounded.step (h : m.Bounded) {e : MediaCacheEvent} (he : BringsBounded e) : (m.step e).Bounded := by
  cases e with
  | startListening => exact h
  | connectivity network => exact h
  | saveAutoDownloadSettings settings => exact h.put he settings.networkType
  | autoDownloadSettingsPresets presets =>
      simp only [BringsBounded, List.forall_mem_cons] at he
      rcases he with ⟨hlow, hmedium, hhigh, -⟩
      have hwifi := ((h.applyPreset hlow .roaming).applyPreset hmedium .mobile).applyPreset hhigh .wifi
      exact hwifi.applyPreset hhigh .other

/-- **What is downloaded by itself is within the limit in force**, in every run without limits of zero. -/
theorem shouldAutoDownload_within (h : Reachable MediaCacheManager.step (fun _ e => BringsBounded e) {} m)
    {message : MediaMessage} {size : ℤ} (hsize : message.fileSizeBytes = some size)
    (hincoming : message.isOutgoing = false) (hshould : m.shouldAutoDownload message = true) :
    m.currentAutoDownloadSettings.isEnabled ∧
      ∃ limit, m.currentAutoDownloadSettings.limitFor message.kind = some limit ∧ size ≤ limit := by
  have hbounded : m.Bounded := h.invariant bounded_defaults fun _ _ hs he => hs.step he
  rw [shouldAutoDownload, hsize, hincoming, Bool.and_eq_true, allowsMessageDownload_iff] at hshould
  rcases hshould.2 with ⟨henabled, limit, hlimit, hzero | hle⟩
  · have hpos := hbounded _ henabled message.kind limit hlimit
    omega
  · exact ⟨henabled, limit, hlimit, hle⟩

end MediaCacheManager

end RioGram.Features
