import RioGram.Chats.Updates
import RioGram.Core.Overlay
import RioGram.Core.Reachable

/-!
# The avatars of the chats

A chat has the id of the file of its photo and, once that file is there, its path.  They come with a chat, with
`updateChatPhoto` and, the path alone, with `updateFile`; each of the two stays where nothing comes for it.
`ChatPhotos` has, next to the manager, the avatars and all paths that TDLib has reported of a file.

* `forall_photosRight_iff`: the runs in which every path that is shown was reported for the file of the photo, and
  none is shown of a photo that was removed.
* `removed_photo_shown` and `changed_photo_shown` are runs in which this is not so.
-/

namespace RioGram.Chats

open PartialMap Reaching

/-! ## Photos -/

/-- A file of a photo. -/
structure PhotoFile where
  id : ℤ
  localPath : Option String := none
  isDownloadingCompleted : Bool := false
deriving DecidableEq

/-- A `chatPhotoInfo` of TDLib. -/
structure ChatPhoto where
  big : Option PhotoFile := none
  small : Option PhotoFile := none
deriving DecidableEq

/-- The `avatarFileId` and the `avatarLocalPath` of a chat. -/
structure ChatAvatar where
  fileId : Option ℤ := none
  localPath : Option String := none
deriving DecidableEq

def parseAvatar (photo : Option ChatPhoto) : ChatAvatar :=
  match photo with
  | none => {}
  | some photo =>
      match photo.big <|> photo.small with
      | none => {}
      | some file =>
          { fileId := some file.id
            localPath := if file.isDownloadingCompleted then file.localPath else none }

/-- What is missing stays. -/
def ChatAvatar.copyWith (avatar new : ChatAvatar) : ChatAvatar where
  fileId := new.fileId <|> avatar.fileId
  localPath := new.localPath <|> avatar.localPath

/-- The path that is reported for a file, once all of it is there. -/
def reportedPath (id : ℤ) (localPath : Option String) (isDownloadingCompleted : Bool) : List (ℤ × String) :=
  if isDownloadingCompleted then (localPath.map fun path => (id, path)).toList else []

def PhotoFile.reports (file : PhotoFile) : List (ℤ × String) :=
  reportedPath file.id file.localPath file.isDownloadingCompleted

def ChatPhoto.reports (photo : ChatPhoto) : List (ℤ × String) :=
  photo.big.elim [] PhotoFile.reports ++ photo.small.elim [] PhotoFile.reports

/-- The path of an avatar was reported for its file. -/
def ChatAvatar.PairedIn (avatar : ChatAvatar) (reported : List (ℤ × String)) : Prop :=
  ∀ path, avatar.localPath = some path → ∃ fileId, avatar.fileId = some fileId ∧ (fileId, path) ∈ reported

/-- The path of the avatar stays only with a file that it was reported for. -/
def ChatAvatar.StaysWith (avatar new : ChatAvatar) (reported : List (ℤ × String)) : Prop :=
  ∀ fileId path, new.fileId = some fileId → new.localPath = none → avatar.localPath = some path →
    (fileId, path) ∈ reported

/-! ## The manager -/

structure ChatPhotos where
  manager : Manager := {}
  avatars : ℤ → ChatAvatar := fun _ => {}
  /-- The paths that TDLib has reported, each with its file. -/
  reported : List (ℤ × String) := []

inductive PhotoEvent where
  | chatPhoto (chatId : Option ℤ) (photo : Option ChatPhoto)
  /-- An event of the manager, with the photo of the chat that comes with it. -/
  | manager (e : Event) (photo : Option ChatPhoto)

def PhotoEvent.reports : PhotoEvent → List (ℤ × String)
  | .chatPhoto _ photo => photo.elim [] ChatPhoto.reports
  | .manager (.update (.newChat _)) photo | .manager (.update (.chat _)) photo => photo.elim [] ChatPhoto.reports
  | .manager (.update (.file file)) _ => reportedPath file.id file.localPath file.isDownloadingCompleted
  | .manager _ _ => []

namespace ChatPhotos

variable (P : Platform) (r : ChatPhotos)

def hasChat (chatId : ℤ) : Bool := (r.manager.chatsById chatId).isSome

def setAvatar (chatId : ℤ) (avatar : ChatAvatar) : ChatPhotos :=
  { r with avatars := Function.update r.avatars chatId avatar }

def handleChatPhoto (chatId : Option ℤ) (photo : Option ChatPhoto) : ChatPhotos :=
  match chatId, photo with
  | some chatId, some photo =>
      if r.hasChat chatId then r.setAvatar chatId ((r.avatars chatId).copyWith (parseAvatar (some photo))) else r
  | _, _ => r

def upsertChat (raw : RawChat) (photo : Option ChatPhoto) : ChatPhotos :=
  let avatar := parseAvatar photo
  { r with manager := r.manager.handleChat P raw }.setAvatar raw.id
    (if r.hasChat raw.id then (r.avatars raw.id).copyWith avatar else avatar)

def handleFileUpdate (file : RawFile) : ChatPhotos :=
  let hasLocalPath := file.isDownloadingCompleted && file.localPath.any (· ≠ "")
  { r with
    manager := r.manager.handleFileUpdate file
    avatars := fun chatId =>
      let avatar := r.avatars chatId
      if hasLocalPath && r.hasChat chatId && avatar.fileId == some file.id then
        avatar.copyWith { localPath := file.localPath }
      else avatar }

/-- What an event does to the manager and to the avatars. -/
def handle : PhotoEvent → ChatPhotos
  | .chatPhoto chatId photo => r.handleChatPhoto chatId photo
  | .manager (.update (.newChat raw)) photo | .manager (.update (.chat raw)) photo => r.upsertChat P raw photo
  | .manager (.update (.file file)) _ => r.handleFileUpdate file
  | .manager e _ => { r with manager := r.manager.step P e }

def step (e : PhotoEvent) : ChatPhotos :=
  { r.handle P e with reported := r.reported ++ e.reports }

/-- Every path that is shown was reported for the file of the photo. -/
def Paired : Prop := ∀ chatId, (r.avatars chatId).PairedIn r.reported

end ChatPhotos

/-- The chat whose photo the event removes. -/
def PhotoEvent.removes : PhotoEvent → Option ℤ
  | .chatPhoto chatId none => chatId
  | _ => none

namespace ChatPhotos

variable (P : Platform) (r : ChatPhotos)

/-- After the event every path is the right one, and a chat whose photo it removes has none. -/
def PhotosRight (e : PhotoEvent) : Prop :=
  (r.step P e).Paired ∧
    ∀ chatId, e.removes = some chatId → r.hasChat chatId → (r.step P e).avatars chatId = {}

/-- A photo is removed of a chat that has none; and where a photo comes for a chat that has a path, its file is
there, too, or it is one that the path was reported for. -/
def PhotosFit : PhotoEvent → Prop
  | .chatPhoto (some chatId) none => r.hasChat chatId → r.avatars chatId = {}
  | .chatPhoto (some chatId) (some photo) =>
      r.hasChat chatId →
        (r.avatars chatId).StaysWith (parseAvatar (some photo)) (r.reported ++ photo.reports)
  | .manager (.update (.newChat raw)) photo | .manager (.update (.chat raw)) photo =>
      r.hasChat raw.id →
        (r.avatars raw.id).StaysWith (parseAvatar photo) (r.reported ++ photo.elim [] ChatPhoto.reports)
  | _ => True

end ChatPhotos

/-! ## Pairs -/

section Pairs

variable {avatar new : ChatAvatar} {reported more : List (ℤ × String)} {photo : Option ChatPhoto}

lemma ChatAvatar.PairedIn.append (h : avatar.PairedIn reported) (more : List (ℤ × String)) :
    avatar.PairedIn (reported ++ more) := by
  intro path hpath
  rcases h path hpath with ⟨fileId, hfile, hmem⟩
  exact ⟨fileId, hfile, List.mem_append_left _ hmem⟩

lemma mem_reportedPath {id : ℤ} {localPath : Option String} {path : String} (h : localPath = some path) :
    (id, path) ∈ reportedPath id localPath true := by
  simp [reportedPath, h]

/-- What a photo brings is reported with it. -/
lemma parseAvatar_pairedIn (photo : Option ChatPhoto) (reported : List (ℤ × String)) :
    (parseAvatar photo).PairedIn (reported ++ photo.elim [] ChatPhoto.reports) := by
  intro path hpath
  rw [parseAvatar.eq_def] at hpath ⊢
  split at hpath
  · cases hpath
  · rename_i photo
    cases hfile : photo.big <|> photo.small with
    | none => simp [hfile] at hpath
    | some file =>
        simp only [hfile] at hpath ⊢
        split_ifs at hpath with hcompleted
        · refine ⟨file.id, rfl, List.mem_append_right _ ?_⟩
          have hmem : (file.id, path) ∈ file.reports := by
            rw [PhotoFile.reports, hcompleted]
            exact mem_reportedPath hpath
          rw [Option.elim_some, ChatPhoto.reports, List.mem_append]
          cases hbig : photo.big with
          | none =>
              rw [hbig] at hfile
              right
              rw [show photo.small = some file from hfile]
              exact hmem
          | some big =>
              rw [hbig] at hfile
              cases hfile
              exact .inl hmem

/-- An avatar that is changed has a path of its file exactly if the old path does not stay with another file. -/
lemma copyWith_pairedIn_iff (hold : avatar.PairedIn reported) (hnew : new.PairedIn reported) :
    (avatar.copyWith new).PairedIn reported ↔ avatar.StaysWith new reported := by
  rcases new with ⟨fileId, localPath⟩
  cases localPath with
  | some path =>
      refine iff_of_true ?_ fun _ _ _ hnone => by cases hnone
      intro path' hpath'
      rcases hnew path rfl with ⟨fileId', hfile', hmem⟩
      cases hfile'
      cases hpath'
      exact ⟨fileId', rfl, hmem⟩
  | none =>
      cases fileId with
      | none => exact iff_of_true hold fun _ _ hnone => by cases hnone
      | some fileId =>
          constructor
          · intro h fileId' path hfile' _ hpath
            cases hfile'
            rcases h path hpath with ⟨fileId', hfile', hmem⟩
            cases hfile'
            exact hmem
          · intro h path hpath
            exact ⟨fileId, rfl, h fileId path rfl rfl hpath⟩

end Pairs

/-! ## Steps -/

namespace ChatPhotos

variable {P : Platform} {r : ChatPhotos}

lemma paired_setAvatar_iff (h : r.Paired) {chatId : ℤ} {avatar : ChatAvatar} {more : List (ℤ × String)} :
    (∀ i, (Function.update r.avatars chatId avatar i).PairedIn (r.reported ++ more)) ↔
      avatar.PairedIn (r.reported ++ more) := by
  constructor
  · intro hall
    have hself := hall chatId
    rwa [Function.update_self] at hself
  · intro hself i
    by_cases hi : i = chatId
    · rw [hi, Function.update_self]
      exact hself
    · rw [Function.update_of_ne hi]
      exact (h i).append more

lemma upsertChat_paired_iff (h : r.Paired) (raw : RawChat) (photo : Option ChatPhoto) :
    (∀ i, ((r.upsertChat P raw photo).avatars i).PairedIn (r.reported ++ photo.elim [] ChatPhoto.reports)) ↔
      (r.hasChat raw.id →
        (r.avatars raw.id).StaysWith (parseAvatar photo) (r.reported ++ photo.elim [] ChatPhoto.reports)) := by
  have hnew := parseAvatar_pairedIn photo r.reported
  refine (paired_setAvatar_iff h).trans ?_
  split_ifs with hknown
  · rw [copyWith_pairedIn_iff ((h raw.id).append _) hnew]
    simp [hknown]
  · simp [hknown, hnew]

lemma handleFileUpdate_paired (h : r.Paired) (file : RawFile) (i : ℤ) :
    ((r.handleFileUpdate file).avatars i).PairedIn
      (r.reported ++ reportedPath file.id file.localPath file.isDownloadingCompleted) := by
  simp only [handleFileUpdate]
  split_ifs with hfile
  · simp only [Bool.and_eq_true, beq_iff_eq] at hfile
    intro path hpath
    refine ⟨file.id, hfile.2, List.mem_append_right _ ?_⟩
    rw [hfile.1.1.1]
    refine mem_reportedPath ?_
    rcases Option.any_eq_true_iff_get _ _ |>.mp hfile.1.1.2 with ⟨hsome, -⟩
    rcases Option.isSome_iff_exists.mp hsome with ⟨path', hpath'⟩
    rw [ChatAvatar.copyWith, hpath'] at hpath
    rw [hpath']
    exact hpath
  · exact (h i).append _

/-- The photo of a known chat is changed. -/
lemma handleChatPhoto_paired_iff (h : r.Paired) (chatId : ℤ) (photo : ChatPhoto) :
    (∀ i, ((r.handleChatPhoto (some chatId) (some photo)).avatars i).PairedIn (r.reported ++ photo.reports)) ↔
      (r.hasChat chatId →
        (r.avatars chatId).StaysWith (parseAvatar (some photo)) (r.reported ++ photo.reports)) := by
  have hnew : (parseAvatar (some photo)).PairedIn (r.reported ++ photo.reports) :=
    parseAvatar_pairedIn (some photo) r.reported
  simp only [handleChatPhoto]
  split_ifs with hknown
  · refine (paired_setAvatar_iff h).trans ?_
    rw [copyWith_pairedIn_iff ((h chatId).append _) hnew]
    simp [hknown]
  · simp only [hknown, Bool.false_eq_true, false_imp_iff, iff_true]
    exact fun i => (h i).append _

lemma photosRight_of_avatars (h : r.Paired) {e : PhotoEvent} (hremoves : e.removes = none)
    (havatars : (r.handle P e).avatars = r.avatars) : r.PhotosRight P e := by
  refine ⟨fun i => ?_, fun i hi => ?_⟩
  · rw [step, havatars]
    exact (h i).append _
  · rw [hremoves] at hi
    cases hi

/-- Where the paths are right an event keeps them so, and removes a photo that it is to remove, exactly if the
photo that it brings fits. -/
lemma step_photosRight_iff (h : r.Paired) (e : PhotoEvent) : r.PhotosRight P e ↔ r.PhotosFit e := by
  cases e with
  | chatPhoto chatId photo =>
      cases chatId with
      | none => exact iff_of_true (photosRight_of_avatars h (by cases photo <;> rfl) rfl) trivial
      | some chatId =>
          cases photo with
          | none =>
              have hsame : (r.step P (.chatPhoto (some chatId) none)).avatars = r.avatars := rfl
              constructor
              · intro hright hknown
                rw [← hsame]
                exact hright.2 chatId rfl hknown
              · intro hfit
                refine ⟨fun i => (h i).append _, fun i hi hknown => ?_⟩
                cases hi
                rw [hsame]
                exact hfit hknown
          | some photo =>
              refine Iff.trans ?_ (handleChatPhoto_paired_iff h chatId photo)
              exact and_iff_left fun i hi => by cases hi
  | manager e photo =>
      cases e with
      | update update =>
          cases update with
          | newChat raw =>
              exact (and_iff_left fun i hi => by cases hi).trans (upsertChat_paired_iff h raw photo)
          | chat raw =>
              exact (and_iff_left fun i hi => by cases hi).trans (upsertChat_paired_iff h raw photo)
          | file file =>
              refine iff_of_true ⟨fun i => handleFileUpdate_paired h file i, fun i hi => ?_⟩ trivial
              cases hi
          | _ => exact iff_of_true (photosRight_of_avatars h rfl rfl) trivial
      | _ => exact iff_of_true (photosRight_of_avatars h rfl rfl) trivial

/-! ## Runs -/

/-- **What is shown of a photo is its file**: in every state of a run every path was reported for the file of the
photo, and no path or file is left of a photo that was removed, exactly if photos are removed only of chats without
one, and photos whose files are not there come only for chats without a path or with one that was reported for
that file. -/
theorem forall_photosRight_iff (P : Platform) (es : List PhotoEvent) :
    Meets (step P) (PhotosRight P) {} es ↔ Meets (step P) PhotosFit {} es := by
  refine meets_iff_meets (I := Paired) (fun r e h => step_photosRight_iff h e) (fun r e _ hright => hright.1) ?_ es
  intro chatId path hpath
  cases hpath

/-- The chat comes with a photo, whose file is there. -/
def withPhoto : PhotoEvent :=
  .manager (.update (.newChat { id := 1, title := "Chat" }))
    (some { small := some { id := 5, localPath := some "a.jpg", isDownloadingCompleted := true } })

/-- **A photo is shown that was removed**, with its file. -/
theorem removed_photo_shown :
    ¬Meets (step .plain) (PhotosRight .plain) {} [withPhoto, .chatPhoto (some 1) none] := by
  rintro ⟨-, ⟨-, hremoved⟩, -⟩
  exact absurd (hremoved 1 rfl rfl) (by decide)

/-- **A photo is shown with the file of the one before**: the file of the new one is not there yet. -/
theorem changed_photo_shown :
    let r := [withPhoto, .chatPhoto (some 1) (some { small := some { id := 6 } })].foldl (step .plain) {}
    r.avatars 1 = { fileId := some 6, localPath := some "a.jpg" } ∧ r.reported = [(5, "a.jpg")] := by
  decide

end ChatPhotos

end RioGram.Chats
