import RioGram.Core.Reachable
import RioGram.Js.Strings

/-!
# The lock of the app

`AppLockManager` keeps the hash of a passcode, whether biometrics may be used, and after how many minutes the app
locks itself, both in memory and in the preferences, from which it loads them at a start.  Its operations come one
after the other, with the answers of the biometric hardware among their arguments; times are in microseconds.  The
hash function is that of a package, `sha256`.

* `Session.step_change` — what a step can do.
* `Session.leaves_to_owner_iff` — in which runs only the owner opens the app, and `Session.opened_by_another`.
* `consistent_iff` — in which runs memory, preferences and timer agree, and `inconsistent`.
-/

namespace RioGram.Security

open Js Reaching Wire

/-! ## The manager -/

/-- What is kept under `riogram_app_passcode_hash`, `riogram_app_biometrics_enabled` and
`riogram_app_auto_lock_minutes`. -/
structure Preferences where
  passcodeHash : Option Str := none
  biometricsEnabled : Option Bool := none
  autoLockMinutes : Option ℤ := none
deriving DecidableEq

/-- The manager, with the preferences on the device.  Of the timer it is kept whether it is running. -/
structure AppLockManager where
  prefs : Preferences
  isLoaded : Bool := false
  isLocked : Bool := false
  passcodeEnabled : Bool := false
  biometricsEnabled : Bool := false
  autoLockMinutes : ℤ := 0
  lastActivityAt : Option ℤ := none
  autoLockTimer : Bool := false
deriving DecidableEq

/-- `Digest.toString`. -/
def hexEncode (bytes : Bytes) : Str := bytes.flatMap fun b => [hexDigit (b.toNat / 16), hexDigit (b.toNat % 16)]

namespace AppLockManager

section Hash

variable (sha256 : Bytes → Vector UInt8 32)

def hash (passcode : Str) : Str := hexEncode (sha256 (encodeUtf8 (ascii "riogram:" ++ passcode))).toList

def restartAutoLockTimer (lock : AppLockManager) : AppLockManager :=
  { lock with autoLockTimer := !(!lock.passcodeEnabled || lock.autoLockMinutes ≤ 0) }

def load (lock : AppLockManager) : AppLockManager :=
  let passcodeEnabled := (lock.prefs.passcodeHash.map fun stored => !stored.isEmpty).getD false
  restartAutoLockTimer { lock with
    passcodeEnabled
    biometricsEnabled := lock.prefs.biometricsEnabled.getD false
    autoLockMinutes := lock.prefs.autoLockMinutes.getD 0
    isLocked := passcodeEnabled
    isLoaded := true }

/-- The app is started again: a new manager loads what the old one has kept. -/
def restart (lock : AppLockManager) : AppLockManager := load { prefs := lock.prefs }

def canUseBiometrics (lock : AppLockManager) : Bool := lock.biometricsEnabled && lock.passcodeEnabled

def recordActivity (lock : AppLockManager) (now : ℤ) : AppLockManager :=
  let lock := { lock with lastActivityAt := some now }
  if lock.isLocked then lock else restartAutoLockTimer lock

def setPasscode (lock : AppLockManager) (passcode : Str) : Bool × AppLockManager :=
  if passcode.length < 4 then (false, lock)
  else
    (true, { lock with
      prefs := { lock.prefs with passcodeHash := some (hash sha256 passcode) }
      passcodeEnabled := true
      isLocked := false })

def verifyPasscodeAsync (lock : AppLockManager) (passcode : Str) : Bool :=
  match lock.prefs.passcodeHash with
  | none => true
  | some stored => stored.isEmpty || stored = hash sha256 passcode

def removePasscode (lock : AppLockManager) (currentPasscode : Str) : AppLockManager :=
  if verifyPasscodeAsync sha256 lock currentPasscode then
    { lock with
      prefs := { lock.prefs with passcodeHash := none, biometricsEnabled := some false }
      passcodeEnabled := false
      biometricsEnabled := false
      isLocked := false
      autoLockTimer := false }
  else lock

def unlockWithPasscode (lock : AppLockManager) (passcode : Str) (now : ℤ) : Bool × AppLockManager :=
  if verifyPasscodeAsync sha256 lock passcode then (true, recordActivity { lock with isLocked := false } now)
  else (false, lock)

/-- The answers of the hardware are `none` where it throws. -/
def unlockWithBiometrics (lock : AppLockManager) (canCheck authenticated : Option Bool) (now : ℤ) :
    Bool × AppLockManager :=
  if !lock.biometricsEnabled || !lock.passcodeEnabled then (false, lock)
  else if canCheck = some true ∧ authenticated = some true then
    (true, recordActivity { lock with isLocked := false } now)
  else (false, lock)

def setBiometricsEnabled (lock : AppLockManager) (enabled : Bool) (canCheck : Option Bool) : AppLockManager :=
  if enabled ∧ canCheck ≠ some true then lock
  else
    { lock with
      prefs := { lock.prefs with biometricsEnabled := some enabled }
      biometricsEnabled := enabled && lock.passcodeEnabled }

def setAutoLockMinutes (lock : AppLockManager) (minutes : ℤ) : AppLockManager :=
  restartAutoLockTimer { lock with
    autoLockMinutes := minutes
    prefs := { lock.prefs with autoLockMinutes := some minutes } }

def lockNow (lock : AppLockManager) : AppLockManager :=
  if lock.passcodeEnabled then { lock with isLocked := true } else lock

/-- The timer, if it is running, after its 15 seconds. -/
def tick (lock : AppLockManager) (now : ℤ) : AppLockManager :=
  match lock.lastActivityAt with
  | none => lock
  | some last =>
      if !lock.autoLockTimer || lock.isLocked || !lock.passcodeEnabled then lock
      else if lock.autoLockMinutes ≤ (now - last).tdiv 60000000 then { lock with isLocked := true }
      else lock

/-! ### Runs -/

inductive Operation where
  | restart
  | recordActivity (now : ℤ)
  | setPasscode (passcode : Str)
  | removePasscode (currentPasscode : Str)
  | unlockWithPasscode (passcode : Str) (now : ℤ)
  | unlockWithBiometrics (canCheck authenticated : Option Bool) (now : ℤ)
  | setBiometricsEnabled (enabled : Bool) (canCheck : Option Bool)
  | setAutoLockMinutes (minutes : ℤ)
  | lockNow
  | tick (now : ℤ)

def step (lock : AppLockManager) : Operation → AppLockManager
  | .restart => lock.restart
  | .recordActivity now => lock.recordActivity now
  | .setPasscode passcode => (setPasscode sha256 lock passcode).2
  | .removePasscode currentPasscode => removePasscode sha256 lock currentPasscode
  | .unlockWithPasscode passcode now => (unlockWithPasscode sha256 lock passcode now).2
  | .unlockWithBiometrics canCheck authenticated now => (lock.unlockWithBiometrics canCheck authenticated now).2
  | .setBiometricsEnabled enabled canCheck => lock.setBiometricsEnabled enabled canCheck
  | .setAutoLockMinutes minutes => lock.setAutoLockMinutes minutes
  | .lockNow => lock.lockNow
  | .tick now => lock.tick now

/-- The first start, with nothing kept. -/
def firstStart : AppLockManager := restart { prefs := {} }

end Hash

variable {sha256 : Bytes → Vector UInt8 32} {lock : AppLockManager}

lemma hash_ne_nil (sha256 : Bytes → Vector UInt8 32) (passcode : Str) : hash sha256 passcode ≠ [] := by
  have hbytes : (sha256 (encodeUtf8 (ascii "riogram:" ++ passcode))).toList ≠ [] := by
    rw [← List.length_pos_iff, Vector.length_toList]
    decide
  rcases List.exists_cons_of_ne_nil hbytes with ⟨b, bytes, hcons⟩
  rw [hash, hexEncode, hcons]
  exact List.cons_ne_nil _ _

/-- The timer is to run. -/
def timerIsDue (lock : AppLockManager) : Bool := lock.passcodeEnabled && decide (0 < lock.autoLockMinutes)

lemma autoLockTimer_restartAutoLockTimer (lock : AppLockManager) :
    lock.restartAutoLockTimer.autoLockTimer = lock.timerIsDue := by
  rw [restartAutoLockTimer, timerIsDue]
  simp only [Bool.not_or, Bool.not_not, ← decide_not, not_le]

/-! ## Sessions -/

/-- The manager, with whether the last choice of its user about biometrics was to use them, and that while there
was a passcode. -/
structure Session where
  lock : AppLockManager
  consented : Bool := false

namespace Session

variable (sha256) in
def step (s : Session) (op : Operation) : Session where
  lock := s.lock.step sha256 op
  consented :=
    match op with
    | .setBiometricsEnabled enabled canCheck =>
        if enabled ∧ canCheck ≠ some true then s.consented else enabled && s.lock.passcodeEnabled
    | .removePasscode currentPasscode => !verifyPasscodeAsync sha256 s.lock currentPasscode && s.consented
    | _ => s.consented

def firstStart : Session := { lock := AppLockManager.firstStart }

/-- The operation is not refused, and changes a setting other than the minutes. -/
def Sets : Operation → Prop
  | .setPasscode passcode => 4 ≤ passcode.length
  | .setBiometricsEnabled enabled canCheck => enabled → canCheck = some true
  | _ => False

/-- The settings are the same, and the timer is as it was or as it is to be. -/
structure Same (s s' : Session) : Prop where
  prefs : s'.lock.prefs = s.lock.prefs
  passcodeEnabled : s'.lock.passcodeEnabled = s.lock.passcodeEnabled
  biometricsEnabled : s'.lock.biometricsEnabled = s.lock.biometricsEnabled
  autoLockMinutes : s'.lock.autoLockMinutes = s.lock.autoLockMinutes
  timer : s'.lock.autoLockTimer = s.lock.autoLockTimer ∨ s'.lock.autoLockTimer = s.lock.timerIsDue
  consented : s'.consented = s.consented

variable (sha256) in
/-- What an operation can do. -/
inductive Change (s : Session) : Operation → Session → Prop
  | restart : Change s .restart { s with lock := s.lock.restart }
  | setPasscode {passcode : Str} (hlength : 4 ≤ passcode.length) :
      Change s (.setPasscode passcode) { s with lock := { s.lock with
        prefs := { s.lock.prefs with passcodeHash := some (hash sha256 passcode) }
        passcodeEnabled := true
        isLocked := false } }
  | removePasscode {currentPasscode : Str} (hverified : verifyPasscodeAsync sha256 s.lock currentPasscode) :
      Change s (.removePasscode currentPasscode) { consented := false, lock := { s.lock with
        prefs := { s.lock.prefs with passcodeHash := none, biometricsEnabled := some false }
        passcodeEnabled := false
        biometricsEnabled := false
        isLocked := false
        autoLockTimer := false } }
  | setBiometricsEnabled {enabled : Bool} {canCheck : Option Bool} (hcheck : enabled → canCheck = some true) :
      Change s (.setBiometricsEnabled enabled canCheck) {
        consented := enabled && s.lock.passcodeEnabled
        lock := { s.lock with
          prefs := { s.lock.prefs with biometricsEnabled := some enabled }
          biometricsEnabled := enabled && s.lock.passcodeEnabled } }
  | setAutoLockMinutes {minutes : ℤ} :
      Change s (.setAutoLockMinutes minutes) { s with lock := s.lock.setAutoLockMinutes minutes }
  | unlockWithPasscode {passcode : Str} {now : ℤ} {s' : Session}
      (hverified : verifyPasscodeAsync sha256 s.lock passcode) (hsame : Same s s')
      (hlocked : s'.lock.isLocked = false) : Change s (.unlockWithPasscode passcode now) s'
  | unlockWithBiometrics {canCheck authenticated : Option Bool} {now : ℤ} {s' : Session}
      (husable : s.lock.biometricsEnabled ∧ s.lock.passcodeEnabled)
      (hcheck : canCheck = some true ∧ authenticated = some true) (hsame : Same s s')
      (hlocked : s'.lock.isLocked = false) : Change s (.unlockWithBiometrics canCheck authenticated now) s'
  | locks {op : Operation} {s' : Session} (hop : ¬Sets op) (hsame : Same s s')
      (hlocked : s'.lock.isLocked = true) (hpasscode : s.lock.passcodeEnabled) : Change s op s'
  | stays {op : Operation} {s' : Session} (hop : ¬Sets op) (hsame : Same s s')
      (hlocked : s'.lock.isLocked = s.lock.isLocked) : Change s op s'

variable {s s' : Session}

lemma Same.refl (s : Session) : Same s s := ⟨rfl, rfl, rfl, rfl, .inl rfl, rfl⟩

/-- The settings are those of before an activity. -/
lemma same_recordActivity (s : Session) (locked : Bool) (now : ℤ) :
    Same s { s with lock := { s.lock with isLocked := locked }.recordActivity now } ∧
      ({ s.lock with isLocked := locked }.recordActivity now).isLocked = locked := by
  rw [recordActivity]
  split_ifs
  · exact ⟨⟨rfl, rfl, rfl, rfl, .inl rfl, rfl⟩, rfl⟩
  · exact ⟨⟨rfl, rfl, rfl, rfl, .inr (autoLockTimer_restartAutoLockTimer _), rfl⟩, rfl⟩

variable (sha256) in
/-- **What a step does.** -/
theorem step_change (s : Session) (op : Operation) : Change sha256 s op (s.step sha256 op) := by
  cases op with
  | restart => exact .restart
  | recordActivity now =>
      rcases same_recordActivity s s.lock.isLocked now with ⟨hsame, hlocked⟩
      exact .stays id hsame hlocked
  | setPasscode passcode =>
      simp only [step, AppLockManager.step, AppLockManager.setPasscode]
      split_ifs with hlength
      · exact .stays (Nat.not_le.mpr hlength) (.refl s) rfl
      · exact .setPasscode (Nat.not_lt.mp hlength)
  | removePasscode currentPasscode =>
      simp only [step, AppLockManager.step, AppLockManager.removePasscode]
      split_ifs with hverified
      · rw [hverified]
        exact .removePasscode hverified
      · rw [Bool.not_eq_true] at hverified
        rw [hverified]
        exact .stays id (.refl s) rfl
  | unlockWithPasscode passcode now =>
      simp only [step, AppLockManager.step, AppLockManager.unlockWithPasscode]
      split_ifs with hverified
      · rcases same_recordActivity s false now with ⟨hsame, hlocked⟩
        exact .unlockWithPasscode hverified hsame hlocked
      · exact .stays id (.refl s) rfl
  | unlockWithBiometrics canCheck authenticated now =>
      simp only [step, AppLockManager.step, AppLockManager.unlockWithBiometrics]
      split_ifs with husable hcheck
      · exact .stays id (.refl s) rfl
      · rcases same_recordActivity s false now with ⟨hsame, hlocked⟩
        simp only [Bool.or_eq_true, Bool.not_eq_true', not_or, Bool.not_eq_false] at husable
        exact .unlockWithBiometrics husable hcheck hsame hlocked
      · exact .stays id (.refl s) rfl
  | setBiometricsEnabled enabled canCheck =>
      simp only [step, AppLockManager.step, AppLockManager.setBiometricsEnabled]
      split_ifs with hrefused
      · exact .stays (fun hcheck => hrefused.2 (hcheck hrefused.1)) (.refl s) rfl
      · exact .setBiometricsEnabled fun henabled => not_not.mp fun hcheck => hrefused ⟨henabled, hcheck⟩
  | setAutoLockMinutes minutes => exact .setAutoLockMinutes
  | lockNow =>
      simp only [step, AppLockManager.step, AppLockManager.lockNow]
      split_ifs with hpasscode
      · exact .locks id ⟨rfl, rfl, rfl, rfl, .inl rfl, rfl⟩ rfl hpasscode
      · exact .stays id (.refl s) rfl
  | tick now =>
      simp only [step, AppLockManager.step, AppLockManager.tick]
      split
      · exact .stays id (.refl s) rfl
      · split_ifs with hidle hdue
        · exact .stays id (.refl s) rfl
        · simp only [Bool.or_eq_true, Bool.not_eq_true', not_or, Bool.not_eq_false] at hidle
          exact .locks id ⟨rfl, rfl, rfl, rfl, .inl rfl, rfl⟩ rfl hidle.2
        · exact .stays id (.refl s) rfl

/-! ## Who opens the app -/

/-- What is always true of memory and preferences. -/
structure Sound (s : Session) : Prop where
  digest : ∀ stored, s.lock.prefs.passcodeHash = some stored → stored ≠ []
  passcode : s.lock.passcodeEnabled = s.lock.prefs.passcodeHash.isSome
  locked : s.lock.isLocked → s.lock.passcodeEnabled
  minutes : s.lock.autoLockMinutes = s.lock.prefs.autoLockMinutes.getD 0
  biometrics : s.lock.biometricsEnabled → s.lock.prefs.biometricsEnabled = some true
  consented : s.consented → s.lock.passcodeEnabled

lemma sound_firstStart : Sound firstStart where
  digest stored hstored := by cases hstored
  passcode := rfl
  locked h := absurd h Bool.false_ne_true
  minutes := rfl
  biometrics h := absurd h Bool.false_ne_true
  consented h := absurd h Bool.false_ne_true

/-- What a start finds of the passcode. -/
lemma Sound.passcodeEnabled_restart (h : s.Sound) : s.lock.restart.passcodeEnabled = s.lock.passcodeEnabled := by
  rw [h.passcode]
  cases hstored : s.lock.prefs.passcodeHash with
  | none => simp [AppLockManager.restart, load, restartAutoLockTimer, hstored]
  | some stored => simp [AppLockManager.restart, load, restartAutoLockTimer, hstored, h.digest stored hstored]

lemma biometricsEnabled_restart (lock : AppLockManager) :
    lock.restart.biometricsEnabled ↔ lock.prefs.biometricsEnabled = some true := by
  change lock.prefs.biometricsEnabled.getD false = true ↔ _
  cases lock.prefs.biometricsEnabled <;> simp

lemma Sound.same (h : s.Sound) (hsame : Same s s') (hlocked : s'.lock.isLocked → s.lock.passcodeEnabled) :
    s'.Sound := by
  constructor
  · rw [hsame.prefs]
    exact h.digest
  · rw [hsame.prefs, hsame.passcodeEnabled]
    exact h.passcode
  · rw [hsame.passcodeEnabled]
    exact hlocked
  · rw [hsame.autoLockMinutes, hsame.prefs]
    exact h.minutes
  · rw [hsame.biometricsEnabled, hsame.prefs]
    exact h.biometrics
  · rw [hsame.consented, hsame.passcodeEnabled]
    exact h.consented

lemma Sound.change (h : s.Sound) {op : Operation} (hchange : Change sha256 s op s') : s'.Sound := by
  have hclosed : ∀ {p : Prop}, false = true → p := fun hfalse => absurd hfalse Bool.false_ne_true
  cases hchange with
  | restart =>
      refine ⟨h.digest, ?_, id, rfl, (biometricsEnabled_restart s.lock).mp, fun hconsented => ?_⟩
      · exact h.passcodeEnabled_restart.trans h.passcode
      · exact h.passcodeEnabled_restart.trans (h.consented hconsented)
  | setPasscode hlength =>
      refine ⟨fun stored hstored => ?_, rfl, hclosed, h.minutes, h.biometrics, fun _ => rfl⟩
      cases hstored
      exact hash_ne_nil sha256 _
  | removePasscode hverified =>
      refine ⟨fun stored hstored => ?_, rfl, hclosed, h.minutes, hclosed, hclosed⟩
      cases hstored
  | setBiometricsEnabled hcheck =>
      refine ⟨h.digest, h.passcode, h.locked, h.minutes, fun henabled => ?_, fun henabled => ?_⟩
      · rw [((Bool.and_eq_true _ _).mp henabled).1]
      · exact ((Bool.and_eq_true _ _).mp henabled).2
  | setAutoLockMinutes => exact ⟨h.digest, h.passcode, h.locked, rfl, h.biometrics, h.consented⟩
  | unlockWithPasscode hverified hsame hlocked | unlockWithBiometrics husable hcheck hsame hlocked =>
      rw [← Bool.not_eq_true] at hlocked
      exact h.same hsame fun hopen => absurd hopen hlocked
  | locks hop hsame hlocked hpasscode => exact h.same hsame fun _ => hpasscode
  | stays hop hsame hlocked => exact h.same hsame fun hstill => h.locked (hlocked ▸ hstill)

variable (sha256) in
/-- The passcode that is stored is presented, or the biometric check succeeds to which the user has consented. -/
def OpenedByOwner (s : Session) : Operation → Prop
  | .setPasscode passcode | .removePasscode passcode | .unlockWithPasscode passcode _ =>
      s.lock.prefs.passcodeHash = some (hash sha256 passcode)
  | .unlockWithBiometrics canCheck authenticated _ =>
      canCheck = some true ∧ authenticated = some true ∧ s.consented
  | _ => False

variable (sha256) in
/-- A step opens the app only for its owner, and after it biometrics can be used at a start only if the user has
consented. -/
structure LeavesToOwner (s : Session) (op : Operation) : Prop where
  opened : s.lock.isLocked → (s.step sha256 op).lock.isLocked = false → s.OpenedByOwner sha256 op
  biometrics : (s.step sha256 op).lock.restart.canUseBiometrics → (s.step sha256 op).consented

variable (sha256) in
/-- A passcode that is set in the locked app is the one that is stored, and one that is the first is not set while
biometrics are kept as enabled. -/
def Permitted (s : Session) : Operation → Prop
  | .setPasscode passcode =>
      passcode.length < 4 ∨
        (s.lock.isLocked → s.lock.prefs.passcodeHash = some (hash sha256 passcode)) ∧
          (s.lock.prefs.biometricsEnabled = some true → s.lock.passcodeEnabled)
  | _ => True

/-- Where biometrics are kept as enabled and there is a passcode, the user has consented. -/
structure Trusted (s : Session) : Prop extends Sound s where
  granted : s.lock.prefs.biometricsEnabled = some true → s.lock.passcodeEnabled → s.consented

/-- Biometrics can be used at a start if they are kept as enabled and there is a passcode. -/
lemma Sound.canUseBiometrics_restart (h : s.Sound) :
    s.lock.restart.canUseBiometrics ↔ s.lock.prefs.biometricsEnabled = some true ∧ s.lock.passcodeEnabled := by
  rw [canUseBiometrics, Bool.and_eq_true, biometricsEnabled_restart, h.passcodeEnabled_restart]

/-- What is presented is what is stored, where there is a passcode. -/
lemma Sound.verified (h : s.Sound) (hpasscode : s.lock.passcodeEnabled) {passcode : Str}
    (hverified : verifyPasscodeAsync sha256 s.lock passcode) :
    s.lock.prefs.passcodeHash = some (hash sha256 passcode) := by
  rw [verifyPasscodeAsync] at hverified
  cases hstored : s.lock.prefs.passcodeHash with
  | none =>
      rw [h.passcode, hstored] at hpasscode
      cases hpasscode
  | some stored =>
      have hne := h.digest stored hstored
      simp only [hstored, Bool.or_eq_true, List.isEmpty_iff, decide_eq_true_eq, hne, false_or] at hverified
      rw [hverified]

lemma permitted_of_not_sets {op : Operation} (hop : ¬Sets op) : s.Permitted sha256 op := by
  cases op with
  | setPasscode passcode => exact .inl (Nat.not_le.mp hop)
  | _ => trivial

lemma Trusted.leavesToOwner_iff (h : s.Trusted) (op : Operation) :
    s.LeavesToOwner sha256 op ↔ s.Permitted sha256 op := by
  have hsound := h.toSound.change (step_change sha256 s op)
  -- where the settings are the same, so is what a start makes of them
  have hsame : Same s (s.step sha256 op) → (s.step sha256 op).lock.restart.canUseBiometrics →
      (s.step sha256 op).consented := by
    intro hsame hbiometrics
    rw [hsound.canUseBiometrics_restart, hsame.prefs, hsame.passcodeEnabled] at hbiometrics
    rw [hsame.consented]
    exact h.granted hbiometrics.1 hbiometrics.2
  have hchange := step_change sha256 s op
  generalize hs' : s.step sha256 op = s' at hchange hsound hsame
  -- and what stays locked is not opened
  have hstays (hstill : s'.lock.isLocked = s.lock.isLocked) (hlocked : s.lock.isLocked = true)
      (hopen : (s.step sha256 op).lock.isLocked = false) : False := by
    rw [hs', hstill, hlocked] at hopen
    cases hopen
  cases hchange with
  | restart =>
      refine iff_of_true ⟨fun hlocked hopen => ?_, fun hbiometrics => ?_⟩ trivial
      · rw [hs'] at hopen
        have hstill : s.lock.restart.isLocked = true := h.passcodeEnabled_restart.trans (h.locked hlocked)
        rw [hopen] at hstill
        cases hstill
      · rw [hs'] at hbiometrics ⊢
        rw [hsound.canUseBiometrics_restart] at hbiometrics
        exact h.granted hbiometrics.1 (h.passcodeEnabled_restart.symm.trans hbiometrics.2)
  | setPasscode hlength =>
      constructor
      · rintro ⟨hopened, hbiometrics⟩
        rw [hs', hsound.canUseBiometrics_restart] at hbiometrics
        refine .inr ⟨fun hlocked => hopened hlocked (by rw [hs']), fun hkept => ?_⟩
        exact h.consented (hbiometrics ⟨hkept, rfl⟩)
      · rintro (hshort | ⟨hsame, hfirst⟩)
        · exact absurd hlength (Nat.not_le.mpr hshort)
        · refine ⟨fun hlocked _ => hsame hlocked, fun hbiometrics => ?_⟩
          rw [hs'] at hbiometrics ⊢
          rw [hsound.canUseBiometrics_restart] at hbiometrics
          exact h.granted hbiometrics.1 (hfirst hbiometrics.1)
  | removePasscode hverified =>
      refine iff_of_true ⟨fun hlocked _ => h.verified (h.locked hlocked) hverified, fun hbiometrics => ?_⟩ trivial
      rw [hs', hsound.canUseBiometrics_restart] at hbiometrics
      exact absurd hbiometrics.2 Bool.false_ne_true
  | setBiometricsEnabled hcheck =>
      refine iff_of_true ⟨fun hlocked hopen => (hstays rfl hlocked hopen).elim, fun hbiometrics => ?_⟩ trivial
      rw [hs'] at hbiometrics ⊢
      rw [hsound.canUseBiometrics_restart] at hbiometrics
      rw [Bool.and_eq_true]
      exact ⟨Option.some.inj hbiometrics.1, hbiometrics.2⟩
  | setAutoLockMinutes =>
      refine iff_of_true ⟨fun hlocked hopen => (hstays rfl hlocked hopen).elim, fun hbiometrics => ?_⟩ trivial
      rw [hs'] at hbiometrics ⊢
      rw [hsound.canUseBiometrics_restart] at hbiometrics
      exact h.granted hbiometrics.1 hbiometrics.2
  | unlockWithPasscode hverified hsettings hopen =>
      exact iff_of_true ⟨fun hlocked _ => h.verified (h.locked hlocked) hverified, hs' ▸ hsame hsettings⟩ trivial
  | unlockWithBiometrics husable hcheck hsettings hopen =>
      refine iff_of_true ⟨fun _ _ => ⟨hcheck.1, hcheck.2, ?_⟩, hs' ▸ hsame hsettings⟩ trivial
      exact h.granted (h.biometrics husable.1) husable.2
  | locks hop hsettings hlocked hpasscode =>
      refine iff_of_true ⟨fun _ hopen => ?_, hs' ▸ hsame hsettings⟩ (permitted_of_not_sets hop)
      rw [hs', hlocked] at hopen
      cases hopen
  | stays hop hsettings hlocked =>
      exact iff_of_true ⟨fun hbefore hopen => (hstays hlocked hbefore hopen).elim, hs' ▸ hsame hsettings⟩
        (permitted_of_not_sets hop)

lemma Trusted.step (h : s.Trusted) {op : Operation} (hop : s.LeavesToOwner sha256 op) :
    (s.step sha256 op).Trusted := by
  have hsound := h.toSound.change (step_change sha256 s op)
  refine ⟨hsound, fun hkept hpasscode => hop.biometrics ?_⟩
  exact hsound.canUseBiometrics_restart.mpr ⟨hkept, hpasscode⟩

/-- **Who opens the app**, in all runs from the first start: every step leaves it to the owner exactly if every step
is permitted. -/
theorem leaves_to_owner_iff (sha256 : Bytes → Vector UInt8 32) (ops : List Operation) :
    Meets (step sha256) (LeavesToOwner sha256) firstStart ops ↔
      Meets (step sha256) (Permitted sha256) firstStart ops := by
  have hstart : Trusted firstStart := ⟨sound_firstStart, fun hkept => by cases hkept⟩
  exact meets_iff_meets (fun s op h => h.leavesToOwner_iff op) (fun s op h hop => h.step hop) hstart ops

/-- The digests of the passcodes `1111` and `2222`. -/
def digests (bytes : Bytes) : Vector UInt8 32 :=
  if bytes = encodeUtf8 (ascii "riogram:1111") then
    #v[0x8f, 0x2c, 0xb1, 0xdf, 0xf6, 0x27, 0x6b, 0x74, 0x7e, 0x2f, 0x55, 0xcc, 0x83, 0xa9, 0x82, 0x3a, 0x46, 0x9c,
      0x0c, 0xcb, 0xf4, 0xae, 0x42, 0x46, 0xfb, 0xf0, 0x0e, 0x90, 0xd3, 0x0a, 0x95, 0x42]
  else if bytes = encodeUtf8 (ascii "riogram:2222") then
    #v[0x8a, 0xc3, 0x9a, 0x7e, 0x22, 0x28, 0x89, 0xf0, 0x2b, 0x0f, 0x6e, 0xa9, 0xf3, 0x05, 0xed, 0x07, 0xe4, 0x0f,
      0x14, 0x9e, 0x84, 0xe4, 0x23, 0xef, 0x6f, 0xe5, 0x2f, 0xef, 0x4d, 0xf7, 0xd9, 0x26]
  else Vector.replicate 32 0

/-- **Another opens the app**: with a new passcode, or with biometrics that were enabled when there was no
passcode. -/
theorem opened_by_another :
    ¬Meets (step digests) (LeavesToOwner digests) firstStart
        [.setPasscode (ascii "1111"), .lockNow, .setPasscode (ascii "2222")] ∧
      ¬Meets (step digests) (LeavesToOwner digests) firstStart
        [.setBiometricsEnabled true (some true), .setPasscode (ascii "1111"), .restart,
          .unlockWithBiometrics (some true) (some true) 0] := by
  constructor
  · rintro ⟨-, -, hreplace, -⟩
    have hstored := hreplace.opened (by decide +kernel) (by decide +kernel)
    revert hstored
    change ¬some _ = some _
    decide +kernel
  · rintro ⟨-, -, -, hunlock, -⟩
    rcases hunlock.opened (by decide +kernel) (by decide +kernel) with ⟨-, -, hconsented⟩
    revert hconsented
    decide +kernel

end Session

/-! ## Memory, preferences and timer -/

/-- What is in memory is what a start would make of the preferences, biometrics are enabled and the app is locked
only with a passcode, and the timer runs if it is to. -/
structure Consistent (lock : AppLockManager) : Prop where
  passcodeEnabled : lock.passcodeEnabled = lock.load.passcodeEnabled
  biometricsEnabled : lock.biometricsEnabled = lock.load.biometricsEnabled
  autoLockMinutes : lock.autoLockMinutes = lock.load.autoLockMinutes
  biometrics : lock.biometricsEnabled → lock.passcodeEnabled
  locked : lock.isLocked → lock.passcodeEnabled
  timer : lock.autoLockTimer ↔ lock.passcodeEnabled ∧ 0 < lock.autoLockMinutes

/-- Biometrics are enabled only with a passcode, and a passcode is set that is not the first, or is not to lock the
app after some minutes. -/
def InOrder (lock : AppLockManager) : Operation → Prop
  | .setPasscode passcode => passcode.length < 4 ∨ lock.passcodeEnabled ∨ lock.autoLockMinutes ≤ 0
  | .setBiometricsEnabled enabled canCheck => enabled → canCheck = some true → lock.passcodeEnabled
  | _ => True

lemma timerIsDue_iff : lock.timerIsDue ↔ lock.passcodeEnabled ∧ 0 < lock.autoLockMinutes := by
  rw [timerIsDue, Bool.and_eq_true, decide_eq_true_eq]

lemma passcodeEnabled_load (lock : AppLockManager) :
    lock.load.passcodeEnabled ↔ ∃ stored, lock.prefs.passcodeHash = some stored ∧ stored ≠ [] := by
  cases hstored : lock.prefs.passcodeHash <;> simp [load, restartAutoLockTimer, hstored]

lemma consistent_firstStart : Consistent firstStart := by
  constructor <;> decide

/-- Where the settings are the same, they stay consistent. -/
lemma Consistent.same {s s' : Session} (h : Consistent s.lock) (hsame : s.Same s')
    (hlocked : s'.lock.isLocked → s.lock.passcodeEnabled) : Consistent s'.lock := by
  have hload : s'.lock.load.passcodeEnabled = s.lock.load.passcodeEnabled ∧
      s'.lock.load.biometricsEnabled = s.lock.load.biometricsEnabled ∧
        s'.lock.load.autoLockMinutes = s.lock.load.autoLockMinutes := by
    simp only [load, restartAutoLockTimer, hsame.prefs, and_self]
  constructor
  · rw [hload.1, hsame.passcodeEnabled, h.passcodeEnabled]
  · rw [hload.2.1, hsame.biometricsEnabled, h.biometricsEnabled]
  · rw [hload.2.2, hsame.autoLockMinutes, h.autoLockMinutes]
  · rw [hsame.biometricsEnabled, hsame.passcodeEnabled]
    exact h.biometrics
  · rw [hsame.passcodeEnabled]
    exact hlocked
  · rw [hsame.passcodeEnabled, hsame.autoLockMinutes]
    rcases hsame.timer with htimer | htimer
    · rw [htimer, h.timer]
    · rw [htimer, timerIsDue_iff]

lemma inOrder_of_not_sets {op : Operation} (hop : ¬Session.Sets op) : lock.InOrder op := by
  cases op with
  | setPasscode passcode => exact .inl (Nat.not_le.mp hop)
  | setBiometricsEnabled enabled canCheck =>
      intro henabled hcheck
      exact absurd (fun _ => hcheck) hop
  | _ => trivial

/-- **A step keeps the manager consistent** exactly if it is in order. -/
lemma Consistent.step_iff (h : Consistent lock) (op : Operation) :
    Consistent (step sha256 lock op) ↔ lock.InOrder op := by
  have hchange := Session.step_change sha256 { lock } op
  rw [show step sha256 lock op = (Session.step sha256 { lock } op).lock from rfl]
  generalize Session.step sha256 { lock } op = s' at hchange
  cases hchange with
  | restart =>
      refine iff_of_true ⟨rfl, rfl, rfl, fun hbiometrics => ?_, id, ?_⟩ trivial
      · exact h.passcodeEnabled.symm.trans (h.biometrics (h.biometricsEnabled.trans hbiometrics))
      · dsimp only
        rw [AppLockManager.restart, load, autoLockTimer_restartAutoLockTimer, timerIsDue_iff]
        rfl
  | @setPasscode passcode hlength =>
      constructor
      · intro hafter
        refine .inr ?_
        by_contra hno
        rw [not_or, not_le] at hno
        exact hno.1 (h.timer.mp (hafter.timer.mpr ⟨rfl, hno.2⟩)).1
      · intro hop
        refine ⟨?_, h.biometricsEnabled, h.autoLockMinutes, fun _ => rfl, fun _ => rfl, ?_⟩
        · exact ((passcodeEnabled_load _).mpr ⟨_, rfl, hash_ne_nil sha256 passcode⟩).symm
        · refine h.timer.trans (and_congr_left fun hminutes => iff_of_true ?_ rfl)
          rcases hop with hshort | hpasscode | hzero
          · exact absurd hlength (Nat.not_le.mpr hshort)
          · exact hpasscode
          · exact absurd hminutes (not_lt.mpr hzero)
  | removePasscode hverified =>
      refine iff_of_true ⟨rfl, rfl, h.autoLockMinutes, id, id, ?_⟩ trivial
      exact iff_of_false Bool.false_ne_true fun hdue => Bool.false_ne_true hdue.1
  | @setBiometricsEnabled enabled canCheck hcheck =>
      constructor
      · intro hafter henabled _
        have hboth : (enabled && lock.passcodeEnabled) = enabled := hafter.biometricsEnabled
        rw [henabled, Bool.true_and] at hboth
        exact hboth
      · intro hop
        refine ⟨h.passcodeEnabled, ?_, h.autoLockMinutes, fun hboth => ?_, h.locked, h.timer⟩
        · change (enabled && lock.passcodeEnabled) = enabled
          cases enabled with
          | false => rfl
          | true => exact hop rfl (hcheck rfl)
        · exact ((Bool.and_eq_true _ _).mp hboth).2
  | setAutoLockMinutes =>
      refine iff_of_true ⟨h.passcodeEnabled, h.biometricsEnabled, rfl, h.biometrics, h.locked, ?_⟩ trivial
      dsimp only
      rw [setAutoLockMinutes, autoLockTimer_restartAutoLockTimer, timerIsDue_iff]
      rfl
  | unlockWithPasscode hverified hsame hlocked | unlockWithBiometrics husable hcheck hsame hlocked =>
      rw [← Bool.not_eq_true] at hlocked
      exact iff_of_true (h.same hsame fun hopen => absurd hopen hlocked) trivial
  | locks hop hsame hlocked hpasscode => exact iff_of_true (h.same hsame fun _ => hpasscode) (inOrder_of_not_sets hop)
  | stays hop hsame hlocked =>
      exact iff_of_true (h.same hsame fun hstill => h.locked (hlocked ▸ hstill)) (inOrder_of_not_sets hop)

/-- **Memory, preferences and timer**, in all runs from the first start: they agree all along exactly if every step
is in order. -/
theorem consistent_iff (sha256 : Bytes → Vector UInt8 32) (ops : List Operation) :
    (∀ before, before <+: ops → Consistent (before.foldl (step sha256) firstStart)) ↔
      Meets (step sha256) InOrder firstStart ops :=
  forall_prefix_iff_meets (fun _ op h => h.step_iff op) consistent_firstStart ops

/-- **They do not agree**: the timer does not run with a new passcode, and biometrics that are enabled without a
passcode are kept as enabled. -/
theorem inconsistent :
    ¬Consistent ([.setAutoLockMinutes 5, .setPasscode (ascii "1111")].foldl (step Session.digests) firstStart) ∧
      ¬Consistent ([.setBiometricsEnabled true (some true)].foldl (step Session.digests) firstStart) := by
  constructor
  · intro h
    have htimer := h.timer.mpr (by decide +kernel)
    revert htimer
    decide +kernel
  · intro h
    have hbiometrics := h.biometricsEnabled
    revert hbiometrics
    decide +kernel

end AppLockManager

end RioGram.Security
