import RioGram.Tls.Header
import RioGram.Tls.TlsInit

/-!
# Rotation of profiles

With `kDpiBypassStableProxyMode` off, the profile of a domain changes over time: every header that is
generated looks at the timer of the domain's family, and every handshake that fails moves the family
to its next profile.

`FamilyClock` says what this is for, one family at a time: how often the family has rotated, since when
its timer runs, and how many handshakes have failed in a row.  `run_rotation` compares the static array
of rotation states with it.
-/

namespace RioGram

namespace DpiBypass

/-! ## Histories -/

/-- What rotation depends on. -/
inductive RotationEvent where
  /-- `generate_header` -/
  | header
  /-- `wait_hello_response` -/
  | response (response : TlsInit.HelloResponse)

/-- An event in a connection with a masking domain. -/
structure Occurrence where
  now : Time
  domain : Wire.Bytes
  event : RotationEvent

/-- What an event does to the rotation states. -/
def rotationStep (cfg : Config) (rot : Rotation) (o : Occurrence) : Rotation :=
  match o.event with
  | .header => maybeRotateProfileOnTimer cfg o.now o.domain rot
  | .response (.failed _) => onTlsHandshakeFailure cfg o.now o.domain rot
  | .response _ => rot

/-- The rotation states after a history, from those the program starts with. -/
def rotationAfter (cfg : Config) (history : List Occurrence) : Rotation :=
  history.foldl (rotationStep cfg) fun _ => {}

/-- `generate_header` leaves the rotation states as the timer leaves them. -/
lemma generateHeader_rotation {hmacSha256 : Wire.Bytes → Wire.Bytes → List.Vector UInt8 32}
    {cfg : Config} {picks : TlsHello.Picks} {now : Time} {rot : Rotation}
    {domain secret header : Wire.Bytes} {unixTime : BitVec 32} {rng : Rng} {rot' : Rotation}
    (h : generateHeader hmacSha256 cfg picks now rot domain secret unixTime rng =
      some (header, rot')) : rot' = rotationStep cfg rot ⟨now, domain, .header⟩ := by
  simp only [generateHeader] at h
  split_ifs at h
  rcases Option.map_eq_some_iff.mp h with ⟨header', -, hpair⟩
  injection hpair with _ hrot
  exact hrot.symm

/-! ## What rotation is for -/

/-- The history of one family. -/
structure FamilyClock where
  /-- how often the family has rotated -/
  rotations : ℕ := 0
  /-- the last rotation or the first use -/
  mark : Option Time := none
  /-- the failures since the last success or rotation by the timer -/
  failures : ℕ := 0

/-- An event of the family. -/
def FamilyClock.step (interval : Time) (clock : FamilyClock) (o : Occurrence) : FamilyClock :=
  match o.event with
  | .header =>
      match clock.mark with
      | none => { clock with mark := some o.now }
      | some mark =>
          if mark + interval ≤ o.now then
            { rotations := clock.rotations + 1, mark := some o.now, failures := 0 }
          else clock
  | .response (.failed _) =>
      { rotations := clock.rotations + 1, mark := some o.now, failures := clock.failures + 1 }
  | .response (.accepted _) => { clock with failures := 0 }
  | .response .incomplete => clock

/-- The clock of a family, which only its own events move. -/
def familyClock (interval : Time) (family : ServiceFamily) (history : List Occurrence) : FamilyClock :=
  (history.filter fun o => detectServiceFamily o.domain = family).foldl
    (FamilyClock.step interval) {}

lemma familyClock_append (interval : Time) (family : ServiceFamily) (history : List Occurrence)
    (o : Occurrence) :
    familyClock interval family (history ++ [o]) =
      if detectServiceFamily o.domain = family then
        (familyClock interval family history).step interval o
      else familyClock interval family history := by
  simp only [familyClock, List.filter_append, List.foldl_append]
  split_ifs with h
  · simp [h]
  · simp [h]

lemma pool_nonempty (family : ServiceFamily) : 0 < (profilePoolForFamily family).length := by
  cases family <;> simp [profilePoolForFamily]

/-! ## The rotation states keep to the clocks -/

/-- The rotation state of a family shows its clock, but for the failures. -/
structure Shows (family : ServiceFamily) (state : RotationState) (clock : FamilyClock) : Prop where
  poolIndex : state.poolIndex = clock.rotations % (profilePoolForFamily family).length
  mark : state.lastRotationUnixTime = clock.mark.getD 0
  failures : state.consecutiveFailures = 0

lemma Shows.advance {family : ServiceFamily} {rot : Rotation} {clock : FamilyClock}
    (h : (rot family).poolIndex = clock.rotations % (profilePoolForFamily family).length) (now : Time)
    (failures : ℕ) :
    Shows family (advanceRotation family now rot family) ⟨clock.rotations + 1, some now, failures⟩ := by
  refine ⟨?_, ?_, ?_⟩
  · simp [advanceRotation, h]
  · simp [advanceRotation]
  · simp [advanceRotation]

/-- The state of another family stays as it is. -/
lemma rotationStep_other (cfg : Config) (rot : Rotation) (o : Occurrence) {family : ServiceFamily}
    (h : detectServiceFamily o.domain ≠ family) : rotationStep cfg rot o family = rot family := by
  rcases o with ⟨now, domain, _ | response⟩
  · simp only [rotationStep, maybeRotateProfileOnTimer]
    split_ifs <;> simp [advanceRotation, Function.update_of_ne h.symm]
  · cases response with
    | incomplete => rfl
    | accepted rest => rfl
    | failed error =>
        simp only [rotationStep, onTlsHandshakeFailure]
        split_ifs <;> simp [advanceRotation, Function.update_of_ne h.symm]

section Rotating

variable {cfg : Config} (hstable : cfg.stableProxyMode = false)
  (hauto : cfg.autoRotateProfiles = true)

include hstable hauto

/-- An event of the family moves its state as it moves its clock. -/
lemma Shows.step {family : ServiceFamily} {rot : Rotation} {clock : FamilyClock}
    (h : Shows family (rot family) clock) {o : Occurrence}
    (hfamily : detectServiceFamily o.domain = family)
    (hmark : ∀ mark, clock.mark = some mark → 0 < mark ∧ mark ≤ o.now) :
    Shows family (rotationStep cfg rot o family) (clock.step cfg.profileRotationInterval o) := by
  subst hfamily
  rcases o with ⟨now, domain, _ | response⟩
  · simp only [rotationStep, maybeRotateProfileOnTimer, hauto, hstable, Bool.not_true, Bool.or_self,
      Bool.false_eq_true, if_false, FamilyClock.step, h.mark]
    cases hclock : clock.mark with
    | none => exact ⟨by simp [h.poolIndex], by simp, by simp [h.failures]⟩
    | some mark =>
        rcases hmark mark hclock with ⟨hpositive, hle⟩
        dsimp only at hle
        have hinterval : cfg.profileRotationInterval ≤ now - mark ↔
            mark + cfg.profileRotationInterval ≤ now := by
          rw [Nat.le_sub_iff_add_le hle, Nat.add_comm]
        simp only [Option.getD_some, hpositive.ne', if_false, hinterval]
        split_ifs
        · exact Shows.advance h.poolIndex now 0
        · exact h
  · cases response with
    | incomplete => exact h
    | accepted rest => exact ⟨h.poolIndex, h.mark, h.failures⟩
    | failed error =>
        simp only [rotationStep, onTlsHandshakeFailure, hauto, hstable, Bool.not_true, Bool.or_self,
          Bool.false_eq_true, if_false, FamilyClock.step]
        exact Shows.advance (by simpa using h.poolIndex) now _

omit hstable hauto in
/-- A timer runs since an event of the history. -/
lemma familyClock_mark (interval : Time) (family : ServiceFamily) {history : List Occurrence}
    {mark : Time} (h : (familyClock interval family history).mark = some mark) :
    ∃ o ∈ history, o.now = mark := by
  induction history using List.reverseRecOn with
  | nil => exact nomatch h
  | append_singleton history o ih =>
      rw [familyClock_append] at h
      have hbefore : (familyClock interval family history).mark = some mark →
          ∃ o' ∈ history ++ [o], o'.now = mark := by
        intro hmark
        rcases ih hmark with ⟨o', ho', hnow⟩
        exact ⟨o', List.mem_append_left _ ho', hnow⟩
      have hlast : some o.now = some mark → ∃ o' ∈ history ++ [o], o'.now = mark := by
        intro hnow
        exact ⟨o, by simp, Option.some.inj hnow⟩
      split_ifs at h
      · rcases o with ⟨now, domain, _ | _ | _ | _⟩ <;> simp only [FamilyClock.step] at h
        · split at h
          · exact hlast h
          · split_ifs at h
            · exact hlast h
            · exact hbefore h
        · exact hbefore h
        · exact hlast h
        · exact hbefore h
      · exact hbefore h

/-- **The rotation states show the clocks** after every history at non-decreasing positive times. -/
lemma rotationAfter_shows {history : List Occurrence} (hpositive : ∀ o ∈ history, 0 < o.now)
    (hsorted : history.Pairwise fun o o' => o.now ≤ o'.now) (family : ServiceFamily) :
    Shows family (rotationAfter cfg history family)
      (familyClock cfg.profileRotationInterval family history) := by
  induction history using List.reverseRecOn with
  | nil => exact ⟨(Nat.zero_mod _).symm, rfl, rfl⟩
  | append_singleton history o ih =>
      rw [List.pairwise_append] at hsorted
      have hbefore : ∀ o' ∈ history, 0 < o'.now := fun o' ho' =>
        hpositive o' (List.mem_append_left _ ho')
      have hshows := ih hbefore hsorted.1
      have hafter : rotationAfter cfg (history ++ [o]) =
          rotationStep cfg (rotationAfter cfg history) o := by
        simp [rotationAfter]
      rw [familyClock_append, hafter]
      split_ifs with hfamily
      · refine hshows.step hstable hauto hfamily ?_
        intro mark hmark
        rcases familyClock_mark _ _ hmark with ⟨o', ho', rfl⟩
        exact ⟨hbefore o' ho', hsorted.2.2 o' ho' o (by simp)⟩
      · rw [rotationStep_other cfg _ o hfamily]
        exact hshows

/-- A failed handshake moves its family on by one, and no other. -/
lemma poolIndex_failure (rot : Rotation) {o : Occurrence} {error : String}
    (hevent : o.event = .response (.failed error)) (family : ServiceFamily) :
    (rotationStep cfg rot o family).poolIndex =
      if detectServiceFamily o.domain = family then
        ((rot family).poolIndex + 1) % (profilePoolForFamily family).length
      else (rot family).poolIndex := by
  split_ifs with hfamily
  · subst hfamily
    simp [rotationStep, hevent, onTlsHandshakeFailure, hstable, hauto, advanceRotation]
  · rw [rotationStep_other cfg _ _ hfamily]

omit hstable hauto in
/-- The timer moves a family on by one, or not at all. -/
lemma poolIndex_header (rot : Rotation) {o : Occurrence} (hevent : o.event = .header)
    (family : ServiceFamily) :
    (rotationStep cfg rot o family).poolIndex = (rot family).poolIndex ∨
    detectServiceFamily o.domain = family ∧
    (rotationStep cfg rot o family).poolIndex =
      ((rot family).poolIndex + 1) % (profilePoolForFamily family).length ∧
    (rot family).lastRotationUnixTime ≠ 0 ∧
    cfg.profileRotationInterval ≤ o.now - (rot family).lastRotationUnixTime := by
  by_cases hfamily : detectServiceFamily o.domain = family
  · subst hfamily
    simp only [rotationStep, hevent, maybeRotateProfileOnTimer]
    split_ifs with hoff hunused hpassed
    · exact .inl rfl
    · exact .inl (by simp)
    · exact .inr ⟨trivial, by simp [advanceRotation], hunused, hpassed⟩
    · exact .inl rfl
  · rw [rotationStep_other cfg _ _ hfamily]
    exact .inl rfl

/-- **Rotation follows the clock of each family**, after every history at non-decreasing positive
times: indices stay below the sizes of their pools; the profile of a domain is the one at the number
of rotations of its family; a failed handshake moves its family on by one, and the timer by at most
one, when the interval has passed.  The number of failures in a row is the exception: it is always
0, so that it is right exactly for the families whose last handshake has not failed since the last
success or rotation by the timer. -/
theorem run_rotation {history : List Occurrence} (hpositive : ∀ o ∈ history, 0 < o.now)
    (hsorted : history.Pairwise fun o o' => o.now ≤ o'.now) :
    (∀ family, (rotationAfter cfg history family).poolIndex < (profilePoolForFamily family).length) ∧
    (∀ domain, (profilePoolForFamily (detectServiceFamily domain))[(familyClock
        cfg.profileRotationInterval (detectServiceFamily domain) history).rotations %
          (profilePoolForFamily (detectServiceFamily domain)).length]? =
      some (getEffectiveProfile (rotationAfter cfg history) domain)) ∧
    (∀ o error, o.event = .response (.failed error) → ∀ family,
      (rotationStep cfg (rotationAfter cfg history) o family).poolIndex =
        if detectServiceFamily o.domain = family then
          ((rotationAfter cfg history family).poolIndex + 1) % (profilePoolForFamily family).length
        else (rotationAfter cfg history family).poolIndex) ∧
    (∀ o, o.event = .header → 0 < o.now → (∀ o' ∈ history, o'.now ≤ o.now) → ∀ family,
      (rotationStep cfg (rotationAfter cfg history) o family).poolIndex =
          (rotationAfter cfg history family).poolIndex ∨
      detectServiceFamily o.domain = family ∧
      (rotationStep cfg (rotationAfter cfg history) o family).poolIndex =
          ((rotationAfter cfg history family).poolIndex + 1) % (profilePoolForFamily family).length ∧
      ∃ mark, (familyClock cfg.profileRotationInterval family history).mark = some mark ∧
        mark + cfg.profileRotationInterval ≤ o.now) ∧
    (∀ family, (rotationAfter cfg history family).consecutiveFailures =
        (familyClock cfg.profileRotationInterval family history).failures ↔
      (familyClock cfg.profileRotationInterval family history).failures = 0) := by
  have hshows := rotationAfter_shows hstable hauto hpositive hsorted
  refine ⟨?_, ?_, ?_, ?_, ?_⟩
  · intro family
    rw [(hshows family).poolIndex]
    exact Nat.mod_lt _ (pool_nonempty family)
  · intro domain
    have hlt := Nat.mod_lt (familyClock cfg.profileRotationInterval (detectServiceFamily domain)
      history).rotations (pool_nonempty (detectServiceFamily domain))
    simp only [getEffectiveProfile, profileFromPool, (hshows _).poolIndex, Nat.mod_mod]
    rw [List.getD_eq_getElem?_getD, List.getElem?_eq_getElem hlt, Option.getD_some]
  · intro o error hevent family
    exact poolIndex_failure hstable hauto _ hevent family
  · intro o hevent hnow hlast family
    refine (poolIndex_header _ hevent family).imp id ?_
    rintro ⟨hfamily, hindex, hused, hpassed⟩
    refine ⟨hfamily, hindex, ?_⟩
    rw [(hshows family).mark] at hused hpassed
    cases hmark : (familyClock cfg.profileRotationInterval family history).mark with
    | none => exact absurd (by simp [hmark]) hused
    | some mark =>
        rcases familyClock_mark _ _ hmark with ⟨o', ho', hmarked⟩
        have hle : mark ≤ o.now := hmarked ▸ hlast o' ho'
        rw [hmark, Option.getD_some, Nat.le_sub_iff_add_le hle, Nat.add_comm] at hpassed
        exact ⟨mark, rfl, hpassed⟩
  · intro family
    rw [(hshows family).failures]
    exact eq_comm

end Rotating

/-- The shipped switches with the stable mode turned off. -/
def rotating : Config := { stableProxyMode := false }

/-- A failed handshake in a connection with a domain of Yandex. -/
def failedOnce : List Occurrence :=
  [⟨1000, ascii ['y', 'a', '.', 'r', 'u'], .header⟩,
    ⟨2000, ascii ['y', 'a', '.', 'r', 'u'], .response (.failed "Response hash mismatch")⟩]

/-- The same, and a header after the timer has run out. -/
def rotatedTwice : List Occurrence :=
  failedOnce ++ [⟨2000000, ascii ['y', 'a', '.', 'r', 'u'], .header⟩]

/-- The profile is then the last one of the pool. -/
theorem run_rotation_twice :
    (familyClock (seconds 1800) .yandex rotatedTwice).rotations = 2 ∧
    (profilePoolForFamily .yandex)[(familyClock (seconds 1800) .yandex rotatedTwice).rotations % 3]? =
      some (getEffectiveProfile (rotationAfter rotating rotatedTwice)
        (ascii ['y', 'a', '.', 'r', 'u'])) := by
  have hstable : rotating.stableProxyMode = false := rfl
  have hpositive : ∀ o ∈ rotatedTwice, 0 < o.now := by simp [rotatedTwice, failedOnce]
  have hsorted : rotatedTwice.Pairwise fun o o' => o.now ≤ o'.now := by
    simp [rotatedTwice, failedOnce]
  exact ⟨rfl, (run_rotation hstable rfl hpositive hsorted).2.1 (ascii ['y', 'a', '.', 'r', 'u'])⟩

/-- A failed handshake has been counted, and is forgotten at once. -/
theorem failure_not_counted :
    (rotationAfter rotating failedOnce .yandex).consecutiveFailures = 0 ∧
    (familyClock (seconds 1800) .yandex failedOnce).failures = 1 :=
  ⟨rfl, rfl⟩

end DpiBypass

end RioGram
