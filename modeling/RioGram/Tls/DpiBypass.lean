import RioGram.Utils.Random

/-!
# `dpi_bypass`: which ClientHello is sent

The masking domain of a proxy decides the *service family*, the family owns a pool of TLS
profiles, and a rotation state per family says which profile of the pool is in force.  The
switches of `DpiBypass.h` are collected in `Config`, so that a statement can be made for the
shipped values or for every value.

* `detectServiceFamily` — the suffix classifier over `kDomainMappings`.
* `Rotation` — the static array of `RotationState`, with the two triggers that advance it.
* `pickRandomRecordSize` — the size of TLS records a connection writes.
-/

namespace RioGram

open Wire

/-- Time in milliseconds.  The source uses `double` seconds; only order and the addition of
whole seconds matter. -/
abbrev Time := ℕ

/-- `n` seconds. -/
def seconds (n : ℕ) : Time := n * 1000

/-- The bytes of an ASCII literal. -/
def ascii (s : List Char) : Bytes := s.map fun c => UInt8.ofNat c.toNat

namespace DpiBypass

/-- `TlsProfile`. -/
inductive TlsProfile where
  | chrome | firefox | yandex | safari | vk | gosuslugi
  deriving DecidableEq, Repr

/-- `ServiceFamily`. -/
inductive ServiceFamily where
  | generic | yandex | vk | gosuslugi
  deriving DecidableEq, Repr

/-- The compile-time switches of `DpiBypass.h`. -/
structure Config where
  /-- `kDpiBypassStableProxyMode` -/
  stableProxyMode : Bool := true
  /-- `kDpiBypassAutoRotateProfiles` -/
  autoRotateProfiles : Bool := true
  /-- `kProfileRotationIntervalSec` -/
  profileRotationInterval : Time := seconds 1800

/-! ## Classifying a domain -/

def asciiTolower (c : UInt8) : UInt8 :=
  if 65 ≤ c.toNat ∧ c.toNat ≤ 90 then c + 32 else c

def asciiIequals (left right : Bytes) : Bool :=
  left.map asciiTolower == right.map asciiTolower

def asciiIequalsSuffix (domain suffix : Bytes) : Bool :=
  if domain.length < suffix.length then false
  else asciiIequals (domain.drop (domain.length - suffix.length)) suffix

def domainMatchesService (domain suffix : Bytes) : Bool :=
  asciiIequals domain suffix || asciiIequalsSuffix domain suffix

/-- `kDomainMappings`, in its order. -/
def domainMappings : List (Bytes × ServiceFamily) :=
  [(ascii ['y', 'a', 'n', 'd', 'e', 'x', '.', 'r', 'u'], .yandex),
   (ascii ['y', 'a', '.', 'r', 'u'], .yandex),
   (ascii ['y', 'a', 'n', 'd', 'e', 'x', '.', 'c', 'o', 'm'], .yandex),
   (ascii ['y', 'a', 'n', 'd', 'e', 'x', '.', 'n', 'e', 't'], .yandex),
   (ascii ['v', 'k', '.', 'c', 'o', 'm'], .vk),
   (ascii ['v', 'k', '.', 'r', 'u'], .vk),
   (ascii ['v', 'k', 'o', 'n', 't', 'a', 'k', 't', 'e', '.', 'r', 'u'], .vk),
   (ascii ['u', 's', 'e', 'r', 'a', 'p', 'i', '.', 'c', 'o', 'm'], .vk),
   (ascii ['g', 'o', 's', 'u', 's', 'l', 'u', 'g', 'i', '.', 'r', 'u'], .gosuslugi),
   (ascii ['g', 'u', '.', 's', 't'], .gosuslugi)]

def detectServiceFamily (domain : Bytes) : ServiceFamily :=
  match domainMappings.find? fun mapping => domainMatchesService domain mapping.1 with
  | some mapping => mapping.2
  | none => .generic

/-! ## Profiles and their rotation -/

def profilePoolForFamily : ServiceFamily → List TlsProfile
  | .yandex => [.yandex, .chrome, .firefox]
  | .vk => [.vk, .chrome, .yandex]
  | .gosuslugi => [.gosuslugi, .yandex, .chrome]
  | .generic => [.chrome, .firefox, .yandex, .safari]

def primaryProfileForFamily : ServiceFamily → TlsProfile
  | .yandex => .yandex
  | .vk => .vk
  | .gosuslugi => .gosuslugi
  | .generic => .chrome

/-- `RotationState` of one family. -/
structure RotationState where
  poolIndex : ℕ := 0
  lastRotationUnixTime : Time := 0
  consecutiveFailures : ℕ := 0

/-- The static array of rotation states, indexed by family. -/
abbrev Rotation := ServiceFamily → RotationState

def profileFromPool (family : ServiceFamily) (index : ℕ) : TlsProfile :=
  let pool := profilePoolForFamily family
  pool.getD (index % pool.length) .chrome

def advanceRotation (family : ServiceFamily) (now : Time) (rot : Rotation) : Rotation :=
  Function.update rot family
    { poolIndex := ((rot family).poolIndex + 1) % (profilePoolForFamily family).length
      lastRotationUnixTime := now
      consecutiveFailures := 0 }

def getEffectiveProfile (rot : Rotation) (domain : Bytes) : TlsProfile :=
  let family := detectServiceFamily domain
  profileFromPool family (rot family).poolIndex

def pickProfileForDomain (cfg : Config) (rot : Rotation) (domain : Bytes) : TlsProfile :=
  if cfg.stableProxyMode then primaryProfileForFamily (detectServiceFamily domain)
  else getEffectiveProfile rot domain

def onTlsHandshakeFailure (cfg : Config) (now : Time) (domain : Bytes) (rot : Rotation) :
    Rotation :=
  if !cfg.autoRotateProfiles || cfg.stableProxyMode then rot
  else
    let family := detectServiceFamily domain
    let state := rot family
    advanceRotation family now (Function.update rot family
      { state with consecutiveFailures := state.consecutiveFailures + 1 })

def maybeRotateProfileOnTimer (cfg : Config) (now : Time) (domain : Bytes) (rot : Rotation) :
    Rotation :=
  if !cfg.autoRotateProfiles || cfg.stableProxyMode then rot
  else
    let family := detectServiceFamily domain
    let state := rot family
    if state.lastRotationUnixTime = 0 then
      Function.update rot family { state with lastRotationUnixTime := now }
    else if cfg.profileRotationInterval ≤ now - state.lastRotationUnixTime then
      advanceRotation family now rot
    else rot

/-! ## Record sizes -/

/-- `pick_random_record_size`: the record size of one connection. -/
def pickRandomRecordSize (cfg : Config) (defaultMax : ℕ) (rng : Rng) : ℕ × Rng :=
  let minSize := 1024
  if cfg.stableProxyMode then (defaultMax, rng)
  else if defaultMax ≤ minSize then (defaultMax, rng)
  else rng.fast minSize defaultMax

/-- The size never exceeds the default, and never falls below the smaller of the default and
1024. -/
lemma pickRandomRecordSize_bounds (cfg : Config) (defaultMax : ℕ) (rng : Rng) :
    min defaultMax 1024 ≤ (pickRandomRecordSize cfg defaultMax rng).1 ∧
      (pickRandomRecordSize cfg defaultMax rng).1 ≤ defaultMax := by
  simp only [pickRandomRecordSize]
  split_ifs
  · exact ⟨Nat.min_le_left _ _, le_rfl⟩
  · exact ⟨Nat.min_le_left _ _, le_rfl⟩
  · have hmod := Nat.mod_lt rng.secureUint32.1 (show 0 < defaultMax - 1024 + 1 by omega)
    simp only [Rng.fast]
    omega

end DpiBypass

end RioGram
