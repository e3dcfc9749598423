import RioGram.Net.Proxy
import RioGram.Tls.DpiBypass

/-!
# The op language of `TlsHello` and the hand-written templates

A ClientHello is described by a flat list of ops.  Most ops write bytes; `beginScope` and
`endScope` bracket a stretch of output that is preceded by its own two-byte length, and
`permutation` writes its parts in random order.  The templates below are the op lists of
`TlsInit.cpp`, byte for byte: a hard-coded length in a literal stays a literal here, so that
whether it agrees with what follows is something to be proved.

`Op.randomValue` carries the alternative that `Op::random_value` has already picked when the
template was built, which is why the Safari template takes the two picks as arguments.
-/

namespace RioGram

open Wire DpiBypass

/-- `TlsHello::Op`. -/
inductive Op where
  | string (data : Bytes)
  | random (length : ℕ)
  | zero (length : ℕ)
  | domain
  | grease (seed : ℕ)
  | key
  | mlKem768Key
  | beginScope
  | endScope
  | permutation (parts : List (List Op))
  | randomValue (value : List Op)
  | padding

/-- `Op::random_value`: the alternative `pick` of a non-empty list of parts. -/
def Op.pickValue (first : List Op) (rest : List (List Op)) (pick : ℕ) : Op :=
  let parts := first :: rest
  .randomValue (parts.getD (pick % parts.length) first)

/-- A template together with the number of grease bytes its context holds. -/
structure TlsHello where
  ops : List Op
  greaseSize : ℕ := 7

/-- Assigning a C string literal to `std::string` copies up to the first NUL byte. -/
def cString (literal : Bytes) : Bytes := literal.takeWhile (· ≠ 0)

namespace TlsHello

/-! ## The templates -/

/-- `build_stable_proxy_ops`. -/
def buildStableProxyOps : List Op :=
  [.string [0x16, 0x03, 0x01],
   .beginScope,
   .string [0x01, 0x00],
   .beginScope,
   .string [0x03, 0x03],
   .zero 32,
   .string [0x20],
   .random 32,
   .string [0x00, 0x20],
   .grease 0,
   .string [0x13, 0x01, 0x13, 0x02, 0x13, 0x03, 0xc0, 0x2b, 0xc0, 0x2f, 0xc0, 0x2c, 0xc0, 0x30,
     0xcc, 0xa9, 0xcc, 0xa8, 0xc0, 0x13, 0xc0, 0x14, 0x00, 0x9c, 0x00, 0x9d, 0x00, 0x2f, 0x00,
     0x35, 0x01, 0x00],
   .beginScope,
   .grease 2,
   .string [0x00, 0x00],
   .string [0x00, 0x00],
   .beginScope,
   .beginScope,
   .string [0x00],
   .beginScope,
   .domain,
   .endScope,
   .endScope,
   .endScope,
   .string [0x00, 0x17, 0x00, 0x00],
   .string [0xff, 0x01, 0x00, 0x01, 0x00],
   .string [0x00, 0x0a, 0x00, 0x0c, 0x00, 0x0a], .grease 4,
   .string [0x11, 0xec, 0x00, 0x1d, 0x00, 0x17, 0x00, 0x18],
   .string [0x00, 0x0b, 0x00, 0x02, 0x01, 0x00],
   .string [0x00, 0x10, 0x00, 0x0e, 0x00, 0x0c, 0x02, 0x68, 0x32, 0x08, 0x68, 0x74, 0x74, 0x70,
     0x2f, 0x31, 0x2e, 0x31],
   .string [0x00, 0x05, 0x00, 0x05, 0x01, 0x00, 0x00, 0x00, 0x00],
   .string [0x00, 0x0d, 0x00, 0x12, 0x00, 0x10, 0x04, 0x03, 0x08, 0x04, 0x04, 0x01, 0x05, 0x03,
     0x08, 0x05, 0x05, 0x01, 0x08, 0x06, 0x06, 0x01],
   .string [0x00, 0x2b, 0x00, 0x07, 0x06], .grease 6, .string [0x03, 0x04, 0x03, 0x03],
   .string [0x00, 0x33, 0x00, 0x26, 0x00, 0x24], .grease 4, .string [0x00, 0x1d, 0x00, 0x20], .key,
   .string [0x00, 0x2d, 0x00, 0x02, 0x01, 0x01],
   .grease 3,
   .string [0x00, 0x01, 0x00],
   .endScope,
   .endScope,
   .endScope]

/-- `build_chrome_ops`. -/
def buildChromeOps : List Op :=
  [.string [0x16, 0x03, 0x01],
   .beginScope,
   .string [0x01, 0x00],
   .beginScope,
   .string [0x03, 0x03],
   .zero 32,
   .string [0x20],
   .random 32,
   .string [0x00, 0x20],
   .grease 0,
   .string [0x13, 0x01, 0x13, 0x02, 0x13, 0x03, 0xc0, 0x2b, 0xc0, 0x2f, 0xc0, 0x2c, 0xc0, 0x30,
     0xcc, 0xa9, 0xcc, 0xa8, 0xc0, 0x13, 0xc0, 0x14, 0x00, 0x9c, 0x00, 0x9d, 0x00, 0x2f, 0x00,
     0x35, 0x01, 0x00],
   .beginScope,
   .grease 2,
   .string [0x00, 0x00],
   .permutation
     [[.string [0x00, 0x00], .beginScope, .beginScope, .string [0x00], .beginScope, .domain,
       .endScope, .endScope, .endScope],
      [.string [0x00, 0x05, 0x00, 0x05, 0x01, 0x00, 0x00, 0x00, 0x00]],
      [.string [0x00, 0x0a, 0x00, 0x0c, 0x00, 0x0a], .grease 4,
       .string [0x11, 0xec, 0x00, 0x1d, 0x00, 0x17, 0x00, 0x18]],
      [.string [0x00, 0x0b, 0x00, 0x02, 0x01, 0x00]],
      [.string [0x00, 0x0d, 0x00, 0x12, 0x00, 0x10, 0x04, 0x03, 0x08, 0x04, 0x04, 0x01, 0x05, 0x03,
        0x08, 0x05, 0x05, 0x01, 0x08, 0x06, 0x06, 0x01]],
      [.string [0x00, 0x10, 0x00, 0x0e, 0x00, 0x0c, 0x02, 0x68, 0x32, 0x08, 0x68, 0x74, 0x74, 0x70,
        0x2f, 0x31, 0x2e, 0x31]],
      [.string [0x00, 0x12, 0x00, 0x00]],
      [.string [0x00, 0x17, 0x00, 0x00]],
      [.string [0x00, 0x1b, 0x00, 0x03, 0x02, 0x00, 0x02]],
      [.string [0x00, 0x23, 0x00, 0x00]],
      [.string [0x00, 0x2b, 0x00, 0x07, 0x06], .grease 6, .string [0x03, 0x04, 0x03, 0x03]],
      [.string [0x00, 0x2d, 0x00, 0x02, 0x01, 0x01]],
      [.string [0x00, 0x33, 0x04, 0xef, 0x04, 0xed], .grease 4,
       .string [0x00, 0x01, 0x00, 0x11, 0xec, 0x04, 0xc0], .mlKem768Key, .key,
       .string [0x00, 0x1d, 0x00, 0x20], .key],
      [.string [0x44, 0xcd, 0x00, 0x05, 0x00, 0x03, 0x02, 0x68, 0x32]],
      [.string [0xff, 0x01, 0x00, 0x01, 0x00]]],
   .grease 3,
   .string [0x00, 0x01, 0x00],
   .padding,
   .endScope,
   .endScope,
   .endScope]

/-- The loop of `build_firefox_ops`: the first string op that starts with `0x13` and is longer
than four bytes gets the bytes assigned to it, and the loop stops. -/
def replaceCipherSuites (literal : Bytes) : List Op → List Op
  | [] => []
  | .string data :: ops =>
      if data.length > 4 ∧ data.head? = some 0x13 then .string (cString literal) :: ops
      else .string data :: replaceCipherSuites literal ops
  | op :: ops => op :: replaceCipherSuites literal ops

/-- `build_firefox_ops`: the Chrome template with another cipher suite string.  The source
assigns the literal to a `std::string` as a C string. -/
def buildFirefoxOps : List Op :=
  replaceCipherSuites
    [0x13, 0x03, 0x13, 0x01, 0x13, 0x02, 0xc0, 0x2c, 0xc0, 0x30, 0xc0, 0x2b, 0xc0, 0x2f, 0xcc, 0xa9,
     0xcc, 0xa8, 0xc0, 0x0a, 0xc0, 0x09, 0xc0, 0x14, 0xc0, 0x13, 0x00, 0x9d, 0x00, 0x9c, 0x00, 0x35,
     0x00, 0x2f, 0x01, 0x00] buildChromeOps

/-- `build_vk_ops`. -/
def buildVkOps : List Op :=
  [.string [0x16, 0x03, 0x01],
   .beginScope,
   .string [0x01, 0x00],
   .beginScope,
   .string [0x03, 0x03],
   .zero 32,
   .string [0x20],
   .random 32,
   .string [0x00, 0x20],
   .grease 0,
   .string [0x13, 0x01, 0x13, 0x02, 0x13, 0x03, 0xc0, 0x2b, 0xc0, 0x2f, 0xc0, 0x2c, 0xc0, 0x30,
     0xcc, 0xa9, 0xcc, 0xa8, 0xc0, 0x13, 0xc0, 0x14, 0x00, 0x9c, 0x00, 0x9d, 0x00, 0x2f, 0x00,
     0x35, 0x01, 0x00],
   .beginScope,
   .grease 2,
   .string [0x00, 0x00],
   .permutation
     [[.string [0x00, 0x00], .beginScope, .beginScope, .string [0x00], .beginScope, .domain,
       .endScope, .endScope, .endScope],
      [.string [0x00, 0x05, 0x00, 0x05, 0x01, 0x00, 0x00, 0x00, 0x00]],
      [.string [0x00, 0x0a, 0x00, 0x0c, 0x00, 0x0a], .grease 4,
       .string [0x11, 0xec, 0x00, 0x1d, 0x00, 0x17, 0x00, 0x18]],
      [.string [0x00, 0x0b, 0x00, 0x02, 0x01, 0x00]],
      [.string [0x00, 0x0d, 0x00, 0x12, 0x00, 0x10, 0x04, 0x03, 0x08, 0x04, 0x04, 0x01, 0x05, 0x03,
        0x08, 0x05, 0x05, 0x01, 0x08, 0x06, 0x06, 0x01]],
      [.string [0x00, 0x10, 0x00, 0x0e, 0x00, 0x0c, 0x02, 0x68, 0x32, 0x08, 0x68, 0x74, 0x74, 0x70,
        0x2f, 0x31, 0x2e, 0x31]],
      [.string [0x00, 0x12, 0x00, 0x00]],
      [.string [0x00, 0x17, 0x00, 0x00]],
      [.string [0x00, 0x2b, 0x00, 0x07, 0x06], .grease 6, .string [0x03, 0x04, 0x03, 0x03]],
      [.string [0x00, 0x2d, 0x00, 0x02, 0x01, 0x01]],
      [.string [0xff, 0x01, 0x00, 0x01, 0x00]]],
   .grease 3,
   .string [0x00, 0x01, 0x00],
   .padding,
   .endScope,
   .endScope,
   .endScope]

/-- The op list that `build_gosuslugi_ops` and `build_yandex_ops` both spell out. -/
def buildHttp11Ops : List Op :=
  [.string [0x16, 0x03, 0x01],
   .beginScope,
   .string [0x01, 0x00],
   .beginScope,
   .string [0x03, 0x03],
   .zero 32,
   .string [0x20],
   .random 32,
   .string [0x00, 0x20],
   .grease 0,
   .string [0x13, 0x01, 0x13, 0x02, 0x13, 0x03, 0xc0, 0x2b, 0xc0, 0x2f, 0xc0, 0x2c, 0xc0, 0x30,
     0xcc, 0xa9, 0xcc, 0xa8, 0xc0, 0x13, 0xc0, 0x14, 0x00, 0x9c, 0x00, 0x9d, 0x00, 0x2f, 0x00,
     0x35, 0x01, 0x00],
   .beginScope,
   .grease 2,
   .string [0x00, 0x00],
   .permutation
     [[.string [0x00, 0x00], .beginScope, .beginScope, .string [0x00], .beginScope, .domain,
       .endScope, .endScope, .endScope],
      [.string [0x00, 0x05, 0x00, 0x05, 0x01, 0x00, 0x00, 0x00, 0x00]],
      [.string [0x00, 0x10, 0x00, 0x0b, 0x00, 0x09, 0x08, 0x68, 0x74, 0x74, 0x70, 0x2f, 0x31, 0x2e,
        0x31]],
      [.string [0x00, 0x0b, 0x00, 0x02, 0x01, 0x00]],
      [.string [0x00, 0x0d, 0x00, 0x12, 0x00, 0x10, 0x04, 0x03, 0x08, 0x04, 0x04, 0x01, 0x05, 0x03,
        0x08, 0x05, 0x05, 0x01, 0x08, 0x06, 0x06, 0x01]],
      [.string [0x00, 0x12, 0x00, 0x00]],
      [.string [0x00, 0x17, 0x00, 0x00]],
      [.string [0x00, 0x2b, 0x00, 0x07, 0x06], .grease 6, .string [0x03, 0x04, 0x03, 0x03]],
      [.string [0x00, 0x2d, 0x00, 0x02, 0x01, 0x01]],
      [.string [0xff, 0x01, 0x00, 0x01, 0x00]]],
   .grease 3,
   .string [0x00, 0x01, 0x00],
   .padding,
   .endScope,
   .endScope,
   .endScope]

/-- `build_gosuslugi_ops`. -/
def buildGosuslugiOps : List Op := buildHttp11Ops

/-- `build_yandex_ops`. -/
def buildYandexOps : List Op := buildHttp11Ops

/-- `build_safari_ops`, for the cipher suites `pick₁` and the ALPN list `pick₂`. -/
def buildSafariOps (pick₁ pick₂ : ℕ) : List Op :=
  [.string [0x16, 0x03, 0x01],
   .beginScope,
   .string [0x01, 0x00],
   .beginScope,
   .string [0x03, 0x03],
   .zero 32,
   .string [0x20],
   .random 32,
   .pickValue
     [.string [0x00, 0x1c], .grease 0,
      .string [0x13, 0x02, 0x13, 0x01, 0x13, 0x03, 0xc0, 0x2c, 0xc0, 0x30, 0xc0, 0x2b, 0xcc, 0xa9,
        0xc0, 0x2f, 0xcc, 0xa8, 0xc0, 0x0a, 0xc0, 0x09, 0xc0, 0x14, 0xc0, 0x13]]
     [[.string [0x00, 0x2a], .grease 0,
       .string [0x13, 0x02, 0x13, 0x03, 0x13, 0x01, 0xc0, 0x2c, 0xc0, 0x2b, 0xcc, 0xa9, 0xc0, 0x30,
         0xc0, 0x2f, 0xcc, 0xa8, 0xc0, 0x0a, 0xc0, 0x09, 0xc0, 0x14, 0xc0, 0x13, 0x00, 0x9d, 0x00,
         0x9c, 0x00, 0x35, 0x00, 0x2f, 0xc0, 0x08, 0xc0, 0x12, 0x00, 0x0a]]] pick₁,
   .string [0x01, 0x00],
   .beginScope,
   .grease 2,
   .string [0x00, 0x00, 0x00, 0x00],
   .beginScope,
   .beginScope,
   .string [0x00],
   .beginScope,
   .domain,
   .endScope,
   .endScope,
   .endScope,
   .string [0x00, 0x17, 0x00, 0x00, 0xff, 0x01, 0x00, 0x01, 0x00, 0x00, 0x0a, 0x00, 0x0e, 0x00,
     0x0c],
   .grease 4,
   .string [0x11, 0xec, 0x00, 0x1d, 0x00, 0x17, 0x00, 0x18, 0x00, 0x19, 0x00, 0x0b, 0x00, 0x02,
     0x01, 0x00],
   .pickValue
     [.string [0x00, 0x10, 0x00, 0x0b, 0x00, 0x09, 0x08, 0x68, 0x74, 0x74, 0x70, 0x2f, 0x31, 0x2e,
       0x31]]
     [[.string [0x00, 0x10, 0x00, 0x0e, 0x00, 0x0c, 0x02, 0x68, 0x32, 0x08, 0x68, 0x74, 0x74, 0x70,
       0x2f, 0x31, 0x2e, 0x31]]] pick₂,
   .string [0x00, 0x05, 0x00, 0x05, 0x01, 0x00, 0x00, 0x00, 0x00, 0x00, 0x0d, 0x00, 0x16, 0x00,
     0x14, 0x04, 0x03, 0x08, 0x04, 0x04, 0x01, 0x05, 0x03, 0x08, 0x05, 0x08, 0x05, 0x05, 0x01, 0x08,
     0x06, 0x06, 0x01, 0x02, 0x01, 0x00, 0x12, 0x00, 0x00, 0x00, 0x33, 0x04, 0xef, 0x04, 0xed],
   .grease 4,
   .string [0x00, 0x01, 0x00, 0x11, 0xec, 0x04, 0xc0],
   .mlKem768Key,
   .key,
   .string [0x00, 0x1d, 0x00, 0x20],
   .key,
   .string [0x00, 0x2d, 0x00, 0x02, 0x01, 0x01, 0x00, 0x2b, 0x00, 0x07, 0x06],
   .grease 6,
   .string [0x03, 0x04, 0x03, 0x03, 0x00, 0x1b, 0x00, 0x03, 0x02, 0x00, 0x01],
   .grease 3,
   .string [0x00, 0x01, 0x00],
   .endScope,
   .endScope,
   .endScope]

/-! ## Choosing a template -/

/-- The random picks made while the static templates are built: those of `Op::random_value` in
the Safari template. -/
structure Picks where
  safariCipherSuites : ℕ
  safariAlpn : ℕ

/-- The templates a request can get: the stable generic one, or the one of a profile. -/
inductive Kind where
  | stable
  | profile (profile : TlsProfile)
  deriving DecidableEq, Repr

/-- `get_for_profile`. -/
def getForProfile (picks : Picks) : TlsProfile → TlsHello
  | .firefox => { ops := buildFirefoxOps }
  | .yandex => { ops := buildYandexOps }
  | .safari => { ops := buildSafariOps picks.safariCipherSuites picks.safariAlpn, greaseSize := 7 }
  | .vk => { ops := buildVkOps }
  | .gosuslugi => { ops := buildGosuslugiOps }
  | .chrome => { ops := buildChromeOps }

/-- The template of a kind. -/
def ofKind (picks : Picks) : Kind → TlsHello
  | .stable => { ops := buildStableProxyOps }
  | .profile p => getForProfile picks p

/-- The kind of template `get_for_request` selects for a domain. -/
def kindForRequest (cfg : Config) (rot : Rotation) (domain : Bytes) : Kind :=
  if cfg.stableProxyMode then
    if detectServiceFamily domain = .generic then .stable
    else .profile (pickProfileForDomain cfg rot domain)
  else .profile (getEffectiveProfile rot domain)

/-- `get_for_request`. -/
def getForRequest (cfg : Config) (rot : Rotation) (picks : Picks) (domain : Bytes) : TlsHello :=
  ofKind picks (kindForRequest cfg rot domain)

end TlsHello

end RioGram
