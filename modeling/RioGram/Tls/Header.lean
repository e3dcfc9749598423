import RioGram.Tls.Templates

/-!
# `TlsObfusaction::generate_header`

The two interpreters run in sequence over the template of a request, and the 32 zero bytes at
offset 11 are replaced by a digest of the whole string, the last four bytes of which are masked
with the time.  The digest is an arbitrary function with 32-byte values.

* `runHello_emits` — the interpreters always complete, whatever the template and the random
  choices, and the result is a string of the template's language.
* `runHello_parses_iff` — that string is a well-formed ClientHello for the domain exactly if the
  template is neither the stable generic one nor Firefox's.
* `generateHeader_authenticates` — the header is produced, and the digest in it can be checked.
-/

namespace RioGram

open Wire Grammar DpiBypass

/-! ## Running a template -/

/-- `TlsHelloCalcLength` and then `TlsHelloStore` over the ops of a template, for a context that is
created for `domain`; `none` if a `CHECK` fails. -/
def runHello (hello : TlsHello) (domain : Bytes) (rng : Rng) : Option TlsHelloStore :=
  let (ctx, rng) := TlsHelloContext.create hello.greaseSize domain rng
  match (TlsHelloCalcLength.doOps ctx hello.ops {}).finish with
  | .error _ => none
  | .ok length =>
      (TlsHelloStore.doOps ctx hello.ops ({ data := List.replicate length 0 }, rng)).map Prod.fst

/-- An `int32` in memory, little-endian. -/
def storeInt32 (x : BitVec 32) : Bytes :=
  [⟨x.extractLsb' 0 8⟩, ⟨x.extractLsb' 8 8⟩, ⟨x.extractLsb' 16 8⟩, ⟨x.extractLsb' 24 8⟩]

/-- The `int32` that four bytes of memory hold. -/
def loadInt32 : Bytes → BitVec 32
  | [a, b, c, d] => d.toBitVec ++ c.toBitVec ++ b.toBitVec ++ a.toBitVec
  | _ => 0

/-- `TlsHelloStore::finish`, for the keyed digest `hmacSha256`. -/
def TlsHelloStore.finish (hmacSha256 : Bytes → Bytes → List.Vector UInt8 32) (st : TlsHelloStore)
    (secret : Bytes) (unixTime : BitVec 32) : Option Bytes :=
  let hash := (hmacSha256 secret st.data).toList
  let old := loadInt32 (hash.drop 28)
  let hashDest := hash.take 28 ++ storeInt32 (old ^^^ unixTime)
  -- `CHECK(dest_.empty())`
  if st.offset = st.data.length then some (st.data.take 11 ++ hashDest ++ st.data.drop 43) else none

/-- `generate_header` from the point where the template has been chosen. -/
def headerOf (hmacSha256 : Bytes → Bytes → List.Vector UInt8 32) (hello : TlsHello)
    (domain secret : Bytes) (unixTime : BitVec 32) (rng : Rng) : Option Bytes :=
  (runHello hello domain rng).bind fun st => st.finish hmacSha256 secret unixTime

/-- `TlsObfusaction::generate_header`, together with the rotation state it leaves behind. -/
def generateHeader (hmacSha256 : Bytes → Bytes → List.Vector UInt8 32) (cfg : Config)
    (picks : TlsHello.Picks) (now : Time) (rot : Rotation) (domain secret : Bytes)
    (unixTime : BitVec 32) (rng : Rng) : Option (Bytes × Rotation) :=
  if domain = [] then none
  else if secret.length ≠ 16 then none
  else
    let rot := maybeRotateProfileOnTimer cfg now domain rot
    let hello := TlsHello.getForRequest cfg rot picks domain
    (headerOf hmacSha256 hello domain secret unixTime rng).map (·, rot)

/-! ## The interpreters complete -/

lemma length_grease_create (size : ℕ) (domain : Bytes) (rng : Rng) :
    (TlsHelloContext.create size domain rng).1.grease.length = size := by
  simp only [TlsHelloContext.create]
  rw [length_greaseInit, Rng.length_secureBytes]

/-- What a judgement about the ops of a template says about running it. -/
lemma runHello_emits {hello : TlsHello} {domain : Bytes} {rng : Rng} {n : ℕ} {L : Language UInt8}
    (hemits : Emits (TlsHelloContext.create hello.greaseSize domain rng).1 0 hello.ops n L)
    (hn : 43 ≤ n) : ∃ w ∈ L, w.length = n ∧
      runHello hello domain rng = some { data := w, offset := n, scopeOffset := [] } := by
  have hfinish : (TlsHelloCalcLength.doOps (TlsHelloContext.create hello.greaseSize domain rng).1
      hello.ops {}).finish = .ok n := by
    rw [hemits.count {} rfl rfl]
    simp only [TlsHelloCalcLength.finish, ne_eq, not_true_eq_false, if_false, Nat.zero_add]
    exact if_neg (by omega)
  rcases hemits.store { data := List.replicate n 0 }
    (TlsHelloContext.create hello.greaseSize domain rng).2 rfl (by simp)
    with ⟨w, hw, hlen, rng', hrun⟩
  have hwrite : TlsHelloStore.write { data := List.replicate n 0 } w
      = { data := w, offset := n, scopeOffset := [] } := by
    simp [TlsHelloStore.write, hlen]
  refine ⟨w, hw, hlen, ?_⟩
  simp only [runHello, hfinish, hrun, hwrite, Option.map_some]

/-- The templates whose lengths are right. -/
def TlsHello.Kind.WellFormed (kind : TlsHello.Kind) : Prop :=
  kind ≠ .stable ∧ kind ≠ .profile .firefox

instance (kind : TlsHello.Kind) : Decidable kind.WellFormed :=
  inferInstanceAs (Decidable (_ ∧ _))

/-- All templates have the default number of grease bytes. -/
lemma greaseSize_ofKind (picks : TlsHello.Picks) (kind : TlsHello.Kind) :
    (TlsHello.ofKind picks kind).greaseSize = 7 := by
  rcases kind with _ | p
  · rfl
  · cases p <;> rfl

/-- The language of a well-formed template. -/
def helloFor (host : Bytes) : Language UInt8 :=
  helloLanguage (CipherSuites * CompressionMethods) (Extensions [host])

/-- Every well-formed template emits a readable hello. -/
lemma emits_wellFormed {ctx : TlsHelloContext} (picks : TlsHello.Picks) {kind : TlsHello.Kind}
    (hkind : kind.WellFormed) (hgrease : ctx.grease.length = 7) (hdomain : ctx.getDomain ≠ []) :
    ∃ n, 43 ≤ n ∧ n < 16000 ∧
      Emits ctx 0 (TlsHello.ofKind picks kind).ops n (helloFor ctx.getDomain) := by
  rcases kind with _ | p
  · exact absurd rfl hkind.1
  · cases p with
    | chrome => exact emits_chrome hgrease hdomain
    | firefox => exact absurd rfl hkind.2
    | yandex => exact emits_http11 hgrease hdomain
    | safari => exact emits_safari hgrease hdomain _ _
    | vk => exact emits_vk hgrease hdomain
    | gosuslugi => exact emits_http11 hgrease hdomain

/-- The two other templates emit strings that the parser rejects. -/
lemma emits_illFormed {ctx : TlsHelloContext} (picks : TlsHello.Picks) {kind : TlsHello.Kind}
    (hkind : ¬ kind.WellFormed) (hgrease : ctx.grease.length = 7) (hdomain : ctx.getDomain ≠ []) :
    ∃ n S E, 43 ≤ n ∧ n < 16000 ∧
      Emits ctx 0 (TlsHello.ofKind picks kind).ops n (helloLanguage S E) ∧
      ∀ w ∈ helloLanguage S E, w.length < 65000 → parseClientHello w = none := by
  by_cases hstable : kind = .stable
  · subst hstable
    rcases emits_stable hgrease hdomain with ⟨n, h0, h1, hemits⟩
    exact ⟨n, _, _, h0, h1, hemits, fun w hw hlen => parse_stable hw hlen⟩
  · have hfirefox : kind = .profile .firefox := by
      by_contra hne
      exact hkind ⟨hstable, hne⟩
    subst hfirefox
    rcases emits_firefox hgrease hdomain with ⟨n, h0, h1, hemits⟩
    exact ⟨n, _, _, h0, h1, hemits, fun w hw hlen => parse_firefox hw hlen⟩

lemma take_ne_nil {domain : Bytes} (h : domain ≠ []) : domain.take 182 ≠ [] := by
  cases domain with
  | nil => exact absurd rfl h
  | cons a s => simp

/-- Running any template writes some string of the frame it has. -/
lemma runHello_ofKind (picks : TlsHello.Picks) (kind : TlsHello.Kind) {domain : Bytes} (rng : Rng)
    (hdomain : domain ≠ []) : ∃ n S E, 43 ≤ n ∧ n < 16000 ∧ ∃ w ∈ helloLanguage S E, w.length = n ∧
      runHello (TlsHello.ofKind picks kind) domain rng
        = some { data := w, offset := n, scopeOffset := [] } ∧
      (kind.WellFormed → w ∈ helloFor (domain.take 182)) ∧
      (¬ kind.WellFormed → parseClientHello w = none) := by
  set ctx := (TlsHelloContext.create (TlsHello.ofKind picks kind).greaseSize domain rng).1 with hctx
  have hgrease : ctx.grease.length = 7 := by
    rw [hctx, length_grease_create, greaseSize_ofKind]
  have hhost : ctx.getDomain ≠ [] := take_ne_nil hdomain
  by_cases hkind : kind.WellFormed
  · rcases emits_wellFormed picks hkind hgrease hhost with ⟨n, h0, h1, hemits⟩
    rcases runHello_emits hemits h0 with ⟨w, hw, hlen, hrun⟩
    exact ⟨n, _, _, h0, h1, w, hw, hlen, hrun, fun _ => hw, fun h => absurd hkind h⟩
  · rcases emits_illFormed picks hkind hgrease hhost with ⟨n, S, E, h0, h1, hemits, hnone⟩
    rcases runHello_emits hemits h0 with ⟨w, hw, hlen, hrun⟩
    exact ⟨n, S, E, h0, h1, w, hw, hlen, hrun, fun h => absurd h hkind,
      fun _ => hnone w hw (by omega)⟩

/-! ## Which templates are well-formed -/

/-- The string is one record with one ClientHello, which names the domain, cut to
`MAX_DOMAIN_LENGTH` bytes, and no other host. -/
def IsHelloFor (domain s : Bytes) : Prop :=
  ∃ hello, parseClientHello s = some hello ∧ hello.hostNames = [domain.take ProxySecret.maxDomainLength]

/-- What a template of the other kind writes is no ClientHello at all. -/
lemma not_isHelloFor_of_illFormed (picks : TlsHello.Picks) {kind : TlsHello.Kind} {domain : Bytes}
    (rng : Rng) (hkind : ¬ kind.WellFormed) (hdomain : domain ≠ []) :
    ¬ ∃ st, runHello (TlsHello.ofKind picks kind) domain rng = some st ∧ IsHelloFor domain st.data := by
  rintro ⟨st, hst, hello, hparse, -⟩
  rcases runHello_ofKind picks kind rng hdomain with ⟨n, S, E, -, -, w, -, -, hrun, -, hbad⟩
  rw [hrun] at hst
  cases hst
  rw [hbad hkind] at hparse
  cases hparse

/-- **A template writes a well-formed ClientHello for every domain and every outcome of the random
choices, or for none**: it does so exactly if it is neither the stable generic template nor the
Firefox one. -/
theorem runHello_isHelloFor_iff (picks : TlsHello.Picks) (kind : TlsHello.Kind) (domain : Bytes)
    (rng : Rng) (hdomain : domain ≠ []) :
    (∃ st, runHello (TlsHello.ofKind picks kind) domain rng = some st ∧ IsHelloFor domain st.data) ↔
      kind ≠ .stable ∧ kind ≠ .profile .firefox := by
  constructor
  · intro hhello
    by_contra hkind
    exact not_isHelloFor_of_illFormed picks rng hkind hdomain hhello
  · intro hkind
    rcases runHello_ofKind picks kind rng hdomain with
      ⟨n, S, E, h0, h1, w, hw, hlen, hrun, hgood, -⟩
    have hlt : w.length < 65000 := by omega
    exact ⟨_, hrun, parse_hello_of_extensions (hgood hkind) hlt⟩

/-- The Chrome template for the domain `a.b`. -/
theorem runHello_chrome_isHelloFor : ∃ st, runHello (TlsHello.ofKind ⟨0, 0⟩ (.profile .chrome))
    [0x61, 0x2e, 0x62] Rng.zero = some st ∧ IsHelloFor [0x61, 0x2e, 0x62] st.data :=
  (runHello_isHelloFor_iff ⟨0, 0⟩ (.profile .chrome) [0x61, 0x2e, 0x62] Rng.zero (by decide)).mpr
    (by decide)

/-- Neither the stable generic template nor the Firefox one writes a ClientHello for `a.b`. -/
theorem runHello_stable_firefox_not_isHelloFor :
    (¬ ∃ st, runHello (TlsHello.ofKind ⟨0, 0⟩ .stable) [0x61, 0x2e, 0x62] Rng.zero = some st ∧
      IsHelloFor [0x61, 0x2e, 0x62] st.data) ∧
    ¬ ∃ st, runHello (TlsHello.ofKind ⟨0, 0⟩ (.profile .firefox)) [0x61, 0x2e, 0x62] Rng.zero = some st ∧
      IsHelloFor [0x61, 0x2e, 0x62] st.data :=
  ⟨not_isHelloFor_of_illFormed _ _ (by decide) (by decide),
    not_isHelloFor_of_illFormed _ _ (by decide) (by decide)⟩

/-! ## The digest -/

/-- Where the digest goes, every template has written zeros. -/
lemma digest_zero {S E : Language UInt8} {w : Bytes} (hw : w ∈ helloLanguage S E) :
    ∃ pre post : Bytes, pre.length = 11 ∧ w = pre ++ (List.replicate 32 0 ++ post) := by
  rcases mem_singleton_mul hw with ⟨_, ⟨r, hr, rfl⟩, rfl⟩
  rcases mem_singleton_mul hr with ⟨_, ⟨b, hb, rfl⟩, rfl⟩
  rcases exists_fields hb with ⟨session, -, s, -, e, -, rfl⟩
  set b := fields session s e with hfields
  refine ⟨[0x16, 0x03, 0x01] ++ (be16 ([0x01, 0x00] ++ (be16 b.length ++ b)).length ++
    ([0x01, 0x00] ++ (be16 b.length ++ [0x03, 0x03]))),
    [0x20] ++ (session ++ (s ++ (be16 e.length ++ e))), by simp, ?_⟩
  generalize be16 ([0x01, 0x00] ++ (be16 b.length ++ b)).length = l₁
  generalize be16 b.length = l₂
  rw [hfields]
  simp only [fields, List.append_assoc]

/-- Masking the last four bytes of a digest with the time, byte by byte. -/
lemma storeInt32_xor {hash : Bytes} (hhash : hash.length = 4) (t : BitVec 32) :
    storeInt32 (loadInt32 hash ^^^ t) = List.zipWith (· ^^^ ·) hash (storeInt32 t) := by
  rcases hash with _ | ⟨a, _ | ⟨b, _ | ⟨c, _ | ⟨d, _ | ⟨e, hash⟩⟩⟩⟩⟩ <;> simp at hhash
  simp only [storeInt32, loadInt32, List.zipWith_cons_cons, List.zipWith_nil_left, List.cons.injEq,
    and_true, ← UInt8.toBitVec_inj, UInt8.toBitVec_xor, BitVec.extractLsb'_xor]
  refine ⟨?_, ?_, ?_, ?_⟩
  all_goals
    congr 1
    ext i hi
    simp only [BitVec.getElem_extractLsb', BitVec.getLsbD_append]
  · rw [if_pos (by omega), Nat.zero_add]
    exact BitVec.getLsbD_eq_getElem hi
  · rw [if_neg (by omega), if_pos (by omega), show 8 + i - 8 = i by omega]
    exact BitVec.getLsbD_eq_getElem hi
  · rw [if_neg (by omega), if_neg (by omega), if_pos (by omega), show 16 + i - 8 - 8 = i by omega]
    exact BitVec.getLsbD_eq_getElem hi
  · rw [if_neg (by omega), if_neg (by omega), if_neg (by omega), show 24 + i - 8 - 8 - 8 = i by omega]
    exact BitVec.getLsbD_eq_getElem hi

/-- The header carries a digest of itself: with its bytes 11 to 42 zeroed, the keyed digest of the
header differs from those bytes in the time alone, which is masked over the last four. -/
def Authenticates (hmacSha256 : Bytes → Bytes → List.Vector UInt8 32) (secret : Bytes)
    (unixTime : BitVec 32) (data : Bytes) : Prop :=
  let zeroed := data.take 11 ++ List.replicate 32 0 ++ data.drop 43
  List.zipWith (· ^^^ ·) (hmacSha256 secret zeroed).toList ((data.drop 11).take 32)
    = List.replicate 28 0 ++ storeInt32 unixTime

/-- XOR-ing a list with itself gives zeros. -/
lemma zipWith_xor_self : ∀ w : Bytes, List.zipWith (· ^^^ ·) w w = List.replicate w.length 0
  | [] => rfl
  | a :: w => by
      rw [List.zipWith_cons_cons, zipWith_xor_self w, UInt8.xor_self]
      rfl

lemma zipWith_xor_cancel : ∀ {v w : Bytes}, v.length = w.length →
    List.zipWith (· ^^^ ·) v (List.zipWith (· ^^^ ·) v w) = w
  | [], [], _ => rfl
  | a :: v, b :: w, h => by
      rw [List.zipWith_cons_cons, List.zipWith_cons_cons, zipWith_xor_cancel (by simpa using h),
        ← UInt8.xor_assoc, UInt8.xor_self, UInt8.zero_xor]

@[simp] lemma length_storeInt32 (x : BitVec 32) : (storeInt32 x).length = 4 := rfl

/-- A digest XOR-ed with its masked form leaves the mask. -/
lemma xor_masked {hash : Bytes} (hlen : hash.length = 32) (t : BitVec 32) :
    List.zipWith (· ^^^ ·) hash (hash.take 28 ++ storeInt32 (loadInt32 (hash.drop 28) ^^^ t))
      = List.replicate 28 0 ++ storeInt32 t := by
  obtain ⟨head, last, rfl, hhead, hlast⟩ : ∃ head last : Bytes,
      hash = head ++ last ∧ head.length = 28 ∧ last.length = 4 :=
    ⟨hash.take 28, hash.drop 28, (List.take_append_drop _ _).symm, by simp [hlen], by simp [hlen]⟩
  rw [List.take_left' hhead, List.drop_left' hhead, storeInt32_xor hlast, List.zipWith_append rfl,
    zipWith_xor_self, zipWith_xor_cancel (by simp [hlast]), hhead]

/-- The digest written by `finish` is that of a string with zeros in its place. -/
lemma finish_authenticates (hmacSha256 : Bytes → Bytes → List.Vector UInt8 32) {pre post : Bytes}
    (secret : Bytes) (unixTime : BitVec 32) (hpre : pre.length = 11) :
    ∃ data, TlsHelloStore.finish hmacSha256
      { data := pre ++ (List.replicate 32 0 ++ post),
        offset := (pre ++ (List.replicate 32 0 ++ post)).length } secret unixTime = some data ∧
      Authenticates hmacSha256 secret unixTime data := by
  set w := pre ++ (List.replicate 32 0 ++ post) with hw
  set hash := (hmacSha256 secret w).toList with hhash
  have hlen : hash.length = 32 := List.Vector.toList_length _
  have htake : w.take 11 = pre := by rw [hw, List.take_left' hpre]
  have hdrop : w.drop 43 = post := by
    rw [hw, ← List.append_assoc, List.drop_left' (by simp [hpre])]
  set dest := hash.take 28 ++ storeInt32 (loadInt32 (hash.drop 28) ^^^ unixTime) with hdest
  have hdestlen : dest.length = 32 := by simp [hdest, hlen]
  refine ⟨pre ++ dest ++ post, ?_, ?_⟩
  · simp only [TlsHelloStore.finish, if_true, htake, hdrop, ← hhash, ← hdest]
  · -- zeroing the digest gives the string that was hashed
    have hzeroed : (pre ++ dest ++ post).take 11 ++ List.replicate 32 0 ++ (pre ++ dest ++ post).drop 43
        = w := by
      rw [List.append_assoc pre, List.take_left' hpre, ← List.append_assoc pre,
        List.drop_left' (by simp [hpre, hdestlen]), hw, List.append_assoc]
    have hmiddle : ((pre ++ dest ++ post).drop 11).take 32 = dest := by
      rw [List.append_assoc, List.drop_left' hpre, List.take_left' hdestlen]
    rw [Authenticates, hzeroed, hmiddle]
    exact xor_masked hlen unixTime

/-- Whatever its template, a header is produced and authenticates. -/
lemma headerOf_authenticates (hmacSha256 : Bytes → Bytes → List.Vector UInt8 32)
    (picks : TlsHello.Picks) (kind : TlsHello.Kind) {domain : Bytes} (secret : Bytes)
    (unixTime : BitVec 32) (rng : Rng) (hdomain : domain ≠ []) :
    ∃ data, headerOf hmacSha256 (TlsHello.ofKind picks kind) domain secret unixTime rng = some data ∧
      Authenticates hmacSha256 secret unixTime data := by
  rcases runHello_ofKind picks kind rng hdomain with ⟨n, S, E, -, -, w, hw, hlen, hrun, -, -⟩
  rcases digest_zero hw with ⟨pre, post, hpre, rfl⟩
  rw [headerOf, hrun, Option.bind_some, ← hlen]
  exact finish_authenticates hmacSha256 secret unixTime hpre

/-- **`generate_header` always produces a header, and the header authenticates**: for every
configuration, rotation state and domain, and for every template on its own. -/
theorem generateHeader_authenticates (hmacSha256 : Bytes → Bytes → List.Vector UInt8 32)
    (cfg : Config) (picks : TlsHello.Picks) (now : Time) (rot : Rotation) (domain secret : Bytes)
    (unixTime : BitVec 32) (rng : Rng) (hdomain : domain ≠ []) (hsecret : secret.length = 16) :
    (∃ data, generateHeader hmacSha256 cfg picks now rot domain secret unixTime rng
        = some (data, maybeRotateProfileOnTimer cfg now domain rot) ∧
      Authenticates hmacSha256 secret unixTime data) ∧
    ∀ kind, ∃ data,
      headerOf hmacSha256 (TlsHello.ofKind picks kind) domain secret unixTime rng = some data ∧
      Authenticates hmacSha256 secret unixTime data := by
  have hkind := fun kind =>
    headerOf_authenticates hmacSha256 picks kind secret unixTime rng hdomain
  refine ⟨?_, hkind⟩
  rcases hkind (TlsHello.kindForRequest cfg (maybeRotateProfileOnTimer cfg now domain rot) domain)
    with ⟨data, hdata, hauth⟩
  refine ⟨data, ?_, hauth⟩
  simp only [generateHeader, if_neg hdomain, hsecret, ne_eq, not_true_eq_false, if_false,
    TlsHello.getForRequest, hdata, Option.map_some]

/-- A header for `a.b` with the shipped configuration. -/
theorem generateHeader_shipped_authenticates :
    ∃ data, generateHeader (fun _ _ => List.Vector.replicate 32 0x5a) {} ⟨0, 0⟩ 0 (fun _ => {})
      [0x61, 0x2e, 0x62] (List.replicate 16 0x01) 0x68000000#32 Rng.zero
        = some (data, maybeRotateProfileOnTimer {} 0 [0x61, 0x2e, 0x62] fun _ => {}) ∧
      Authenticates (fun _ _ => List.Vector.replicate 32 0x5a) (List.replicate 16 0x01) 0x68000000#32
        data :=
  (generateHeader_authenticates _ {} ⟨0, 0⟩ 0 _ [0x61, 0x2e, 0x62] (List.replicate 16 0x01) _ Rng.zero
    (by decide) (by decide)).1

end RioGram
