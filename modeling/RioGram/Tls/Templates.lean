import RioGram.Tls.ClientHello
import RioGram.Tls.Emission

/-!
# What the templates write

Every template is `helloOps suites exts`: the same frame around a stretch that writes the cipher
suites and compression methods and a stretch that writes the extensions (`emits_hello`).  For the
extensions there is one lemma per extension, and a template's block is put together from them.

The frame does not care whether the stretches are well-formed.  Of the templates, the stable
generic one and the Firefox one are not: their stretches are described by the languages they do
emit, and the parser is shown to reject every string of those.
-/

namespace RioGram

open Wire Grammar

variable {ctx : TlsHelloContext} {k : ℕ}

/-! ## Single extensions -/

/-- A literal that spells out one extension. -/
lemma emits_literal (data : Bytes) (e : Extension) (hne : data ≠ []) (hread : Reads extension data e)
    (hhosts : e.hostNames = []) : Emits ctx k [.string data] data.length (Extensions []) :=
  (Emits.string data).mono rfl (by rintro w rfl _; rw [← hhosts]; exact .one hne hread)

/-- A literal extension whose body the grammar does not look into. -/
lemma emits_raw (t s : Bytes) (type : ℕ) (htype : Reads u16 t type)
    (hraw : body type s = some (.raw s)) (hlen : s.length < 65536) :
    Emits ctx k [.string (t ++ (be16 s.length ++ s))] (t ++ (be16 s.length ++ s)).length
      (Extensions []) :=
  emits_literal _ ⟨type, .raw s⟩ (by simp [be16]) (reads_extension htype hlen hraw) rfl

/-- Blocks of extensions one after another. -/
lemma Emits.extensions {as bs : List Op} {n m : ℕ} {gs hs : List Bytes}
    (ha : Emits ctx k as n (Extensions gs)) (hb : Emits ctx (k + n) bs m (Extensions hs)) :
    Emits ctx k (as ++ bs) (n + m) (Extensions (gs ++ hs)) :=
  (ha.append hb).mono rfl (by
    rintro w hw -
    rcases Language.mem_mul.mp hw with ⟨u, hu, v, hv, rfl⟩
    exact .append hu hv)

/-- Blocks of extensions where one literal holds the end of the first and the start of the second. -/
lemma Emits.glue (as : List Op) (v : Bytes) {w : Bytes} {bs : List Op} {n m : ℕ} {gs hs : List Bytes}
    (ha : Emits ctx k (as ++ [.string v]) n (Extensions gs))
    (hb : Emits ctx (k + n) (.string w :: bs) m (Extensions hs)) :
    Emits ctx k (as ++ .string (v ++ w) :: bs) (n + m) (Extensions (gs ++ hs)) := by
  have hab := ha.extensions hb
  rw [List.append_assoc] at hab
  exact hab.split as v w

/-- `server_name`, whose three lengths are all patched in by scopes. -/
lemma emits_serverName (hdomain : ctx.getDomain ≠ []) :
    Emits ctx k [.string [0x00, 0x00], .beginScope, .beginScope, .string [0x00], .beginScope, .domain,
      .endScope, .endScope, .endScope] (ctx.getDomain.length + 9) (Extensions [ctx.getDomain]) := by
  have hle := ctx.getDomain_length_le
  have hname : ∀ {k}, Emits ctx k ([.string [0x00]] ++ (.beginScope :: ([.domain] ++ [.endScope])))
      (1 + (ctx.getDomain.length + 2)) ({[0x00]} * vector16 {ctx.getDomain}) :=
    (Emits.string [0x00]).append (Emits.domain.scope (by omega))
  have htype : Emits ctx k [.string [0x00, 0x00]] 2 {[0x00, 0x00]} := Emits.string _
  refine (htype.append ((hname.scope (by omega)).scope (by omega))).mono (by omega) ?_
  rintro w hw -
  rcases mem_singleton_mul hw with ⟨_, ⟨_, ⟨u, hu, rfl⟩, rfl⟩, rfl⟩
  rcases mem_singleton_mul hu with ⟨_, ⟨_, rfl, rfl⟩, rfl⟩
  exact .one (by simp) (reads_serverName hdomain (by omega))

/-- A list of numbers, one of which is a grease value. -/
lemma emits_greaseInside (v w : Bytes) {seed n : ℕ} (e : UInt8 → Extension)
    (hseed : seed < ctx.grease.length) (hread : ∀ g, Reads extension (v ++ ([g, g] ++ w)) (e g))
    (hhosts : ∀ g, (e g).hostNames = []) (hn : v.length + (2 + w.length) = n) :
    Emits ctx k [.string v, .grease seed, .string w] n (Extensions []) := by
  refine ((Emits.string v).cons ((Emits.grease hseed).cons (Emits.string w))).mono hn ?_
  rintro _ hmem -
  rcases mem_singleton_mul hmem with ⟨_, hinside, rfl⟩
  rcases Language.mem_mul.mp hinside with ⟨_, ⟨g, -, rfl⟩, _, rfl, rfl⟩
  rw [← hhosts g]
  exact .one (by simp) (hread g)

/-- An extension with a grease value for its type. -/
lemma emits_greaseExtension (seed : ℕ) (l data : Bytes) (hseed : seed < ctx.grease.length)
    (hl : l = be16 data.length) (hdata : data.length < 256) :
    Emits ctx k [.grease seed, .string (l ++ data)] (data.length + 4) (Extensions []) := by
  subst hl
  refine ((Emits.grease hseed).cons (Emits.string _)).mono (by simp; omega) ?_
  rintro _ hmem -
  rcases Language.mem_mul.mp hmem with ⟨_, ⟨g, hg, rfl⟩, _, rfl, rfl⟩
  have htype : Reads u16 [g, g] (word g g) := fun _ => rfl
  exact .one (by simp) (reads_extension htype (by omega) (body_grease hg data))

/-- The padding extension, where there is one. -/
lemma emits_padding : Emits ctx k [.padding] (if k < 513 then 517 - k else 0) (Extensions []) := by
  refine Emits.padding.mono rfl ?_
  rintro w hw -
  by_cases hk : k < 513
  · rw [Emits.paddingLanguage, if_pos hk] at hw
    rcases hw with rfl
    have htype : Reads u16 [0x00, 0x15] 21 := fun _ => rfl
    have hlen : (List.replicate (513 - k) (0 : UInt8)).length = 513 - k := List.length_replicate
    have hread : Reads extension
        ([0x00, 0x15] ++ (be16 (513 - k) ++ List.replicate (513 - k) 0))
          ⟨21, .raw (List.replicate (513 - k) 0)⟩ := by
      have h := reads_extension (s := List.replicate (513 - k) 0) htype (by omega) rfl
      rwa [hlen] at h
    exact .one (by simp) hread
  · rw [Emits.paddingLanguage, if_neg hk] at hw
    rcases hw with rfl
    exact .nil

/-! ### `key_share` with three shares -/

lemma reads_keyShareEntry {t w : Bytes} {group : ℕ} (ht : Reads u16 t group) (hw : w ≠ [])
    (hlen : w.length < 65536) : Reads keyShareEntry (t ++ (be16 w.length ++ w)) (group, w) :=
  reads_pair ht (reads_checked (reads_vec16 hlen) (nonempty_eq_some hw))

/-- The three shares are those of a grease group, of the hybrid group and of `x25519`. -/
lemma reads_keyShare (g : UInt8) {kem x : Bytes} (hkem : kem.length = 1216) (hx : x.length = 32) :
    Reads extension ([0x00, 0x33] ++ ([0x04, 0xef] ++ ([0x04, 0xed] ++ ([g, g, 0x00, 0x01, 0x00] ++
      ([0x11, 0xec, 0x04, 0xc0] ++ kem ++ ([0x00, 0x1d, 0x00, 0x20] ++ x))))))
      ⟨51, .keyShare [(word g g, [0x00]), (word 0x11 0xec, kem), (0x1d, x)]⟩ := by
  have hkem' : be16 kem.length = [0x04, 0xc0] := by rw [hkem]; decide
  have hx' : be16 x.length = [0x00, 0x20] := by rw [hx]; decide
  -- the three entries, each with the length it announces
  have h₁ : Reads keyShareEntry [g, g, 0x00, 0x01, 0x00] (word g g, [0x00]) := by
    intro rest
    simp [keyShareEntry, pair, checked, vec, u16, word, bytes, Wire.nonempty]
  have hgroup₂ : Reads u16 [0x11, 0xec] (word 0x11 0xec) := fun _ => rfl
  have h₂ : Reads keyShareEntry ([0x11, 0xec] ++ ([0x04, 0xc0] ++ kem)) (word 0x11 0xec, kem) := by
    rw [← hkem']
    exact reads_keyShareEntry hgroup₂ (List.ne_nil_of_length_pos (by omega)) (by omega)
  have hgroup₃ : Reads u16 [0x00, 0x1d] 0x1d := fun _ => rfl
  have h₃ : Reads keyShareEntry ([0x00, 0x1d] ++ ([0x00, 0x20] ++ x)) (0x1d, x) := by
    rw [← hx']
    exact reads_keyShareEntry hgroup₃ (List.ne_nil_of_length_pos (by omega)) (by omega)
  set shares : Bytes := [g, g, 0x00, 0x01, 0x00] ++ ([0x11, 0xec, 0x04, 0xc0] ++ kem ++
    ([0x00, 0x1d, 0x00, 0x20] ++ x)) with hshares
  have hmany : many keyShareEntry shares
      = some [(word g g, [0x00]), (word 0x11 0xec, kem), (0x1d, x)] := by
    have h := many_flatten
      (.cons ⟨by simp, h₁⟩ (.cons ⟨by simp, h₂⟩ (.cons ⟨by simp, h₃⟩ .nil)))
    simpa [hshares] using h
  have hlen : shares.length = 1261 := by simp [hshares, hkem, hx]
  have hlist : Reads (checked (vec u16) (many keyShareEntry)) (be16 shares.length ++ shares) _ :=
    reads_checked (reads_vec16 (by omega)) hmany
  have htype : Reads u16 [0x00, 0x33] 51 := fun _ => rfl
  have hbody : body 51 (be16 shares.length ++ shares)
      = some (.keyShare [(word g g, [0x00]), (word 0x11 0xec, kem), (0x1d, x)]) := by
    simp only [body, whole_of_reads hlist, Option.map_some]
  have hext := reads_extension htype (by simp [hlen]) hbody
  rw [List.length_append, length_be16, hlen] at hext
  exact hext

lemma emits_keyShare (hgrease : 4 < ctx.grease.length) :
    Emits ctx k [.string [0x00, 0x33, 0x04, 0xef, 0x04, 0xed], .grease 4,
      .string [0x00, 0x01, 0x00, 0x11, 0xec, 0x04, 0xc0], .mlKem768Key, .key,
      .string [0x00, 0x1d, 0x00, 0x20], .key] 1267 (Extensions []) := by
  refine ((Emits.string _).cons ((Emits.grease hgrease).cons ((Emits.string _).cons
    (Emits.mlKem768Key.cons (Emits.key.cons ((Emits.string _).cons Emits.key)))))).mono rfl ?_
  rintro _ hmem -
  rcases mem_singleton_mul hmem with ⟨_, hmem₁, rfl⟩
  rcases Language.mem_mul.mp hmem₁ with ⟨_, ⟨g, -, rfl⟩, _, hmem₂, rfl⟩
  rcases mem_singleton_mul hmem₂ with ⟨_, hmem₃, rfl⟩
  rcases Language.mem_mul.mp hmem₃ with ⟨kem, hkem, _, hmem₄, rfl⟩
  rcases Language.mem_mul.mp hmem₄ with ⟨x₁, hx₁, _, hmem₅, rfl⟩
  rcases mem_singleton_mul hmem₅ with ⟨x₂, hx₂, rfl⟩
  have hlen : (kem ++ x₁).length = 1216 := by
    rw [List.length_append, show kem.length = 1184 from hkem, show x₁.length = 32 from hx₁]
  have hshare : _ ∈ Extensions [] := Extensions.one (by simp) (reads_keyShare g hlen hx₂)
  simpa using hshare

/-! ### The literal extensions -/

lemma emits_statusRequest : Emits ctx k
    [.string [0x00, 0x05, 0x00, 0x05, 0x01, 0x00, 0x00, 0x00, 0x00]] 9 (Extensions []) :=
  emits_raw [0x00, 0x05] [0x01, 0x00, 0x00, 0x00, 0x00] 5 (fun _ => rfl) rfl (by decide)

lemma emits_signedCertificateTimestamp :
    Emits ctx k [.string [0x00, 0x12, 0x00, 0x00]] 4 (Extensions []) :=
  emits_raw [0x00, 0x12] [] 18 (fun _ => rfl) rfl (by decide)

lemma emits_extendedMasterSecret :
    Emits ctx k [.string [0x00, 0x17, 0x00, 0x00]] 4 (Extensions []) :=
  emits_raw [0x00, 0x17] [] 23 (fun _ => rfl) rfl (by decide)

lemma emits_compressCertificate (algorithm : UInt8) :
    Emits ctx k [.string [0x00, 0x1b, 0x00, 0x03, 0x02, 0x00, algorithm]] 7 (Extensions []) := by
  refine emits_literal _ ⟨27, .raw [0x02, 0x00, algorithm]⟩ (by simp) ?_ rfl
  intro rest
  simp [extension, checked, pair, vec, u16, word, bytes, body]

lemma emits_sessionTicket : Emits ctx k [.string [0x00, 0x23, 0x00, 0x00]] 4 (Extensions []) :=
  emits_raw [0x00, 0x23] [] 35 (fun _ => rfl) rfl (by decide)

lemma emits_applicationSettings :
    Emits ctx k [.string [0x44, 0xcd, 0x00, 0x05, 0x00, 0x03, 0x02, 0x68, 0x32]] 9 (Extensions []) :=
  emits_raw [0x44, 0xcd] [0x00, 0x03, 0x02, 0x68, 0x32] 17613 (fun _ => rfl) rfl (by decide)

lemma emits_renegotiationInfo :
    Emits ctx k [.string [0xff, 0x01, 0x00, 0x01, 0x00]] 5 (Extensions []) :=
  emits_raw [0xff, 0x01] [0x00] 65281 (fun _ => rfl) rfl (by decide)

/-! ### Extensions with lists

The grammar is run on the literal, down to the numbers in its lists. -/

lemma emits_pointFormats :
    Emits ctx k [.string [0x00, 0x0b, 0x00, 0x02, 0x01, 0x00]] 6 (Extensions []) := by
  refine emits_literal _ ⟨11, .numbers [0]⟩ (by simp) ?_ rfl
  intro rest
  simp [extension, checked, pair, vec, u16, word, bytes, body, listOf, whole, u8, many, many.go,
    Wire.nonempty]

lemma emits_pskModes :
    Emits ctx k [.string [0x00, 0x2d, 0x00, 0x02, 0x01, 0x01]] 6 (Extensions []) := by
  refine emits_literal _ ⟨45, .numbers [1]⟩ (by simp) ?_ rfl
  intro rest
  simp [extension, checked, pair, vec, u16, word, bytes, body, listOf, whole, u8, many, many.go,
    Wire.nonempty]

lemma emits_signatureAlgorithms : Emits ctx k
    [.string [0x00, 0x0d, 0x00, 0x12, 0x00, 0x10, 0x04, 0x03, 0x08, 0x04, 0x04, 0x01, 0x05, 0x03,
      0x08, 0x05, 0x05, 0x01, 0x08, 0x06, 0x06, 0x01]] 22 (Extensions []) := by
  refine emits_literal _ ⟨13, .numbers [0x0403, 0x0804, 0x0401, 0x0503, 0x0805, 0x0501, 0x0806,
    0x0601]⟩ (by simp) ?_ rfl
  intro rest
  simp [extension, checked, pair, vec, u16, word, bytes, body, listOf, whole, many, many.go,
    Wire.nonempty]

lemma emits_safariSignatureAlgorithms : Emits ctx k
    [.string [0x00, 0x0d, 0x00, 0x16, 0x00, 0x14, 0x04, 0x03, 0x08, 0x04, 0x04, 0x01, 0x05, 0x03,
      0x08, 0x05, 0x08, 0x05, 0x05, 0x01, 0x08, 0x06, 0x06, 0x01, 0x02, 0x01]] 26
    (Extensions []) := by
  refine emits_literal _ ⟨13, .numbers [0x0403, 0x0804, 0x0401, 0x0503, 0x0805, 0x0805, 0x0501,
    0x0806, 0x0601, 0x0201]⟩ (by simp) ?_ rfl
  intro rest
  simp [extension, checked, pair, vec, u16, word, bytes, body, listOf, whole, many, many.go,
    Wire.nonempty]

/-- ALPN with `h2` and `http/1.1`. -/
lemma emits_alpn : Emits ctx k
    [.string [0x00, 0x10, 0x00, 0x0e, 0x00, 0x0c, 0x02, 0x68, 0x32, 0x08, 0x68, 0x74, 0x74, 0x70,
      0x2f, 0x31, 0x2e, 0x31]] 18 (Extensions []) := by
  refine emits_literal _ ⟨16, .protocols [[0x68, 0x32], [0x68, 0x74, 0x74, 0x70, 0x2f, 0x31, 0x2e,
    0x31]]⟩ (by simp) ?_ rfl
  intro rest
  simp [extension, checked, pair, vec, u16, word, bytes, body, listOf, whole, u8, many, many.go,
    Wire.nonempty]

/-- ALPN with `http/1.1` alone. -/
lemma emits_alpnHttp11 : Emits ctx k
    [.string [0x00, 0x10, 0x00, 0x0b, 0x00, 0x09, 0x08, 0x68, 0x74, 0x74, 0x70, 0x2f, 0x31, 0x2e,
      0x31]] 15 (Extensions []) := by
  refine emits_literal _ ⟨16, .protocols [[0x68, 0x74, 0x74, 0x70, 0x2f, 0x31, 0x2e, 0x31]]⟩
    (by simp) ?_ rfl
  intro rest
  simp [extension, checked, pair, vec, u16, word, bytes, body, listOf, whole, u8, many, many.go,
    Wire.nonempty]

lemma emits_supportedGroups (hgrease : 4 < ctx.grease.length) : Emits ctx k
    [.string [0x00, 0x0a, 0x00, 0x0c, 0x00, 0x0a], .grease 4,
      .string [0x11, 0xec, 0x00, 0x1d, 0x00, 0x17, 0x00, 0x18]] 16 (Extensions []) := by
  refine emits_greaseInside _ _
    (fun g => ⟨10, .numbers [word g g, 0x11ec, 0x001d, 0x0017, 0x0018]⟩) hgrease ?_ (fun _ => rfl) rfl
  intro g rest
  simp [extension, checked, pair, vec, u16, word, bytes, body, listOf, whole, many, many.go,
    Wire.nonempty]

lemma emits_safariSupportedGroups (hgrease : 4 < ctx.grease.length) : Emits ctx k
    [.string [0x00, 0x0a, 0x00, 0x0e, 0x00, 0x0c], .grease 4,
      .string [0x11, 0xec, 0x00, 0x1d, 0x00, 0x17, 0x00, 0x18, 0x00, 0x19]] 18 (Extensions []) := by
  refine emits_greaseInside _ _
    (fun g => ⟨10, .numbers [word g g, 0x11ec, 0x001d, 0x0017, 0x0018, 0x0019]⟩) hgrease ?_
    (fun _ => rfl) rfl
  intro g rest
  simp [extension, checked, pair, vec, u16, word, bytes, body, listOf, whole, many, many.go,
    Wire.nonempty]

lemma emits_supportedVersions (hgrease : 6 < ctx.grease.length) : Emits ctx k
    [.string [0x00, 0x2b, 0x00, 0x07, 0x06], .grease 6, .string [0x03, 0x04, 0x03, 0x03]] 11
    (Extensions []) := by
  refine emits_greaseInside _ _ (fun g => ⟨43, .numbers [word g g, 0x0304, 0x0303]⟩) hgrease ?_
    (fun _ => rfl) rfl
  intro g rest
  simp [extension, checked, pair, vec, u16, word, bytes, body, listOf, whole, u8, many, many.go,
    Wire.nonempty]

/-- Safari's ALPN, for either pick. -/
lemma emits_safariAlpn (pick : ℕ) : ∃ n ≤ 18, ∀ k, Emits ctx k
    [.pickValue
      [.string [0x00, 0x10, 0x00, 0x0b, 0x00, 0x09, 0x08, 0x68, 0x74, 0x74, 0x70, 0x2f, 0x31, 0x2e,
        0x31]]
      [[.string [0x00, 0x10, 0x00, 0x0e, 0x00, 0x0c, 0x02, 0x68, 0x32, 0x08, 0x68, 0x74, 0x74, 0x70,
        0x2f, 0x31, 0x2e, 0x31]]] pick] n (Extensions []) := by
  have hpick : pick % 2 = 0 ∨ pick % 2 = 1 := by omega
  rcases hpick with h | h
  · refine ⟨15, by omega, fun k => ?_⟩
    rw [Op.pickValue, List.length_cons, List.length_singleton, h]
    exact emits_alpnHttp11.randomValue
  · refine ⟨18, by omega, fun k => ?_⟩
    rw [Op.pickValue, List.length_cons, List.length_singleton, h]
    exact emits_alpn.randomValue

/-! ## Cipher suites -/

/-- A list of cipher suites that starts with a grease value. -/
lemma emits_greaseSuites (v w : Bytes) {n : ℕ} (suites : UInt8 → List ℕ)
    (hgrease : 0 < ctx.grease.length)
    (hread : ∀ g, Reads cipherSuites (v ++ ([g, g] ++ w)) (suites g))
    (hn : v.length + (2 + w.length) = n) :
    Emits ctx k [.string v, .grease 0, .string w] n CipherSuites := by
  refine ((Emits.string v).cons ((Emits.grease hgrease).cons (Emits.string w))).mono hn ?_
  rintro _ hmem -
  rcases mem_singleton_mul hmem with ⟨_, hinside, rfl⟩
  rcases Language.mem_mul.mp hinside with ⟨_, ⟨g, -, rfl⟩, _, rfl, rfl⟩
  exact ⟨suites g, hread g⟩

/-- The null compression alone. -/
lemma emits_compression : Emits ctx k [.string [0x01, 0x00]] 2 CompressionMethods := by
  refine (Emits.string [0x01, 0x00]).mono rfl ?_
  rintro _ rfl -
  refine ⟨[0], ?_⟩
  intro rest
  simp [compressionMethods, listOf, checked, vec, u8, bytes, many, many.go, Wire.nonempty]

/-- The cipher suites of all templates but Firefox's and Safari's, and the null compression. -/
lemma emits_suites (hgrease : 0 < ctx.grease.length) : Emits ctx k
    [.string [0x00, 0x20], .grease 0,
      .string [0x13, 0x01, 0x13, 0x02, 0x13, 0x03, 0xc0, 0x2b, 0xc0, 0x2f, 0xc0, 0x2c, 0xc0, 0x30,
        0xcc, 0xa9, 0xcc, 0xa8, 0xc0, 0x13, 0xc0, 0x14, 0x00, 0x9c, 0x00, 0x9d, 0x00, 0x2f, 0x00,
        0x35, 0x01, 0x00]] 36 (CipherSuites * CompressionMethods) := by
  -- the compression methods are the last two bytes of the literal
  refine Emits.split [.string [0x00, 0x20], .grease 0]
    [0x13, 0x01, 0x13, 0x02, 0x13, 0x03, 0xc0, 0x2b, 0xc0, 0x2f, 0xc0, 0x2c, 0xc0, 0x30, 0xcc, 0xa9,
      0xcc, 0xa8, 0xc0, 0x13, 0xc0, 0x14, 0x00, 0x9c, 0x00, 0x9d, 0x00, 0x2f, 0x00, 0x35]
    [0x01, 0x00] ?_
  refine (emits_greaseSuites _ _ (n := 34) (fun g => [word g g, 0x1301, 0x1302, 0x1303, 0xc02b, 0xc02f,
    0xc02c, 0xc030, 0xcca9, 0xcca8, 0xc013, 0xc014, 0x009c, 0x009d, 0x002f, 0x0035]) hgrease ?_
    rfl).append emits_compression
  intro g rest
  simp [cipherSuites, listOf, checked, vec, u16, word, bytes, many, many.go, Wire.nonempty]

/-- Safari's cipher suites, for either pick. -/
lemma emits_safariSuites (pick : ℕ) (hgrease : 0 < ctx.grease.length) : ∃ n ≤ 46, ∀ k, Emits ctx k
    [.pickValue
      [.string [0x00, 0x1c], .grease 0,
        .string [0x13, 0x02, 0x13, 0x01, 0x13, 0x03, 0xc0, 0x2c, 0xc0, 0x30, 0xc0, 0x2b, 0xcc, 0xa9,
          0xc0, 0x2f, 0xcc, 0xa8, 0xc0, 0x0a, 0xc0, 0x09, 0xc0, 0x14, 0xc0, 0x13]]
      [[.string [0x00, 0x2a], .grease 0,
        .string [0x13, 0x02, 0x13, 0x03, 0x13, 0x01, 0xc0, 0x2c, 0xc0, 0x2b, 0xcc, 0xa9, 0xc0, 0x30,
          0xc0, 0x2f, 0xcc, 0xa8, 0xc0, 0x0a, 0xc0, 0x09, 0xc0, 0x14, 0xc0, 0x13, 0x00, 0x9d, 0x00,
          0x9c, 0x00, 0x35, 0x00, 0x2f, 0xc0, 0x08, 0xc0, 0x12, 0x00, 0x0a]]] pick,
      .string [0x01, 0x00]] n (CipherSuites * CompressionMethods) := by
  have hpick : pick % 2 = 0 ∨ pick % 2 = 1 := by omega
  rcases hpick with h | h
  · refine ⟨30 + 2, by omega, fun k => ?_⟩
    rw [Op.pickValue, List.length_cons, List.length_singleton, h]
    refine (Emits.randomValue ?_).cons emits_compression
    refine emits_greaseSuites _ _ (fun g => [word g g, 0x1302, 0x1301, 0x1303, 0xc02c, 0xc030, 0xc02b,
      0xcca9, 0xc02f, 0xcca8, 0xc00a, 0xc009, 0xc014, 0xc013]) hgrease ?_ rfl
    intro g rest
    simp [cipherSuites, listOf, checked, vec, u16, word, bytes, many, many.go, Wire.nonempty]
  · refine ⟨44 + 2, by omega, fun k => ?_⟩
    rw [Op.pickValue, List.length_cons, List.length_singleton, h]
    refine (Emits.randomValue ?_).cons emits_compression
    refine emits_greaseSuites _ _ (fun g => [word g g, 0x1302, 0x1303, 0x1301, 0xc02c, 0xc02b, 0xcca9,
      0xc030, 0xc02f, 0xcca8, 0xc00a, 0xc009, 0xc014, 0xc013, 0x009d, 0x009c, 0x0035, 0x002f, 0xc008,
      0xc012, 0x000a]) hgrease ?_ rfl
    intro g rest
    simp [cipherSuites, listOf, checked, vec, u16, word, bytes, many, many.go, Wire.nonempty]

/-! ## The frame -/

/-- The op list of a template whose cipher suites and compression methods are written by `suites`
and whose extensions are written by `exts`. -/
def helloOps (suites exts : List Op) : List Op :=
  [.string [0x16, 0x03, 0x01]] ++ (.beginScope :: (
    [.string [0x01, 0x00]] ++ (.beginScope :: (
      [.string [0x03, 0x03]] ++ ([.zero 32] ++ ([.string [0x20]] ++ ([.random 32] ++
        (suites ++ (.beginScope :: (exts ++ [.endScope])))))) ++
      [.endScope])) ++
    [.endScope]))

/-- **The frame**: the four lengths it computes are right whatever it is put around. -/
lemma emits_hello {suites exts : List Op} {n m : ℕ} {S E : Language UInt8}
    (hS : ∀ k, Emits ctx k suites n S) (hE : Emits ctx (n + 78) exts m E) (hnm : n + m < 16000) :
    Emits ctx 0 (helloOps suites exts) (n + m + 78) (helloLanguage S E) := by
  have hE' : Emits ctx (0 + 3 + 2 + 2 + 2 + 2 + 32 + 1 + 32 + n + 2) exts m E := by
    rwa [show 0 + 3 + 2 + 2 + 2 + 2 + 32 + 1 + 32 + n + 2 = n + 78 by omega]
  have hfields := (@Emits.string ctx (0 + 3 + 2 + 2 + 2) [0x03, 0x03]).append
    ((Emits.zero (n := 32) (by omega) (by omega)).append
      ((Emits.string [0x20]).append
        ((Emits.random (n := 32) (by omega) (by omega)).append
          ((hS _).append (hE'.scope (by omega))))))
  have hhandshake := (@Emits.string ctx (0 + 3 + 2) [0x01, 0x00]).append
    (hfields.scope (by simp; omega))
  have hrecord := (@Emits.string ctx 0 [0x16, 0x03, 0x01]).append
    (hhandshake.scope (by simp; omega))
  exact hrecord.mono (by simp; omega) (fun w hw _ => hw)

/-! ## The well-formed templates -/

/-- A permutation of blocks of extensions, all of whose hosts are one. -/
lemma emits_permutedExtensions {parts : List (List Op)} {n : ℕ} {host : Bytes}
    (hs : List (List Bytes)) (h : EmitsParts ctx parts n (hs.map Extensions))
    (hhost : hs.flatten = [host]) : Emits ctx k [.permutation parts] n (Extensions [host]) := by
  refine (Emits.permutation h).mono rfl ?_
  rintro w hw -
  have hLs : List.Forall₂ (fun L h => L ≤ Extensions h) (hs.map Extensions) hs := by
    rw [List.forall₂_map_left_iff]
    exact List.forall₂_same.mpr fun _ _ => le_rfl
  rcases Extensions.of_shuffled hLs hw with ⟨hosts, hperm, hmem⟩
  rw [hhost] at hperm
  rwa [List.perm_singleton.mp hperm] at hmem

/-- Extensions behind an empty one with a grease value for its type. -/
def GreaseFirst (hosts : List Bytes) : Language UInt8 :=
  Emits.greaseWords * ({[0x00, 0x00]} * Extensions hosts)

lemma mem_extensions_of_greaseFirst {hosts : List Bytes} {w : Bytes} (hw : w ∈ GreaseFirst hosts) :
    w ∈ Extensions hosts := by
  rcases Language.mem_mul.mp hw with ⟨_, ⟨g, hg, rfl⟩, _, hrest, rfl⟩
  rcases mem_singleton_mul hrest with ⟨v, hv, rfl⟩
  have htype : Reads u16 [g, g] (word g g) := fun _ => rfl
  have hread := reads_extension htype (by simp) (body_grease hg [])
  rw [show be16 ([] : Bytes).length ++ [] = [0x00, 0x00] by simp [be16]] at hread
  have hone : _ ∈ Extensions [] := Extensions.one (by simp) hread
  have hall := Extensions.append hone hv
  rwa [List.append_assoc] at hall

/-- The extensions of the templates that shuffle: a grease extension, the shuffled ones, another
grease extension and padding. -/
lemma emits_shuffledExtensions (hgrease : ctx.grease.length = 7) {parts : List (List Op)} {n : ℕ}
    {host : Bytes} (hs : List (List Bytes)) (h : EmitsParts ctx parts n (hs.map Extensions))
    (hhost : hs.flatten = [host]) : ∃ m ≤ n + 600, Emits ctx k
      ([.grease 2] ++ ([.string [0x00, 0x00]] ++ ([.permutation parts] ++
        ([.grease 3, .string [0x00, 0x01, 0x00]] ++ [.padding])))) m (GreaseFirst [host]) := by
  have hlast : ∀ k, Emits ctx k [.grease 3, .string [0x00, 0x01, 0x00]] 5 (Extensions []) :=
    fun _ => emits_greaseExtension 3 [0x00, 0x01] [0x00] (by omega) (by simp [be16]) (by simp)
  refine ⟨_, ?_, (Emits.grease (by omega)).append ((Emits.string [0x00, 0x00]).append
    ((emits_permutedExtensions hs h hhost).extensions ((hlast _).extensions emits_padding)))⟩
  simp only [List.length_cons, List.length_nil]
  split_ifs <;> omega

/-- What the templates with the suites of the Chrome template share: the frame around their extensions. -/
lemma emits_of_extensions {exts : List Op} (hgrease : ctx.grease.length = 7)
    (h : ∃ m ≤ 3000, Emits ctx (36 + 78) exts m (GreaseFirst [ctx.getDomain])) :
    ∃ n, 43 ≤ n ∧ n < 16000 ∧ Emits ctx 0 (helloOps ((TlsHello.buildChromeOps.drop 8).take 3) exts) n
      (helloLanguage (CipherSuites * CompressionMethods) (Extensions [ctx.getDomain])) := by
  rcases h with ⟨m, hm, hexts⟩
  exact ⟨36 + m + 78, by omega, by omega, emits_hello (fun _ => emits_suites (by omega))
    (hexts.mono rfl fun _ hw _ => mem_extensions_of_greaseFirst hw) (by omega)⟩

section Templates

variable (hgrease : ctx.grease.length = 7) (hdomain : ctx.getDomain ≠ [])

include hgrease hdomain

/-- The extensions of the Chrome and the Firefox template. -/
lemma emits_chromeExtensions : ∃ m ≤ 3000, Emits ctx k ((TlsHello.buildChromeOps.drop 12).take 6) m
    (GreaseFirst [ctx.getDomain]) := by
  have hle := ctx.getDomain_length_le
  have hparts := EmitsParts.cons (fun k => @emits_serverName ctx k hdomain) <|
    .cons (fun _ => emits_statusRequest) <|
    .cons (fun _ => emits_supportedGroups (by omega)) <|
    .cons (fun _ => emits_pointFormats) <|
    .cons (fun _ => emits_signatureAlgorithms) <|
    .cons (fun _ => emits_alpn) <|
    .cons (fun _ => emits_signedCertificateTimestamp) <|
    .cons (fun _ => emits_extendedMasterSecret) <|
    .cons (fun _ => emits_compressCertificate 0x02) <|
    .cons (fun _ => emits_sessionTicket) <|
    .cons (fun _ => emits_supportedVersions (by omega)) <|
    .cons (fun _ => emits_pskModes) <|
    .cons (fun _ => emits_keyShare (by omega)) <|
    .cons (fun _ => emits_applicationSettings) <|
    .cons (fun _ => emits_renegotiationInfo) .nil
  rcases emits_shuffledExtensions (k := k) hgrease
    [[ctx.getDomain], [], [], [], [], [], [], [], [], [], [], [], [], [], []] hparts rfl
    with ⟨m, hm, hemits⟩
  exact ⟨m, by omega, hemits⟩

lemma emits_chrome : ∃ n, 43 ≤ n ∧ n < 16000 ∧ Emits ctx 0 TlsHello.buildChromeOps n
    (helloLanguage (CipherSuites * CompressionMethods) (Extensions [ctx.getDomain])) := by
  exact emits_of_extensions hgrease (emits_chromeExtensions hgrease hdomain)

lemma emits_vk : ∃ n, 43 ≤ n ∧ n < 16000 ∧ Emits ctx 0 TlsHello.buildVkOps n
    (helloLanguage (CipherSuites * CompressionMethods) (Extensions [ctx.getDomain])) := by
  have hle := ctx.getDomain_length_le
  have hparts := EmitsParts.cons (fun k => @emits_serverName ctx k hdomain) <|
    .cons (fun _ => emits_statusRequest) <|
    .cons (fun _ => emits_supportedGroups (by omega)) <|
    .cons (fun _ => emits_pointFormats) <|
    .cons (fun _ => emits_signatureAlgorithms) <|
    .cons (fun _ => emits_alpn) <|
    .cons (fun _ => emits_signedCertificateTimestamp) <|
    .cons (fun _ => emits_extendedMasterSecret) <|
    .cons (fun _ => emits_supportedVersions (by omega)) <|
    .cons (fun _ => emits_pskModes) <|
    .cons (fun _ => emits_renegotiationInfo) .nil
  rcases emits_shuffledExtensions (k := 36 + 78) hgrease
    [[ctx.getDomain], [], [], [], [], [], [], [], [], [], []] hparts rfl with ⟨m, hm, hexts⟩
  exact emits_of_extensions hgrease ⟨m, by omega, hexts⟩

lemma emits_http11 : ∃ n, 43 ≤ n ∧ n < 16000 ∧ Emits ctx 0 TlsHello.buildHttp11Ops n
    (helloLanguage (CipherSuites * CompressionMethods) (Extensions [ctx.getDomain])) := by
  have hle := ctx.getDomain_length_le
  have hparts := EmitsParts.cons (fun k => @emits_serverName ctx k hdomain) <|
    .cons (fun _ => emits_statusRequest) <|
    .cons (fun _ => emits_alpnHttp11) <|
    .cons (fun _ => emits_pointFormats) <|
    .cons (fun _ => emits_signatureAlgorithms) <|
    .cons (fun _ => emits_signedCertificateTimestamp) <|
    .cons (fun _ => emits_extendedMasterSecret) <|
    .cons (fun _ => emits_supportedVersions (by omega)) <|
    .cons (fun _ => emits_pskModes) <|
    .cons (fun _ => emits_renegotiationInfo) .nil
  rcases emits_shuffledExtensions (k := 36 + 78) hgrease
    [[ctx.getDomain], [], [], [], [], [], [], [], [], []] hparts rfl with ⟨m, hm, hexts⟩
  exact emits_of_extensions hgrease ⟨m, by omega, hexts⟩

/-- The Safari template does not shuffle; its literals run across the extensions. -/
lemma emits_safari (pick₁ pick₂ : ℕ) : ∃ n, 43 ≤ n ∧ n < 16000 ∧
    Emits ctx 0 (TlsHello.buildSafariOps pick₁ pick₂) n
      (helloLanguage (CipherSuites * CompressionMethods) (Extensions [ctx.getDomain])) := by
  have hle := ctx.getDomain_length_le
  have hseed : 0 < ctx.grease.length := by omega
  rcases emits_safariSuites pick₁ hseed with ⟨n, hn, hsuites⟩
  rcases emits_safariAlpn pick₂ with ⟨a, ha, halpn⟩
  have hexts :=
    (emits_greaseExtension (k := n + 78) 2 [0x00, 0x00] [] (by omega) (by simp [be16]) (by simp)).glue
      [.grease 2] [0x00, 0x00] <|
    (emits_serverName hdomain).extensions <|
    emits_extendedMasterSecret.glue [] _ <|
    emits_renegotiationInfo.glue [] _ <|
    (emits_safariSupportedGroups (by omega)).glue
      [.string [0x00, 0x0a, 0x00, 0x0e, 0x00, 0x0c], .grease 4] _ <|
    emits_pointFormats.extensions <|
    (halpn _).extensions <|
    emits_statusRequest.glue [] _ <|
    emits_safariSignatureAlgorithms.glue [] _ <|
    emits_signedCertificateTimestamp.glue [] _ <|
    (emits_keyShare (by omega)).extensions <|
    emits_pskModes.glue [] _ <|
    (emits_supportedVersions (by omega)).glue
      [.string [0x00, 0x2b, 0x00, 0x07, 0x06], .grease 6] _ <|
    (emits_compressCertificate 0x01).extensions <|
    emits_greaseExtension 3 [0x00, 0x01] [0x00] (by omega) (by simp [be16]) (by simp)
  refine ⟨_, by omega, ?_, emits_hello hsuites hexts ?_⟩
  all_goals
    simp only [List.length_cons, List.length_nil]
    omega

/-! ## The Firefox template -/

/-- The cipher suites of the Firefox template: the literal ends before its first NUL byte, so that
the announced 32 bytes and the compression methods are not there. -/
def FirefoxSuites : Language UInt8 :=
  {[0x00, 0x20]} * (Emits.greaseWords * {[0x13, 0x03, 0x13, 0x01, 0x13, 0x02, 0xc0, 0x2c, 0xc0, 0x30,
    0xc0, 0x2b, 0xc0, 0x2f, 0xcc, 0xa9, 0xcc, 0xa8, 0xc0, 0x0a, 0xc0, 0x09, 0xc0, 0x14, 0xc0, 0x13]})

lemma emits_firefox : ∃ n, 43 ≤ n ∧ n < 16000 ∧ Emits ctx 0 TlsHello.buildFirefoxOps n
    (helloLanguage FirefoxSuites (GreaseFirst [ctx.getDomain])) := by
  rcases emits_chromeExtensions (k := 30 + 78) hgrease hdomain with ⟨m, hm, hexts⟩
  have hseed : 0 < ctx.grease.length := by omega
  have hsuites : ∀ k, Emits ctx k _ 30 FirefoxSuites := fun k =>
    (Emits.string [0x00, 0x20]).cons ((Emits.grease hseed).cons (Emits.string [0x13, 0x03, 0x13, 0x01,
      0x13, 0x02, 0xc0, 0x2c, 0xc0, 0x30, 0xc0, 0x2b, 0xc0, 0x2f, 0xcc, 0xa9, 0xcc, 0xa8, 0xc0, 0x0a,
      0xc0, 0x09, 0xc0, 0x14, 0xc0, 0x13]))
  exact ⟨30 + m + 78, by omega, by omega, emits_hello hsuites hexts (by omega)⟩

omit hgrease hdomain in
/-- **No output of the Firefox template parses**: the 32 bytes of cipher suites reach into the
extensions, and what is taken for the compression methods is empty. -/
theorem parse_firefox {hosts : List Bytes} {w : Bytes}
    (hw : w ∈ helloLanguage FirefoxSuites (GreaseFirst hosts)) (hlen : w.length < 65000) :
    parseClientHello w = none := by
  rcases parse_hello hw hlen with ⟨session, s, hs, e, he, -, hparse⟩
  rcases mem_singleton_mul hs with ⟨_, hs', rfl⟩
  rcases Language.mem_mul.mp hs' with ⟨_, ⟨g₁, -, rfl⟩, _, rfl, rfl⟩
  rcases Language.mem_mul.mp he with ⟨_, ⟨g₂, -, rfl⟩, _, he', rfl⟩
  rcases mem_singleton_mul he' with ⟨v, -, rfl⟩
  have hnone : tail ([0x00, 0x20] ++ ([g₁, g₁] ++ [0x13, 0x03, 0x13, 0x01, 0x13, 0x02, 0xc0, 0x2c, 0xc0,
      0x30, 0xc0, 0x2b, 0xc0, 0x2f, 0xcc, 0xa9, 0xcc, 0xa8, 0xc0, 0x0a, 0xc0, 0x09, 0xc0, 0x14, 0xc0,
      0x13]) ++ (be16 ([g₂, g₂] ++ ([0x00, 0x00] ++ v)).length ++ ([g₂, g₂] ++ ([0x00, 0x00] ++ v))))
      = none := by
    simp [tail, cipherSuites, compressionMethods, listOf, pair, checked, vec, u16, u8, word, bytes,
      many, many.go, Wire.nonempty, be16]
  rw [hparse, whole_eq_none hnone]
  rfl

/-! ## The stable generic template -/

/-- The `key_share` of the stable generic template, which announces two bytes less than it has. -/
def StableKeyShare : Language UInt8 :=
  {[0x00, 0x33, 0x00, 0x26, 0x00, 0x24]} * (Emits.greaseWords * ({[0x00, 0x1d, 0x00, 0x20]} * anyOf 32))

lemma emits_stable : ∃ n, 43 ≤ n ∧ n < 16000 ∧ Emits ctx 0 TlsHello.buildStableProxyOps n
    (helloLanguage (CipherSuites * CompressionMethods)
      (Extensions [ctx.getDomain] * (StableKeyShare * Extensions []))) := by
  have hle := ctx.getDomain_length_le
  have hbefore :=
    (emits_greaseExtension (k := 36 + 78) 2 [0x00, 0x00] [] (by omega) (by simp [be16])
      (by simp)).extensions <|
    (emits_serverName hdomain).extensions <|
    emits_extendedMasterSecret.extensions <|
    emits_renegotiationInfo.extensions <|
    (emits_supportedGroups (by omega)).extensions <|
    emits_pointFormats.extensions <|
    emits_alpn.extensions <|
    emits_statusRequest.extensions <|
    emits_signatureAlgorithms.extensions <|
    emits_supportedVersions (by omega)
  have hshare : ∀ k, Emits ctx k _ 44 StableKeyShare := fun k =>
    (Emits.string [0x00, 0x33, 0x00, 0x26, 0x00, 0x24]).cons
      ((Emits.grease (show 4 < ctx.grease.length by omega)).cons
        ((Emits.string [0x00, 0x1d, 0x00, 0x20]).cons Emits.key))
  have hafter : ∀ k, Emits ctx k _ _ (Extensions []) := fun k => emits_pskModes.extensions <|
    emits_greaseExtension 3 [0x00, 0x01] [0x00] (by omega) (by simp [be16]) (by simp)
  refine ⟨_, by omega, ?_, emits_hello (fun _ => emits_suites (by omega))
    (hbefore.append ((hshare _).append (hafter _))) ?_⟩
  all_goals
    simp only [List.length_cons, List.length_nil]
    omega

end Templates

/-- The announced 36 bytes hold one share of 29 bytes and three bytes more. -/
lemma many_keyShareEntry_stable (g : UInt8) {a b : Bytes} (ha : a.length = 27) (hb : b.length = 3) :
    many keyShareEntry ([g, g] ++ ([0x00, 0x1d] ++ ([0x00, 0x20] ++ a)) ++ b) = none := by
  have hgroup : Reads u16 [g, g] (word g g) := fun _ => rfl
  have hlen : ([0x00, 0x20] ++ a).length = 29 := by simp [ha]
  have hentry := reads_keyShareEntry hgroup (w := [0x00, 0x20] ++ a) (by simp) (by omega)
  rw [hlen, show be16 29 = [0x00, 0x1d] by simp [be16]] at hentry
  rcases b with _ | ⟨x, _ | ⟨y, _ | ⟨z, _ | ⟨t, b⟩⟩⟩⟩ <;> simp at hb
  have hlast : keyShareEntry [x, y, z] = none := rfl
  have hnone := many_eq_none (.cons ⟨by simp, hentry⟩ .nil) (by simp) hlast
  rwa [List.flatten_singleton] at hnone

/-- The `key_share` of the stable generic template cannot be read. -/
lemma extension_stableKeyShare {w rest : Bytes} (hw : w ∈ StableKeyShare) :
    extension (w ++ rest) = none := by
  rcases mem_singleton_mul hw with ⟨_, hw₁, rfl⟩
  rcases Language.mem_mul.mp hw₁ with ⟨_, ⟨g, -, rfl⟩, _, hw₂, rfl⟩
  rcases mem_singleton_mul hw₂ with ⟨x, hx, rfl⟩
  replace hx : x.length = 32 := hx
  -- the declared lengths cut the key after 27 and after 30 bytes
  obtain ⟨a, b, c, rfl, ha, hb⟩ : ∃ a b c : Bytes, x = a ++ (b ++ c) ∧ a.length = 27 ∧ b.length = 3 :=
    ⟨x.take 27, (x.drop 27).take 3, (x.drop 27).drop 3,
      by rw [List.take_append_drop, List.take_append_drop], by simp [hx], by simp [hx]⟩
  set shares : Bytes := [g, g] ++ ([0x00, 0x1d] ++ ([0x00, 0x20] ++ a)) ++ b with hshares
  have hmany : many keyShareEntry shares = none := many_keyShareEntry_stable g ha hb
  have hlen : shares.length = 36 := by simp [hshares, ha, hb]
  have hlist : Reads (vec u16) ([0x00, 0x24] ++ shares) shares := by
    have hvec := reads_vec16 (w := shares) (by omega)
    rwa [hlen, show be16 36 = [0x00, 0x24] by simp [be16]] at hvec
  have hbody : body 51 ([0x00, 0x24] ++ shares) = none := by
    simp only [body, whole_checked, whole_of_reads hlist, Option.bind_some, hmany, Option.map_none]
  have hext : Reads (pair u16 (vec u16)) ([0x00, 0x33] ++ ([0x00, 0x26] ++ ([0x00, 0x24] ++ shares)))
      (51, [0x00, 0x24] ++ shares) := by
    have htype : Reads u16 [0x00, 0x33] 51 := fun _ => rfl
    have hvec := reads_vec16 (w := [0x00, 0x24] ++ shares) (by simp [hlen])
    rw [List.length_append, hlen] at hvec
    rw [show be16 (([0x00, 0x24] : Bytes).length + 36) = [0x00, 0x26] by simp [be16]] at hvec
    exact reads_pair htype hvec
  have hnone : extension _ = none :=
    checked_eq_none (s := c ++ rest) hext (by simp only [hbody, Option.map_none])
  simpa [hshares] using hnone

/-- **No output of the stable generic template parses.** -/
theorem parse_stable {hosts : List Bytes} {M : Language UInt8} {w : Bytes}
    (hw : w ∈ helloLanguage (CipherSuites * CompressionMethods)
      (Extensions hosts * (StableKeyShare * M))) (hlen : w.length < 65000) :
    parseClientHello w = none := by
  rcases parse_hello hw hlen with ⟨session, s, hs, e, he, helen, hparse⟩
  rcases Language.mem_mul.mp hs with ⟨v, ⟨suites, hv⟩, c, ⟨methods, hc⟩, rfl⟩
  rcases Language.mem_mul.mp he with ⟨before, ⟨ws, es, hread, rfl, -⟩, _, he', rfl⟩
  rcases Language.mem_mul.mp he' with ⟨share, hshare, after, -, rfl⟩
  have hne : share ++ after ≠ [] := by
    rcases mem_singleton_mul hshare with ⟨_, -, rfl⟩
    simp
  have hmany : many extension (ws.flatten ++ (share ++ after)) = none :=
    many_eq_none hread hne (extension_stableKeyShare hshare)
  have htail : whole tail (v ++ c ++ (be16 (ws.flatten ++ (share ++ after)).length ++
      (ws.flatten ++ (share ++ after)))) = none := by
    rw [tail, List.append_assoc, whole_pair_append hv, whole_pair_append hc, extensions,
      whole_checked, whole_of_reads (reads_vec16 (by omega)), Option.bind_some, hmany]
    rfl
  rw [hparse, htail]
  rfl

end RioGram
