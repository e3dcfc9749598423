import Mathlib.Order.CompletePartialOrder
import RioGram.Core.Wire

/-!
# The ClientHello grammar

A length-driven parser of one TLS record that holds one ClientHello.  It is the yardstick for what
the templates write and shares nothing with them: every vector is delimited by its declared length,
a record, a handshake message and the extensions block have to be consumed to the last byte, and
the bodies of the extensions that contain lists (`server_name`, `supported_groups`,
`ec_point_formats`, `signature_algorithms`, ALPN, `supported_versions`, `psk_key_exchange_modes`,
`key_share`) are parsed in turn.  The lower bounds of the grammar (`<1..>`) are `nonempty`.

`Extensions hosts` is the language of extension blocks that parse and name exactly `hosts`.  It is
closed under concatenation and, up to the order of the hosts, under shuffling.
-/

namespace RioGram

open Wire

/-- What the parser keeps of an extension's body. -/
inductive ExtensionBody where
  | serverName (hosts : List Bytes)
  | numbers (values : List ℕ)
  | protocols (names : List Bytes)
  | keyShare (shares : List (ℕ × Bytes))
  | raw (data : Bytes)

structure Extension where
  type : ℕ
  body : ExtensionBody

/-- The host names of a `server_name` extension. -/
def Extension.hostNames (e : Extension) : List Bytes :=
  match e.body with
  | .serverName hosts => hosts
  | _ => []

structure ClientHello where
  random : Bytes
  sessionId : Bytes
  cipherSuites : List ℕ
  compressionMethods : List ℕ
  extensions : List Extension

def ClientHello.hostNames (hello : ClientHello) : List Bytes :=
  hello.extensions.flatMap Extension.hostNames

namespace Grammar

/-! ## The parser -/

/-- A non-empty list of items in a vector whose length is read by `len`. -/
def listOf {α : Type*} (len : Reader ℕ) (item : Reader α) : Reader (List α) :=
  checked (vec len) fun s => (many item s).bind nonempty

/-- A `ServerName`: the name type `host_name` and a name. -/
def serverName : Reader Bytes :=
  checked (pair (lit [0x00]) (checked (vec u16) nonempty)) fun p => some p.2

/-- A `KeyShareEntry`: a group and a key. -/
def keyShareEntry : Reader (ℕ × Bytes) := pair u16 (checked (vec u16) nonempty)

/-- The body of an extension of the given type. -/
def body (type : ℕ) (s : Bytes) : Option ExtensionBody :=
  match type with
  | 0 => (whole (listOf u16 serverName) s).map .serverName
  | 10 => (whole (listOf u16 u16) s).map .numbers
  | 11 => (whole (listOf u8 u8) s).map .numbers
  | 13 => (whole (listOf u16 u16) s).map .numbers
  | 16 => (whole (listOf u16 (checked (vec u8) nonempty)) s).map .protocols
  | 43 => (whole (listOf u8 u16) s).map .numbers
  | 45 => (whole (listOf u8 u8) s).map .numbers
  | 51 => (whole (checked (vec u16) (many keyShareEntry)) s).map .keyShare
  | _ => some (.raw s)

def extension : Reader Extension :=
  checked (pair u16 (vec u16)) fun p => (body p.1 p.2).map (Extension.mk p.1)

/-- The extensions block. -/
def extensions : Reader (List Extension) := checked (vec u16) (many extension)

def cipherSuites : Reader (List ℕ) := listOf u16 u16

def compressionMethods : Reader (List ℕ) := listOf u8 u8

def sessionId : Reader Bytes :=
  checked (vec u8) fun s => if s.length ≤ 32 then some s else none

/-- The fields of a ClientHello behind its `legacy_version`. -/
def clientHello : Reader ClientHello :=
  checked (pair (lit [0x03, 0x03]) <| pair (bytes 32) <| pair sessionId <| pair cipherSuites <|
    pair compressionMethods extensions)
    fun p => some ⟨p.2.1, p.2.2.1, p.2.2.2.1, p.2.2.2.2.1, p.2.2.2.2.2⟩

/-- A handshake message of type `client_hello` with its three-byte length. -/
def handshake : Reader ClientHello :=
  checked (pair (lit [0x01]) (checked (vec u24) (whole clientHello))) fun p => some p.2

/-- A record of type `handshake` and version 3.1. -/
def record : Reader ClientHello :=
  checked (pair (lit [0x16, 0x03, 0x01]) (checked (vec u16) (whole handshake))) fun p => some p.2

end Grammar

/-- The whole string has to be one record holding one ClientHello. -/
def parseClientHello (s : Bytes) : Option ClientHello := whole Grammar.record s

namespace Grammar

/-! ## Reading single extensions -/

/-- An extension is read back from its type, its length and its body. -/
lemma reads_extension {t s : Bytes} {type : ℕ} {b : ExtensionBody} (ht : Reads u16 t type)
    (hs : s.length < 65536) (hb : body type s = some b) :
    Reads extension (t ++ (be16 s.length ++ s)) ⟨type, b⟩ :=
  reads_checked (reads_pair ht (reads_vec16 hs)) (by simp only [hb, Option.map_some])

lemma reads_listOf {α : Type*} {len : Reader ℕ} {item : Reader α} {l : Bytes} {ws : List Bytes}
    {as : List α} (hl : Reads len l ws.flatten.length) (hws : ReadsList item ws as)
    (hne : as ≠ []) : Reads (listOf len item) (l ++ ws.flatten) as :=
  reads_checked (reads_vec hl) (by rw [many_flatten hws, Option.bind_some, nonempty_eq_some hne])

/-- Two equal bytes with low half `0xA` are never one of the types the grammar knows. -/
lemma body_grease {g : UInt8} (hg : g.toNat % 16 = 10) (s : Bytes) :
    body (word g g) s = some (.raw s) := by
  have h : 51 < word g g := by
    rw [word]
    omega
  generalize word g g = type at h
  unfold body
  split <;> first | omega | rfl

/-- The `ServerName` entry of a host. -/
def hostEntry (host : Bytes) : Bytes := [0x00] ++ (be16 host.length ++ host)

lemma length_hostEntry (host : Bytes) : (hostEntry host).length = host.length + 3 := by
  simp only [hostEntry, List.length_append, length_be16, List.length_singleton]
  omega

/-- `server_name` with one host is read back. -/
lemma reads_serverName {host : Bytes} (h0 : host ≠ []) (h1 : host.length < 65000) :
    Reads extension ([0x00, 0x00] ++ (be16 (be16 (hostEntry host).length ++ hostEntry host).length ++
      (be16 (hostEntry host).length ++ hostEntry host))) ⟨0, .serverName [host]⟩ := by
  have hlen := length_hostEntry host
  have hname : Reads serverName (hostEntry host) host :=
    reads_checked (reads_pair (reads_lit [0x00])
      (reads_checked (reads_vec16 (by omega)) (nonempty_eq_some h0))) rfl
  have hlist : Reads (listOf u16 serverName)
      (be16 (hostEntry host).length ++ [hostEntry host].flatten) [host] := by
    refine reads_listOf ?_ (.cons ⟨by simp [hostEntry], hname⟩ .nil) (by simp)
    rw [List.flatten_singleton]
    exact reads_u16 (by omega)
  rw [List.flatten_singleton] at hlist
  have hzero : Reads u16 [0x00, 0x00] 0 := fun _ => rfl
  refine reads_extension hzero ?_ ?_
  · rw [List.length_append, length_be16]
    omega
  · simp only [body, whole_of_reads hlist, Option.map_some]

/-! ## Blocks of extensions -/

/-- The strings that parse as a block of extensions naming exactly the given hosts. -/
def Extensions (hosts : List Bytes) : Language UInt8 :=
  {w | ∃ ws es, ReadsList extension ws es ∧ w = ws.flatten ∧ es.flatMap Extension.hostNames = hosts}

namespace Extensions

lemma nil : [] ∈ Extensions [] := ⟨[], [], .nil, rfl, rfl⟩

lemma one {w : Bytes} {e : Extension} (hne : w ≠ []) (hw : Reads extension w e) :
    w ∈ Extensions e.hostNames :=
  ⟨[w], [e], .cons ⟨hne, hw⟩ .nil, by simp, by simp⟩

lemma append {v w : Bytes} {gs hs : List Bytes} (hv : v ∈ Extensions gs) (hw : w ∈ Extensions hs) :
    v ++ w ∈ Extensions (gs ++ hs) := by
  obtain ⟨vs, es, hves, rfl, rfl⟩ := hv
  obtain ⟨ws, fs, hwfs, rfl, rfl⟩ := hw
  exact ⟨vs ++ ws, es ++ fs, List.rel_append hves hwfs, by simp, by simp⟩

lemma flatten : ∀ {ws : List Bytes} {hs : List (List Bytes)},
    List.Forall₂ (fun w h => w ∈ Extensions h) ws hs → ws.flatten ∈ Extensions hs.flatten
  | _, _, .nil => nil
  | _, _, .cons hw hrest => append hw (flatten hrest)

/-- **Shuffling blocks of extensions** reorders the hosts they name and nothing else. -/
lemma of_shuffled {Ls : List (Language UInt8)} {hs : List (List Bytes)} {w : Bytes}
    (hLs : List.Forall₂ (fun L h => L ≤ Extensions h) Ls hs) (hw : w ∈ shuffled Ls) :
    ∃ hosts : List Bytes, hosts.Perm hs.flatten ∧ w ∈ Extensions hosts := by
  obtain ⟨ws, hws, vs, hperm, rfl⟩ := hw
  have hmem : List.Forall₂ (fun w h => w ∈ Extensions h) ws hs := by
    clear hperm
    induction hLs generalizing ws with
    | nil => cases hws; exact .nil
    | cons hL _ ih => cases hws with | cons hmem hrest => exact .cons (hL hmem) (ih _ hrest)
  -- the permutation of the strings is also one of the lists of hosts they name
  obtain ⟨hs', hperm', hmem'⟩ : ∃ hs' : List (List Bytes), hs'.Perm hs ∧
      List.Forall₂ (fun w h => w ∈ Extensions h) vs hs' := by
    obtain ⟨hs', hvs, hhs⟩ := List.perm_comp_forall₂ hperm hmem
    exact ⟨hs', hhs, hvs⟩
  exact ⟨hs'.flatten, hperm'.flatten, flatten hmem'⟩

/-- A block of extensions is parsed. -/
lemma parses {w : Bytes} {hosts : List Bytes} (hw : w ∈ Extensions hosts) :
    ∃ es, many extension w = some es ∧ es.flatMap Extension.hostNames = hosts := by
  obtain ⟨ws, es, hread, rfl, hhosts⟩ := hw
  exact ⟨es, many_flatten hread, hhosts⟩

end Extensions

/-! ## Whole hellos -/

/-- Readable cipher suites. -/
def CipherSuites : Language UInt8 := {w | ∃ suites, Reads cipherSuites w suites}

/-- Readable compression methods. -/
def CompressionMethods : Language UInt8 := {w | ∃ methods, Reads compressionMethods w methods}

/-- What every template writes: the fixed fields around the cipher suites and compression methods
`S` and the extensions `E`. -/
def helloLanguage (S E : Language UInt8) : Language UInt8 :=
  {[0x16, 0x03, 0x01]} * vector16 ({[0x01, 0x00]} * vector16 ({[0x03, 0x03]} *
    ({List.replicate 32 0} * ({[0x20]} * (anyOf 32 * (S * vector16 E))))))

/-- The part of the grammar from the cipher suites on. -/
def tail : Reader (List ℕ × List ℕ × List Extension) :=
  pair cipherSuites (pair compressionMethods extensions)

lemma mem_singleton_mul {a : Bytes} {L : Language UInt8} {w : Bytes} (h : w ∈ {a} * L) :
    ∃ v ∈ L, w = a ++ v := by
  obtain ⟨_, rfl, v, hv, rfl⟩ := Language.mem_mul.mp h
  exact ⟨v, hv, rfl⟩

/-- The fields of a ClientHello around the cipher suites and compression methods `s` and the
extensions `e`. -/
def fields (session s e : Bytes) : Bytes :=
  [0x03, 0x03] ++ (List.replicate 32 0 ++ ([0x20] ++ (session ++ (s ++ (be16 e.length ++ e)))))

lemma exists_fields {S E : Language UInt8} {w : Bytes} (hw : w ∈ {[0x03, 0x03]} *
    ({List.replicate 32 0} * ({[0x20]} * (anyOf 32 * (S * vector16 E))))) :
    ∃ session : Bytes, session.length = 32 ∧ ∃ s ∈ S, ∃ e ∈ E, w = fields session s e := by
  obtain ⟨_, h₁, rfl⟩ := mem_singleton_mul hw
  obtain ⟨_, h₂, rfl⟩ := mem_singleton_mul h₁
  obtain ⟨_, h₃, rfl⟩ := mem_singleton_mul h₂
  obtain ⟨session, hsession, _, h₄, rfl⟩ := Language.mem_mul.mp h₃
  obtain ⟨s, hs, _, ⟨e, he, rfl⟩, rfl⟩ := Language.mem_mul.mp h₄
  exact ⟨session, hsession, s, hs, e, he, rfl⟩

/-- The fields before the cipher suites are read whatever follows. -/
lemma whole_clientHello {session s e : Bytes} (hsession : session.length = 32) :
    whole clientHello (fields session s e) = (whole tail (s ++ (be16 e.length ++ e))).map fun p =>
      ⟨List.replicate 32 0, session, p.1, p.2.1, p.2.2⟩ := by
  have hid : Reads sessionId ([0x20] ++ session) session := by
    refine reads_checked (reads_vec ?_) (if_pos hsession.le)
    rw [hsession]
    exact reads_u8 0x20
  have hrandom : Reads (bytes 32) (List.replicate 32 0) (List.replicate 32 0) := by
    have h := reads_bytes (List.replicate 32 0)
    rwa [List.length_replicate] at h
  rw [clientHello, whole_checked, fields, whole_pair_append (reads_lit _),
    whole_pair_append hrandom, ← List.append_assoc [0x20], whole_pair_append hid]
  simp only [Option.map_map, tail]
  rcases whole _ (s ++ (be16 e.length ++ e)) with _ | p <;> rfl

/-- The record and the handshake header are read off a string of the right length. -/
lemma parseClientHello_append {b : Bytes} (hb : b.length < 65000) :
    parseClientHello ([0x16, 0x03, 0x01] ++ (be16 ([0x01, 0x00] ++ (be16 b.length ++ b)).length ++
      ([0x01, 0x00] ++ (be16 b.length ++ b)))) = whole clientHello b := by
  have hlen : ([0x01, 0x00] ++ (be16 b.length ++ b)).length < 65536 := by simp; omega
  have hhand : whole handshake ([0x01, 0x00] ++ (be16 b.length ++ b)) = whole clientHello b := by
    have hsplit : ([0x01, 0x00] ++ (be16 b.length ++ b) : Bytes)
        = [0x01] ++ ((0x00 :: be16 b.length) ++ b) := rfl
    rw [handshake, whole_checked, hsplit, whole_pair_append (reads_lit _), whole_checked,
      whole_of_reads (reads_vec (reads_u24 (by omega)))]
    rcases h : whole clientHello b with _ | hello <;> simp [h]
  rw [parseClientHello, record, whole_checked, whole_pair_append (reads_lit _), whole_checked,
    whole_of_reads (reads_vec16 hlen), Option.bind_some, hhand]
  rcases whole clientHello b with _ | hello <;> rfl

/-- **Parsing a template's output** comes down to its part from the cipher suites on: all that is
around it is read, whatever the cipher suites and the extensions are. -/
theorem parse_hello {S E : Language UInt8} {w : Bytes} (hw : w ∈ helloLanguage S E)
    (hlen : w.length < 65000) : ∃ session, ∃ s ∈ S, ∃ e ∈ E, e.length < 65000 ∧
      parseClientHello w = (whole tail (s ++ (be16 e.length ++ e))).map fun p =>
        ⟨List.replicate 32 0, session, p.1, p.2.1, p.2.2⟩ := by
  obtain ⟨_, ⟨r, hr, rfl⟩, rfl⟩ := mem_singleton_mul hw
  obtain ⟨_, ⟨b, hb, rfl⟩, rfl⟩ := mem_singleton_mul hr
  obtain ⟨session, hsession, s, hs, e, he, rfl⟩ := exists_fields hb
  have hb : (fields session s e).length < 65000 := by
    simp only [List.length_append] at hlen
    omega
  have he' : e.length < 65000 := by
    simp only [fields, List.length_append] at hb
    omega
  refine ⟨session, s, hs, e, he, he', ?_⟩
  rw [parseClientHello_append hb, whole_clientHello hsession]

/-- Readable cipher suites and extensions make a readable hello, with the hosts of the
extensions. -/
theorem parse_hello_of_extensions {hosts : List Bytes} {w : Bytes}
    (hw : w ∈ helloLanguage (CipherSuites * CompressionMethods) (Extensions hosts))
    (hlen : w.length < 65000) :
    ∃ hello, parseClientHello w = some hello ∧ hello.hostNames = hosts := by
  obtain ⟨session, s, hs, e, he, helen, hparse⟩ := parse_hello hw hlen
  obtain ⟨v, ⟨suites, hv⟩, c, ⟨methods, hc⟩, rfl⟩ := Language.mem_mul.mp hs
  obtain ⟨es, hes, hhosts⟩ := Extensions.parses he
  have htail : whole tail (v ++ c ++ (be16 e.length ++ e)) = some (suites, methods, es) := by
    rw [tail, List.append_assoc, whole_pair_append hv, whole_pair_append hc, extensions,
      whole_checked, whole_of_reads (reads_vec16 (by omega)), Option.bind_some, hes]
    rfl
  rw [htail] at hparse
  exact ⟨_, hparse, hhosts⟩

end Grammar

end RioGram
