import RioGram.Net.Proxy
import RioGram.Tls.DpiBypass

/-!
# `tcp::ObfuscatedTransport` with an emulated TLS layer

A connection writes messages.  Each is prepared (a four-byte length in front, random padding
behind), encrypted, and cut into TLS records; the very first record carries the 64-byte header of
the connection and is preceded by a change-cipher-spec record.  The size limit of records is drawn
once per connection.

The cipher is a parameter: a stream cipher that keeps lengths.  `none` stands for a failed `CHECK`.

`doWriteTls_spec` and `writeAll_spec` say what the output is after any sequence of writes.
-/

namespace RioGram

open Wire DpiBypass

/-- `AesCtrState`: a stream cipher with a state. -/
structure AesCtr where
  State : Type
  init : (key iv : Bytes) → State
  encrypt : State → Bytes → Bytes × State
  length_encrypt : ∀ state bytes, (encrypt state bytes).1.length = bytes.length

/-- The four bytes of a `uint32`, little-endian. -/
def storeUint32 (n : ℕ) : Bytes :=
  [UInt8.ofNat n, UInt8.ofNat (n / 2 ^ 8), UInt8.ofNat (n / 2 ^ 16), UInt8.ofNat (n / 2 ^ 24)]

/-- The two bytes of an `int16`, little-endian. -/
def storeInt16 (n : ℤ) : Bytes :=
  [UInt8.ofNat (n % 2 ^ 16).toNat, UInt8.ofNat ((n % 2 ^ 16).toNat / 2 ^ 8)]

/-- `data` with the bytes from `offset` on replaced by `bytes`. -/
def overwrite (data : Bytes) (offset : ℕ) (bytes : Bytes) : Bytes :=
  data.take offset ++ bytes ++ data.drop (offset + bytes.length)

lemma length_overwrite {data bytes : Bytes} {offset : ℕ} (h : offset + bytes.length ≤ data.length) :
    (overwrite data offset bytes).length = data.length := by
  simp only [overwrite, List.length_append, List.length_take, List.length_drop]
  omega

/-- `IntermediateTransport::write_prepare_inplace`. -/
def writePrepareInplace (withPadding : Bool) (message : Bytes) (quickAck : Bool) (rng : Rng) :
    Option (Bytes × Rng) :=
  let size := message.length
  if size % 4 = 0 ∧ size < 2 ^ 24 then
    let (padding, rng) :=
      if withPadding then
        let (n, rng) := rng.secureUint32
        rng.secureBytes (n % 16)
      else ([], rng)
    let size := if quickAck then size + 2 ^ 31 else size
    some (storeUint32 (size + padding.length) ++ message ++ padding, rng)
  else none

/-- `ObfuscatedTransport`, for a secret that emulates TLS. -/
structure ObfuscatedTransport (aes : AesCtr) where
  isFirstTlsPacket : Bool := true
  maxTlsPacketLength : ℕ
  withPadding : Bool
  header : Bytes
  outputState : aes.State
  output : Bytes := []

namespace ObfuscatedTransport

variable {aes : AesCtr}

/-- `MAX_TLS_PACKET_LENGTH`. -/
def maxTlsPacketLengthDefault : ℕ := 2878

/-- The header that `init` makes of 64 random bytes: the magic of the padding mode at offset 56
and the DC identifier at offset 60. -/
def initHeader (withPadding : Bool) (dcId : ℤ) (drawn : Bytes) : Bytes :=
  let header := overwrite drawn 56 (storeUint32 (if withPadding then 0xdddddddd else 0xeeeeeeee))
  if dcId ≠ 0 then overwrite header 60 (storeInt16 dcId) else header

/-- `init`, as far as the output is concerned.  `sha256` is applied to the key and the secret. -/
def init (aes : AesCtr) (sha256 : Bytes → Bytes) (cfg : Config) (dcId : ℤ) (secret : ProxySecret)
    (rng : Rng) : ObfuscatedTransport aes × Rng :=
  let (drawn, rng) := rng.secureBytes 64
  let header := initHeader secret.useRandomPadding dcId drawn
  let (maxTlsPacketLength, rng) := pickRandomRecordSize cfg maxTlsPacketLengthDefault rng
  let key := (header.drop 8).take 32
  let outputKey :=
    if secret.getProxySecret ≠ [] then sha256 (key ++ secret.getProxySecret) else key
  let (encrypted, outputState) := aes.encrypt (aes.init outputKey ((header.drop 40).take 16)) header
  ({ maxTlsPacketLength := maxTlsPacketLength
     withPadding := secret.useRandomPadding
     header := overwrite header 56 (encrypted.drop 56)
     outputState := outputState }, rng)

/-- `do_write_tls(BufferBuilder)`: one record. -/
def doWriteRecord (t : ObfuscatedTransport aes) (builder : Bytes) :
    Option (ObfuscatedTransport aes) :=
  let builder := t.header ++ builder
  let size := builder.length
  if size ≤ t.maxTlsPacketLength then
    let builder := [0x17, 0x03, 0x03, UInt8.ofNat (size / 256), UInt8.ofNat size] ++ builder
    let builder :=
      if t.isFirstTlsPacket then [0x14, 0x03, 0x03, 0x00, 0x01, 0x01] ++ builder else builder
    some { t with header := [], isFirstTlsPacket := false, output := t.output ++ builder }
  else none

/-- The loop of `do_write_tls(BufferWriter)` over what is left of the message.  A round consumes
a byte or, at the latest in the first one, the header; `fuel` bounds the rounds. -/
def splitLoop : (fuel : ℕ) → ObfuscatedTransport aes → Bytes → Option (ObfuscatedTransport aes)
  | _, t, [] => some t
  | 0, _, _ :: _ => none
  | fuel + 1, t, slice@(_ :: _) =>
      let buf := slice.take (t.maxTlsPacketLength - t.header.length)
      (t.doWriteRecord buf).bind fun t => splitLoop fuel t (slice.drop buf.length)

/-- `do_write_tls(BufferWriter)`. -/
def doWriteTls (t : ObfuscatedTransport aes) (message : Bytes) : Option (ObfuscatedTransport aes) :=
  if t.header.length ≤ t.maxTlsPacketLength then
    if message.length + t.header.length > t.maxTlsPacketLength then
      splitLoop (message.length + 1) t message
    else t.doWriteRecord message
  else none

/-- `do_write_tls` for one message after another. -/
def doWriteTlsAll (t : ObfuscatedTransport aes) : List Bytes → Option (ObfuscatedTransport aes)
  | [] => some t
  | message :: messages => (t.doWriteTls message).bind fun t => t.doWriteTlsAll messages

/-- `write`. -/
def write (t : ObfuscatedTransport aes) (message : Bytes) (quickAck : Bool) (rng : Rng) :
    Option (ObfuscatedTransport aes × Rng) :=
  (writePrepareInplace t.withPadding message quickAck rng).bind fun (message, rng) =>
    let (encrypted, outputState) := aes.encrypt t.outputState message
    (doWriteTls { t with outputState := outputState } encrypted).map (·, rng)

/-- `write` for one message after another. -/
def writeAll (t : ObfuscatedTransport aes) : List (Bytes × Bool) → Rng →
    Option (ObfuscatedTransport aes × Rng)
  | [], rng => some (t, rng)
  | (message, quickAck) :: messages, rng =>
      (t.write message quickAck rng).bind fun (t, rng) => t.writeAll messages rng

/-! ## What is written -/

/-- A TLS application-data record. -/
def record (payload : Bytes) : Bytes := [0x17, 0x03, 0x03] ++ (be16 payload.length ++ payload)

/-- The change-cipher-spec record in front of everything else. -/
def changeCipherSpec : Bytes := [0x14, 0x03, 0x03, 0x00, 0x01, 0x01]

/-- The transport after the records of `payloads` have been written. -/
def written (t : ObfuscatedTransport aes) (payloads : List Bytes) : ObfuscatedTransport aes :=
  { t with
    header := []
    isFirstTlsPacket := false
    output := t.output ++ ((if t.isFirstTlsPacket then changeCipherSpec else []) ++
      (payloads.map record).flatten) }

lemma written_written (t : ObfuscatedTransport aes) (ps qs : List Bytes) :
    (t.written ps).written qs = t.written (ps ++ qs) := by
  simp only [written, Bool.false_eq_true, if_false, List.nil_append, List.map_append,
    List.flatten_append, List.append_assoc]

/-- Payloads that a connection with the given limit may send. -/
def Fits (limit : ℕ) (payloads : List Bytes) : Prop :=
  ∀ p ∈ payloads, 0 < p.length ∧ p.length ≤ limit

lemma Fits.append {limit : ℕ} {ps qs : List Bytes} (hp : Fits limit ps) (hq : Fits limit qs) :
    Fits limit (ps ++ qs) := by
  intro p hmem
  rcases List.mem_append.mp hmem with h | h
  · exact hp p h
  · exact hq p h

lemma doWriteRecord_eq {t : ObfuscatedTransport aes} {builder : Bytes}
    (h : t.header.length + builder.length ≤ t.maxTlsPacketLength) :
    t.doWriteRecord builder = some (t.written [t.header ++ builder]) := by
  have hsize : (t.header ++ builder).length ≤ t.maxTlsPacketLength := by
    rw [List.length_append]
    exact h
  simp only [doWriteRecord, if_pos hsize, written, List.map_singleton, List.flatten_singleton, record,
    be16]
  cases t.isFirstTlsPacket <;> rfl

/-- **The splitting loop** sends the header and the slice in records within the limit.  The
induction is on the fuel; after the first round the header is gone. -/
lemma splitLoop_spec : ∀ (fuel : ℕ) (t : ObfuscatedTransport aes) (slice : Bytes),
    slice ≠ [] → slice.length ≤ fuel → t.header.length < t.maxTlsPacketLength →
      ∃ payloads, splitLoop fuel t slice = some (t.written payloads) ∧
        Fits t.maxTlsPacketLength payloads ∧ payloads.flatten = t.header ++ slice
  | 0, _, slice, hne, hfuel, _ => absurd (List.eq_nil_of_length_eq_zero (by omega)) hne
  | fuel + 1, t, [], hne, _, _ => absurd rfl hne
  | fuel + 1, t, a :: slice, _, hfuel, hheader => by
      set room := t.maxTlsPacketLength - t.header.length with hroom
      set buf := (a :: slice).take room with hbuf
      have hlen : buf.length = min room (slice.length + 1) := by
        rw [hbuf, List.length_take, List.length_cons]
      have hrecord : t.doWriteRecord buf = some (t.written [t.header ++ buf]) :=
        doWriteRecord_eq (by omega)
      have hfits : Fits t.maxTlsPacketLength [t.header ++ buf] := by
        intro p hp
        rw [List.mem_singleton.mp hp, List.length_append]
        omega
      have hsplit : buf ++ (a :: slice).drop buf.length = a :: slice :=
        List.prefix_iff_eq_append.mp (List.take_prefix room (a :: slice))
      rw [splitLoop, ← hroom, ← hbuf, hrecord, Option.bind_some]
      by_cases hrest : (a :: slice).drop buf.length = []
      · refine ⟨[t.header ++ buf], ?_, hfits, ?_⟩
        · rw [hrest, splitLoop]
        · rw [hrest, List.append_nil] at hsplit
          rw [List.flatten_singleton, hsplit]
      · have hrestlen : ((a :: slice).drop buf.length).length ≤ fuel := by
          rw [List.length_drop, List.length_cons]
          rw [List.length_cons] at hfuel
          omega
        rcases splitLoop_spec fuel (t.written [t.header ++ buf]) _ hrest hrestlen
          (show 0 < t.maxTlsPacketLength by omega) with ⟨payloads, hrun, hpayloads, hflat⟩
        refine ⟨[t.header ++ buf] ++ payloads, ?_, hfits.append hpayloads, ?_⟩
        · rw [hrun, written_written]
        · rw [List.flatten_append, hflat, List.flatten_singleton]
          show t.header ++ buf ++ ([] ++ _) = _
          rw [List.nil_append, List.append_assoc, hsplit]

/-- One message, of any length but zero. -/
lemma doWriteTls_spec {t : ObfuscatedTransport aes} {message : Bytes} (hne : message ≠ [])
    (hheader : t.header.length < t.maxTlsPacketLength) :
    ∃ payloads, t.doWriteTls message = some (t.written payloads) ∧
      Fits t.maxTlsPacketLength payloads ∧ payloads.flatten = t.header ++ message := by
  rw [doWriteTls, if_pos hheader.le]
  split_ifs with hbig
  · exact splitLoop_spec _ t message hne (by omega) hheader
  · refine ⟨[t.header ++ message], doWriteRecord_eq (by omega), ?_, List.flatten_singleton⟩
    intro p hp
    have hpos := List.length_pos_of_ne_nil hne
    rw [List.mem_singleton.mp hp, List.length_append]
    omega

/-- Any sequence of messages. -/
lemma doWriteTlsAll_spec : ∀ (messages : List Bytes) (t : ObfuscatedTransport aes),
    messages ≠ [] → (∀ m ∈ messages, m ≠ []) → t.header.length < t.maxTlsPacketLength →
      ∃ payloads, t.doWriteTlsAll messages = some (t.written payloads) ∧
        Fits t.maxTlsPacketLength payloads ∧ payloads.flatten = t.header ++ messages.flatten
  | [], _, hne, _, _ => absurd rfl hne
  | [message], t, _, hall, hheader => by
      rcases doWriteTls_spec (hall message (by simp)) hheader with ⟨payloads, hrun, hfits, hflat⟩
      refine ⟨payloads, ?_, hfits, ?_⟩
      · rw [doWriteTlsAll, hrun]
        rfl
      · rw [hflat, List.flatten_singleton]
  | message :: next :: messages, t, _, hall, hheader => by
      rcases doWriteTls_spec (hall message (by simp)) hheader with ⟨ps, hrun, hfits, hflat⟩
      rcases doWriteTlsAll_spec (next :: messages) (t.written ps) (by simp)
        (fun m hm => hall m (List.mem_cons_of_mem _ hm))
        (show 0 < t.maxTlsPacketLength by omega) with ⟨qs, hrun', hfits', hflat'⟩
      refine ⟨ps ++ qs, ?_, hfits.append hfits', ?_⟩
      · rw [doWriteTlsAll, hrun, Option.bind_some, hrun', written_written]
      · rw [List.flatten_append, hflat, hflat', List.flatten_cons, List.append_assoc]
        rfl

/-! ### Preparing and encrypting -/

/-- A prepared message has at least its four bytes of length, whatever was to be written. -/
lemma writePrepareInplace_spec (withPadding : Bool) {message : Bytes} (quickAck : Bool) (rng : Rng)
    (hsize : message.length % 4 = 0 ∧ message.length < 2 ^ 24) :
    ∃ prepared rng', writePrepareInplace withPadding message quickAck rng = some (prepared, rng') ∧
      4 + message.length ≤ prepared.length ∧ prepared.length < 20 + message.length := by
  rw [writePrepareInplace, if_pos hsize]
  cases withPadding with
  | false =>
      refine ⟨_, _, rfl, ?_, ?_⟩
      · simp [storeUint32]
        omega
      · simp [storeUint32]
        omega
  | true =>
      have hmod := Nat.mod_lt rng.secureUint32.1 (show 0 < 16 by omega)
      refine ⟨_, _, rfl, ?_, ?_⟩
      · simp [storeUint32]
        omega
      · simp [storeUint32]
        omega

/-- The messages that a sequence of `write`s hands to `do_write_tls`, prepared and encrypted. -/
def encryptAll (withPadding : Bool) : aes.State → List (Bytes × Bool) → Rng →
    Option (List Bytes × aes.State × Rng)
  | state, [], rng => some ([], state, rng)
  | state, (message, quickAck) :: messages, rng =>
      (writePrepareInplace withPadding message quickAck rng).bind fun (message, rng) =>
        let (encrypted, state) := aes.encrypt state message
        (encryptAll withPadding state messages rng).map fun (rest, p) => (encrypted :: rest, p)

/-- There are as many as there were messages. -/
lemma length_encryptAll (withPadding : Bool) : ∀ (messages : List (Bytes × Bool)) (state : aes.State)
    (rng : Rng) {encrypted : List Bytes} {p : aes.State × Rng},
    encryptAll withPadding state messages rng = some (encrypted, p) →
      encrypted.length = messages.length
  | [], _, _, _, _, h => by
      cases h
      rfl
  | (message, quickAck) :: messages, state, rng, _, _, h => by
      rw [encryptAll, Option.bind_eq_some_iff] at h
      rcases h with ⟨⟨prepared, rng₁⟩, -, h⟩
      rcases Option.map_eq_some_iff.mp h with ⟨⟨rest, q⟩, hrest, heq⟩
      cases heq
      rw [List.length_cons, List.length_cons, length_encryptAll withPadding messages _ _ hrest]

/-- One `write`. -/
lemma write_spec {t : ObfuscatedTransport aes} {message : Bytes} (quickAck : Bool) (rng : Rng)
    (hsize : message.length % 4 = 0 ∧ message.length < 2 ^ 24)
    (hheader : t.header.length < t.maxTlsPacketLength) :
    ∃ prepared rng' payloads,
      writePrepareInplace t.withPadding message quickAck rng = some (prepared, rng') ∧
      (aes.encrypt t.outputState prepared).1 ≠ [] ∧
      t.write message quickAck rng = some ({ t.written payloads with
        outputState := (aes.encrypt t.outputState prepared).2 }, rng') ∧
      Fits t.maxTlsPacketLength payloads ∧
      payloads.flatten = t.header ++ (aes.encrypt t.outputState prepared).1 := by
  rcases writePrepareInplace_spec t.withPadding quickAck rng hsize with
    ⟨prepared, rng', hprepare, hlen, -⟩
  have hne : (aes.encrypt t.outputState prepared).1 ≠ [] := by
    refine List.ne_nil_of_length_pos ?_
    rw [aes.length_encrypt]
    omega
  let t' : ObfuscatedTransport aes :=
    { t with outputState := (aes.encrypt t.outputState prepared).2 }
  rcases doWriteTls_spec (t := t') hne hheader with ⟨payloads, hrun, hfits, hflat⟩
  refine ⟨prepared, rng', payloads, hprepare, hne, ?_, hfits, hflat⟩
  have hrun' : doWriteTls { t with outputState := (aes.encrypt t.outputState prepared).2 }
      (aes.encrypt t.outputState prepared).1 = some (t'.written payloads) := hrun
  simp only [write, hprepare, Option.bind_some, hrun', Option.map_some]
  rfl

/-- **`write` is encryption followed by framing**: any sequence of `write`s sends the encrypted
messages, none of which is empty, in records within the limit. -/
lemma writeAll_spec : ∀ (messages : List (Bytes × Bool)) (t : ObfuscatedTransport aes) (rng : Rng),
    messages ≠ [] → (∀ m ∈ messages, m.1.length % 4 = 0 ∧ m.1.length < 2 ^ 24) →
      t.header.length < t.maxTlsPacketLength →
      ∃ encrypted state rng' payloads,
        encryptAll t.withPadding t.outputState messages rng = some (encrypted, state, rng') ∧
        (∀ e ∈ encrypted, e ≠ []) ∧
        t.writeAll messages rng = some ({ t.written payloads with outputState := state }, rng') ∧
        Fits t.maxTlsPacketLength payloads ∧ payloads.flatten = t.header ++ encrypted.flatten
  | [], _, _, hne, _, _ => absurd rfl hne
  | [(message, quickAck)], t, rng, _, hall, hheader => by
      rcases write_spec quickAck rng (hall (message, quickAck) (by simp)) hheader with
        ⟨prepared, rng', payloads, hprepare, hne, hrun, hfits, hflat⟩
      refine ⟨[(aes.encrypt t.outputState prepared).1], (aes.encrypt t.outputState prepared).2, rng',
        payloads, ?_, by simpa using hne, ?_, hfits, ?_⟩
      · simp only [encryptAll, hprepare, Option.bind_some, Option.map_some]
      · simp only [writeAll, hrun, Option.bind_some]
      · rw [hflat, List.flatten_singleton]
  | (message, quickAck) :: next :: messages, t, rng, _, hall, hheader => by
      rcases write_spec quickAck rng (hall (message, quickAck) (by simp)) hheader with
        ⟨prepared, rng₁, ps, hprepare, hne, hrun, hfits, hflat⟩
      let t₁ : ObfuscatedTransport aes :=
        { t.written ps with outputState := (aes.encrypt t.outputState prepared).2 }
      have hheader₁ : t₁.header.length < t₁.maxTlsPacketLength :=
        show 0 < t.maxTlsPacketLength by omega
      rcases writeAll_spec (next :: messages) t₁ rng₁ (by simp)
        (fun m hm => hall m (List.mem_cons_of_mem _ hm)) hheader₁ with
        ⟨encrypted, state, rng', qs, hencrypt, hne', hrun', hfits', hflat'⟩
      have hencrypt' : encryptAll t.withPadding (aes.encrypt t.outputState prepared).2
          (next :: messages) rng₁ = some (encrypted, state, rng') := hencrypt
      refine ⟨(aes.encrypt t.outputState prepared).1 :: encrypted, state, rng', ps ++ qs, ?_, ?_, ?_,
        hfits.append hfits', ?_⟩
      · rw [encryptAll, hprepare, Option.bind_some]
        simp only [hencrypt', Option.map_some]
      · intro e he
        rcases List.mem_cons.mp he with rfl | he
        · exact hne
        · exact hne' e he
      · rw [writeAll, hrun, Option.bind_some]
        show t₁.writeAll (next :: messages) rng₁ = _
        rw [hrun', ← written_written]
        rfl
      · rw [List.flatten_append, hflat, hflat', List.flatten_cons, List.append_assoc]
        rfl

lemma length_initHeader (withPadding : Bool) (dcId : ℤ) {drawn : Bytes} (h : drawn.length = 64) :
    (initHeader withPadding dcId drawn).length = 64 := by
  have hmagic : ∀ magic, (overwrite drawn 56 (storeUint32 magic)).length = 64 := by
    intro magic
    rw [length_overwrite, h]
    simp [storeUint32, h]
  rw [initHeader]
  by_cases hdc : dcId ≠ 0
  · rw [if_pos hdc, length_overwrite, hmagic]
    rw [hmagic]
    simp [storeInt16]
  · rw [if_neg hdc, hmagic]

/-- A connection starts with a header of 64 bytes, and its limit is above it. -/
lemma init_spec (aes : AesCtr) (sha256 : Bytes → Bytes) (cfg : Config) (dcId : ℤ)
    (secret : ProxySecret) (rng : Rng) :
    (init aes sha256 cfg dcId secret rng).1.header.length = 64 ∧
      64 < (init aes sha256 cfg dcId secret rng).1.maxTlsPacketLength ∧
      (init aes sha256 cfg dcId secret rng).1.isFirstTlsPacket = true ∧
      (init aes sha256 cfg dcId secret rng).1.output = [] := by
  have hbounds := (pickRandomRecordSize_bounds cfg maxTlsPacketLengthDefault (rng.secureBytes 64).2).1
  refine ⟨?_, ?_, rfl, rfl⟩
  · have hheader := length_initHeader secret.useRandomPadding dcId (Rng.length_secureBytes 64 rng)
    simp only [init]
    rw [length_overwrite, hheader]
    rw [List.length_drop, aes.length_encrypt, hheader]
  · exact lt_of_lt_of_le (by decide) hbounds

/-- The length of a record fits into its two bytes. -/
lemma init_limit (aes : AesCtr) (sha256 : Bytes → Bytes) (cfg : Config) (dcId : ℤ)
    (secret : ProxySecret) (rng : Rng) :
    (init aes sha256 cfg dcId secret rng).1.maxTlsPacketLength < 65536 :=
  lt_of_le_of_lt
    (pickRandomRecordSize_bounds cfg maxTlsPacketLengthDefault (rng.secureBytes 64).2).2 (by decide)

end ObfuscatedTransport

end RioGram
