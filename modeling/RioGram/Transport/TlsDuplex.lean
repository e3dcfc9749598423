import RioGram.Transport.Obfuscation
import RioGram.Transport.TlsReaderByteFlow

/-!
# Both directions of an emulated TLS connection

For a secret that emulates TLS the bytes of both directions go through records.  What the reader takes out of them
is woken up through the cipher, until the reader finds something that is not a record.

* `wakeupAll_spec`: the payloads of the records are decrypted, whatever the chunks.
* `tls_duplex`: both sides read what the other has sent, however it has been cut into records and chunks.
-/

namespace RioGram

open Wire DpiBypass Incremental IntermediateTransport StreamCipher TlsReaderByteFlow

variable {aes : AesCtr} {sha256 : Bytes → Bytes} {cfg : Config} {secret : ProxySecret} {dcId : ℤ}

namespace ObfuscatedTransport

/-! ## The flow of bytes -/

/-- The flows of `init` for a secret that emulates TLS. -/
structure TlsInput (aes : AesCtr) where
  reader : TlsReaderByteFlow := {}
  inputState : aes.State

namespace TlsInput

/-- What the flows make of a chunk when `read_next` wakes them up.  A reader that has stopped has closed the input of
the cipher, which does not get what the reader has put out in that round. -/
def wakeup (t : TlsInput aes) (chunk : Bytes) : Option (TlsInput aes × Bytes) :=
  (t.reader.feed chunk).map fun reader =>
    if reader.stopped then ({ t with reader := reader }, [])
    else
      let (decrypted, inputState) := aes.encrypt t.inputState reader.output
      ({ reader := { reader with output := [] }, inputState := inputState }, decrypted)

/-- One chunk after another. -/
def wakeupAll (t : TlsInput aes) : List Bytes → Option (TlsInput aes × List Bytes)
  | [] => some (t, [])
  | chunk :: chunks =>
      (t.wakeup chunk).bind fun (t, piece) => (t.wakeupAll chunks).map fun (t, pieces) => (t, piece :: pieces)

/-- **The payloads of the records are decrypted**, as far as they have arrived. -/
lemma wakeupAll_spec {limit : ℕ} (hlimit : limit < 65536) {chunks : List Bytes} {t : TlsInput aes}
    {rest : List Bytes} {future : Bytes} (hfits : Fits limit rest)
    (h : Expects t.reader [] rest (chunks.flatten ++ future))
    (hquiet : ∀ q qs, rest = q :: qs → t.reader.input.length < 5 + q.length) :
    ∃ t' plain, t.wakeupAll chunks = some (t', (goOver aes.encrypt t.inputState plain).1) ∧
      plain.flatten <+: rest.flatten ∧ (future = [] → plain.flatten = rest.flatten) := by
  induction chunks generalizing t rest with
  | nil =>
      refine ⟨t, [], rfl, List.nil_prefix, ?_⟩
      rintro rfl
      rcases rest with _ | ⟨q, qs⟩
      · rfl
      · -- a complete record would be there, but the reader waits
        have hlength := congrArg List.length h.stream
        rw [List.flatten_nil, List.append_nil, List.append_nil, List.map_cons, List.flatten_cons, List.length_append,
          length_record] at hlength
        have hshort := hquiet q qs rfl
        omega
  | cons chunk chunks ih =>
      rw [List.flatten_cons, List.append_assoc] at h
      rcases feed_expects hlimit hfits h with ⟨r, ps, qs, hfeed, rfl, hexpects, hwaits⟩
      rw [List.nil_append] at hexpects
      set t₁ : TlsInput aes :=
        { reader := { r with output := [] }, inputState := (aes.encrypt t.inputState ps.flatten).2 } with ht₁
      have hwakeup : t.wakeup chunk = some (t₁, (aes.encrypt t.inputState ps.flatten).1) := by
        rw [wakeup, hfeed, Option.map_some, if_neg (by simp [hexpects.running]), hexpects.output]
      have hnext : Expects t₁.reader [] qs (chunks.flatten ++ future) :=
        ⟨hexpects.running, rfl, hexpects.stream, hexpects.need⟩
      rcases ih (fun q hq => hfits q (List.mem_append_right _ hq)) hnext hwaits with
        ⟨t', plain, hrun, hprefix, hall⟩
      refine ⟨t', ps.flatten :: plain, ?_, ?_, fun hfuture => ?_⟩
      · simp only [wakeupAll, hwakeup, Option.bind_some, hrun, Option.map_some]
        rfl
      · rw [List.flatten_cons, List.flatten_append, List.prefix_append_right_inj]
        exact hprefix
      · rw [List.flatten_cons, List.flatten_append, hall hfuture]

end TlsInput

/-! ## The connection -/

/-- The transport for a secret that emulates TLS: what it writes with, and what it reads with. -/
structure Tls (aes : AesCtr) where
  writer : ObfuscatedTransport aes
  input : TlsInput aes

namespace Tls

/-- `init`; the key of the input is in the reversed header. -/
def init (aes : AesCtr) (sha256 : Bytes → Bytes) (cfg : Config) (dcId : ℤ) (secret : ProxySecret) (rng : Rng) :
    Tls aes × Rng :=
  let header := initHeader secret.useRandomPadding dcId (rng.secureBytes 64).1
  let (writer, rng) := ObfuscatedTransport.init aes sha256 cfg dcId secret rng
  ({ writer := writer, input := { inputState := stateOf aes sha256 secret header.reverse } }, rng)

/-- Moves one after another, and what has been decrypted. -/
def run (t : Tls aes) : List Move → Rng → Option (Tls aes × List Bytes × Rng)
  | [], rng => some (t, [], rng)
  | .write message quickAck :: moves, rng =>
      (t.writer.write message quickAck rng).bind fun (writer, rng) => run { t with writer := writer } moves rng
  | .arrive chunk :: moves, rng =>
      (t.input.wakeup chunk).bind fun (input, piece) =>
        (run { t with input := input } moves rng).map fun (t, pieces, rng) => (t, piece :: pieces, rng)

/-- Neither direction depends on the other one. -/
lemma run_eq (moves : List Move) (t : Tls aes) (rng rng' : Rng) {writer : ObfuscatedTransport aes}
    {input : TlsInput aes} {pieces : List Bytes} (hwrite : t.writer.writeAll (messages moves) rng = some (writer, rng'))
    (hread : t.input.wakeupAll (arrivals moves) = some (input, pieces)) :
    t.run moves rng = some ({ writer := writer, input := input }, pieces, rng') := by
  induction moves generalizing t rng pieces with
  | nil =>
      cases hwrite
      cases hread
      rfl
  | cons move moves ih =>
      cases move with
      | write message quickAck =>
          rcases Option.bind_eq_some_iff.mp hwrite with ⟨⟨writer₁, rng₁⟩, hfirst, hrest⟩
          rw [run, hfirst, Option.bind_some]
          exact ih { t with writer := writer₁ } rng₁ hrest hread
      | arrive chunk =>
          rcases Option.bind_eq_some_iff.mp hread with ⟨⟨input₁, piece⟩, hfirst, hrest⟩
          rcases Option.map_eq_some_iff.mp hrest with ⟨⟨input₂, pieces₂⟩, hpieces, heq⟩
          cases heq
          simp only [run, hfirst, Option.bind_some, ih { t with input := input₁ } rng hwrite hpieces,
            Option.map_some]

end Tls

/-- The messages have become requests, and these have been encrypted. -/
lemma encryptAll_spec (haes : Lawful aes.encrypt) (withPadding : Bool) {messages : List (Bytes × Bool)}
    (hsize : ∀ m ∈ messages, Sized m) (s : aes.State) (rng : Rng) :
    ∃ encrypted s' rng' rs, encryptAll withPadding s messages rng = some (encrypted, s', rng') ∧
      List.Forall₂ (Prepared withPadding) messages rs ∧
      encrypted.flatten = (aes.encrypt s (rs.map Request.encode).flatten).1 := by
  induction messages generalizing s rng with
  | nil =>
      refine ⟨[], s, rng, [], rfl, .nil, ?_⟩
      rw [List.map_nil, List.flatten_nil, haes.nil]
  | cons message messages ih =>
      rw [List.forall_mem_cons] at hsize
      rcases writePrepareInplace_eq withPadding message.2 rng hsize.1 with
        ⟨padding, rng₁, hprepare, hpadding, hnone⟩
      set r : Request := ⟨message.2, message.1 ++ padding⟩
      rcases ih hsize.2 (aes.encrypt s r.encode).2 rng₁ with ⟨encrypted, s', rng', rs, hrest, hprepared, hflatten⟩
      refine ⟨(aes.encrypt s r.encode).1 :: encrypted, s', rng', r :: rs, ?_,
        .cons ⟨rfl, padding, rfl, hpadding, hnone⟩ hprepared, ?_⟩
      · rw [encryptAll, hprepare, Option.bind_some]
        simp only [hrest, Option.map_some]
      · rw [List.flatten_cons, List.map_cons, List.flatten_cons, haes.append, hflatten]

/-- **Both sides of an emulated TLS connection read what the other has sent**, however writing and arriving
alternate.  What is sent are a change-cipher-spec record and records whose payloads are, for whoever reads them in
any chunks, the magic, the DC identifier and the messages with their padding; and what comes back in any records and
any chunks comes out of the flows as it was, so that the connection handles all of it. -/
theorem tls_duplex (haes : Lawful aes.encrypt) {rng rng' : Rng} {t : Tls aes}
    (ht : Tls.init aes sha256 cfg dcId secret rng = (t, rng')) {moves : List Move}
    (hsize : ∀ m ∈ messages moves, Sized m) (hwritten : messages moves ≠ []) {responses : List Bytes}
    (hresponses : Fits 65535 responses) {future : Bytes}
    (harrived : (arrivals moves).flatten ++ future = (responses.map record).flatten) :
    ∃ t' pieces rng'', ∃ payloads : List Bytes, t.run moves rng' = some (t', pieces, rng'') ∧
      t'.writer.output = changeCipherSpec ++ (payloads.map record).flatten ∧
      (∀ chunks : List Bytes, chunks.flatten = (payloads.map record).flatten →
        ∃ r, feedAll {} chunks = some r ∧
          (Peer.read aes sha256 secret r.output).Says secret.useRandomPadding dcId (messages moves)) ∧
      ∀ fs, responses.flatten = Peer.write aes sha256 secret payloads.flatten fs →
        pieces.flatten <+: (fs.map Frame.encode).flatten ∧
        (future = [] → (∀ frame ∈ fs, frame.Valid ∧ frame.encode.length ≤ RawConnection.maxPacketSize) →
          ∀ {π : Type} (callback : RawConnection.Callback π),
            (RawConnection.flushAll callback pieces).handled = RawConnection.handleAll callback {} fs) := by
  set drawn := (rng.secureBytes 64).1 with hbytes
  have hdrawn : drawn.length = 64 := Rng.length_secureBytes 64 rng
  set header := initHeader secret.useRandomPadding dcId drawn with hinit
  have hheader : header.length = 64 := length_initHeader _ _ hdrawn
  set s := stateOf aes sha256 secret header
  obtain ⟨hwriter, hinput⟩ : (ObfuscatedTransport.init aes sha256 cfg dcId secret rng).1 = t.writer ∧
      t.input = { inputState := stateOf aes sha256 secret header.reverse } := by
    cases ht
    exact ⟨rfl, rfl⟩
  have hstart := init_spec aes sha256 cfg dcId secret rng
  have hlimit := init_limit aes sha256 cfg dcId secret rng
  rw [hwriter] at hstart hlimit
  obtain ⟨hpadding, hfirst, hstate⟩ : t.writer.withPadding = secret.useRandomPadding ∧
      t.writer.header = overwrite header 56 ((aes.encrypt s header).1.drop 56) ∧
      t.writer.outputState = (aes.encrypt s header).2 := by
    rw [← hwriter]
    exact ⟨rfl, rfl, rfl⟩
  rcases encryptAll_spec haes t.writer.withPadding hsize t.writer.outputState rng' with
    ⟨encrypted, s', rng'', rs, hencrypt, hprepared, hflatten⟩
  rcases writeAll_spec (messages moves) t.writer rng' hwritten hsize (by omega) with
    ⟨encrypted', s'', rng₁, payloads, hencrypt', -, hwrite, hfits, hpayloads⟩
  cases hencrypt.symm.trans hencrypt'
  rw [hflatten, hfirst, hstate] at hpayloads
  rw [hpadding] at hprepared
  -- what arrives
  have hreader : Expects t.input.reader [] responses ((arrivals moves).flatten ++ future) := by
    rw [hinput, harrived]
    exact ⟨rfl, rfl, rfl, fun _ _ _ => Nat.zero_le _⟩
  have hquiet : ∀ q qs, responses = q :: qs → t.input.reader.input.length < 5 + q.length := by
    intro q qs _
    rw [hinput]
    show 0 < 5 + q.length
    omega
  rcases TlsInput.wakeupAll_spec (by decide) hresponses hreader hquiet with ⟨input, plain, hwakeup, hprefix, hall⟩
  refine ⟨_, _, rng'', payloads, Tls.run_eq moves t rng' rng'' hwrite hwakeup, ?_, ?_, ?_⟩
  · show t.writer.output ++ ((if t.writer.isFirstTlsPacket then changeCipherSpec else []) ++ _) = _
    rw [hstart.2.2.1, hstart.2.2.2]
    rfl
  · intro chunks hchunks
    rcases feedAll_records hlimit hfits hchunks with ⟨r, hfeed, houtput, -, -⟩
    have hread := Peer.read_sent sha256 secret dcId secret.useRandomPadding haes hdrawn
      (valid_of_prepared hprepared hsize)
    refine ⟨r, hfeed, ?_⟩
    rw [houtput, hpayloads, hread]
    exact ⟨rfl, fun hdc => if_pos hdc, hprepared, rfl⟩
  · intro fs hresponse
    rcases take_sent haes hheader s (rs.map Request.encode).flatten with ⟨hlength, htake⟩
    have hkey := (stateOf_eq aes sha256 secret hlength hheader htake).2
    rw [hpayloads, Peer.write, hkey] at hresponse
    rw [hresponse] at hprefix hall
    rw [hinput]
    exact ⟨haes.goOver_prefix _ hprefix, fun hfuture hfs π callback =>
      RawConnection.flushAll_encoded callback hfs (haes.goOver_inverse _ (hall hfuture))⟩

/-- A packet is written before and after the first bytes of a record arrive. -/
theorem tls_duplex_two_packets :
    let secret : ProxySecret := ⟨0xee :: List.replicate 16 0x01 ++ [0x61, 0x2e, 0x62]⟩
    let moves : List Move := [.write [1, 2, 3, 4] true, .arrive [0x17, 0x03], .write (List.replicate 8 0) false]
    let start := Tls.init Main.countingCtr (fun _ => List.replicate 32 0) {} 2 secret Rng.zero
    ∃ t' pieces rng'', ∃ payloads : List Bytes, start.1.run moves start.2 = some (t', pieces, rng'') ∧
      t'.writer.output = changeCipherSpec ++ (payloads.map record).flatten := by
  intro secret moves start
  have hsize : ∀ m ∈ messages moves, Sized m := by
    intro m hm
    rcases List.mem_pair.mp hm with rfl | rfl <;> exact ⟨by decide, by decide⟩
  have hresponses : Fits 65535 [[5]] := by
    intro p hp
    rw [List.mem_singleton.mp hp]
    decide
  rcases tls_duplex Main.countingCtr_lawful (Prod.mk.eta (p := start)).symm hsize (List.cons_ne_nil _ _) hresponses
    (show [0x17, 0x03] ++ [0x03, 0x00, 0x01, 0x05] = _ from rfl) with
    ⟨t', pieces, rng'', payloads, hrun, houtput, -⟩
  exact ⟨t', pieces, rng'', payloads, hrun, houtput⟩

end ObfuscatedTransport

end RioGram
