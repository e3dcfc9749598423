import RioGram.Transport.TcpTransport

/-!
# `TlsReaderByteFlow`

The receiving side of the emulated TLS layer.  Bytes arrive in arbitrary chunks; each arrival wakes
the flow up, and `ByteFlowBaseCommon::wakeup` runs `loop` as long as at least `need_size_` bytes are
there.  `loop` takes one complete record off the input or says how many bytes it needs.

With the default watermarks the flow can always write, and it can read exactly if there are at least
`need_size_` bytes, so these two flags are not kept in the state.

`feedAll_records` is the round trip: the payloads of the records come out, whatever the chunking.
-/

namespace RioGram

open Wire DpiBypass

/-- The state of the flow: `stopped` is `stop_flag_`, set when the input is closed with an error. -/
structure TlsReaderByteFlow where
  input : Bytes := []
  output : Bytes := []
  needSize : ℕ := 0
  stopped : Bool := false

namespace TlsReaderByteFlow

/-- `TlsReaderByteFlow::loop`. -/
def loop (r : TlsReaderByteFlow) : Bool × TlsReaderByteFlow :=
  match r.input with
  | a :: b :: c :: hi :: lo :: it =>
      if [a, b, c] ≠ [0x17, 0x03, 0x03] then (false, { r with stopped := true, needSize := 0 })
      else
        let len := hi.toNat * 256 + lo.toNat
        if it.length < len then (false, { r with needSize := 5 + len })
        else (true, { r with output := r.output ++ it.take len, input := it.drop len })
  | _ => (false, { r with needSize := 5 })

/-- The `while` loop of `wakeup`; `none` if `fuel` rounds are not enough. -/
def wakeupLoop : (fuel : ℕ) → TlsReaderByteFlow → Option TlsReaderByteFlow
  | 0, _ => none
  | fuel + 1, r =>
      if r.stopped then some r
      else if r.input.length < r.needSize then some r
      else
        let (again, r) := loop { r with needSize := 0 }
        if !again && r.needSize ≤ r.input.length then
          wakeupLoop fuel { r with needSize := r.input.length + 1 }
        else wakeupLoop fuel r

/-- `ByteFlowBaseCommon::wakeup`.  A round that does not end the loop consumes a record. -/
def wakeup (r : TlsReaderByteFlow) : Option TlsReaderByteFlow :=
  if r.stopped then some r else wakeupLoop (r.input.length + 2) r

/-- The arrival of a chunk. -/
def feed (r : TlsReaderByteFlow) (chunk : Bytes) : Option TlsReaderByteFlow :=
  wakeup { r with input := r.input ++ chunk }

/-- The arrival of one chunk after another. -/
def feedAll (r : TlsReaderByteFlow) : List Bytes → Option TlsReaderByteFlow
  | [] => some r
  | chunk :: chunks => (r.feed chunk).bind fun r => r.feedAll chunks

/-! ## One record -/

open ObfuscatedTransport (record Fits)

lemma length_record (p : Bytes) : (record p).length = 5 + p.length := by
  simp only [record, List.length_append, length_be16, List.length_cons, List.length_nil]
  omega

/-- A complete record is taken off the input. -/
lemma loop_record {r : TlsReaderByteFlow} {p s : Bytes} (hp : p.length < 65536)
    (hinput : r.input = record p ++ s) :
    r.loop = (true, { r with output := r.output ++ p, input := s }) := by
  have hlen : (UInt8.ofNat (p.length / 256)).toNat * 256 + (UInt8.ofNat p.length).toNat
      = p.length := by
    simp only [UInt8.toNat_ofNat']
    omega
  have hinput' : r.input = 0x17 :: 0x03 :: 0x03 :: UInt8.ofNat (p.length / 256)
      :: UInt8.ofNat p.length :: (p ++ s) := by
    rw [hinput]
    rfl
  simp only [loop, hinput', hlen]
  rw [if_neg (by decide), if_neg (by simp), List.take_left, List.drop_left]

/-- An incomplete record is left alone, and at most its size is asked for. -/
lemma loop_incomplete {r : TlsReaderByteFlow} {p s t : Bytes} (hp : p.length < 65536)
    (hinput : r.input ++ t = record p ++ s) (hshort : r.input.length < 5 + p.length) :
    ∃ need, r.loop = (false, { r with needSize := need }) ∧ r.input.length < need ∧
      need ≤ 5 + p.length := by
  have hlen : (UInt8.ofNat (p.length / 256)).toNat * 256 + (UInt8.ofNat p.length).toNat
      = p.length := by
    simp only [UInt8.toNat_ofNat']
    omega
  rcases hcase : r.input with _ | ⟨a, _ | ⟨b, _ | ⟨c, _ | ⟨hi, _ | ⟨lo, it⟩⟩⟩⟩⟩
  · exact ⟨5, by simp [loop, hcase], by simp, by omega⟩
  · exact ⟨5, by simp [loop, hcase], by simp, by omega⟩
  · exact ⟨5, by simp [loop, hcase], by simp, by omega⟩
  · exact ⟨5, by simp [loop, hcase], by simp, by omega⟩
  · exact ⟨5, by simp [loop, hcase], by simp, by omega⟩
  · -- the five bytes of the header are there, the payload is not
    rw [hcase] at hinput hshort
    have hheader : a :: b :: c :: hi :: lo :: (it ++ t) = 0x17 :: 0x03 :: 0x03
        :: UInt8.ofNat (p.length / 256) :: UInt8.ofNat p.length :: (p ++ s) := hinput
    simp only [List.cons.injEq] at hheader
    rcases hheader with ⟨rfl, rfl, rfl, rfl, rfl, -⟩
    simp only [List.length_cons] at hshort
    refine ⟨5 + p.length, ?_, ?_, le_rfl⟩
    · simp only [loop, hcase, hlen]
      rw [if_neg (by decide), if_pos (by omega)]
    · simp only [List.length_cons]
      omega

/-! ## Any chunking -/

/-- The flow has put out `done`, holds the start of the records of `rest`, and does not ask for more
than the next of them. -/
structure Expects (r : TlsReaderByteFlow) (done : Bytes) (rest : List Bytes) (future : Bytes) :
    Prop where
  running : r.stopped = false
  output : r.output = done
  stream : r.input ++ future = (rest.map record).flatten
  need : ∀ p ps, rest = p :: ps → r.needSize ≤ 5 + p.length

/-- A round that finds nothing to take asks for more, and the loop ends. -/
lemma wakeupLoop_of_loop_eq_false {fuel : ℕ} {r : TlsReaderByteFlow} {need : ℕ}
    (hrun : r.stopped = false) (hread : ¬ r.input.length < r.needSize)
    (hloop : loop { r with needSize := 0 } = (false, { r with needSize := need }))
    (hneed : r.input.length < need) :
    wakeupLoop (fuel + 2) r = some { r with needSize := need } := by
  have hnot : ¬ need ≤ r.input.length := by omega
  rw [wakeupLoop, if_neg (by simp [hrun]), if_neg hread, hloop]
  simp only [Bool.not_false, Bool.true_and, decide_eq_true_eq, if_neg hnot]
  rw [wakeupLoop]
  simp only [hrun, Bool.false_eq_true, if_false, if_pos hneed]

/-- A round that takes something is followed by another. -/
lemma wakeupLoop_of_loop_eq_true {fuel : ℕ} {r r' : TlsReaderByteFlow} (hrun : r.stopped = false)
    (hread : ¬ r.input.length < r.needSize) (hloop : loop { r with needSize := 0 } = (true, r')) :
    wakeupLoop (fuel + 1) r = wakeupLoop fuel r' := by
  rw [wakeupLoop, if_neg (by simp [hrun]), if_neg hread, hloop]
  simp only [Bool.not_true, Bool.false_and, Bool.false_eq_true, if_false]

lemma wakeupLoop_of_wait {fuel : ℕ} {r : TlsReaderByteFlow} (hrun : r.stopped = false)
    (hwait : r.input.length < r.needSize) : wakeupLoop (fuel + 1) r = some r := by
  rw [wakeupLoop, if_neg (by simp [hrun]), if_pos hwait]

/-- What is there of a stream that starts with a record is longer than the record or a part of
it. -/
lemma exists_rest_of_record {input future stream p : Bytes}
    (h : input ++ future = record p ++ stream) (hlen : 5 + p.length ≤ input.length) :
    ∃ s, input = record p ++ s ∧ s ++ future = stream := by
  have hrecord := length_record p
  refine ⟨input.drop (record p).length, ?_, ?_⟩
  · have htake := congrArg (List.take (record p).length) h
    rw [List.take_left, List.take_append_of_le_length (by omega)] at htake
    rw [← htake, List.length_take, Nat.min_eq_left (by omega), List.take_append_drop]
  · have hdrop := congrArg (List.drop (record p).length) h
    rwa [List.drop_left, List.drop_append_of_le_length (by omega)] at hdrop

/-- Running the loop puts out complete records until none is left.  The induction is on the
records still to come. -/
lemma wakeupLoop_expects {limit : ℕ} (hlimit : limit < 65536) : ∀ (rest : List Bytes) (fuel : ℕ)
    (r : TlsReaderByteFlow) (done future : Bytes), Fits limit rest → r.input.length + 2 ≤ fuel →
      Expects r done rest future →
      ∃ r' ps qs, wakeupLoop fuel r = some r' ∧ rest = ps ++ qs ∧
        Expects r' (done ++ ps.flatten) qs future ∧
        ∀ q qs', qs = q :: qs' → r'.input.length < 5 + q.length
  | [], fuel, r, done, future, _, hfuel, h => by
      obtain ⟨fuel, rfl⟩ : ∃ n, fuel = n + 2 := ⟨fuel - 2, by omega⟩
      have hstream : r.input ++ future = [] := h.stream
      have hinput : r.input = [] := (List.append_eq_nil_iff.mp hstream).1
      have hexpects : ∀ need, Expects { r with needSize := need } (done ++ [].flatten) [] future := by
        intro need
        refine ⟨h.running, ?_, h.stream, ?_⟩
        · rw [List.flatten_nil, List.append_nil]
          exact h.output
        · intro p ps hnil
          cases hnil
      by_cases hwait : r.input.length < r.needSize
      · exact ⟨r, [], [], wakeupLoop_of_wait h.running hwait, rfl, hexpects r.needSize, by simp⟩
      · have hloop : loop { r with needSize := 0 } = (false, { r with needSize := 5 }) := by
          simp only [loop, hinput]
        exact ⟨{ r with needSize := 5 }, [], [],
          wakeupLoop_of_loop_eq_false h.running hwait hloop (by simp [hinput]), rfl, hexpects 5,
          by simp⟩
  | p :: rest, fuel, r, done, future, hfits, hfuel, h => by
      obtain ⟨fuel, rfl⟩ : ∃ n, fuel = n + 2 := ⟨fuel - 2, by omega⟩
      have hp : p.length < 65536 := by
        have := (hfits p (by simp)).2
        omega
      have hstream : r.input ++ future = record p ++ (rest.map record).flatten := h.stream
      have hstay : ∀ need, need ≤ 5 + p.length →
          Expects { r with needSize := need } (done ++ [].flatten) (p :: rest) future := by
        intro need hneed
        refine ⟨h.running, ?_, h.stream, ?_⟩
        · rw [List.flatten_nil, List.append_nil]
          exact h.output
        · intro q qs hq
          cases hq
          exact hneed
      by_cases hwait : r.input.length < r.needSize
      · have hneed := h.need p rest rfl
        refine ⟨r, [], p :: rest, wakeupLoop_of_wait h.running hwait, rfl, hstay r.needSize hneed, ?_⟩
        intro q qs hq
        cases hq
        omega
      · by_cases hshort : r.input.length < 5 + p.length
        · rcases loop_incomplete (r := { r with needSize := 0 }) hp hstream hshort with
            ⟨need, hloop, hlt, hle⟩
          refine ⟨{ r with needSize := need }, [], p :: rest,
            wakeupLoop_of_loop_eq_false h.running hwait hloop hlt, rfl, hstay need hle, ?_⟩
          intro q qs hq
          cases hq
          exact hshort
        · rcases exists_rest_of_record hstream (by omega) with ⟨s, hinput, hs⟩
          have hloop := loop_record (r := { r with needSize := 0 }) hp hinput
          have hlen : r.input.length = 5 + p.length + s.length := by
            rw [hinput, List.length_append, length_record]
          let r₁ : TlsReaderByteFlow :=
            { r with needSize := 0, output := r.output ++ p, input := s }
          have hnext : Expects r₁ (done ++ p) rest future :=
            ⟨h.running, by rw [← h.output], hs, fun _ _ _ => Nat.zero_le _⟩
          rcases wakeupLoop_expects hlimit rest (fuel + 1) r₁ (done ++ p) future
            (fun q hq => hfits q (List.mem_cons_of_mem _ hq)) (show s.length + 2 ≤ fuel + 1 by omega)
            hnext with ⟨r', ps, qs, hrun, rfl, hexpects, hquiet⟩
          refine ⟨r', p :: ps, qs, ?_, rfl, ?_, hquiet⟩
          · rw [wakeupLoop_of_loop_eq_true h.running hwait hloop]
            exact hrun
          · rwa [List.flatten_cons, ← List.append_assoc]

/-- The arrival of a chunk of the stream. -/
lemma feed_expects {limit : ℕ} (hlimit : limit < 65536) {r : TlsReaderByteFlow} {rest : List Bytes}
    {done chunk future : Bytes} (hfits : Fits limit rest)
    (h : Expects r done rest (chunk ++ future)) :
    ∃ r' ps qs, r.feed chunk = some r' ∧ rest = ps ++ qs ∧
      Expects r' (done ++ ps.flatten) qs future ∧
      ∀ q qs', qs = q :: qs' → r'.input.length < 5 + q.length := by
  have harrived : Expects { r with input := r.input ++ chunk } done rest future :=
    ⟨h.running, h.output, by rw [List.append_assoc]; exact h.stream, h.need⟩
  rw [feed, wakeup, if_neg (by simp [h.running])]
  exact wakeupLoop_expects hlimit rest _ _ done future hfits le_rfl harrived

/-- The arrival of the whole stream, chunk by chunk. -/
lemma feedAll_expects {limit : ℕ} (hlimit : limit < 65536) : ∀ (chunks : List Bytes)
    (r : TlsReaderByteFlow) (done : Bytes) (rest : List Bytes), Fits limit rest →
      Expects r done rest chunks.flatten →
      (∀ q qs, rest = q :: qs → r.input.length < 5 + q.length) →
      ∃ r', r.feedAll chunks = some r' ∧ Expects r' (done ++ rest.flatten) [] []
  | [], r, done, rest, _, h, hquiet => by
      refine ⟨r, rfl, ?_⟩
      rcases rest with _ | ⟨q, qs⟩
      · rw [List.flatten_nil, List.append_nil]
        exact h
      · -- a complete record would be there, but the flow is quiet
        have hlt := hquiet q qs rfl
        have hstream : r.input ++ [] = record q ++ (qs.map record).flatten := h.stream
        have hlen := congrArg List.length hstream
        rw [List.append_nil, List.length_append, length_record] at hlen
        omega
  | chunk :: chunks, r, done, rest, hfits, h, _ => by
      rcases feed_expects hlimit hfits h with ⟨r₁, ps, qs, hfeed, rfl, hexpects, hquiet⟩
      rcases feedAll_expects hlimit chunks r₁ _ qs
        (fun q hq => hfits q (List.mem_append_right _ hq)) hexpects hquiet with ⟨r', hrun, hdone⟩
      refine ⟨r', ?_, ?_⟩
      · rw [feedAll, hfeed, Option.bind_some, hrun]
      · rwa [List.flatten_append, ← List.append_assoc]

/-- **The reader inverts the writer's framing**: the records of some payloads, in whatever chunks
they arrive, come out as the payloads, with nothing left over. -/
theorem feedAll_records {limit : ℕ} (hlimit : limit < 65536) {payloads chunks : List Bytes}
    (hfits : Fits limit payloads) (hchunks : chunks.flatten = (payloads.map record).flatten) :
    ∃ r, feedAll {} chunks = some r ∧ r.output = payloads.flatten ∧ r.input = [] ∧
      r.stopped = false := by
  have hstart : Expects {} [] payloads chunks.flatten :=
    ⟨rfl, rfl, by rw [hchunks]; rfl, fun _ _ _ => Nat.zero_le _⟩
  rcases feedAll_expects hlimit chunks {} [] payloads hfits hstart
    (fun q _ _ => show 0 < 5 + q.length by omega) with ⟨r, hrun, hdone⟩
  refine ⟨r, hrun, hdone.output, ?_, hdone.running⟩
  have hstream : r.input ++ [] = [] := hdone.stream
  rwa [List.append_nil] at hstream

end TlsReaderByteFlow

/-! ## Both sides of a connection -/

open ObfuscatedTransport TlsReaderByteFlow

/-- What a connection that starts as `t` has to send for `messages`, and what the other side makes
of it: nothing before the first message, and then one change-cipher-spec record and records within
the limit whose payloads are the header and the messages, which the reader gives back whatever the
chunking. -/
def Framed {aes : AesCtr} (t : ObfuscatedTransport aes) (messages : List Bytes) (output : Bytes) :
    Prop :=
  if messages = [] then output = []
  else ∃ payloads : List Bytes, output = changeCipherSpec ++ (payloads.map record).flatten ∧
    (∀ p ∈ payloads, 0 < p.length ∧ p.length ≤ t.maxTlsPacketLength) ∧
    payloads.flatten = t.header ++ messages.flatten ∧
    ∀ chunks : List Bytes, chunks.flatten = (payloads.map record).flatten →
      ∃ r, feedAll {} chunks = some r ∧ r.output = t.header ++ messages.flatten ∧ r.input = [] ∧
        r.stopped = false

/-- Payloads within the limit of a connection are framed. -/
lemma framed_of_written {aes : AesCtr} {t : ObfuscatedTransport aes} {messages payloads : List Bytes}
    (hmessages : messages ≠ []) (hlimit : t.maxTlsPacketLength < 65536)
    (hfirst : t.isFirstTlsPacket = true) (houtput : t.output = [])
    (hfits : Fits t.maxTlsPacketLength payloads)
    (hflat : payloads.flatten = t.header ++ messages.flatten) :
    Framed t messages (t.written payloads).output := by
  rw [Framed, if_neg hmessages]
  refine ⟨payloads, ?_, hfits, hflat, ?_⟩
  · simp only [written, houtput, hfirst, if_true, List.nil_append]
  · intro chunks hchunks
    rcases feedAll_records hlimit hfits hchunks with ⟨r, hrun, hout, hinput, hstopped⟩
    exact ⟨r, hrun, by rw [hout, hflat], hinput, hstopped⟩

/-- **TLS record framing round-trips**, for every record size a connection can draw: whatever
messages `do_write_tls` gets, and in particular whatever messages `write` prepares and encrypts, no
check on a size fails, the output is framed, and the reader gets the header and the messages back. -/
theorem tls_framing (aes : AesCtr) (sha256 : Bytes → Bytes) (cfg : Config) (dcId : ℤ)
    (secret : ProxySecret) (rng : Rng) (t : ObfuscatedTransport aes) (rng' : Rng)
    (ht : ObfuscatedTransport.init aes sha256 cfg dcId secret rng = (t, rng')) :
    t.header.length = 64 ∧
    (∀ messages : List Bytes, (∀ m ∈ messages, m ≠ []) →
      ∃ t', t.doWriteTlsAll messages = some t' ∧ Framed t messages t'.output) ∧
    ∀ messages : List (Bytes × Bool), (∀ m ∈ messages, m.1.length % 4 = 0 ∧ m.1.length < 2 ^ 24) →
      ∃ encrypted state rng₂ t',
        encryptAll t.withPadding t.outputState messages rng' = some (encrypted, state, rng₂) ∧
        t.writeAll messages rng' = some (t', rng₂) ∧ Framed t encrypted t'.output := by
  have hinit := init_spec aes sha256 cfg dcId secret rng
  simp only [ht] at hinit
  rcases hinit with ⟨hheader, hmax, hfirst, houtput⟩
  have hlimit : t.maxTlsPacketLength < 65536 := by
    have h := init_limit aes sha256 cfg dcId secret rng
    simpa only [ht] using h
  have hroom : t.header.length < t.maxTlsPacketLength := by omega
  refine ⟨hheader, ?_, ?_⟩
  · intro messages hne
    by_cases hnil : messages = []
    · subst hnil
      exact ⟨t, rfl, houtput⟩
    · rcases doWriteTlsAll_spec messages t hnil hne hroom with ⟨payloads, hrun, hfits, hflat⟩
      exact ⟨_, hrun, framed_of_written hnil hlimit hfirst houtput hfits hflat⟩
  · intro messages hsize
    by_cases hnil : messages = []
    · subst hnil
      exact ⟨[], t.outputState, rng', t, rfl, rfl, houtput⟩
    · rcases writeAll_spec messages t rng' hnil hsize hroom with
        ⟨encrypted, state, rng₂, payloads, hencrypt, hne, hrun, hfits, hflat⟩
      have hencrypted : encrypted ≠ [] := by
        rintro rfl
        have hlen := length_encryptAll _ messages _ _ hencrypt
        exact hnil (List.eq_nil_of_length_eq_zero hlen.symm)
      exact ⟨encrypted, state, rng₂, _, hencrypt, hrun,
        framed_of_written hencrypted hlimit hfirst houtput hfits hflat⟩

/-- A connection with the shipped configuration writes two messages; the key stream is all zeros. -/
theorem tls_framing_shipped :
    let aes : AesCtr := ⟨Unit, fun _ _ => (), fun state bytes => (bytes, state), fun _ _ => rfl⟩
    let t := (ObfuscatedTransport.init aes (fun _ => List.replicate 32 0) {} 2
      ⟨0xee :: List.replicate 16 0x01 ++ [0x61, 0x2e, 0x62]⟩ Rng.zero).1
    ∃ t', t.doWriteTlsAll [List.replicate 4000 0x07, [0x01, 0x02]] = some t' ∧
      Framed t [List.replicate 4000 0x07, [0x01, 0x02]] t'.output := by
  intro aes t
  have hframing := tls_framing aes (fun _ => List.replicate 32 0) {} 2
    ⟨0xee :: List.replicate 16 0x01 ++ [0x61, 0x2e, 0x62]⟩ Rng.zero t _ (Prod.mk.eta).symm
  refine hframing.2.1 [List.replicate 4000 0x07, [0x01, 0x02]] ?_
  intro m hm
  rcases List.mem_cons.mp hm with rfl | hm
  · exact List.ne_nil_of_length_pos (by rw [List.length_replicate]; omega)
  · rw [List.mem_singleton.mp hm]
    exact List.cons_ne_nil _ _

end RioGram
