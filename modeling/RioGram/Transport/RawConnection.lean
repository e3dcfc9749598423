import RioGram.Core.Mapping
import RioGram.Core.Reachable
import RioGram.Transport.IntermediateTransport

/-!
# `RawConnection`

What a connection makes of the bytes that its transport has decoded, and what it hands to the transport.  A flush
reads what has arrived, frame by frame, until something of a frame is missing or a frame cannot be handled; after
an error nothing is read any more.  The transport itself is in `Obfuscation`, so that a flush gets here what the
transport has decoded since the last one.

Decrypting a packet is a parameter, and so is what the callback answers to it, which may depend on all that it has
been called with.

* `flushAll_frames`: what is handled are the frames that have arrived in full, whatever the pieces.
* `tokens_kept`: a token is reported once at most, and only if its packet has asked for it.
-/

namespace RioGram

open Wire Incremental IntermediateTransport

/-- A `Status` that is an error. -/
structure Status where
  code : ℤ := 0
  message : String
  deriving DecidableEq

/-- A little-endian `int32`. -/
def loadSigned (a b c d : UInt8) : ℤ :=
  if loadUint32 a b c d < 2 ^ 31 then loadUint32 a b c d else (loadUint32 a b c d : ℤ) - 2 ^ 32

/-! ## `Transport::read` -/

/-- `Transport::ReadResult`. -/
inductive ReadResult (π : Type*) where
  | packet (packet : π)
  | nop
  | error (code : ℤ)
  | quickAck (token : ℕ)

/-- `Transport::read`, with the `error_code` that a TCP transport has; `decrypt` is what is done with a packet that is
long enough to be one. -/
def readPacket {π : Type*} (decrypt : Bytes → Except Status π) (message : Bytes) : Except Status (ReadResult π) :=
  if message.length < 16 then
    match message with
    | a :: b :: c :: d :: rest =>
        let code := loadSigned a b c d
        if code = 0 then .ok .nop
        else
          match rest with
          | e :: f :: g :: h :: _ =>
              if code = -1 then .ok (.quickAck (loadUint32 e f g h)) else .ok (.error code)
          | _ => .ok (.error code)
    | _ =>
        .error { message :=
          "Invalid MTProto message: smaller than 4 bytes [size = " ++ toString message.length ++ "]" }
  else (decrypt message).map .packet

namespace RawConnection

variable {π : Type*}

/-! ## The connection -/

/-- A call of the callback. -/
inductive Event (π : Type*) where
  | rawPacket (packet : π)
  | quickAck (token : ℕ)

/-- What a flush is given: the decryption with its key, and what the callback answers to a packet after the calls
that there have been. -/
structure Callback (π : Type*) where
  decrypt : Bytes → Except Status π
  onRawPacket : List (Event π) → π → Option Status

/-- What the frames change; `error` is there if `has_error_`. -/
structure Handled (π : Type*) where
  quickAckToToken : List (ℕ × ℕ) := []
  error : Option Status := none
  called : List (Event π) := []

/-- `on_quick_ack`. -/
def onQuickAck (s : Handled π) (quickAck : ℕ) : Handled π :=
  if quickAck < 2 ^ 31 then s
  else
    match Keyed.lookup Prod.fst quickAck s.quickAckToToken with
    | none => s
    | some (_, token) =>
        { s with
          quickAckToToken := Keyed.without Prod.fst quickAck s.quickAckToToken
          called := s.called ++ [.quickAck token] }

/-- `on_read_mtproto_error`. -/
def onReadMtprotoError (errorCode : ℤ) : Status :=
  let message := "MTProto error: " ++ toString errorCode
  if errorCode = -429 then { code := 500, message := message }
  else if errorCode = -404 then { code := -404, message := message }
  else { message := message }

/-- The rest of the loop of `flush_read`, for a packet. -/
def onPacket (callback : Callback π) (s : Handled π) (packet : Bytes) : Handled π :=
  match readPacket callback.decrypt packet with
  | .error status => { s with error := some status }
  | .ok (.quickAck quickAck) => onQuickAck s quickAck
  | .ok (.error code) => { s with error := some (onReadMtprotoError code) }
  | .ok (.packet packet) =>
      { s with error := callback.onRawPacket s.called packet, called := s.called ++ [.rawPacket packet] }
  | .ok .nop => s

/-- What is done with a frame. -/
def handle (callback : Callback π) (s : Handled π) : Frame → Handled π
  | .packet message => onPacket callback s message
  | .quickAck token => onQuickAck s token

/-- The frames one after another, up to the first one that cannot be handled. -/
def handleAll (callback : Callback π) : Handled π → List Frame → Handled π :=
  List.foldl fun s frame => if s.error.isSome then s else handle callback s frame

end RawConnection

/-- `RawConnectionDefault`: `stream` is what the transport has decoded and nothing has read yet, `written` what the
transport has been given to write, with `quick_ack`. -/
structure RawConnection (π : Type*) where
  stream : Bytes := []
  written : List (Bytes × Bool) := []
  handled : RawConnection.Handled π := {}

namespace RawConnection

variable {π : Type*}

/-- `MAX_PACKET_SIZE`. -/
def maxPacketSize : ℕ := 2 ^ 22 + 1024

def tooBig (waitSize : ℕ) : Status := { message := "Expected packet size is too big: " ++ toString waitSize }

/-- The loop of `flush_read`. -/
def flushLoop (callback : Callback π) : (fuel : ℕ) → RawConnection π → RawConnection π
  | 0, c => c
  | fuel + 1, c =>
      let r := readFromStream c.stream
      if r.waitSize ≠ 0 then
        if maxPacketSize < r.waitSize then { c with handled := { c.handled with error := some (tooBig r.waitSize) } }
        else c
      else
        let handled :=
          if r.quickAck ≠ 0 then onQuickAck c.handled r.quickAck else onPacket callback c.handled r.message
        let c := { c with stream := r.stream, handled := handled }
        if handled.error.isSome then c else flushLoop callback fuel c

/-- `flush`, when `chunk` has been decoded since the last time; a frame takes a byte at least. -/
def flush (callback : Callback π) (c : RawConnection π) (chunk : Bytes) : RawConnection π :=
  if c.handled.error.isSome then c
  else flushLoop callback ((c.stream ++ chunk).length + 1) { c with stream := c.stream ++ chunk }

/-- `flush` for one piece after another. -/
def flushAll (callback : Callback π) (chunks : List Bytes) : RawConnection π := chunks.foldl (flush callback) {}

/-- `send_crypto`, with what `Transport::write` makes of the message: the packet, and `message_ack`, which has its
highest bit set (`digest` is the beginning of the hash). -/
def sendCrypto (c : RawConnection π) (packet : Bytes) (digest : ℕ) (quickAckToken : ℕ) : RawConnection π :=
  let messageAck := digest ||| 2 ^ 31
  if quickAckToken ≠ 0 ∧ Keyed.lookup Prod.fst messageAck c.handled.quickAckToToken = none then
    { c with
      written := c.written ++ [(packet, true)]
      handled :=
        { c.handled with quickAckToToken := c.handled.quickAckToToken ++ [(messageAck, quickAckToken)] } }
  else { c with written := c.written ++ [(packet, false)] }

/-- `send_no_crypto`. -/
def sendNoCrypto (c : RawConnection π) (packet : Bytes) : RawConnection π :=
  { c with written := c.written ++ [(packet, false)] }

/-! ## What is handled -/

variable {callback : Callback π} {s : Handled π} {c : RawConnection π} {fs gs : List Frame}

lemma handleAll_failed (h : s.error.isSome) : handleAll callback s fs = s := by
  induction fs with
  | nil => rfl
  | cons frame fs ih =>
      rw [handleAll, List.foldl_cons, if_pos h]
      exact ih

lemma handleAll_cons (h : s.error = none) (frame : Frame) :
    handleAll callback s (frame :: fs) = handleAll callback (handle callback s frame) fs := by
  rw [handleAll, List.foldl_cons, h]
  rfl

lemma handleAll_append :
    handleAll callback s (fs ++ gs) = handleAll callback (handleAll callback s fs) gs :=
  List.foldl_append

/-- The frame that is waited for is too big. -/
def Refused (stream : Bytes) : Prop := maxPacketSize < (readFromStream stream).waitSize

instance (stream : Bytes) : Decidable (Refused stream) := inferInstanceAs (Decidable (_ < _))

/-- What comes of waiting for the rest of a frame. -/
def wait (s : Handled π) (stream : Bytes) : Handled π :=
  if s.error = none ∧ Refused stream then { s with error := some (tooBig (readFromStream stream).waitSize) } else s

lemma wait_of_failed {stream : Bytes} (h : s.error.isSome) : wait s stream = s := by
  refine if_neg fun hwait => ?_
  rw [hwait.1] at h
  cases h

lemma wait_of_refused {stream : Bytes} (herror : s.error = none) (h : Refused stream) :
    wait s stream = { s with error := some (tooBig (readFromStream stream).waitSize) } :=
  if_pos ⟨herror, h⟩

lemma wait_of_not_refused {stream : Bytes} (h : ¬Refused stream) : wait s stream = s :=
  if_neg fun hwait => h hwait.2

lemma wait_error_eq_none_iff {stream : Bytes} :
    (wait s stream).error = none ↔ s.error = none ∧ ¬Refused stream := by
  by_cases h : Refused stream
  · cases herror : s.error with
    | none => simp [wait_of_refused herror h, h]
    | some status => simp [@wait_of_failed _ s stream (by rw [herror]; rfl), herror]
  · simp [wait_of_not_refused h, h]

/-- The loop takes a frame and handles it. -/
lemma flushLoop_of_some {fuel : ℕ} {frame : Frame} {n : ℕ} (h : readFrame c.stream = some (frame, n)) :
    flushLoop callback (fuel + 1) c =
      if (handle callback c.handled frame).error.isSome then
        { c with stream := c.stream.drop n, handled := handle callback c.handled frame }
      else
        flushLoop callback fuel
          { c with stream := c.stream.drop n, handled := handle callback c.handled frame } := by
  rcases readFromStream_of_readFrame h with ⟨hwait, rfl, hstream⟩
  have hhandled :
      (if (readFromStream c.stream).quickAck ≠ 0 then onQuickAck c.handled (readFromStream c.stream).quickAck
        else onPacket callback c.handled (readFromStream c.stream).message) =
        handle callback c.handled (readFromStream c.stream).frame := by
    rw [Read.frame]
    split_ifs <;> rfl
  rw [flushLoop, if_neg (not_not.mpr hwait), hhandled, hstream]

/-- Where nothing can be read, the loop ends. -/
lemma flushLoop_of_none {fuel : ℕ} (h : readFrame c.stream = none) (herror : c.handled.error = none) :
    flushLoop callback (fuel + 1) c = { c with handled := wait c.handled c.stream } := by
  rw [flushLoop, if_pos ((readFrame_eq_none_iff _).mp h)]
  by_cases hbig : Refused c.stream
  · rw [wait_of_refused herror hbig]
    exact if_pos hbig
  · rw [wait_of_not_refused hbig]
    exact if_neg hbig

/-- **The loop handles the frames that are there**, up to the first one that fails, and waits for more. -/
lemma flushLoop_eq (callback : Callback π) {fuel : ℕ} (c : RawConnection π) (hfuel : c.stream.length < fuel)
    (herror : c.handled.error = none) :
    (flushLoop callback fuel c).handled =
        wait (handleAll callback c.handled (frames.drain c.stream).1) (frames.drain c.stream).2 ∧
      ((handleAll callback c.handled (frames.drain c.stream).1).error = none →
        (flushLoop callback fuel c).stream = (frames.drain c.stream).2) := by
  induction fuel generalizing c with
  | zero => exact absurd hfuel (Nat.not_lt_zero _)
  | succ fuel ih =>
      cases hread : readFrame c.stream with
      | none =>
          rw [flushLoop_of_none hread herror, Decoder.drain_of_none (d := frames) hread]
          exact ⟨rfl, fun _ => rfl⟩
      | some value =>
          obtain ⟨frame, n⟩ := value
          have htaken := frames.taken hread
          rw [flushLoop_of_some hread, Decoder.drain_of_some (d := frames) hread, handleAll_cons herror]
          by_cases hfailed : (handle callback c.handled frame).error.isSome
          · rw [if_pos hfailed, handleAll_failed hfailed, wait_of_failed hfailed]
            refine ⟨rfl, fun hnone => ?_⟩
            rw [hnone] at hfailed
            cases hfailed
          · have hnone : (handle callback c.handled frame).error = none := by simpa using hfailed
            rw [if_neg hfailed]
            refine ih { c with stream := c.stream.drop n, handled := handle callback c.handled frame } ?_ hnone
            show (c.stream.drop n).length < fuel
            rw [List.length_drop]
            omega

/-! ## In pieces -/

lemma flush_failed {chunk : Bytes} (h : c.handled.error.isSome) : flush callback c chunk = c := if_pos h

lemma flush_eq (callback : Callback π) (c : RawConnection π) (chunk : Bytes) (herror : c.handled.error = none) :
    (flush callback c chunk).handled =
        wait (handleAll callback c.handled (frames.drain (c.stream ++ chunk)).1) (frames.drain (c.stream ++ chunk)).2 ∧
      ((handleAll callback c.handled (frames.drain (c.stream ++ chunk)).1).error = none →
        (flush callback c chunk).stream = (frames.drain (c.stream ++ chunk)).2) := by
  rw [flush, if_neg (by simp [herror])]
  exact flushLoop_eq callback { c with stream := c.stream ++ chunk } (Nat.lt_succ_self _) herror

lemma flushAll_concat (chunks : List Bytes) (chunk : Bytes) :
    flushAll callback (chunks ++ [chunk]) = flush callback (flushAll callback chunks) chunk := by
  rw [flushAll, flushAll, List.foldl_append, List.foldl_cons, List.foldl_nil]

/-- No frame has been too big when a flush ended. -/
def Unrefused (chunks : List Bytes) : Prop := ∀ pieces, pieces <+: chunks → ¬Refused (frames.drain pieces.flatten).2

lemma unrefused_nil : Unrefused [] := by
  intro pieces h
  rw [List.prefix_nil.mp h]
  decide

lemma unrefused_concat {chunks : List Bytes} {chunk : Bytes} :
    Unrefused (chunks ++ [chunk]) ↔ Unrefused chunks ∧ ¬Refused (frames.drain (chunks ++ [chunk]).flatten).2 := by
  constructor
  · intro h
    exact ⟨fun pieces hpieces => h pieces (hpieces.trans (List.prefix_append _ _)), h _ (List.prefix_refl _)⟩
  · rintro ⟨h, hlast⟩ pieces hpieces
    rcases List.prefix_concat_iff.mp hpieces with rfl | hbefore
    · exact hlast
    · exact h pieces hbefore

lemma flushAll_spec (callback : Callback π) (chunks : List Bytes) :
    ((flushAll callback chunks).handled.error = none → Unrefused chunks) ∧
    (Unrefused chunks →
      (flushAll callback chunks).handled = handleAll callback {} (frames.drain chunks.flatten).1 ∧
        ((handleAll callback {} (frames.drain chunks.flatten).1).error = none →
          (flushAll callback chunks).stream = (frames.drain chunks.flatten).2)) := by
  induction chunks using List.reverseRecOn with
  | nil => exact ⟨fun _ => unrefused_nil, fun _ => ⟨rfl, fun _ => rfl⟩⟩
  | append_singleton chunks chunk ih =>
      have hflatten : (chunks ++ [chunk]).flatten = chunks.flatten ++ chunk := by simp
      have hdrain := frames.drain_append chunks.flatten chunk
      rw [flushAll_concat, unrefused_concat, hflatten, hdrain, handleAll_append]
      set d := frames.drain chunks.flatten
      cases herror : (flushAll callback chunks).handled.error with
      | some status =>
          -- nothing is read any more
          have hfailed : (flushAll callback chunks).handled.error.isSome := by
            rw [herror]
            rfl
          rw [flush_failed hfailed]
          refine ⟨fun hnone => ?_, fun h => ?_⟩
          · rw [herror] at hnone
            cases hnone
          · have hhandled := (ih.2 h.1).1
            rw [hhandled] at hfailed ⊢
            rw [handleAll_failed hfailed]
            refine ⟨rfl, fun hnone => ?_⟩
            rw [hnone] at hfailed
            cases hfailed
      | none =>
          have hunrefused := ih.1 herror
          rcases ih.2 hunrefused with ⟨hhandled, hstream⟩
          have hflush := flush_eq callback (flushAll callback chunks) chunk herror
          rw [hstream (hhandled ▸ herror), hhandled] at hflush
          refine ⟨fun h => ⟨hunrefused, ?_⟩, fun h => ?_⟩
          · rw [hflush.1] at h
            exact (wait_error_eq_none_iff.mp h).2
          · rw [wait_of_not_refused h.2] at hflush
            exact hflush

lemma wait_called (s : Handled π) (stream : Bytes) : (wait s stream).called = s.called := by
  rw [wait]
  split_ifs <;> rfl

/-- Also where a flush has failed, there have been no calls but those for the first frames. -/
lemma flushAll_called (callback : Callback π) (chunks : List Bytes) :
    ∃ fs, fs <+: (frames.drain chunks.flatten).1 ∧
      (flushAll callback chunks).handled.called = (handleAll callback {} fs).called := by
  induction chunks using List.reverseRecOn with
  | nil => exact ⟨[], List.nil_prefix, rfl⟩
  | append_singleton chunks chunk ih =>
      have hflatten : (chunks ++ [chunk]).flatten = chunks.flatten ++ chunk := by simp
      rw [flushAll_concat, hflatten, frames.drain_append]
      cases herror : (flushAll callback chunks).handled.error with
      | some status =>
          rcases ih with ⟨fs, hfs, hcalled⟩
          rw [flush_failed (by simp [herror])]
          exact ⟨fs, hfs.trans (List.prefix_append _ _), hcalled⟩
      | none =>
          rcases flushAll_spec callback chunks with ⟨hunrefused, hspec⟩
          rcases hspec (hunrefused herror) with ⟨hhandled, hstream⟩
          have hflush := flush_eq callback (flushAll callback chunks) chunk herror
          rw [hstream (hhandled ▸ herror), hhandled] at hflush
          refine ⟨_, List.prefix_refl _, ?_⟩
          rw [hflush.1, wait_called, handleAll_append]

/-! ## What the server sends -/

/-- The bytes end in a frame that is too big, behind its length. -/
def CutsTooBig (fs : List Frame) (pieces : Bytes) : Prop :=
  ∃ done frame rest part, fs = done ++ frame :: rest ∧ pieces = (done.map Frame.encode).flatten ++ part ∧
    4 ≤ part.length ∧ part.length < frame.encode.length ∧ maxPacketSize < frame.encode.length

lemma refused_iff_cutsTooBig (hfs : ∀ frame ∈ fs, frame.Valid) {pieces : Bytes}
    (hpieces : pieces <+: (fs.map Frame.encode).flatten) :
    Refused (frames.drain pieces).2 ↔ CutsTooBig fs pieces := by
  have hreads : ∀ frame ∈ fs, frames.Reads Frame.encode frame := fun frame h => reads_frame (hfs frame h)
  constructor
  · intro hrefused
    rcases Decoder.drain_part hreads hpieces with ⟨done, rest, part, rfl, hdrain, hsplit, hpart⟩
    rw [hdrain, Refused] at hrefused
    rcases hpart with rfl | ⟨frame, hframe, hprefix, hlength⟩
    · exact absurd (show Refused [] from hrefused) (by decide)
    · obtain ⟨rest', rfl⟩ : ∃ rest', rest = frame :: rest' := ⟨rest.tail, List.eq_cons_of_mem_head? hframe⟩
      have hwait := waitSize_of_part (hfs frame (by simp)) hprefix hlength
      rw [hwait] at hrefused
      split_ifs at hrefused with hfour
      · exact absurd hrefused (by decide)
      · exact ⟨done, frame, rest', part, rfl, hsplit, Nat.not_lt.mp hfour, hlength, hrefused⟩
  · rintro ⟨done, frame, rest, part, rfl, rfl, hfour, hlength, hbig⟩
    have hprefix : part <+: frame.encode := by
      rw [List.map_append, List.flatten_append, List.prefix_append_right_inj, List.map_cons,
        List.flatten_cons] at hpieces
      exact List.prefix_of_prefix_length_le hpieces (List.prefix_append _ _) hlength.le
    have hdrain : (frames.drain ((done.map Frame.encode).flatten ++ part)).2 = part := by
      rw [Decoder.drain_encoded fun frame h => hreads frame (List.mem_append_left _ h),
        Decoder.drain_of_part (hreads frame (by simp)) hprefix hlength]
    rw [hdrain, Refused, waitSize_of_part (hfs frame (by simp)) hprefix hlength, if_neg (Nat.not_lt.mpr hfour)]
    exact hbig

lemma unrefused_iff (hfs : ∀ frame ∈ fs, frame.Valid) {chunks : List Bytes}
    (hchunks : chunks.flatten <+: (fs.map Frame.encode).flatten) :
    Unrefused chunks ↔ ∀ pieces, pieces <+: chunks → ¬CutsTooBig fs pieces.flatten := by
  refine forall₂_congr fun pieces hpieces => not_congr (refused_iff_cutsTooBig hfs (List.IsPrefix.trans ?_ hchunks))
  rcases hpieces with ⟨later, rfl⟩
  rw [List.flatten_append]
  exact List.prefix_append _ _

/-- If everything has arrived, and nothing is too big, everything is handled. -/
lemma flushAll_encoded (callback : Callback π)
    (hfs : ∀ frame ∈ fs, frame.Valid ∧ frame.encode.length ≤ maxPacketSize) {chunks : List Bytes}
    (hchunks : chunks.flatten = (fs.map Frame.encode).flatten) :
    (flushAll callback chunks).handled = handleAll callback {} fs := by
  have hvalid : ∀ frame ∈ fs, frame.Valid := fun frame h => (hfs frame h).1
  have hunrefused : Unrefused chunks := by
    rw [unrefused_iff hvalid (hchunks ▸ List.prefix_refl _)]
    rintro pieces - ⟨done, frame, rest, part, rfl, -, -, -, hbig⟩
    exact absurd (hfs frame (by simp)).2 (Nat.not_le.mpr hbig)
  have hdrain := Decoder.drain_encoded (fun frame h => reads_frame (hvalid frame h)) []
  rw [List.append_nil, Decoder.drain_nil, List.append_nil] at hdrain
  have hhandled := ((flushAll_spec callback chunks).2 hunrefused).1
  rwa [hchunks, hdrain] at hhandled

/-- What is done with a connection. -/
inductive Op (π : Type*) where
  | sendCrypto (packet : Bytes) (digest quickAckToken : ℕ)
  | sendNoCrypto (packet : Bytes)
  | flush (callback : Callback π) (chunk : Bytes)

def step (c : RawConnection π) : Op π → RawConnection π
  | .sendCrypto packet digest quickAckToken => c.sendCrypto packet digest quickAckToken
  | .sendNoCrypto packet => c.sendNoCrypto packet
  | .flush callback chunk => flush callback c chunk

/-- The token that a packet asks for: it is sent with a token, and has been written with `quick_ack`. -/
def askedBy (c : RawConnection π) : Op π → List ℕ
  | .sendCrypto packet digest quickAckToken =>
      if ((c.sendCrypto packet digest quickAckToken).written.getLast?.map Prod.snd) = some true then [quickAckToken]
      else []
  | .sendNoCrypto _ => []
  | .flush _ _ => []

/-- The tokens that have been asked for in a run. -/
def asked (c : RawConnection π) : List (Op π) → List ℕ
  | [] => []
  | op :: ops => askedBy c op ++ asked (step c op) ops

/-- The tokens that have been reported. -/
def reported (s : Handled π) : List ℕ :=
  s.called.filterMap fun
    | .quickAck token => some token
    | .rawPacket _ => none

/-- The tokens that nothing has come back for. -/
def pending (s : Handled π) : List ℕ := s.quickAckToToken.map Prod.snd

/-- The tokens of a connection are those that it has reported and those that are pending; the acknowledgements of
those differ, and have their highest bit set. -/
structure Ledger (tokens : List ℕ) (s : Handled π) : Prop where
  perm : (reported s ++ pending s).Perm tokens
  nodup : (s.quickAckToToken.map Prod.fst).Nodup
  bit : ∀ p ∈ s.quickAckToToken, 2 ^ 31 ≤ p.1

namespace Ledger

variable {tokens : List ℕ}

lemma onQuickAck (h : Ledger tokens s) (quickAck : ℕ) : Ledger tokens (onQuickAck s quickAck) := by
  rw [RawConnection.onQuickAck]
  split_ifs with hbit
  · exact h
  · cases hlookup : Keyed.lookup Prod.fst quickAck s.quickAckToToken with
    | none => exact h
    | some value =>
        have hperm := (Keyed.perm_without h.nodup hlookup).map Prod.snd
        refine ⟨List.Perm.trans ?_ h.perm, Keyed.nodup_without _ h.nodup, fun p hp =>
          h.bit p (Keyed.mem_without.mp hp).1⟩
        rw [reported, pending, List.filterMap_append, List.append_assoc]
        exact hperm.append_left _

lemma onPacket (callback : Callback π) (h : Ledger tokens s) (packet : Bytes) :
    Ledger tokens (onPacket callback s packet) := by
  rw [RawConnection.onPacket]
  rcases readPacket callback.decrypt packet with status | (packet | _ | code | quickAck)
  · exact ⟨h.perm, h.nodup, h.bit⟩
  · refine ⟨List.Perm.trans (List.Perm.of_eq ?_) h.perm, h.nodup, h.bit⟩
    rw [reported, List.filterMap_append, List.filterMap_cons_none rfl, List.filterMap_nil, List.append_nil]
    rfl
  · exact h
  · exact ⟨h.perm, h.nodup, h.bit⟩
  · exact h.onQuickAck quickAck

lemma handleAll (callback : Callback π) (h : Ledger tokens s) (fs : List Frame) :
    Ledger tokens (handleAll callback s fs) := by
  induction fs generalizing s with
  | nil => exact h
  | cons frame fs ih =>
      rw [RawConnection.handleAll, List.foldl_cons]
      refine ih ?_
      split_ifs
      · exact h
      · cases frame with
        | packet message => exact h.onPacket callback message
        | quickAck token => exact h.onQuickAck token

lemma wait (h : Ledger tokens s) (stream : Bytes) : Ledger tokens (wait s stream) := by
  rw [RawConnection.wait]
  split_ifs
  · exact ⟨h.perm, h.nodup, h.bit⟩
  · exact h

lemma flush (callback : Callback π) (h : Ledger tokens c.handled) (chunk : Bytes) :
    Ledger tokens (flush callback c chunk).handled := by
  cases herror : c.handled.error with
  | none =>
      rw [(flush_eq callback c chunk herror).1]
      exact (h.handleAll callback _).wait _
  | some status =>
      rw [flush_failed (by simp [herror])]
      exact h

lemma sendCrypto (h : Ledger tokens c.handled) (packet : Bytes) (digest quickAckToken : ℕ) :
    Ledger (tokens ++ askedBy c (.sendCrypto packet digest quickAckToken))
      (c.sendCrypto packet digest quickAckToken).handled := by
  by_cases hasks : quickAckToken ≠ 0 ∧
      Keyed.lookup Prod.fst (digest ||| 2 ^ 31) c.handled.quickAckToToken = none
  · have hasked : askedBy c (.sendCrypto packet digest quickAckToken) = [quickAckToken] := by
      rw [askedBy, RawConnection.sendCrypto, if_pos hasks, List.getLast?_concat]
      rfl
    rw [hasked, RawConnection.sendCrypto, if_pos hasks]
    refine ⟨?_, ?_, ?_⟩
    · rw [pending, List.map_append, ← List.append_assoc]
      exact h.perm.append_right _
    · rw [List.map_append, List.nodup_append]
      refine ⟨h.nodup, List.nodup_singleton _, ?_⟩
      rintro k hk _ hmem rfl
      rcases List.mem_map.mp hk with ⟨p, hp, rfl⟩
      exact Keyed.lookup_eq_none_iff.mp hasks.2 p hp (List.mem_singleton.mp hmem)
    · intro p hp
      rcases List.mem_append.mp hp with hp | hp
      · exact h.bit p hp
      · rw [List.mem_singleton.mp hp]
        exact Nat.right_le_or
  · have hasked : askedBy c (.sendCrypto packet digest quickAckToken) = [] := by
      rw [askedBy, RawConnection.sendCrypto, if_neg hasks, List.getLast?_concat]
      rfl
    rw [hasked, RawConnection.sendCrypto, if_neg hasks, List.append_nil]
    exact h

lemma step (h : Ledger tokens c.handled) (op : Op π) :
    Ledger (tokens ++ askedBy c op) (step c op).handled := by
  cases op with
  | sendCrypto packet digest quickAckToken => exact h.sendCrypto packet digest quickAckToken
  | sendNoCrypto packet =>
      rw [askedBy, List.append_nil]
      exact h
  | flush callback chunk =>
      rw [askedBy, List.append_nil]
      exact h.flush callback chunk

/-- What the steps keep a run keeps. -/
lemma run (h : Ledger tokens c.handled) (ops : List (Op π)) :
    Ledger (tokens ++ asked c ops) (ops.foldl RawConnection.step c).handled := by
  induction ops generalizing c tokens with
  | nil =>
      rw [asked, List.append_nil]
      exact h
  | cons op ops ih =>
      rw [asked, ← List.append_assoc]
      exact ih (h.step op)

/-- What has been acknowledged is reported, if it is pending. -/
lemma reported_onQuickAck (h : Ledger tokens s) {messageAck token : ℕ}
    (hmem : (messageAck, token) ∈ s.quickAckToToken) :
    reported (RawConnection.onQuickAck s messageAck) = reported s ++ [token] ∧
      (RawConnection.onQuickAck s messageAck).quickAckToToken =
        Keyed.without Prod.fst messageAck s.quickAckToToken := by
  rw [RawConnection.onQuickAck, if_neg (Nat.not_lt.mpr (h.bit _ hmem)), Keyed.lookup_of_mem h.nodup hmem]
  exact ⟨List.filterMap_append, rfl⟩

end Ledger

lemma flushLoop_written (callback : Callback π) (fuel : ℕ) (c : RawConnection π) :
    (flushLoop callback fuel c).written = c.written := by
  induction fuel generalizing c with
  | zero => rfl
  | succ fuel ih =>
      cases hread : readFrame c.stream with
      | none =>
          rw [flushLoop, if_pos ((readFrame_eq_none_iff _).mp hread)]
          split_ifs <;> rfl
      | some value =>
          rw [flushLoop_of_some hread]
          split_ifs
          · rfl
          · exact ih _

/-- What a packet has been written with says whether it has asked for its token. -/
lemma written_step (c : RawConnection π) (op : Op π) :
    ((step c op).written.filter Prod.snd).length = (c.written.filter Prod.snd).length + (askedBy c op).length := by
  cases op with
  | sendCrypto packet digest quickAckToken =>
      rw [step, askedBy, sendCrypto]
      split_ifs with hasks hasked hasked
      all_goals simp_all
  | sendNoCrypto packet => simp [step, askedBy, sendNoCrypto]
  | flush callback chunk =>
      rw [step, askedBy, flush]
      split_ifs
      · rfl
      · rw [flushLoop_written, List.length_nil, Nat.add_zero]

lemma written_run (c : RawConnection π) (ops : List (Op π)) :
    ((ops.foldl step c).written.filter Prod.snd).length =
      (c.written.filter Prod.snd).length + (asked c ops).length := by
  induction ops generalizing c with
  | nil => rfl
  | cons op ops ih => rw [List.foldl_cons, ih, written_step, asked, List.length_append, Nat.add_assoc]

/-- **Every token that has been asked for has been reported once, or is pending**, in every run, whatever arrives in
it and however it is cut: no token is reported twice, or before it has been asked for.  There are as many as packets
that have been written with `quick_ack`, and a pending one is reported as soon as its packet is acknowledged. -/
theorem tokens_kept (ops : List (Op π)) :
    let c := ops.foldl step ({} : RawConnection π)
    let s := c.handled
    (reported s ++ pending s).Perm (asked {} ops) ∧
      (c.written.filter Prod.snd).length = (asked ({} : RawConnection π) ops).length ∧
      (∀ messageAck token, (messageAck, token) ∈ s.quickAckToToken →
        reported (onQuickAck s messageAck) = reported s ++ [token] ∧
          (onQuickAck s messageAck).quickAckToToken = Keyed.without Prod.fst messageAck s.quickAckToToken) := by
  have hrun : Ledger (asked {} ops) (ops.foldl step ({} : RawConnection π)).handled := by
    have hstart : Ledger (π := π) [] {} := ⟨.nil, List.nodup_nil, by simp⟩
    exact hstart.run (c := {}) ops
  have hwritten := written_run ({} : RawConnection π) ops
  refine ⟨hrun.perm, ?_, fun messageAck token hmem => hrun.reported_onQuickAck hmem⟩
  rw [hwritten]
  exact Nat.zero_add _

end RawConnection

end RioGram
