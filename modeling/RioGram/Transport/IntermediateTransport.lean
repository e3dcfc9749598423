import RioGram.Core.Incremental
import RioGram.Transport.TcpTransport

/-!
# `tcp::IntermediateTransport`

Both directions of a connection carry packets with their length in four bytes in front of them.  The highest bit
of the length means something else in each direction: in what the client sends it asks for a quick
acknowledgement of the packet that follows, and in what it gets it makes the four bytes an acknowledgement, which
no packet follows.

* `frames` is the decoder that `read_from_stream` is: it reads what the server has written (`reads_frame`), and
  asks for as many bytes as are missing at least (`waitSize_of_part`).
* `requests` is the decoder of the other side, which reads what `write_prepare_inplace` has prepared
  (`reads_prepared`).
-/

namespace RioGram

open Wire DpiBypass Incremental

/-- A little-endian `uint32`. -/
def loadUint32 (a b c d : UInt8) : ℕ := a.toNat + b.toNat * 2 ^ 8 + c.toNat * 2 ^ 16 + d.toNat * 2 ^ 24

lemma storeUint32_eq {n : ℕ} (h : n < 2 ^ 32) :
    ∃ a b c d, storeUint32 n = [a, b, c, d] ∧ loadUint32 a b c d = n := by
  refine ⟨_, _, _, _, rfl, ?_⟩
  simp only [loadUint32, UInt8.toNat_ofNat']
  omega

@[simp] lemma length_storeUint32 (n : ℕ) : (storeUint32 n).length = 4 := rfl

namespace IntermediateTransport

/-! ## What the client reads -/

/-- What `read_from_stream` returns, what it leaves of the stream, and what it puts into `message` and
`quick_ack`. -/
structure Read where
  waitSize : ℕ := 0
  stream : Bytes
  message : Bytes := []
  quickAck : ℕ := 0

/-- `read_from_stream`. -/
def readFromStream (stream : Bytes) : Read :=
  match stream with
  | a :: b :: c :: d :: rest =>
      let dataSize := loadUint32 a b c d
      if 2 ^ 31 ≤ dataSize then { stream := rest, quickAck := dataSize }
      else
        let totalSize := dataSize + 4
        if stream.length < totalSize then { waitSize := totalSize, stream := stream }
        else { stream := rest.drop dataSize, message := rest.take dataSize }
  | _ => { waitSize := 4, stream := stream }

/-- What the server sends. -/
inductive Frame where
  | packet (message : Bytes)
  | quickAck (token : ℕ)
  deriving DecidableEq

namespace Frame

def encode : Frame → Bytes
  | .packet message => storeUint32 message.length ++ message
  | .quickAck token => storeUint32 token

/-- The length has its highest bit clear, and the acknowledgement has it set. -/
def Valid : Frame → Prop
  | .packet message => message.length < 2 ^ 31
  | .quickAck token => 2 ^ 31 ≤ token ∧ token < 2 ^ 32

end Frame

/-- What has been read: a `quick_ack` that is not zero says that it is an acknowledgement. -/
def Read.frame (r : Read) : Frame := if r.quickAck ≠ 0 then .quickAck r.quickAck else .packet r.message

lemma readFromStream_quickAck {a b c d : UInt8} {rest : Bytes} (h : 2 ^ 31 ≤ loadUint32 a b c d) :
    readFromStream (a :: b :: c :: d :: rest) = { stream := rest, quickAck := loadUint32 a b c d } :=
  if_pos h

lemma readFromStream_wait {a b c d : UInt8} {rest : Bytes} (h : loadUint32 a b c d < 2 ^ 31)
    (hshort : rest.length < loadUint32 a b c d) :
    readFromStream (a :: b :: c :: d :: rest) =
      { waitSize := loadUint32 a b c d + 4, stream := a :: b :: c :: d :: rest } := by
  have hlength : (a :: b :: c :: d :: rest).length < loadUint32 a b c d + 4 := by
    simp only [List.length_cons]
    omega
  rw [readFromStream, if_neg (Nat.not_le.mpr h)]
  exact if_pos hlength

lemma readFromStream_message {a b c d : UInt8} {rest : Bytes} (h : loadUint32 a b c d < 2 ^ 31)
    (hthere : loadUint32 a b c d ≤ rest.length) :
    readFromStream (a :: b :: c :: d :: rest) =
      { stream := rest.drop (loadUint32 a b c d), message := rest.take (loadUint32 a b c d) } := by
  have hlength : ¬(a :: b :: c :: d :: rest).length < loadUint32 a b c d + 4 := by
    simp only [List.length_cons]
    omega
  rw [readFromStream, if_neg (Nat.not_le.mpr h)]
  exact if_neg hlength

/-- The frame at the front of the stream, if it is there, and how long it is. -/
def readFrame (stream : Bytes) : Option (Frame × ℕ) :=
  let r := readFromStream stream
  if r.waitSize ≠ 0 then none else some (r.frame, stream.length - r.stream.length)

lemma readFrame_eq_none_iff (stream : Bytes) :
    readFrame stream = none ↔ (readFromStream stream).waitSize ≠ 0 := by
  by_cases h : (readFromStream stream).waitSize = 0 <;> simp [readFrame, h]

lemma readFrame_of_quickAck {a b c d : UInt8} {rest : Bytes} (h : 2 ^ 31 ≤ loadUint32 a b c d) :
    readFrame (a :: b :: c :: d :: rest) = some (.quickAck (loadUint32 a b c d), 4) := by
  have hne : loadUint32 a b c d ≠ 0 := by omega
  rw [readFrame, readFromStream_quickAck h]
  simp only [ne_eq, not_true_eq_false, if_false, Read.frame, hne, not_false_eq_true, if_true, List.length_cons,
    Option.some.injEq, Prod.mk.injEq, true_and]
  omega

lemma readFrame_of_message {a b c d : UInt8} {rest : Bytes} (h : loadUint32 a b c d < 2 ^ 31)
    (hthere : loadUint32 a b c d ≤ rest.length) :
    readFrame (a :: b :: c :: d :: rest) =
      some (.packet (rest.take (loadUint32 a b c d)), 4 + loadUint32 a b c d) := by
  rw [readFrame, readFromStream_message h hthere]
  simp only [ne_eq, not_true_eq_false, if_false, Read.frame, List.length_cons, List.length_drop, Option.some.injEq,
    Prod.mk.injEq, true_and]
  omega

/-- A frame is read if its length is there, and what it announces. -/
lemma exists_of_readFrame {stream : Bytes} {frame : Frame} {n : ℕ} (h : readFrame stream = some (frame, n)) :
    ∃ a b c d rest, stream = a :: b :: c :: d :: rest ∧
      (2 ^ 31 ≤ loadUint32 a b c d ∧ frame = .quickAck (loadUint32 a b c d) ∧ n = 4 ∨
        loadUint32 a b c d < 2 ^ 31 ∧ loadUint32 a b c d ≤ rest.length ∧
          frame = .packet (rest.take (loadUint32 a b c d)) ∧ n = 4 + loadUint32 a b c d) := by
  match stream with
  | [] | [_] | [_, _] | [_, _, _] => cases h
  | a :: b :: c :: d :: rest =>
      refine ⟨a, b, c, d, rest, rfl, ?_⟩
      rcases Nat.lt_or_ge (loadUint32 a b c d) (2 ^ 31) with hbit | hbit
      · rcases Nat.lt_or_ge rest.length (loadUint32 a b c d) with hshort | hthere
        · have hwait : readFrame (a :: b :: c :: d :: rest) = none := by
            rw [readFrame_eq_none_iff, readFromStream_wait hbit hshort]
            exact Nat.succ_ne_zero _
          rw [hwait] at h
          cases h
        · rw [readFrame_of_message hbit hthere] at h
          cases h
          exact .inr ⟨hbit, hthere, rfl, rfl⟩
      · rw [readFrame_of_quickAck hbit] at h
        cases h
        exact .inl ⟨hbit, rfl, rfl⟩

lemma readFromStream_of_readFrame {stream : Bytes} {frame : Frame} {n : ℕ} (h : readFrame stream = some (frame, n)) :
    (readFromStream stream).waitSize = 0 ∧ (readFromStream stream).frame = frame ∧
      (readFromStream stream).stream = stream.drop n := by
  have hwait : (readFromStream stream).waitSize = 0 := by
    by_contra hne
    rw [(readFrame_eq_none_iff stream).mpr hne] at h
    cases h
  have hframe := h
  rw [readFrame, if_neg (not_not.mpr hwait), Option.some_inj, Prod.mk.injEq] at hframe
  refine ⟨hwait, hframe.1, ?_⟩
  rcases exists_of_readFrame h with ⟨a, b, c, d, rest, rfl, ⟨hbit, -, rfl⟩ | ⟨hbit, hthere, -, rfl⟩⟩
  · rw [readFromStream_quickAck hbit]
    rfl
  · rw [readFromStream_message hbit hthere, Nat.add_comm]
    simp only [List.drop_succ_cons]

/-- The frames of a stream, one after another. -/
def frames : Decoder UInt8 Frame where
  read := readFrame
  stable := by
    rintro s ⟨frame, n⟩ h t
    rcases exists_of_readFrame h with ⟨a, b, c, d, rest, rfl, ⟨hbit, rfl, rfl⟩ | ⟨hbit, hthere, rfl, rfl⟩⟩
    · exact readFrame_of_quickAck hbit
    · have hlonger : loadUint32 a b c d ≤ (rest ++ t).length := by
        rw [List.length_append]
        omega
      show readFrame (a :: b :: c :: d :: (rest ++ t)) = _
      rw [readFrame_of_message hbit hlonger, List.take_append_of_le_length hthere]
  taken := by
    intro s frame n h
    rcases exists_of_readFrame h with ⟨a, b, c, d, rest, rfl, ⟨-, -, rfl⟩ | ⟨-, hthere, -, rfl⟩⟩
    · simp
    · simp only [List.length_cons]
      omega

/-- What the server has written is read, whatever comes behind it. -/
lemma reads_frame {frame : Frame} (h : frame.Valid) : frames.Reads Frame.encode frame := by
  intro t
  cases frame with
  | packet message =>
      rcases storeUint32_eq (Nat.lt_trans h (by decide)) with ⟨a, b, c, d, hstore, hload⟩
      have hthere : loadUint32 a b c d ≤ (message ++ t).length := by
        rw [hload, List.length_append]
        omega
      rw [Frame.encode, hstore]
      show readFrame (a :: b :: c :: d :: (message ++ t)) = _
      rw [readFrame_of_message (hload ▸ h) hthere, hload, List.take_left, List.length_append, List.length_cons]
      rfl
  | quickAck token =>
      rcases storeUint32_eq h.2 with ⟨a, b, c, d, hstore, hload⟩
      rw [Frame.encode, hstore]
      show readFrame (a :: b :: c :: d :: t) = _
      rw [readFrame_of_quickAck (hload ▸ h.1), hload]
      rfl

/-- Of a part of a frame nothing is read; its length is waited for first, and then all of it. -/
lemma waitSize_of_part {frame : Frame} (h : frame.Valid) {s : Bytes} (hpart : s <+: frame.encode)
    (hlength : s.length < frame.encode.length) :
    (readFromStream s).waitSize = if s.length < 4 then 4 else frame.encode.length := by
  match s with
  | [] | [_] | [_, _] | [_, _, _] => simp [readFromStream]
  | a :: b :: c :: d :: rest =>
      have hfour : ¬(a :: b :: c :: d :: rest).length < 4 := by simp
      rw [if_neg hfour]
      cases frame with
      | packet message =>
          rcases storeUint32_eq (Nat.lt_trans h (by decide)) with ⟨a', b', c', d', hstore, hload⟩
          have hencode : (Frame.packet message).encode = a' :: b' :: c' :: d' :: message := by
            rw [Frame.encode, hstore]
            rfl
          rw [hencode] at hpart hlength ⊢
          simp only [List.cons_prefix_cons] at hpart
          rcases hpart with ⟨rfl, rfl, rfl, rfl, -⟩
          simp only [List.length_cons] at hlength ⊢
          rw [readFromStream_wait (hload ▸ h) (by omega), hload]
      | quickAck token =>
          simp only [Frame.encode, length_storeUint32, List.length_cons] at hlength
          omega

/-! ## What the other side reads -/

/-- What the client sends: a packet, and whether a quick acknowledgement is asked for. -/
structure Request where
  quickAck : Bool
  message : Bytes
  deriving DecidableEq

namespace Request

def encode (r : Request) : Bytes :=
  storeUint32 (if r.quickAck then r.message.length + 2 ^ 31 else r.message.length) ++ r.message

def Valid (r : Request) : Prop := r.message.length < 2 ^ 31

end Request

/-- Reads a packet for the server: the highest bit of the length is not a part of it. -/
def readRequest : Bytes → Option (Request × ℕ)
  | a :: b :: c :: d :: rest =>
      let size := loadUint32 a b c d % 2 ^ 31
      if rest.length < size then none
      else some ({ quickAck := 2 ^ 31 ≤ loadUint32 a b c d, message := rest.take size }, 4 + size)
  | _ => none

lemma readRequest_cons {a b c d : UInt8} {rest : Bytes} (h : loadUint32 a b c d % 2 ^ 31 ≤ rest.length) :
    readRequest (a :: b :: c :: d :: rest) =
      some ({ quickAck := 2 ^ 31 ≤ loadUint32 a b c d, message := rest.take (loadUint32 a b c d % 2 ^ 31) },
        4 + loadUint32 a b c d % 2 ^ 31) :=
  if_neg (Nat.not_lt.mpr h)

lemma exists_of_readRequest {stream : Bytes} {r : Request} {n : ℕ} (h : readRequest stream = some (r, n)) :
    ∃ a b c d rest, stream = a :: b :: c :: d :: rest ∧ loadUint32 a b c d % 2 ^ 31 ≤ rest.length := by
  match stream with
  | [] | [_] | [_, _] | [_, _, _] => cases h
  | a :: b :: c :: d :: rest =>
      refine ⟨a, b, c, d, rest, rfl, Nat.not_lt.mp fun hshort => ?_⟩
      rw [readRequest, if_pos hshort] at h
      cases h

def requests : Decoder UInt8 Request where
  read := readRequest
  stable := by
    rintro s ⟨r, n⟩ h t
    rcases exists_of_readRequest h with ⟨a, b, c, d, rest, rfl, hthere⟩
    have hlonger : loadUint32 a b c d % 2 ^ 31 ≤ (rest ++ t).length := by
      rw [List.length_append]
      omega
    rw [readRequest_cons hthere] at h
    show readRequest (a :: b :: c :: d :: (rest ++ t)) = _
    rw [readRequest_cons hlonger, List.take_append_of_le_length hthere, h]
  taken := by
    intro s r n h
    rcases exists_of_readRequest h with ⟨a, b, c, d, rest, rfl, hthere⟩
    rw [readRequest_cons hthere] at h
    cases h
    simp only [List.length_cons]
    omega

lemma reads_request {r : Request} (h : r.Valid) : requests.Reads Request.encode r := by
  rcases r with ⟨quickAck, message⟩
  have hmessage : message.length < 2 ^ 31 := h
  intro t
  set size := if quickAck then message.length + 2 ^ 31 else message.length with hsize
  have hbound : size < 2 ^ 32 := by
    rw [hsize]
    split_ifs <;> omega
  have hmod : size % 2 ^ 31 = message.length := by
    rw [hsize]
    split_ifs <;> omega
  have hbit : decide (2 ^ 31 ≤ size) = quickAck := by
    rw [hsize]
    cases quickAck with
    | false => simpa using hmessage
    | true => simp
  rcases storeUint32_eq hbound with ⟨a, b, c, d, hstore, hload⟩
  have hencode : Request.encode ⟨quickAck, message⟩ = a :: b :: c :: d :: message := by
    rw [Request.encode, ← hsize, hstore]
    rfl
  have hthere : loadUint32 a b c d % 2 ^ 31 ≤ (message ++ t).length := by
    rw [hload, hmod, List.length_append]
    omega
  rw [hencode]
  show readRequest (a :: b :: c :: d :: (message ++ t)) = _
  rw [readRequest_cons hthere, hload, hmod, hbit, List.take_left, List.length_cons, List.length_cons, List.length_cons,
    List.length_cons]
  simp only [Option.some.injEq, Prod.mk.injEq, true_and]
  omega

/-- **What has been prepared is a request** for the message with its padding, which is shorter than 16 bytes. -/
lemma writePrepareInplace_eq (withPadding : Bool) {message : Bytes} (quickAck : Bool) (rng : Rng)
    (hsize : message.length % 4 = 0 ∧ message.length < 2 ^ 24) :
    ∃ padding rng', writePrepareInplace withPadding message quickAck rng =
        some (Request.encode ⟨quickAck, message ++ padding⟩, rng') ∧
      padding.length < 16 ∧ (withPadding = false → padding = []) := by
  rw [writePrepareInplace, if_pos hsize]
  have hlength (padding : Bytes) : (if quickAck then message.length + 2 ^ 31 else message.length) + padding.length =
      if quickAck then (message ++ padding).length + 2 ^ 31 else (message ++ padding).length := by
    rw [List.length_append]
    split_ifs <;> omega
  cases withPadding with
  | false => exact ⟨[], rng, by simp [Request.encode], by decide, fun _ => rfl⟩
  | true =>
      refine ⟨(rng.secureUint32.2.secureBytes (rng.secureUint32.1 % 16)).1,
        (rng.secureUint32.2.secureBytes (rng.secureUint32.1 % 16)).2, ?_, ?_, by simp⟩
      · simp only [if_true, Request.encode, hlength, List.append_assoc]
      · rw [Rng.length_secureBytes]
        exact Nat.mod_lt _ (by decide)

end IntermediateTransport

end RioGram
