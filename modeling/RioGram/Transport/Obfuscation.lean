import RioGram.Core.KeyStream
import RioGram.Transport.RawConnection

/-!
# `tcp::ObfuscatedTransport`

A connection draws 64 bytes, which hold the keys of both directions: that of what is sent as they are, and that of
what comes back in the reversed bytes.  They are sent in front of everything else, and their last eight bytes, the
magic of the padding mode and the DC identifier, are encrypted like the rest.

`Main` is the transport for a secret that does not emulate TLS.  The other side is not a part of the program; `Peer`
is what somebody with the secret makes of the bytes, and what it sends back.

* `init_spec`: what a connection begins with is not taken for anything else.
* `duplex`: both sides read what the other has sent, however writing and arriving alternate and whatever the pieces.
-/

namespace RioGram

open Wire Incremental IntermediateTransport StreamCipher

variable {aes : AesCtr} {sha256 : Bytes → Bytes} {secret : ProxySecret} {dcId : ℤ}

namespace ObfuscatedTransport

/-! ## The header -/

/-- The first four bytes that another protocol begins with: `HEAD`, `POST`, `GET `, `OPTI`, the magic of the other
transports, and a TLS handshake. -/
def excludedInts : List ℕ :=
  [0x44414548, 0x54534f50, 0x20544547, 0x4954504f, 0xdddddddd, 0xeeeeeeee, 0x02010316]

/-- The drawn bytes are taken for something else, so that `init` draws again. -/
def isExcluded : Bytes → Bool
  | a :: b :: c :: d :: e :: f :: g :: h :: _ =>
      a = 0xef || loadUint32 a b c d ∈ excludedInts || loadUint32 e f g h = 0
  | _ => true

/-- The loop of `init`, for a secret that does not emulate TLS; `none` if the check on the number of tries fails. -/
def drawHeader : (tries : ℕ) → Rng → Option (Bytes × Rng)
  | 0, _ => none
  | tries + 1, rng =>
      let (header, rng) := rng.secureBytes 64
      if isExcluded header then drawHeader tries rng else some (header, rng)

/-- `fix_key`. -/
def fixKey (sha256 : Bytes → Bytes) (secret : ProxySecret) (key : Bytes) : Bytes :=
  if secret.getProxySecret ≠ [] then sha256 (key ++ secret.getProxySecret) else key

/-- The cipher with the key and the initialization vector that are in the header. -/
def stateOf (aes : AesCtr) (sha256 : Bytes → Bytes) (secret : ProxySecret) (header : Bytes) : aes.State :=
  aes.init (fixKey sha256 secret ((header.drop 8).take 32)) ((header.drop 40).take 16)

/-- A packet is written, or a chunk arrives. -/
inductive Move where
  | write (message : Bytes) (quickAck : Bool)
  | arrive (chunk : Bytes)

/-- The transport for a secret that does not emulate TLS. -/
structure Main (aes : AesCtr) where
  withPadding : Bool
  header : Bytes
  outputState : aes.State
  inputState : aes.State
  output : Bytes := []

namespace Main

/-- `init`. -/
def init (aes : AesCtr) (sha256 : Bytes → Bytes) (dcId : ℤ) (secret : ProxySecret) (rng : Rng) :
    Option (Main aes × Rng) :=
  (drawHeader 9 rng).map fun (drawn, rng) =>
    let header := initHeader secret.useRandomPadding dcId drawn
    let (encrypted, outputState) := aes.encrypt (stateOf aes sha256 secret header) header
    ({ withPadding := secret.useRandomPadding
       header := overwrite header 56 (encrypted.drop 56)
       outputState := outputState
       inputState := stateOf aes sha256 secret header.reverse }, rng)

/-- `write`, with `do_write_main`. -/
def write (t : Main aes) (message : Bytes) (quickAck : Bool) (rng : Rng) : Option (Main aes × Rng) :=
  (writePrepareInplace t.withPadding message quickAck rng).map fun (message, rng) =>
    let (encrypted, outputState) := aes.encrypt t.outputState message
    ({ t with header := [], outputState := outputState, output := t.output ++ (t.header ++ encrypted) }, rng)

/-- What the flow of bytes makes of a chunk when `read_next` wakes it up. -/
def wakeup (t : Main aes) (chunk : Bytes) : Main aes × Bytes :=
  let (decrypted, inputState) := aes.encrypt t.inputState chunk
  ({ t with inputState := inputState }, decrypted)

/-- Moves one after another, and what has been decrypted. -/
def run (t : Main aes) : List Move → Rng → Option (Main aes × List Bytes × Rng)
  | [], rng => some (t, [], rng)
  | .write message quickAck :: moves, rng =>
      (t.write message quickAck rng).bind fun (t, rng) => run t moves rng
  | .arrive chunk :: moves, rng =>
      (run (t.wakeup chunk).1 moves rng).map fun (t', pieces, rng) => (t', (t.wakeup chunk).2 :: pieces, rng)

end Main

/-! ## The other side -/

/-- What the other side reads. -/
structure PeerRead where
  magic : Bytes
  dcId : Bytes
  requests : List Request
  rest : Bytes

/-- What somebody with the secret makes of what has been sent. -/
def Peer.read (aes : AesCtr) (sha256 : Bytes → Bytes) (secret : ProxySecret) (sent : Bytes) : PeerRead :=
  let decrypted := (aes.encrypt (stateOf aes sha256 secret (sent.take 64)) sent).1
  { magic := (decrypted.drop 56).take 4
    dcId := (decrypted.drop 60).take 2
    requests := (requests.drain (decrypted.drop 64)).1
    rest := (requests.drain (decrypted.drop 64)).2 }

/-- What it sends back. -/
def Peer.write (aes : AesCtr) (sha256 : Bytes → Bytes) (secret : ProxySecret) (sent : Bytes) (fs : List Frame) :
    Bytes :=
  (aes.encrypt (stateOf aes sha256 secret (sent.take 64).reverse) (fs.map Frame.encode).flatten).1

/-! ## What is drawn -/

lemma drawHeader_succ (tries : ℕ) (rng : Rng) :
    drawHeader (tries + 1) rng =
      if isExcluded (rng.secureBytes 64).1 then drawHeader tries (rng.skip 64)
      else some ((rng.secureBytes 64).1, rng.skip 64) := rfl

lemma drawHeader_some {tries : ℕ} {rng rng' : Rng} {header : Bytes} (h : drawHeader tries rng = some (header, rng')) :
    header.length = 64 ∧ isExcluded header = false := by
  induction tries generalizing rng with
  | zero => cases h
  | succ tries ih =>
      rw [drawHeader_succ] at h
      split_ifs at h with hexcluded
      · exact ih h
      · cases h
        exact ⟨Rng.length_secureBytes 64 rng, by simpa using hexcluded⟩

/-- The check fails if all the tries are excluded, and only then. -/
lemma drawHeader_eq_none_iff (tries : ℕ) (rng : Rng) :
    drawHeader tries rng = none ↔ ∀ i < tries, isExcluded ((rng.skip (64 * i)).secureBytes 64).1 := by
  induction tries generalizing rng with
  | zero => simp [drawHeader]
  | succ tries ih =>
      have hskip (i : ℕ) : (rng.skip 64).skip (64 * i) = rng.skip (64 * (i + 1)) := by
        simp only [Rng.skip, Rng.mk.injEq, and_true]
        funext j
        congr 1
        omega
      have hfirst : rng.skip (64 * 0) = rng := by simp [Rng.skip]
      rw [Nat.forall_lt_succ_left, hfirst, drawHeader_succ]
      split_ifs with hexcluded
      · rw [ih]
        simp only [hskip, hexcluded, true_and]
      · simp [hexcluded]

lemma take_overwrite {data bytes : Bytes} {offset n : ℕ} (hn : n ≤ offset) (h : offset ≤ data.length) :
    (overwrite data offset bytes).take n = data.take n := by
  rw [overwrite, List.append_assoc, List.take_append_of_le_length (by rw [List.length_take]; omega), List.take_take,
    Nat.min_eq_left hn]

lemma drop_overwrite {data bytes : Bytes} {offset : ℕ} (h : offset ≤ data.length) :
    (overwrite data offset bytes).drop offset = bytes ++ data.drop (offset + bytes.length) := by
  rw [overwrite, List.append_assoc, List.drop_left' (by rw [List.length_take]; omega)]

/-- What is overwritten further behind. -/
lemma drop_overwrite_of_le {data bytes : Bytes} {offset n : ℕ} (hn : n ≤ offset) (h : offset ≤ data.length) :
    (overwrite data offset bytes).drop n = overwrite (data.drop n) (offset - n) bytes := by
  rw [overwrite, overwrite, List.append_assoc, List.drop_append_of_le_length (by rw [List.length_take]; omega),
    List.drop_take, List.drop_drop, List.append_assoc]
  congr 3
  omega

/-- The magic of a padding mode. -/
def magicOf (withPadding : Bool) : Bytes := storeUint32 (if withPadding then 0xdddddddd else 0xeeeeeeee)

lemma length_magicOf (withPadding : Bool) : (magicOf withPadding).length = 4 := rfl

variable {withPadding : Bool} {drawn : Bytes}

variable (withPadding) in
lemma length_overwrite_magic (hdrawn : drawn.length = 64) : (overwrite drawn 56 (magicOf withPadding)).length = 64 := by
  rw [length_overwrite, hdrawn]
  rw [hdrawn, length_magicOf]
  decide

lemma initHeader_eq (withPadding : Bool) (dcId : ℤ) (drawn : Bytes) :
    initHeader withPadding dcId drawn =
      if dcId ≠ 0 then overwrite (overwrite drawn 56 (magicOf withPadding)) 60 (storeInt16 dcId)
      else overwrite drawn 56 (magicOf withPadding) := rfl

/-- The first 56 bytes of the header are those that have been drawn. -/
lemma take_initHeader (hdrawn : drawn.length = 64) : (initHeader withPadding dcId drawn).take 56 = drawn.take 56 := by
  have hmagic := length_overwrite_magic withPadding hdrawn
  have hfirst : (overwrite drawn 56 (magicOf withPadding)).take 56 = drawn.take 56 :=
    take_overwrite le_rfl (by omega)
  rw [initHeader_eq]
  split_ifs
  · exact (take_overwrite (by decide) (by omega)).trans hfirst
  · exact hfirst

/-- Then there are the magic and the DC identifier. -/
lemma drop_initHeader (hdrawn : drawn.length = 64) :
    (initHeader withPadding dcId drawn).drop 56 =
      magicOf withPadding ++ (if dcId ≠ 0 then storeInt16 dcId else (drawn.drop 60).take 2) ++ drawn.drop 62 := by
  have hmagic := length_overwrite_magic withPadding hdrawn
  have hlast : (overwrite drawn 56 (magicOf withPadding)).drop 56 = magicOf withPadding ++ drawn.drop 60 :=
    drop_overwrite (by omega)
  have hrest : drawn.drop 62 = (drawn.drop 60).drop 2 := by rw [List.drop_drop]
  rw [initHeader_eq, hrest]
  by_cases hdc : dcId ≠ 0
  · rw [if_pos hdc, if_pos hdc, drop_overwrite_of_le (by decide) (by omega), hlast, overwrite, List.append_assoc,
      List.append_assoc]
    rfl
  · rw [if_neg hdc, if_neg hdc, hlast, List.append_assoc, List.take_append_drop]

variable (aes sha256 secret) in
/-- The keys are in what is sent as it is. -/
lemma stateOf_eq {header header' : Bytes} (h : header.length = 64) (h' : header'.length = 64)
    (htake : header.take 56 = header'.take 56) :
    stateOf aes sha256 secret header = stateOf aes sha256 secret header' ∧
      stateOf aes sha256 secret header.reverse = stateOf aes sha256 secret header'.reverse := by
  have hpart (m n : ℕ) (hmn : n + m ≤ 56) : (header.drop n).take m = (header'.drop n).take m := by
    have hcut := congrArg (fun l => (l.drop n).take m) htake
    simpa only [List.drop_take, List.take_take, Nat.min_eq_left (show m ≤ 56 - n by omega)] using hcut
  have hreverse (n : ℕ) (hn : 8 ≤ n) : header.reverse.drop n = header'.reverse.drop n := by
    have hcut := congrArg (fun l => (l.take (64 - n)).reverse) htake
    rw [List.drop_reverse, List.drop_reverse, h, h']
    simpa only [List.take_take, Nat.min_eq_left (show 64 - n ≤ 56 by omega)] using hcut
  rw [stateOf, stateOf, stateOf, stateOf, hpart 32 8 (by decide), hpart 16 40 (by decide), hreverse 8 (by decide),
    hreverse 40 (by decide)]
  exact ⟨rfl, rfl⟩

/-! ## What is sent -/

section Sent

variable (haes : Lawful aes.encrypt) {header : Bytes} (hheader : header.length = 64)
include haes hheader

/-- The header and what follows it: 56 bytes as they are, and the rest encrypted. -/
lemma sent_eq (s : aes.State) (text : Bytes) :
    overwrite header 56 ((aes.encrypt s header).1.drop 56) ++ (aes.encrypt (aes.encrypt s header).2 text).1 =
      header.take 56 ++ (aes.encrypt (aes.encrypt s (header.take 56)).2 (header.drop 56 ++ text)).1 := by
  have hsplit := haes.append s (header.take 56) (header.drop 56)
  rw [List.take_append_drop] at hsplit
  have hfirst : (aes.encrypt s (header.take 56)).1.length = 56 := by
    rw [haes.length_eq, List.length_take, hheader]
    decide
  have hlast : (aes.encrypt (aes.encrypt s (header.take 56)).2 (header.drop 56)).1.length = 8 := by
    rw [haes.length_eq, List.length_drop, hheader]
  have hall : header.drop (56 + 8) = [] := List.drop_eq_nil_of_le (by omega)
  rw [hsplit, List.drop_left' hfirst, haes.append, overwrite, hlast, hall, List.append_nil, List.append_assoc]

lemma decrypt_sent (s : aes.State) (text : Bytes) :
    (aes.encrypt s (overwrite header 56 ((aes.encrypt s header).1.drop 56) ++
      (aes.encrypt (aes.encrypt s header).2 text).1)).1 =
        (aes.encrypt s (header.take 56)).1 ++ (header.drop 56 ++ text) := by
  rw [sent_eq haes hheader]
  exact haes.behind_eq s rfl _

lemma take_sent (s : aes.State) (text : Bytes) :
    let sent := overwrite header 56 ((aes.encrypt s header).1.drop 56) ++ (aes.encrypt (aes.encrypt s header).2 text).1
    (sent.take 64).length = 64 ∧ (sent.take 64).take 56 = header.take 56 := by
  intro sent
  have hlength : (overwrite header 56 ((aes.encrypt s header).1.drop 56)).length = 64 := by
    rw [length_overwrite, hheader]
    rw [List.length_drop, haes.length_eq, hheader]
  have htake : sent.take 64 = overwrite header 56 ((aes.encrypt s header).1.drop 56) := List.take_left' hlength
  rw [htake]
  exact ⟨hlength, take_overwrite le_rfl (by omega)⟩

end Sent

variable (sha256 secret dcId withPadding) in
/-- What the other side makes of a header and the requests behind it. -/
lemma Peer.read_sent (haes : Lawful aes.encrypt) (hdrawn : drawn.length = 64) {rs : List Request}
    (hrs : ∀ r ∈ rs, r.Valid) :
    let header := initHeader withPadding dcId drawn
    let s := stateOf aes sha256 secret header
    Peer.read aes sha256 secret (overwrite header 56 ((aes.encrypt s header).1.drop 56) ++
        (aes.encrypt (aes.encrypt s header).2 (rs.map Request.encode).flatten).1) =
      { magic := magicOf withPadding
        dcId := if dcId ≠ 0 then storeInt16 dcId else (drawn.drop 60).take 2
        requests := rs
        rest := [] } := by
  intro header s
  have hheader : header.length = 64 := length_initHeader withPadding dcId hdrawn
  rcases take_sent haes hheader s (rs.map Request.encode).flatten with ⟨hlength, htake⟩
  have hstate := (stateOf_eq aes sha256 secret hlength hheader htake).1
  rw [Peer.read, hstate, decrypt_sent haes hheader]
  set dc := if dcId ≠ 0 then storeInt16 dcId else (drawn.drop 60).take 2 with hdc
  have hdclength : dc.length = 2 := by
    rw [hdc]
    split_ifs
    · rfl
    · rw [List.length_take, List.length_drop, hdrawn]
      decide
  have hfront : (magicOf withPadding ++ (dc ++ drawn.drop 62)).length = 8 := by
    rw [List.length_append, List.length_append, length_magicOf, hdclength, List.length_drop, hdrawn]
  have hfirst : (aes.encrypt s (header.take 56)).1.length = 56 := by
    rw [haes.length_eq, List.length_take, hheader]
    decide
  -- behind the first 56 bytes there are the magic, the DC identifier, two bytes and the requests
  have hbehind (n : ℕ) : ((aes.encrypt s (header.take 56)).1 ++ (header.drop 56 ++
      (rs.map Request.encode).flatten)).drop (56 + n) =
        (magicOf withPadding ++ (dc ++ (drawn.drop 62 ++ (rs.map Request.encode).flatten))).drop n := by
    rw [← List.drop_drop, List.drop_left' hfirst, drop_initHeader hdrawn, ← hdc, List.append_assoc, List.append_assoc]
  have hmagic := hbehind 0
  have hdcId := hbehind 4
  have hrequests := hbehind 8
  rw [List.drop_zero] at hmagic
  rw [List.drop_left' (length_magicOf _)] at hdcId
  rw [← List.append_assoc dc, ← List.append_assoc (magicOf withPadding), List.drop_left' hfront] at hrequests
  rw [hmagic, hdcId, hrequests, List.take_left' (length_magicOf _), List.take_left' hdclength]
  have hdrain := Decoder.drain_encoded (fun r hr => reads_request (hrs r hr)) []
  rw [List.append_nil, Decoder.drain_nil, List.append_nil] at hdrain
  rw [hdrain]

/-! ## Both directions -/

/-- What `write` accepts: the checks on the size pass. -/
def Sized (message : Bytes × Bool) : Prop := message.1.length % 4 = 0 ∧ message.1.length < 2 ^ 24

/-- The request that a message has become. -/
def Prepared (withPadding : Bool) (message : Bytes × Bool) (r : Request) : Prop :=
  r.quickAck = message.2 ∧
    ∃ padding, r.message = message.1 ++ padding ∧ padding.length < 16 ∧ (withPadding = false → padding = [])

/-- What has been read are the magic, the DC identifier and the messages. -/
structure PeerRead.Says (r : PeerRead) (withPadding : Bool) (dcId : ℤ) (messages : List (Bytes × Bool)) : Prop where
  magic : r.magic = magicOf withPadding
  dcId : dcId ≠ 0 → r.dcId = storeInt16 dcId
  requests : List.Forall₂ (Prepared withPadding) messages r.requests
  rest : r.rest = []

lemma Prepared.valid {message : Bytes × Bool} {r : Request} (h : Prepared withPadding message r)
    (hsize : Sized message) : r.Valid := by
  rcases h with ⟨-, padding, hmessage, hpadding, -⟩
  have hlength := hsize.2
  rw [Request.Valid, hmessage, List.length_append]
  omega

lemma valid_of_prepared {messages : List (Bytes × Bool)} {rs : List Request}
    (h : List.Forall₂ (Prepared withPadding) messages rs) (hsize : ∀ m ∈ messages, Sized m) : ∀ r ∈ rs, r.Valid := by
  induction h with
  | nil => simp
  | cons hfirst _ ih =>
      rw [List.forall_mem_cons] at hsize ⊢
      exact ⟨hfirst.valid hsize.1, ih hsize.2⟩

/-- The messages that the moves write. -/
def messages : List Move → List (Bytes × Bool) := List.filterMap fun
  | .write message quickAck => some (message, quickAck)
  | .arrive _ => none

/-- The chunks that arrive. -/
def arrivals : List Move → List Bytes := List.filterMap fun
  | .write _ _ => none
  | .arrive chunk => some chunk

namespace Main

/-- **Neither direction depends on the other one.** -/
lemma run_spec (haes : Lawful aes.encrypt) (moves : List Move) (t : Main aes) (rng : Rng)
    (hsize : ∀ m ∈ messages moves, Sized m) :
    ∃ t' rng' rs, t.run moves rng = some (t', (goOver aes.encrypt t.inputState (arrivals moves)).1, rng') ∧
      List.Forall₂ (Prepared t.withPadding) (messages moves) rs ∧
      t'.output ++ t'.header = t.output ++ t.header ++ (aes.encrypt t.outputState (rs.map Request.encode).flatten).1 ∧
      (messages moves ≠ [] ∨ t.header = [] → t'.header = []) := by
  induction moves generalizing t rng with
  | nil =>
      refine ⟨t, rng, [], rfl, .nil, ?_, by simp [messages]⟩
      rw [List.map_nil, List.flatten_nil, haes.nil, List.append_nil]
  | cons move moves ih =>
      cases move with
      | write message quickAck =>
          rw [show messages (.write message quickAck :: moves) = (message, quickAck) :: messages moves from rfl,
            List.forall_mem_cons] at hsize
          rcases writePrepareInplace_eq t.withPadding quickAck rng hsize.1 with
            ⟨padding, rng₁, hprepare, hpadding, hnone⟩
          set r : Request := ⟨quickAck, message ++ padding⟩
          rcases ih { t with
              header := []
              outputState := (aes.encrypt t.outputState r.encode).2
              output := t.output ++ (t.header ++ (aes.encrypt t.outputState r.encode).1) } rng₁ hsize.2 with
            ⟨t', rng', rs, hrun, hprepared, hsent, hheader⟩
          refine ⟨t', rng', r :: rs, ?_, .cons ⟨rfl, padding, rfl, hpadding, hnone⟩ hprepared, ?_, fun _ =>
            hheader (.inr rfl)⟩
          · rw [run, write, hprepare]
            exact hrun
          · rw [hsent, List.map_cons, List.flatten_cons, haes.append, List.append_nil]
            simp only [List.append_assoc]
      | arrive chunk =>
          rcases ih (t.wakeup chunk).1 rng hsize with ⟨t', rng', rs, hrun, hprepared, hsent, hheader⟩
          refine ⟨t', rng', rs, ?_, hprepared, hsent, hheader⟩
          rw [run, hrun]
          rfl

lemma init_some {rng rng' : Rng} {t : Main aes} (h : init aes sha256 dcId secret rng = some (t, rng')) :
    ∃ drawn, drawn.length = 64 ∧ isExcluded drawn = false ∧
      let header := initHeader secret.useRandomPadding dcId drawn
      let s := stateOf aes sha256 secret header
      t.withPadding = secret.useRandomPadding ∧ t.header = overwrite header 56 ((aes.encrypt s header).1.drop 56) ∧
        t.outputState = (aes.encrypt s header).2 ∧ t.inputState = stateOf aes sha256 secret header.reverse ∧
        t.output = [] := by
  rcases Option.map_eq_some_iff.mp h with ⟨⟨drawn, rng₁⟩, hdrawn, hinit⟩
  cases hinit
  rcases drawHeader_some hdrawn with ⟨hlength, hexcluded⟩
  exact ⟨drawn, hlength, hexcluded, rfl, rfl, rfl, rfl, rfl⟩

/-- **Both sides read what the other has sent**, however writing and arriving alternate: the other side gets the
magic, the DC identifier and all the messages with their padding, and what it sends back comes out of the flow of
bytes as it was, in whatever pieces it arrives, so that the connection handles all of it. -/
theorem duplex (haes : Lawful aes.encrypt) {rng rng' : Rng} {t : Main aes}
    (ht : init aes sha256 dcId secret rng = some (t, rng')) {moves : List Move}
    (hsize : ∀ m ∈ messages moves, Sized m) (hwritten : messages moves ≠ []) :
    ∃ t' pieces rng'', t.run moves rng' = some (t', pieces, rng'') ∧
      (Peer.read aes sha256 secret t'.output).Says secret.useRandomPadding dcId (messages moves) ∧
      ∀ fs, (arrivals moves).flatten <+: Peer.write aes sha256 secret t'.output fs →
        pieces.flatten <+: (fs.map Frame.encode).flatten ∧
        ((arrivals moves).flatten = Peer.write aes sha256 secret t'.output fs →
          (∀ frame ∈ fs, frame.Valid ∧ frame.encode.length ≤ RawConnection.maxPacketSize) →
            ∀ {π : Type} (callback : RawConnection.Callback π),
              (RawConnection.flushAll callback pieces).handled = RawConnection.handleAll callback {} fs) := by
  rcases init_some ht with ⟨drawn, hdrawn, -, hpadding, hstart, houtput, hinput, hnothing⟩
  set header := initHeader secret.useRandomPadding dcId drawn with hinit
  have hheader : header.length = 64 := length_initHeader _ _ hdrawn
  rcases run_spec haes moves t rng' hsize with ⟨t', rng'', rs, hrun, hprepared, hsent, hempty⟩
  rw [hempty (.inl hwritten), List.append_nil, hnothing, List.nil_append, hstart, houtput] at hsent
  rw [hpadding] at hprepared
  have hread := Peer.read_sent sha256 secret dcId secret.useRandomPadding haes hdrawn
    (valid_of_prepared hprepared hsize)
  simp only [← hinit, ← hsent] at hread
  rcases take_sent haes hheader (stateOf aes sha256 secret header) (rs.map Request.encode).flatten with
    ⟨hlength, htake⟩
  have hstate := (stateOf_eq aes sha256 secret hlength hheader htake).2
  rw [← hsent, ← hinput] at hstate
  refine ⟨t', _, rng'', hrun, ?_, ?_⟩
  · rw [hread]
    exact ⟨rfl, fun hdc => if_pos hdc, hprepared, rfl⟩
  · intro fs harrived
    rw [Peer.write, hstate] at harrived ⊢
    exact ⟨haes.goOver_prefix _ harrived, fun hall hfs π callback =>
      RawConnection.flushAll_encoded callback hfs (haes.goOver_inverse _ hall)⟩

/-- The cipher whose key stream counts the bytes. -/
def countingCtr : AesCtr := ⟨ℕ, fun _ _ => 0, xor UInt8.ofNat, xor_length UInt8.ofNat⟩

lemma countingCtr_lawful : Lawful countingCtr.encrypt := xor_lawful _

/-- Two packets are written, and two bytes arrive between them. -/
theorem duplex_two_packets :
    let secret : ProxySecret := ⟨List.replicate 16 5⟩
    let moves : List Move := [.write [1, 2, 3, 4] true, .arrive [9, 9], .write (List.replicate 8 0) false]
    ∃ t rng' t' pieces rng'',
      init countingCtr (fun _ => List.replicate 32 0) 2 secret { Rng.zero with bytes := fun _ => 1 } = some (t, rng') ∧
      t.run moves rng' = some (t', pieces, rng'') ∧
      (Peer.read countingCtr (fun _ => List.replicate 32 0) secret t'.output).Says false 2
        [([1, 2, 3, 4], true), (List.replicate 8 0, false)] := by
  intro secret moves
  have hinit : ∃ p, init countingCtr (fun _ => List.replicate 32 0) 2 secret { Rng.zero with bytes := fun _ => 1 } =
      some p := ⟨_, rfl⟩
  rcases hinit with ⟨⟨t, rng'⟩, ht⟩
  have hsize : ∀ m ∈ messages moves, Sized m := by
    intro m hm
    rcases List.mem_pair.mp hm with rfl | rfl <;> exact ⟨by decide, by decide⟩
  rcases duplex countingCtr_lawful ht hsize (List.cons_ne_nil _ _) with ⟨t', pieces, rng'', hrun, hsays, -⟩
  exact ⟨t, rng', t', pieces, rng'', ht, hrun, hsays⟩

/-! ## What is sent first -/

lemma isExcluded_eq_take (header : Bytes) : isExcluded header = isExcluded (header.take 8) := by
  by_cases hshort : header.length < 8
  · rw [List.take_of_length_le hshort.le]
  · match header with
    | a :: b :: c :: d :: e :: f :: g :: h :: rest => rfl
    | [] | [_] | [_, _] | [_, _, _] | [_, _, _, _] | [_, _, _, _, _] | [_, _, _, _, _, _] | [_, _, _, _, _, _, _] =>
        exact absurd (by simp) hshort

/-- **What a connection begins with is not taken for anything else**: whatever is written and arrives in whatever
order, the first bytes that are sent are those of no other protocol.  No connection is made if all nine tries have
drawn such bytes, and only then. -/
theorem begins_distinct (haes : Lawful aes.encrypt) (rng : Rng) :
    (init aes sha256 dcId secret rng = none ↔ ∀ i < 9, isExcluded ((rng.skip (64 * i)).secureBytes 64).1) ∧
    ∀ t rng', init aes sha256 dcId secret rng = some (t, rng') → ∀ moves : List Move,
      (∀ m ∈ messages moves, Sized m) → messages moves ≠ [] →
        ∃ t' pieces rng'', t.run moves rng' = some (t', pieces, rng'') ∧ isExcluded t'.output = false := by
  refine ⟨by rw [init, Option.map_eq_none_iff, drawHeader_eq_none_iff], ?_⟩
  intro t rng' ht moves hsize hwritten
  rcases init_some ht with ⟨drawn, hdrawn, hexcluded, -, hstart, houtput, -, hnothing⟩
  have hheader := length_initHeader secret.useRandomPadding dcId hdrawn
  rcases run_spec haes moves t rng' hsize with ⟨t', rng'', rs, hrun, -, hsent, hempty⟩
  rw [hempty (.inl hwritten), List.append_nil, hnothing, List.nil_append, hstart, houtput,
    sent_eq haes hheader, take_initHeader hdrawn] at hsent
  refine ⟨t', _, rng'', hrun, ?_⟩
  have htake : t'.output.take 8 = drawn.take 8 := by
    rw [hsent, List.take_append_of_le_length (by rw [List.length_take, hdrawn]; decide), List.take_take]
    rfl
  rw [isExcluded_eq_take, htake, ← isExcluded_eq_take, hexcluded]

/-- With bytes that are all zero no connection is made. -/
theorem begins_distinct_zero :
    init countingCtr (fun _ => List.replicate 32 0) 2 ⟨List.replicate 16 5⟩ Rng.zero = none := by
  refine (begins_distinct countingCtr_lawful Rng.zero).1.mpr fun i _ => ?_
  have hzero : ((Rng.zero.skip (64 * i)).secureBytes 64).1 = List.replicate 64 0 := by
    show (List.range 64).map (fun _ => (0 : UInt8)) = _
    rw [List.map_const', List.length_range]
  rw [hzero, isExcluded_eq_take, List.take_replicate]
  decide

end Main

end ObfuscatedTransport

end RioGram
