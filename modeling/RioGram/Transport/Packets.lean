import RioGram.Transport.RawConnection
import RioGram.Utils.AesIge

/-!
# `Transport`

The packets of MTProto, of both kinds: those of a session with a server, and those of a secret chat.  A packet starts
with the number of the key and a hash of what it holds, from which the key of the cipher is made; what it holds is
padded to whole blocks.  Hashes and the block cipher are parameters.

* `readCryptoImpl_writeCryptoImpl`: what has been written is read, also if a transport has put up to 15 bytes behind it.
* `readCryptoImpl_iff`: nothing else is read.
* `write_common_opened`: what a session writes is opened.
* `read_write_endToEnd`: what one party of a secret chat writes, the other reads.
-/

namespace RioGram

open Wire

/-! ## Numbers -/

/-- The number that little-endian bytes stand for. -/
def loadLittle : Bytes → ℕ
  | [] => 0
  | a :: s => a.toNat + 2 ^ 8 * loadLittle s

def storeLittle : ℕ → ℕ → Bytes
  | 0, _ => []
  | size + 1, n => UInt8.ofNat n :: storeLittle size (n / 2 ^ 8)

@[simp] lemma length_storeLittle (size n : ℕ) : (storeLittle size n).length = size := by
  induction size generalizing n with
  | zero => rfl
  | succ size ih => rw [storeLittle, List.length_cons, ih]

lemma loadLittle_storeLittle {size n : ℕ} (h : n < 2 ^ (8 * size)) : loadLittle (storeLittle size n) = n := by
  induction size generalizing n with
  | zero =>
      rw [Nat.mul_zero, Nat.pow_zero, Nat.lt_one_iff] at h
      rw [h]
      rfl
  | succ size ih =>
      have hrest : n / 2 ^ 8 < 2 ^ (8 * size) := by
        rw [Nat.div_lt_iff_lt_mul (by decide), ← Nat.pow_add]
        exact h
      rw [storeLittle, loadLittle, ih hrest, UInt8.toNat_ofNat']
      exact Nat.mod_add_div n (2 ^ 8)

lemma storeLittle_loadLittle (s : Bytes) : storeLittle s.length (loadLittle s) = s := by
  induction s with
  | nil => rfl
  | cons a s ih =>
      have ha : a.toNat < 2 ^ 8 := a.toNat_lt
      have hdiv : (a.toNat + 2 ^ 8 * loadLittle s) / 2 ^ 8 = loadLittle s := by omega
      have hmod : UInt8.ofNat (a.toNat + 2 ^ 8 * loadLittle s) = a := by
        rw [← UInt8.toNat_inj, UInt8.toNat_ofNat']
        omega
      rw [List.length_cons, loadLittle, storeLittle, hdiv, hmod, ih]

lemma loadLittle_lt (s : Bytes) : loadLittle s < 2 ^ (8 * s.length) := by
  induction s with
  | nil => decide
  | cons a s ih =>
      have ha : a.toNat < 2 ^ 8 := a.toNat_lt
      rw [loadLittle, List.length_cons, Nat.mul_succ, Nat.pow_add]
      omega

/-- `format::as_hex_dump` of a value. -/
def asHexDump (s : Bytes) : String :=
  String.ofList (s.reverse.flatMap fun c => [Nat.digitChar (c.toNat / 16), Nat.digitChar (c.toNat % 16)])

/-- `format::as_hex` of a `uint64`. -/
def asHex (n : ℕ) : String := "0x" ++ asHexDump (storeLittle 8 n)

/-- `format::tag`. -/
def tag (name : String) (n : ℕ) : String := "[" ++ name ++ ":" ++ toString n ++ "]"

/-- `substr`. -/
def substr (s : Bytes) (offset size : ℕ) : Bytes := (s.drop offset).take size

/-! ## Keys -/

/-- What OpenSSL gives. -/
structure Crypto where
  sha1 : Bytes → Bytes
  sha256 : Bytes → Bytes
  aes : Aes

/-- The sizes of the hashes, and that the cipher can be undone. -/
structure Crypto.Lawful (crypto : Crypto) : Prop where
  length_sha1 : ∀ s, (crypto.sha1 s).length = 20
  length_sha256 : ∀ s, (crypto.sha256 s).length = 32
  aes : crypto.aes.Lawful

/-- `AuthKey`. -/
structure AuthKey where
  id : ℕ
  key : Bytes
  id_lt : id < 2 ^ 64

/-- `KDF`: the key and the `iv` of the cipher. -/
def kdf (crypto : Crypto) (authKey messageKey : Bytes) (x : ℕ) : Bytes × Bytes :=
  let a := crypto.sha1 (messageKey ++ substr authKey x 32)
  let b := crypto.sha1 (substr authKey (x + 32) 16 ++ messageKey ++ substr authKey (x + 48) 16)
  let c := crypto.sha1 (substr authKey (64 + x) 32 ++ messageKey)
  let d := crypto.sha1 (messageKey ++ substr authKey (96 + x) 32)
  (substr a 0 8 ++ substr b 8 12 ++ substr c 4 12,
    substr a 8 12 ++ substr b 0 8 ++ substr c 16 4 ++ substr d 0 8)

/-- `KDF2`. -/
def kdf2 (crypto : Crypto) (authKey messageKey : Bytes) (x : ℕ) : Bytes × Bytes :=
  let a := crypto.sha256 (messageKey ++ substr authKey x 36)
  let b := crypto.sha256 (substr authKey (40 + x) 36 ++ messageKey)
  (substr a 0 8 ++ substr b 8 16 ++ substr a 24 8, substr b 0 8 ++ substr a 8 16 ++ substr b 24 8)

inductive PacketType where
  | common
  | endToEnd
  deriving DecidableEq

/-- `PacketInfo`. -/
structure PacketInfo where
  type : PacketType := .common
  messageAck : ℕ := 0
  salt : ℕ := 0
  sessionId : ℕ := 0
  messageId : ℕ := 0
  seqNo : ℤ := 0
  version : ℕ := 1
  noCryptoFlag : Bool := false
  isCreator : Bool := false
  checkMod4 : Bool := true
  useRandomPadding : Bool := false
  deriving DecidableEq

/-- What `Random::secure_uint32` and `Random::secure_bytes` give. -/
structure Entropy where
  uint32 : ℕ
  bytes : ℕ → UInt8

def Entropy.secureBytes (entropy : Entropy) (size : ℕ) : Bytes := (List.range size).map entropy.bytes

namespace Transport

/-- The two templates: `HeaderT` has an encrypted part after the number of the key and the hash, and the data start
with a `PrefixT`, of which the length of the message is the last field. -/
structure Format where
  encryptedHeaderSize : ℕ
  prefixSize : ℕ
  aligned : 4 ∣ encryptedHeaderSize ∧ 4 ∣ prefixSize
  four_le : 4 ≤ prefixSize

/-- `CryptoHeader` and `CryptoPrefix`. -/
def common : Format := { encryptedHeaderSize := 16, prefixSize := 16, aligned := by decide, four_le := by decide }

/-- `EndToEndHeader` and `EndToEndPrefix`. -/
def endToEnd : Format := { encryptedHeaderSize := 0, prefixSize := 4, aligned := by decide, four_le := by decide }

/-- The part of a header that is not encrypted. -/
def rawSize : ℕ := 24

/-- `sizeof(HeaderT)`. -/
def Format.headerSize (format : Format) : ℕ := rawSize + format.encryptedHeaderSize

/-! ## Sizes -/

/-- `calc_crypto_size`. -/
def calcCryptoSize (format : Format) (dataSize : ℕ) : ℕ :=
  rawSize + (format.encryptedHeaderSize + dataSize + 15) / 16 * 16

/-- `do_calc_crypto_size2_basic`, with the last of the ten sizes, which has no value of its own. -/
def doCalcCryptoSize2Basic (dataSize encSize rawSize : ℕ) : ℕ :=
  let encryptedSize := (encSize + dataSize + 12 + 15) / 16 * 16
  match [64, 128, 192, 256, 384, 512, 768, 1024, 1280, 0].find? fun size => encryptedSize ≤ size with
  | some size => rawSize + size
  | none => rawSize + ((encryptedSize - 1280 + 447) / 448 * 448 + 1280)

/-- `do_calc_crypto_size2_rand`. -/
def doCalcCryptoSize2Rand (entropy : Entropy) (dataSize encSize rawSize : ℕ) : ℕ :=
  rawSize + (encSize + dataSize + entropy.uint32 % 2 ^ 8 + 12 + 15) / 16 * 16

/-- `calc_crypto_size2`. -/
def calcCryptoSize2 (format : Format) (entropy : Entropy) (info : PacketInfo) (dataSize : ℕ) : ℕ :=
  if info.useRandomPadding then doCalcCryptoSize2Rand entropy dataSize format.encryptedHeaderSize rawSize
  else doCalcCryptoSize2Basic dataSize format.encryptedHeaderSize rawSize

/-! ## Hashes -/

/-- `calc_message_ack_and_key`. -/
def calcMessageAckAndKey (crypto : Crypto) (part : Bytes) : ℕ × Bytes :=
  (loadLittle ((crypto.sha1 part).take 4) ||| 2 ^ 31, substr (crypto.sha1 part) 4 16)

/-- `calc_message_key2`. -/
def calcMessageKey2 (crypto : Crypto) (authKey : AuthKey) (x : ℕ) (toEncrypt : Bytes) : ℕ × Bytes :=
  let large := crypto.sha256 (substr authKey.key (88 + x) 32 ++ toEncrypt)
  (loadLittle (large.take 4) ||| 2 ^ 31, substr large 8 16)

/-- The key and the `iv` of the cipher. -/
def cipherKey (crypto : Crypto) (version : ℕ) (authKey : AuthKey) (messageKey : Bytes) (x : ℕ) : Bytes × Bytes :=
  if version = 1 then kdf crypto authKey.key messageKey x else kdf2 crypto authKey.key messageKey x

/-! ## Reading -/

/-- What a packet held: the encrypted part of the header, the data with their prefix, and the quick ack. -/
structure Opened where
  head : Bytes
  data : Bytes
  messageAck : ℕ
  deriving DecidableEq

/-- The rest of `read_crypto_impl`, once `plain` has been decrypted; `rest` is what is too short for a block. -/
def checkDecrypted (crypto : Crypto) (format : Format) (x : ℕ) (authKey : AuthKey) (info : PacketInfo)
    (messageSize : ℕ) (messageKey plain rest : Bytes) : Except Status Opened :=
  let head := (plain ++ rest).take format.encryptedHeaderSize
  let data := (plain ++ rest).drop format.encryptedHeaderSize
  let tailSize := data.length
  if tailSize < format.prefixSize then .error { message := "Too small encrypted part" }
  else
    let messageDataLength := loadLittle (substr data (format.prefixSize - 4) 4)
    let dataSize := messageDataLength + format.prefixSize
    let isLengthBad := info.version = 1 ∧
      (info.checkMod4 ∧ messageDataLength % 4 ≠ 0 ∨ calcCryptoSize format dataSize ≠ messageSize)
    let (messageAck, realMessageKey) :=
      if info.version = 1 then
        calcMessageAckAndKey crypto
          ((plain ++ rest).take (format.encryptedHeaderSize + if isLengthBad then tailSize else dataSize))
      else calcMessageKey2 crypto authKey x plain
    let total := tag "total_size" messageSize
    let length := tag "message_data_length" messageDataLength
    if realMessageKey ≠ messageKey then
      .error { message :=
        "Invalid MTProto message: message_key mismatch [found = " ++ asHexDump messageKey ++ "] [expected = " ++
          asHexDump realMessageKey ++ "]" }
    else if info.version = 2 then
      if info.checkMod4 ∧ messageDataLength % 4 ≠ 0 then
        .error { message :=
          "Invalid MTProto message: invalid length (not divisible by four)" ++ total ++ length }
      else if tailSize - format.prefixSize < messageDataLength then
        .error { message :=
          "Invalid MTProto message: invalid length (message_data_length is too big)" ++ total ++ length }
      else
        let padSize := tailSize - dataSize
        if padSize < 12 ∨ 1024 < padSize then
          .error { message :=
            "Invalid MTProto message: invalid length (invalid padding length)" ++ tag "padding_size" padSize ++
              total ++ length }
        else .ok { head, data := data.take dataSize, messageAck }
    else if isLengthBad then .error { message := "Invalid MTProto message: invalid length " ++ total ++ length }
    else .ok { head, data := data.take dataSize, messageAck }

/-- `read_crypto_impl`. -/
def readCryptoImpl (crypto : Crypto) (format : Format) (x : ℕ) (message : Bytes) (authKey : AuthKey)
    (info : PacketInfo) : Except Status Opened :=
  if message.length < format.headerSize then
    .error { message :=
      "Invalid MTProto message: too small [message.size() = " ++ toString message.length ++
        "] < [sizeof(HeaderT) = " ++ toString format.headerSize ++ "]" }
  else
    let authKeyId := loadLittle (message.take 8)
    let messageKey := substr message 8 16
    let encrypted := message.drop rawSize
    let blocks := encrypted.length - encrypted.length % 16
    if authKeyId ≠ authKey.id then
      .error { message :=
        "Invalid MTProto message: auth_key_id mismatch [found = " ++ asHex authKeyId ++ "] [expected = " ++
          asHex authKey.id ++ "]" }
    else
      let (aesKey, aesIv) := cipherKey crypto info.version authKey messageKey x
      let plain := (aesIgeDecrypt crypto.aes aesKey aesIv (encrypted.take blocks)).1
      checkDecrypted crypto format x authKey info message.length messageKey plain (encrypted.drop blocks)

/-- An `int32` of a `uint32`. -/
def toSigned (n : ℕ) : ℤ := if n < 2 ^ 31 then n else n - 2 ^ 32

/-- `read_crypto`. -/
def readCrypto (crypto : Crypto) (message : Bytes) (authKey : AuthKey) (info : PacketInfo) :
    Except Status (PacketInfo × Bytes) :=
  (readCryptoImpl crypto common 8 message authKey info).map fun opened =>
    ({ info with
        messageAck := opened.messageAck
        type := .common
        salt := loadLittle (opened.head.take 8)
        sessionId := loadLittle (opened.head.drop 8)
        messageId := loadLittle (opened.data.take 8)
        seqNo := toSigned (loadLittle (substr opened.data 8 4)) }, opened.data)

/-- `read_e2e_crypto`. -/
def readE2eCrypto (crypto : Crypto) (message : Bytes) (authKey : AuthKey) (info : PacketInfo) :
    Except Status (PacketInfo × Bytes) :=
  let x := if info.isCreator ∧ info.version ≠ 1 then 8 else 0
  (readCryptoImpl crypto endToEnd x message authKey info).map fun opened =>
    ({ info with messageAck := opened.messageAck, type := .endToEnd }, opened.data)

/-- `read_no_crypto`, for a message that is not too small. -/
def readNoCrypto (message : Bytes) (info : PacketInfo) : Except Status (PacketInfo × Bytes) :=
  if message.length < 8 then
    .error { message :=
      "Invalid MTProto message: too small [message.size() = " ++ toString message.length ++
        "] < [sizeof(NoCryptoHeader) = 8]" }
  else .ok (info, message.drop 8)

/-- `read`, for a message that is not too small to be a packet. -/
def readLong (crypto : Crypto) (authKey : AuthKey) (info : PacketInfo) (message : Bytes) :
    Except Status (PacketInfo × Bytes) :=
  let info := { info with noCryptoFlag := loadLittle (message.take 8) = 0 }
  if info.type = .endToEnd then readE2eCrypto crypto message authKey info
  else if info.noCryptoFlag then readNoCrypto message info
  else if authKey.key = [] then .error { message := "Failed to decrypt MTProto message: auth key is empty" }
  else readCrypto crypto message authKey info

/-- `read`. -/
def read (crypto : Crypto) (message : Bytes) (errorCode : ℤ) (authKey : AuthKey) (info : PacketInfo) :
    Except Status (ReadResult (PacketInfo × Bytes)) :=
  if 300 ≤ errorCode then .ok (.error (-errorCode)) else readPacket (readLong crypto authKey info) message

/-! ## Writing -/

/-- `write_crypto_impl`, with the encrypted part of the header in `head`, and `info.message_ack` beside the packet. -/
def writeCryptoImpl (crypto : Crypto) (entropy : Entropy) (format : Format) (x : ℕ) (data : Bytes)
    (authKey : AuthKey) (info : PacketInfo) (head : Bytes) (paddedSize : ℕ) : Bytes × ℕ :=
  let pad := entropy.secureBytes (paddedSize - (format.headerSize + data.length))
  let toEncrypt := head ++ data ++ pad
  let (messageAck, messageKey) :=
    if info.version = 1 then calcMessageAckAndKey crypto (head ++ data)
    else calcMessageKey2 crypto authKey x toEncrypt
  let (aesKey, aesIv) := cipherKey crypto info.version authKey messageKey x
  (storeLittle 8 authKey.id ++ messageKey ++ (aesIgeEncrypt crypto.aes aesKey aesIv toEncrypt).1, messageAck)

/-- How big the packet becomes in `write_crypto` and `write_e2e_crypto`. -/
def paddedSize (format : Format) (entropy : Entropy) (info : PacketInfo) (dataSize : ℕ) : ℕ :=
  if info.version = 1 then calcCryptoSize format dataSize else calcCryptoSize2 format entropy info dataSize

/-- `write_crypto`; `data` is what the storer stores. -/
def writeCrypto (crypto : Crypto) (entropy : Entropy) (data : Bytes) (authKey : AuthKey) (info : PacketInfo) :
    Bytes × PacketInfo :=
  let head := storeLittle 8 info.salt ++ storeLittle 8 info.sessionId
  let (packet, messageAck) := writeCryptoImpl crypto entropy common 0 data authKey info head
    (paddedSize common entropy info data.length)
  (packet, { info with messageAck })

/-- `write_e2e_crypto`. -/
def writeE2eCrypto (crypto : Crypto) (entropy : Entropy) (data : Bytes) (authKey : AuthKey) (info : PacketInfo) :
    Bytes × PacketInfo :=
  let x := if info.isCreator ∨ info.version = 1 then 0 else 8
  let (packet, messageAck) := writeCryptoImpl crypto entropy endToEnd x data authKey info []
    (paddedSize endToEnd entropy info data.length)
  (packet, { info with messageAck })

/-- `write_no_crypto`. -/
def writeNoCrypto (data : Bytes) : Bytes := storeLittle 8 0 ++ data

/-- `write`. -/
def write (crypto : Crypto) (entropy : Entropy) (data : Bytes) (authKey : AuthKey) (info : PacketInfo) :
    Bytes × PacketInfo :=
  if info.type = .endToEnd then writeE2eCrypto crypto entropy data authKey info
  else if info.noCryptoFlag then (writeNoCrypto data, info)
  else writeCrypto crypto entropy data authKey info

/-! ## Padding -/

section

variable {crypto : Crypto} {entropy : Entropy} {format : Format} {authKey : AuthKey} {info : PacketInfo} {x : ℕ}

@[simp] lemma length_secureBytes (size : ℕ) : (entropy.secureBytes size).length = size := by
  rw [Entropy.secureBytes, List.length_map, List.length_range]

/-- Of sizes that grow in steps of 256 at most, the first that is enough is not much too big. -/
lemma find_le {sizes : List ℕ} {last n size : ℕ} (hsizes : List.IsChain (fun a b => b ≤ a + 256) (last :: sizes))
    (hlast : last < n) (h : (sizes.find? fun size => n ≤ size) = some size) :
    n ≤ size ∧ size < n + 256 ∧ size ∈ sizes := by
  induction sizes generalizing last with
  | nil => cases h
  | cons a sizes ih =>
      rw [List.isChain_cons_cons] at hsizes
      by_cases ha : n ≤ a
      · rw [List.find?_cons_of_pos (by simpa using ha), Option.some.injEq] at h
        subst h
        exact ⟨ha, by omega, List.mem_cons_self⟩
      · rw [List.find?_cons_of_neg (by simpa using ha)] at h
        rcases ih hsizes.2 (Nat.lt_of_not_le ha) h with ⟨hleast, hmost, hmem⟩
        exact ⟨hleast, hmost, List.mem_cons_of_mem _ hmem⟩

/-- **The padding**: whole blocks, at least twelve bytes, and few enough that those of a transport may be added. -/
lemma calcCryptoSize2_spec (format : Format) (entropy : Entropy) (info : PacketInfo) (dataSize : ℕ) :
    ∃ pad, calcCryptoSize2 format entropy info dataSize = format.headerSize + dataSize + pad ∧
      12 ≤ pad ∧ pad < 480 ∧ 16 ∣ format.encryptedHeaderSize + dataSize + pad := by
  have hsize : ∃ size, calcCryptoSize2 format entropy info dataSize = rawSize + size ∧
      format.encryptedHeaderSize + dataSize + 12 ≤ size ∧ size < format.encryptedHeaderSize + dataSize + 480 ∧
        16 ∣ size := by
    rw [calcCryptoSize2]
    split_ifs
    · exact ⟨_, rfl, by omega, by omega, by omega⟩
    · rw [doCalcCryptoSize2Basic]
      generalize hn : (format.encryptedHeaderSize + dataSize + 12 + 15) / 16 * 16 = n
      cases hfind : [64, 128, 192, 256, 384, 512, 768, 1024, 1280, 0].find? fun size => decide (n ≤ size) with
      | some size =>
          rcases find_le (by decide : List.IsChain _ (0 :: [64, 128, 192, 256, 384, 512, 768, 1024, 1280, 0]))
            (by omega) hfind with ⟨hleast, hmost, hmem⟩
          have hblocks : ∀ size ∈ [64, 128, 192, 256, 384, 512, 768, 1024, 1280, 0], 16 ∣ size := by decide
          exact ⟨size, rfl, by omega, by omega, hblocks size hmem⟩
      | none =>
          have hbig : ¬ n ≤ 1280 := by simpa using List.find?_eq_none.mp hfind 1280 (by decide)
          exact ⟨_, rfl, by omega, by omega, by omega⟩
  rcases hsize with ⟨size, hsize, hleast, hmost, hblocks⟩
  refine ⟨size - (format.encryptedHeaderSize + dataSize), ?_, by omega, by omega, ?_⟩
  · rw [hsize, Format.headerSize]
    omega
  · rw [Nat.add_sub_cancel' (by omega)]
    exact hblocks

/-! ## Sealed packets -/

/-- A packet that holds `plain`. -/
def sealed (crypto : Crypto) (version x : ℕ) (authKey : AuthKey) (messageKey plain : Bytes) : Bytes :=
  let (aesKey, aesIv) := cipherKey crypto version authKey messageKey x
  storeLittle 8 authKey.id ++ messageKey ++ (aesIgeEncrypt crypto.aes aesKey aesIv plain).1

lemma length_sealed {version : ℕ} {messageKey plain : Bytes} (hkey : messageKey.length = 16) (hplain : Blocks plain) :
    (sealed crypto version x authKey messageKey plain).length = 24 + plain.length := by
  simp only [sealed, List.length_append, length_storeLittle, hkey, length_aesIgeEncrypt _ _ _ hplain]

/-- **A packet is opened**: what is behind it and too short for a block is left as it is. -/
lemma readCryptoImpl_sealed (hcrypto : crypto.Lawful) {messageKey plain rest : Bytes} (hkey : messageKey.length = 16)
    (hplain : Blocks plain) (hrest : rest.length < 16)
    (hsize : format.encryptedHeaderSize ≤ plain.length + rest.length) :
    readCryptoImpl crypto format x (sealed crypto info.version x authKey messageKey plain ++ rest) authKey info =
      checkDecrypted crypto format x authKey info (24 + plain.length + rest.length) messageKey plain rest := by
  have hlength : (sealed crypto info.version x authKey messageKey plain ++ rest).length =
      24 + plain.length + rest.length := by rw [List.length_append, length_sealed hkey hplain]
  have hid := length_storeLittle 8 authKey.id
  have hfront : (storeLittle 8 authKey.id ++ messageKey).length = rawSize := by
    rw [List.length_append, hid, hkey]
    rfl
  rw [readCryptoImpl, hlength, if_neg (by rw [Format.headerSize, rawSize]; omega)]
  have hauth : loadLittle ((sealed crypto info.version x authKey messageKey plain ++ rest).take 8) = authKey.id := by
    rw [sealed, List.append_assoc, List.append_assoc, List.take_left' hid]
    exact loadLittle_storeLittle authKey.id_lt
  have hmessageKey : substr (sealed crypto info.version x authKey messageKey plain ++ rest) 8 16 = messageKey := by
    rw [sealed, substr, List.append_assoc, List.append_assoc, List.drop_left' hid, List.take_left' hkey]
  have hencrypted : (sealed crypto info.version x authKey messageKey plain ++ rest).drop rawSize =
      (aesIgeEncrypt crypto.aes (cipherKey crypto info.version authKey messageKey x).1
        (cipherKey crypto info.version authKey messageKey x).2 plain).1 ++ rest := by
    simp only [sealed]
    rw [List.append_assoc, List.drop_left' hfront]
  have hbody := length_aesIgeEncrypt crypto.aes (cipherKey crypto info.version authKey messageKey x).1
    (cipherKey crypto info.version authKey messageKey x).2 hplain
  have hblocks : plain.length + rest.length - (plain.length + rest.length) % 16 = plain.length := by
    rcases hplain with ⟨n, hn⟩
    omega
  simp only [hauth, hmessageKey, hencrypted, List.length_append, hbody, hblocks, ne_eq, not_true_eq_false, if_false]
  rw [List.take_left' hbody, List.drop_left' hbody, aesIgeDecrypt_encrypt _ _ hcrypto.aes hplain]

/-- **Every message that is long enough, with the number of the key, is a packet** with something behind it. -/
lemma exists_sealed (hcrypto : crypto.Lawful) {message : Bytes} (version x : ℕ) (hsize : rawSize ≤ message.length)
    (hid : loadLittle (message.take 8) = authKey.id) :
    ∃ messageKey plain rest, messageKey.length = 16 ∧ Blocks plain ∧ rest.length < 16 ∧
      message = sealed crypto version x authKey messageKey plain ++ rest := by
  rw [rawSize] at hsize
  have hkey : (substr message 8 16).length = 16 := by
    rw [substr, List.length_take, List.length_drop]
    omega
  set encrypted := message.drop rawSize with hencrypted
  set size := encrypted.length - encrypted.length % 16 with hsize'
  have hblocks : Blocks (encrypted.take size) := by
    rw [Blocks, List.length_take, hsize']
    omega
  set keys := cipherKey crypto version authKey (substr message 8 16) x with hkeys
  refine ⟨substr message 8 16, (aesIgeDecrypt crypto.aes keys.1 keys.2 (encrypted.take size)).1, encrypted.drop size,
    hkey, ?_, ?_, ?_⟩
  · rw [Blocks, length_aesIgeDecrypt _ _ _ hblocks]
    exact hblocks
  · rw [List.length_drop]
    omega
  · have hfront : storeLittle 8 authKey.id = message.take 8 := by
      have hstore := storeLittle_loadLittle (message.take 8)
      rw [List.length_take_of_le (by omega), hid] at hstore
      exact hstore
    simp only [sealed]
    rw [← hkeys, aesIgeEncrypt_decrypt _ _ hcrypto.aes hblocks, hfront, List.append_assoc, List.append_assoc,
      List.take_append_drop, hencrypted, substr, rawSize, show 24 = 8 + 16 from rfl, ← List.drop_drop,
      List.take_append_drop, List.take_append_drop]

/-! ## What is read -/

/-- The data say how long they are. -/
def Announced (format : Format) (data : Bytes) : Prop :=
  loadLittle (substr data (format.prefixSize - 4) 4) + format.prefixSize = data.length

/-- What `checkDecrypted` asks for in the second version of the protocol. -/
lemma checkDecrypted_ok_iff (hversion : info.version = 2) {messageSize size : ℕ} {messageKey plain rest data : Bytes}
    {opened : Opened} (hdata : (plain ++ rest).drop format.encryptedHeaderSize = data)
    (hsize : loadLittle (substr data (format.prefixSize - 4) 4) = size) :
    checkDecrypted crypto format x authKey info messageSize messageKey plain rest = .ok opened ↔
      (calcMessageKey2 crypto authKey x plain).2 = messageKey ∧ (info.checkMod4 → size % 4 = 0) ∧
        size + format.prefixSize + 12 ≤ data.length ∧ data.length ≤ size + format.prefixSize + 1024 ∧
          { head := (plain ++ rest).take format.encryptedHeaderSize
            data := data.take (size + format.prefixSize)
            messageAck := (calcMessageKey2 crypto authKey x plain).1 } = opened := by
  have hone : ¬ info.version = 1 := by omega
  simp only [checkDecrypted, hdata, hsize, if_pos hversion, hone, false_and, if_false]
  constructor
  · intro h
    split_ifs at h with hsmall hkey hmod hbig hpad
    rw [not_or, Nat.not_lt, Nat.not_lt] at hpad
    refine ⟨not_not.mp hkey, fun hcheck => ?_, by omega, by omega, Except.ok.inj h⟩
    by_contra hodd
    exact hmod ⟨hcheck, hodd⟩
  · rintro ⟨hkey, hmod, hleast, hmost, rfl⟩
    rw [if_neg (by omega), if_neg (not_not.mpr hkey), if_neg (fun h => h.2 (hmod h.1)), if_neg (by omega),
      if_neg (by omega)]

lemma readCryptoImpl_front {message : Bytes} {opened : Opened}
    (h : readCryptoImpl crypto format x message authKey info = .ok opened) :
    format.headerSize ≤ message.length ∧ loadLittle (message.take 8) = authKey.id := by
  simp only [readCryptoImpl] at h
  split_ifs at h with hsmall hid
  exact ⟨Nat.le_of_not_lt hsmall, not_not.mp hid⟩

lemma substr_append {s : Bytes} {offset size : ℕ} (h : offset + size ≤ s.length) (t : Bytes) :
    substr (s ++ t) offset size = substr s offset size := by
  rw [substr, substr, List.drop_append_of_le_length (by omega), List.take_append_of_le_length]
  rw [List.length_drop]
  omega

lemma Announced.le_length {data : Bytes} (h : Announced format data) : format.prefixSize ≤ data.length := by
  rw [← h]
  exact Nat.le_add_left _ _

/-- The length is read in the same way with something behind the data. -/
lemma Announced.load_append {data : Bytes} (h : Announced format data) (rest : Bytes) :
    loadLittle (substr (data ++ rest) (format.prefixSize - 4) 4) = data.length - format.prefixSize := by
  have hfour := format.four_le
  have hle := h.le_length
  rw [substr_append (by omega)]
  exact Nat.eq_sub_of_add_eq h

lemma length_calcMessageKey2 (hcrypto : crypto.Lawful) (plain : Bytes) :
    (calcMessageKey2 crypto authKey x plain).2.length = 16 := by
  simp only [calcMessageKey2, substr, List.length_take, List.length_drop, hcrypto.length_sha256]
  rfl

/-- What `plain` is sealed in, with its own hash. -/
def sealed2 (crypto : Crypto) (x : ℕ) (authKey : AuthKey) (plain : Bytes) : Bytes :=
  sealed crypto 2 x authKey (calcMessageKey2 crypto authKey x plain).2 plain

/-- The message is a packet of the second version that holds this, with up to 15 bytes behind it.  All that is read has
been hashed and encrypted; the bytes behind the packet only count as padding. -/
def Holds (crypto : Crypto) (format : Format) (x : ℕ) (authKey : AuthKey) (message : Bytes) (opened : Opened) : Prop :=
  ∃ pad rest, opened.head.length = format.encryptedHeaderSize ∧ Announced format opened.data ∧
    opened.data.length % 4 = 0 ∧ Blocks (opened.head ++ (opened.data ++ pad)) ∧ rest.length < 16 ∧
      12 ≤ pad.length + rest.length ∧ pad.length + rest.length ≤ 1024 ∧
        opened.messageAck = (calcMessageKey2 crypto authKey x (opened.head ++ (opened.data ++ pad))).1 ∧
          message = sealed2 crypto x authKey (opened.head ++ (opened.data ++ pad)) ++ rest

/-- Nothing else is read. -/
lemma holds_of_readCryptoImpl (hcrypto : crypto.Lawful) (hversion : info.version = 2) (hcheck : info.checkMod4 = true)
    {message : Bytes} {opened : Opened}
    (h : readCryptoImpl crypto format x message authKey info = .ok opened) :
    Holds crypto format x authKey message opened := by
  have haligned := format.aligned
  have hfour := format.four_le
  rcases readCryptoImpl_front h with ⟨hheader, hid⟩
  rw [Format.headerSize, rawSize] at hheader
  rcases exists_sealed hcrypto 2 x (by rw [rawSize]; omega) hid with
    ⟨messageKey, plain, rest, hkey, hblocks, hrest, rfl⟩
  rw [List.length_append, length_sealed hkey hblocks] at hheader
  rw [← hversion, readCryptoImpl_sealed hcrypto hkey hblocks hrest (by omega),
    checkDecrypted_ok_iff hversion rfl rfl] at h
  rcases h with ⟨rfl, hmod, hleast, hmost, rfl⟩
  generalize hsize : loadLittle (substr _ _ _) = size at hmod hleast hmost ⊢
  have hmod := hmod hcheck
  rw [List.length_drop, List.length_append] at hleast hmost
  rw [Blocks] at hblocks
  -- the data are aligned, so that they do not reach into the bytes that have not been hashed
  have hfit : format.encryptedHeaderSize + (size + format.prefixSize) ≤ plain.length := by omega
  have htail : (plain ++ rest).drop format.encryptedHeaderSize = plain.drop format.encryptedHeaderSize ++ rest :=
    List.drop_append_of_le_length (by omega)
  have hinside : size + format.prefixSize ≤ (plain.drop format.encryptedHeaderSize).length := by
    rw [List.length_drop]
    omega
  have hwhole : plain.take format.encryptedHeaderSize ++
      ((plain.drop format.encryptedHeaderSize).take (size + format.prefixSize) ++
        (plain.drop format.encryptedHeaderSize).drop (size + format.prefixSize)) = plain := by
    rw [List.take_append_drop, List.take_append_drop]
  rw [htail] at hsize
  rw [htail, List.take_append_of_le_length hinside, List.take_append_of_le_length (by omega)]
  have hlength := List.length_take_of_le hinside
  refine ⟨(plain.drop format.encryptedHeaderSize).drop (size + format.prefixSize), rest, ?_, ?_, ?_, ?_, hrest, ?_, ?_,
    ?_, ?_⟩
  · exact List.length_take_of_le (by omega)
  · have hannounced := @substr_append ((plain.drop format.encryptedHeaderSize).take (size + format.prefixSize))
      (format.prefixSize - 4) 4 (by omega)
      ((plain.drop format.encryptedHeaderSize).drop (size + format.prefixSize) ++ rest)
    rw [← List.append_assoc, List.take_append_drop] at hannounced
    rw [Announced, ← hannounced, hsize, hlength]
  · rw [hlength]
    omega
  · rw [hwhole]
    exact hblocks
  · rw [List.length_drop, List.length_drop]
    omega
  · rw [List.length_drop, List.length_drop]
    omega
  · rw [hwhole]
  · rw [hwhole]
    rfl

lemma readCryptoImpl_of_holds (hcrypto : crypto.Lawful) (hversion : info.version = 2) {message : Bytes}
    {opened : Opened} (h : Holds crypto format x authKey message opened) :
    readCryptoImpl crypto format x message authKey info = .ok opened := by
  have haligned := format.aligned
  rcases h with ⟨pad, rest, hhead, hdata, hmod, hblocks, hrest, hleast, hmost, hack, rfl⟩
  have hannounces := hdata.le_length
  have htail : (opened.head ++ (opened.data ++ pad) ++ rest).drop format.encryptedHeaderSize =
      opened.data ++ (pad ++ rest) := by
    rw [List.append_assoc, List.drop_left' hhead, List.append_assoc]
  have hsize := hdata.load_append (pad ++ rest)
  have hkey := @length_calcMessageKey2 crypto authKey x hcrypto (opened.head ++ (opened.data ++ pad))
  have henough : format.encryptedHeaderSize ≤ (opened.head ++ (opened.data ++ pad)).length + rest.length := by
    rw [List.length_append]
    omega
  rw [sealed2, ← hversion, readCryptoImpl_sealed hcrypto hkey hblocks hrest henough,
    checkDecrypted_ok_iff hversion htail hsize, Nat.sub_add_cancel hannounces]
  refine ⟨rfl, fun _ => by omega, ?_, ?_, ?_⟩
  · simp only [List.length_append]
    omega
  · simp only [List.length_append]
    omega
  · rw [List.append_assoc, List.take_left' hhead, List.take_left' rfl, ← hack]

/-- Hashes that only add bytes, and a cipher that adds its key. -/
def checksums : Crypto where
  sha1 s := List.replicate 20 (s.foldr (· + ·) 0)
  sha256 s := List.replicate 32 (s.foldr (· + ·) 0)
  aes := keyAdding

lemma checksums_lawful : checksums.Lawful where
  length_sha1 _ := List.length_replicate
  length_sha256 _ := List.length_replicate
  aes := keyAdding_lawful

def zeros : Entropy := { uint32 := 0, bytes := fun _ => 0 }

def keyOne : AuthKey := { id := 1, key := List.replicate 256 1, id_lt := by decide }

/-- Four bytes of data, with the number of the message and its own number before them. -/
def fourBytes : Bytes := storeLittle 8 3 ++ storeLittle 4 1 ++ storeLittle 4 4 ++ [9, 9, 9, 9]

/-- A packet is sealed with the hash of its version. -/
lemma writeCryptoImpl_eq (data head : Bytes) (paddedSize : ℕ) :
    writeCryptoImpl crypto entropy format x data authKey info head paddedSize =
      let plain := head ++ (data ++ entropy.secureBytes (paddedSize - (format.headerSize + data.length)))
      let hash := if info.version = 1 then calcMessageAckAndKey crypto (head ++ data)
        else calcMessageKey2 crypto authKey x plain
      (sealed crypto info.version x authKey hash.2 plain, hash.1) := by
  simp only [writeCryptoImpl, sealed, List.append_assoc]

/-- In the first version of the protocol, the length and the hash of the data are checked. -/
lemma checkDecrypted_one (hversion : info.version = 1) {head data pad : Bytes}
    (hhead : head.length = format.encryptedHeaderSize) (hdata : Announced format data) (hmod : data.length % 4 = 0)
    {messageSize : ℕ} (hsize : calcCryptoSize format data.length = messageSize) :
    checkDecrypted crypto format x authKey info messageSize (calcMessageAckAndKey crypto (head ++ data)).2
        (head ++ (data ++ pad)) [] =
      .ok { head, data, messageAck := (calcMessageAckAndKey crypto (head ++ data)).1 } := by
  have haligned := format.aligned
  have hannounces := hdata.le_length
  have htail : (head ++ (data ++ pad) ++ []).drop format.encryptedHeaderSize = data ++ pad := by
    rw [List.append_nil, List.drop_left' hhead]
  have hlength := hdata.load_append pad
  have hgood : ¬ (info.checkMod4 = true ∧ (data.length - format.prefixSize) % 4 ≠ 0 ∨
      calcCryptoSize format data.length ≠ messageSize) := by
    rw [not_or, not_and, not_not, not_not]
    exact ⟨fun _ => by omega, hsize⟩
  have hpart : (head ++ (data ++ pad) ++ []).take (format.encryptedHeaderSize + data.length) = head ++ data := by
    rw [List.append_nil, ← List.append_assoc, List.take_left' (by rw [List.length_append, hhead])]
  simp only [checkDecrypted, htail, hlength, hversion, Nat.sub_add_cancel hannounces, hgood, and_false, if_false,
    if_true, hpart, ne_eq, not_true_eq_false]
  rw [if_neg (by rw [List.length_append]; omega), if_neg (by decide), List.append_nil, List.take_left' hhead,
    List.take_left' rfl]

lemma calcCryptoSize_spec (format : Format) (dataSize : ℕ) :
    ∃ pad, calcCryptoSize format dataSize = format.headerSize + dataSize + pad ∧
      16 ∣ format.encryptedHeaderSize + dataSize + pad := by
  refine ⟨(format.encryptedHeaderSize + dataSize + 15) / 16 * 16 - (format.encryptedHeaderSize + dataSize), ?_,
    by omega⟩
  rw [calcCryptoSize, Format.headerSize]
  omega

/-- **What has been written is read**, in both versions of the protocol, and in the second one also with the padding of
a transport behind it. -/
lemma readCryptoImpl_writeCryptoImpl (hcrypto : crypto.Lawful) {info' : PacketInfo}
    (hversion : info.version = 1 ∨ info.version = 2) (hversion' : info'.version = info.version)
    {head data rest : Bytes} (hhead : head.length = format.encryptedHeaderSize) (hdata : Announced format data)
    (hmod : data.length % 4 = 0) (hrest : rest.length < 16) (hnothing : info.version = 1 → rest = []) :
    let r := writeCryptoImpl crypto entropy format x data authKey info head
      (paddedSize format entropy info data.length)
    readCryptoImpl crypto format x (r.1 ++ rest) authKey info' = .ok { head, data, messageAck := r.2 } := by
  rw [writeCryptoImpl_eq, paddedSize]
  rcases hversion with hone | htwo
  · rcases calcCryptoSize_spec format data.length with ⟨pad, hpad, hblocks⟩
    have hkey : (calcMessageAckAndKey crypto (head ++ data)).2.length = 16 := by
      simp only [calcMessageAckAndKey, substr, List.length_take, List.length_drop, hcrypto.length_sha1]
      rfl
    simp only [if_pos hone, hpad, Nat.add_sub_cancel_left, hnothing hone]
    have hplain : (head ++ (data ++ entropy.secureBytes pad)).length =
        format.encryptedHeaderSize + data.length + pad := by
      rw [List.length_append, List.length_append, length_secureBytes, hhead]
      omega
    have hwhole : Blocks (head ++ (data ++ entropy.secureBytes pad)) := by
      rw [Blocks, hplain]
      exact hblocks
    rw [← hversion', readCryptoImpl_sealed hcrypto hkey hwhole (by decide) (by rw [hplain]; omega), hplain,
      checkDecrypted_one (hversion'.trans hone) hhead hdata hmod]
    rw [hpad, Format.headerSize, rawSize, List.length_nil]
    omega
  · have hone : ¬ info.version = 1 := by omega
    rcases calcCryptoSize2_spec format entropy info data.length with ⟨pad, hpad, hleast, hmost, hblocks⟩
    simp only [if_neg hone, hpad, Nat.add_sub_cancel_left]
    refine readCryptoImpl_of_holds hcrypto (hversion'.trans htwo)
      ⟨entropy.secureBytes pad, rest, hhead, hdata, hmod, ?_, hrest, ?_, ?_, rfl, ?_⟩
    · rw [Blocks, List.length_append, List.length_append, length_secureBytes, hhead, ← Nat.add_assoc]
      exact hblocks
    · rw [length_secureBytes]
      omega
    · rw [length_secureBytes]
      omega
    · rw [htwo]
      rfl

/-! ## Sessions -/

/-- **What a session writes is opened by whoever reads with the same part of the key**: the salt and the session, the
data and the quick ack that the writer waits for. -/
theorem write_common_opened (hcrypto : crypto.Lawful) (entropy : Entropy) (authKey : AuthKey) {info info' : PacketInfo}
    (htype : info.type = .common) (hencrypted : info.noCryptoFlag = false)
    (hversion : info.version = 1 ∨ info.version = 2) (hversion' : info'.version = info.version) {data rest : Bytes}
    (hdata : Announced common data) (hmod : data.length % 4 = 0) (hrest : rest.length < 16)
    (hnothing : info.version = 1 → rest = []) :
    let r := write crypto entropy data authKey info
    readCryptoImpl crypto common 0 (r.1 ++ rest) authKey info' =
      .ok { head := storeLittle 8 info.salt ++ storeLittle 8 info.sessionId, data, messageAck := r.2.messageAck } := by
  have hhead : (storeLittle 8 info.salt ++ storeLittle 8 info.sessionId).length = common.encryptedHeaderSize := by
    rw [List.length_append, length_storeLittle, length_storeLittle]
    rfl
  have hcommon : ¬ info.type = .endToEnd := by
    rw [htype]
    decide
  have hplain : ¬ info.noCryptoFlag = true := by
    rw [hencrypted]
    decide
  have hread := @readCryptoImpl_writeCryptoImpl crypto entropy common authKey info 0 hcrypto info' hversion hversion'
    (storeLittle 8 info.salt ++ storeLittle 8 info.sessionId) data rest hhead hdata hmod hrest hnothing
  rw [write, if_neg hcommon, if_neg hplain]
  exact hread

theorem write_common_opened_four :
    (readCryptoImpl checksums common 0
      ((write checksums zeros fourBytes keyOne { version := 2, salt := 5, sessionId := 6 }).1 ++ [1, 2, 3]) keyOne
      { version := 2 }).map (fun opened => (opened.head, opened.data)) =
      .ok (storeLittle 8 5 ++ storeLittle 8 6, fourBytes) := by
  have hopened := @write_common_opened checksums checksums_lawful zeros keyOne
    { version := 2, salt := 5, sessionId := 6 } { version := 2 } rfl rfl (.inr rfl) rfl fourBytes [1, 2, 3] rfl rfl
    (by decide) (fun h => by cases h)
  rw [hopened]
  rfl

/-! ## Secret chats -/

/-- Which part of the key a party reads with. -/
def readPart (info : PacketInfo) : ℕ := if info.isCreator ∧ info.version ≠ 1 then 8 else 0

lemma map_eq_ok {α β : Type*} {r : Except Status α} {f : α → β} {b : β} :
    r.map f = .ok b ↔ ∃ a, r = .ok a ∧ f a = b := by
  cases r with
  | error status => simp [Except.map]
  | ok a => simp [Except.map]

/-- A message that is too short is no packet. -/
lemma readPacket_short {π : Type*} {decrypt : Bytes → Except Status π} {message : Bytes} {packet : π}
    (hshort : message.length < 16) : readPacket decrypt message ≠ .ok (.packet packet) := by
  unfold readPacket
  rw [if_pos hshort]
  rcases message with _ | ⟨a, _ | ⟨b, _ | ⟨c, _ | ⟨d, rest⟩⟩⟩⟩
  · simp
  · simp
  · simp
  · simp
  · rcases rest with _ | ⟨e, _ | ⟨f, _ | ⟨g, _ | ⟨h, rest⟩⟩⟩⟩ <;> simp only <;> split_ifs <;> simp

lemma readPacket_packet_iff {π : Type*} {decrypt : Bytes → Except Status π} {message : Bytes} {packet : π} :
    readPacket decrypt message = .ok (.packet packet) ↔ 16 ≤ message.length ∧ decrypt message = .ok packet := by
  by_cases hshort : message.length < 16
  · exact ⟨fun h => absurd h (readPacket_short hshort), fun h => absurd hshort (Nat.not_lt.mpr h.1)⟩
  · unfold readPacket
    rw [if_neg hshort, map_eq_ok]
    constructor
    · rintro ⟨packet', h, heq⟩
      cases heq
      exact ⟨Nat.le_of_not_lt hshort, h⟩
    · rintro ⟨-, h⟩
      exact ⟨packet, h, rfl⟩

/-- A packet of a secret chat is read. -/
lemma read_endToEnd_iff (htype : info.type = .endToEnd) {message data : Bytes} :
    (∃ info', read crypto message 0 authKey info = .ok (.packet (info', data))) ↔
      ∃ opened, readCryptoImpl crypto endToEnd (readPart info) message authKey info = .ok opened ∧
        opened.data = data := by
  constructor
  · rintro ⟨info', h⟩
    rw [read, if_neg (by decide), readPacket_packet_iff, readLong, if_pos htype, readE2eCrypto, map_eq_ok] at h
    rcases h with ⟨-, opened, hopened, heq⟩
    cases heq
    exact ⟨opened, hopened, rfl⟩
  · rintro ⟨opened, hopened, rfl⟩
    have hlength := (readCryptoImpl_front hopened).1
    refine ⟨
      { info with
        noCryptoFlag := loadLittle (message.take 8) = 0
        messageAck := opened.messageAck
        type := .endToEnd }, ?_⟩
    rw [read, if_neg (by decide), readPacket_packet_iff, readLong, if_pos htype, readE2eCrypto, map_eq_ok]
    refine ⟨?_, opened, hopened, rfl⟩
    rw [Format.headerSize, rawSize] at hlength
    omega

/-- **What one party of a secret chat writes, the other reads.** -/
lemma read_write_endToEnd (hcrypto : crypto.Lawful) (entropy : Entropy) (authKey : AuthKey) {info info' : PacketInfo}
    (htype : info.type = .endToEnd) (hversion : info.version = 1 ∨ info.version = 2) (htype' : info'.type = .endToEnd)
    (hversion' : info'.version = info.version) (hother : info'.isCreator = !info.isCreator) {data rest : Bytes}
    (hdata : Announced endToEnd data) (hmod : data.length % 4 = 0) (hrest : rest.length < 16)
    (hnothing : info.version = 1 → rest = []) :
    ∃ info'', read crypto ((write crypto entropy data authKey info).1 ++ rest) 0 authKey info' =
      .ok (.packet (info'', data)) := by
  have hpart : readPart info' = if info.isCreator ∨ info.version = 1 then 0 else 8 := by
    rw [readPart, hversion', hother]
    cases info.isCreator <;> rcases hversion with h | h <;> simp [h]
  have hhead : ([] : Bytes).length = endToEnd.encryptedHeaderSize := rfl
  have hread := @readCryptoImpl_writeCryptoImpl crypto entropy endToEnd authKey info (readPart info') hcrypto info'
    hversion hversion' [] data rest hhead hdata hmod hrest hnothing
  have hwrite : (write crypto entropy data authKey info).1 =
      (writeCryptoImpl crypto entropy endToEnd (readPart info') data authKey info []
        (paddedSize endToEnd entropy info data.length)).1 := by
    rw [write, if_pos htype, hpart]
    rfl
  rw [read_endToEnd_iff htype', hwrite]
  exact ⟨_, hread, rfl⟩

end

end Transport

end RioGram
