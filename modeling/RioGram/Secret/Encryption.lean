import RioGram.Transport.Packets

/-!
# Encrypted messages of a secret chat

How `SecretChatActor` encrypts a message and decrypts one.  The creator of a chat has `x` = 0 and the other party 1, so
that each reads with the part of the key that the other has written with.  A message is decrypted with the first key
that has its number, in the second version of the protocol or else in the first.

* `decrypt_createEncryptedMessage`: what one party encrypts, the other decrypts.
* `decrypt_two_iff`: what is decrypted in the second version is what has been sealed for this party with a key of its
  own.
-/

namespace RioGram

open Wire Transport

namespace SecretChatActor

/-- `SecretImpl`: the length of a message, and the message. -/
def store (message : Bytes) : Bytes := storeLittle 4 message.length ++ message

/-- What is known of a packet of the chat before it is read or written. -/
def packetInfo (version x : ℕ) : PacketInfo := { type := .endToEnd, version, isCreator := x = 0 }

/-- `create_encrypted_message`, for a message that has been stored with its layer and its sequence numbers. -/
def createEncryptedMessage (crypto : Crypto) (entropy : Entropy) (authKey : AuthKey) (x : ℕ) (message : Bytes) :
    Bytes :=
  (write crypto entropy (store message) authKey (packetInfo 2 x)).1

/-- The keys of `PfsState`. -/
structure PfsState where
  authKey : AuthKey
  otherAuthKey : AuthKey

/-- `Transport::read_auth_key_id`. -/
def readAuthKeyId (message : Bytes) : Except Status ℕ :=
  if message.length < 8 then
    .error { message :=
      "Invalid MTProto message: smaller than 8 bytes [size = " ++ toString message.length ++ "]" }
  else .ok (loadLittle (message.take 8))

/-- The versions are tried one after another, up to the first that works; the error is that of the last one. -/
def readVersions {α : Type*} (read : ℕ → Except Status α) (version : ℕ) : List ℕ → Except Status (α × ℕ)
  | [] => (read version).map (·, version)
  | next :: versions =>
      match read version with
      | .ok result => .ok (result, version)
      | .error _ => readVersions read next versions

/-- The key that has this number. -/
def PfsState.find (pfs : PfsState) (authKeyId : ℕ) : Option AuthKey :=
  if authKeyId = pfs.authKey.id then some pfs.authKey
  else if authKeyId = pfs.otherAuthKey.id then some pfs.otherAuthKey
  else none

/-- `decrypt`: the number of the key, the message and the version. -/
def decrypt (crypto : Crypto) (crc64 : Bytes → ℕ) (pfs : PfsState) (x : ℕ) (encryptedMessage : Bytes) :
    Except Status (ℕ × Bytes × ℕ) :=
  match readAuthKeyId encryptedMessage with
  | .error status => .error status
  | .ok authKeyId =>
      match pfs.find authKeyId with
      | none =>
          .error
            { code := 1
              message :=
                "Unknown [auth_key_id:" ++ asHex authKeyId ++ "]" ++ tag "crc" (crc64 encryptedMessage) }
      | some authKey =>
          match readVersions (fun version => read crypto encryptedMessage 0 authKey (packetInfo version x)) 2 [1] with
          | .error status => .error status
          | .ok (.quickAck _, _) => .error { message := "Receive quickack instead of a message" }
          | .ok (.error code, _) =>
              .error { message := "Receive MTProto error code instead of a message: " ++ toString code }
          | .ok (.nop, _) => .error { message := "Receive nop instead of a message" }
          | .ok (.packet (_, data), version) =>
              .ok (authKeyId, substr data 4 (loadLittle (data.take 4)), version)

/-! ## Messages -/

lemma length_store (message : Bytes) : (store message).length = message.length + 4 := by
  rw [store, List.length_append, length_storeLittle]
  omega

lemma announced_store {message : Bytes} (h : message.length < 2 ^ 32) : Announced endToEnd (store message) := by
  have hlength : substr (store message) (endToEnd.prefixSize - 4) 4 = storeLittle 4 message.length :=
    List.take_left' (length_storeLittle 4 _)
  rw [Announced, hlength, loadLittle_storeLittle (by simpa using h), length_store]
  rfl

/-- What `decrypt` takes of the data. -/
lemma substr_store {message : Bytes} (h : message.length < 2 ^ 32) :
    substr (store message) 4 (loadLittle ((store message).take 4)) = message := by
  rw [store, List.take_left' (length_storeLittle 4 _), loadLittle_storeLittle (by simpa using h), substr,
    List.drop_left' (length_storeLittle 4 _), List.take_length]

/-- Data that say how long they are are a message with its length. -/
lemma store_substr {data : Bytes} (h : Announced endToEnd data) :
    store (substr data 4 (loadLittle (data.take 4))) = data := by
  have hannounced : loadLittle (data.take 4) + 4 = data.length := h
  have hrest : substr data 4 (loadLittle (data.take 4)) = data.drop 4 := by
    rw [substr, List.take_of_length_le]
    rw [List.length_drop]
    omega
  have hfour : (data.take 4).length = 4 := List.length_take_of_le (by omega)
  have hlength : (data.drop 4).length = loadLittle (data.take 4) := by
    rw [List.length_drop]
    omega
  have hstore := storeLittle_loadLittle (data.take 4)
  rw [hfour] at hstore
  rw [hrest, store, hlength, hstore, List.take_append_drop]

lemma length_lt_of_announced {message : Bytes} (h : Announced endToEnd (store message)) : message.length < 2 ^ 32 := by
  have hannounced : loadLittle (substr (store message) 0 4) + 4 = (store message).length := h
  have hlt := loadLittle_lt (substr (store message) 0 4)
  have hfour : (substr (store message) 0 4).length = 4 := List.length_take_of_le (by
    rw [List.drop_zero, length_store]
    omega)
  rw [hfour] at hlt
  rw [length_store] at hannounced
  omega

section

variable {crypto : Crypto} {pfs : PfsState} {x : ℕ}

lemma find_id {authKeyId : ℕ} {authKey : AuthKey} (h : pfs.find authKeyId = some authKey) : authKey.id = authKeyId := by
  rw [PfsState.find] at h
  split_ifs at h with hfirst hother
  · cases h
    exact hfirst.symm
  · cases h
    exact hother.symm

/-- The second version is tried first, and only it gives a 2. -/
lemma readVersions_two_iff {α : Type*} {read : ℕ → Except Status α} {result : α} :
    readVersions read 2 [1] = .ok (result, 2) ↔ read 2 = .ok result := by
  rw [readVersions]
  cases h : read 2 with
  | ok result' => simp
  | error status =>
      simp only [readVersions, reduceCtorEq, iff_false]
      cases read 1 <;> simp [Except.map]

lemma readPart_packetInfo : readPart (packetInfo 2 x) = if x = 0 then 8 else 0 := by
  simp [readPart, packetInfo]

/-- A packet that is read with a key has its number. -/
lemma readAuthKeyId_of_read {authKey : AuthKey} {info : PacketInfo} {part : ℕ} {message : Bytes} {opened : Opened}
    (h : readCryptoImpl crypto endToEnd part message authKey info = .ok opened) :
    readAuthKeyId message = .ok authKey.id := by
  rcases readCryptoImpl_front h with ⟨hlength, hid⟩
  rw [Format.headerSize, rawSize] at hlength
  rw [readAuthKeyId, if_neg (by omega), hid]

/-- A packet of the second version is decrypted with the key that has its number. -/
lemma decrypt_two_eq_ok_iff (crc64 : Bytes → ℕ) {authKeyId : ℕ} {encryptedMessage message : Bytes} :
    decrypt crypto crc64 pfs x encryptedMessage = .ok (authKeyId, message, 2) ↔
      readAuthKeyId encryptedMessage = .ok authKeyId ∧ ∃ authKey, pfs.find authKeyId = some authKey ∧
        ∃ info data, read crypto encryptedMessage 0 authKey (packetInfo 2 x) = .ok (.packet (info, data)) ∧
          substr data 4 (loadLittle (data.take 4)) = message := by
  rw [decrypt]
  constructor
  · intro h
    split at h
    · cases h
    · rename_i id hid
      split at h
      · cases h
      · rename_i authKey hfind
        split at h
        · cases h
        · cases h
        · cases h
        · cases h
        · rename_i info data version hread
          cases h
          exact ⟨hid, authKey, hfind, info, data, readVersions_two_iff.mp hread, rfl⟩
  · rintro ⟨hid, authKey, hfind, info, data, hread, rfl⟩
    have hversions := (@readVersions_two_iff _
      (fun version => read crypto encryptedMessage 0 authKey (packetInfo version x)) _).mpr hread
    simp only [hid, hfind, hversions]

/-- **What one party encrypts, the other decrypts**, if it has the key. -/
theorem decrypt_createEncryptedMessage (hcrypto : crypto.Lawful) (entropy : Entropy) (crc64 : Bytes → ℕ)
    {authKey : AuthKey} (hfind : pfs.find authKey.id = some authKey) {x' : ℕ} (hother : x' = 0 ↔ x ≠ 0)
    {message : Bytes} (hlength : message.length < 2 ^ 31) (hmod : message.length % 4 = 0) :
    decrypt crypto crc64 pfs x' (createEncryptedMessage crypto entropy authKey x message) =
      .ok (authKey.id, message, 2) := by
  have hlt : message.length < 2 ^ 32 := hlength.trans (by decide)
  have hcreator : (packetInfo 2 x').isCreator = !(packetInfo 2 x).isCreator := by
    simp [packetInfo, hother]
  have hstored : (store message).length % 4 = 0 := by
    rw [length_store]
    omega
  rcases @read_write_endToEnd crypto hcrypto entropy authKey (packetInfo 2 x) (packetInfo 2 x') rfl (.inr rfl) rfl rfl
    hcreator (store message) [] (announced_store hlt) hstored (by decide) (fun h => by cases h) with ⟨info, hread⟩
  rw [List.append_nil] at hread
  rcases (read_endToEnd_iff rfl).mp ⟨info, hread⟩ with ⟨opened, hopened, -⟩
  exact (decrypt_two_eq_ok_iff crc64).mpr
    ⟨readAuthKeyId_of_read hopened, authKey, hfind, info, _, hread, substr_store hlt⟩

end

theorem decrypt_createEncryptedMessage_four :
    decrypt checksums (fun _ => 0) ⟨keyOne, keyOne⟩ 1 (createEncryptedMessage checksums zeros keyOne 0 [1, 2, 3, 4]) =
      .ok (1, [1, 2, 3, 4], 2) :=
  @decrypt_createEncryptedMessage checksums ⟨keyOne, keyOne⟩ 0 checksums_lawful zeros (fun _ => 0) keyOne rfl 1
    (by decide) [1, 2, 3, 4] (by decide) rfl

end SecretChatActor

end RioGram
