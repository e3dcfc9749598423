import RioGram.Core.PrefixFree
import RioGram.Secret.Manager
import RioGram.Utils.Base64

/-!
# Pictures of keys

The users of a secret chat compare pictures of the hash of their key.  `parseSecretChat` makes them from the first
sixteen characters of its text, and takes of each only the three lowest bits of the code.

* `ComparesKeys` — the pictures of two hashes are the same exactly if the hashes are.
* `comparesKeys_iff` says for which hashes it is so, and `other_key_same_pictures` has hashes for which it is not.
-/

namespace RioGram.Secret

open Js Wire

/-! ## Parsing -/

/-- `secretChat` of TDLib; of `key_hash` there is only what is a text. -/
structure SecretChat where
  id : Option ℤ := none
  userId : Option ℤ := none
  stateType : Option Str := none
  isOutbound : Option Bool := none
  keyHash : Option Str := none
  layer : Option ℤ := none

namespace SecretChatJson

/-- The pictures, in UTF-16. -/
def emojis : List Str :=
  [[0xD83D, 0xDD11], [0xD83D, 0xDDDD, 0xFE0F], [0xD83D, 0xDD10], [0xD83D, 0xDEE1, 0xFE0F], [0x2728], [0x2B50],
    [0xD83C, 0xDF1F], [0xD83D, 0xDCAB]]

def emoji (i : Fin 8) : Str := emojis.getD i.val []

def bytesToEmojiKey : Option Str → Str
  | none => []
  | some value =>
      if value = [] then []
      else (value.take 16).flatMap fun byte => emojis.getD (byte.toNat % emojis.length) []

def parseState (stateType : Option Str) : SecretChatStateKind :=
  if stateType = some (ascii "secretChatStatePending") then .pending
  else if stateType = some (ascii "secretChatStateReady") then .ready
  else if stateType = some (ascii "secretChatStateClosed") then .closed
  else .unknown

def parseSecretChat (json : SecretChat) : SecretChatSummary where
  id := json.id.getD 0
  userId := json.userId.getD 0
  state := parseState json.stateType
  isOutbound := json.isOutbound.getD false
  keyHash := bytesToEmojiKey json.keyHash
  layer := json.layer.getD 0

end SecretChatJson

open SecretChatJson

/-! ## Hashes -/

/-- The hash of a key. -/
structure KeyHash where
  bytes : Bytes
  length_eq : bytes.length = 36
deriving DecidableEq

/-- The text that TDLib delivers. -/
def KeyHash.text (hash : KeyHash) : Str := (base64Encode hash.bytes).map UInt8.toUInt16

/-- The pictures that two devices show are the same exactly if their hashes are, whatever else they have of the
chat. -/
def ComparesKeys (a b : KeyHash) : Prop :=
  ∀ mine theirs : SecretChat, mine.keyHash = some a.text → theirs.keyHash = some b.text →
    ((parseSecretChat mine).keyHash = (parseSecretChat theirs).keyHash ↔ a = b)

/-- The six-bit numbers of whole groups of three bytes. -/
def sextets : Bytes → List ℕ
  | a :: b :: c :: s =>
      a.toNat / 4 :: (a.toNat % 4 * 16 + b.toNat / 16) :: (b.toNat % 16 * 4 + c.toNat / 64) :: c.toNat % 64 :: sextets s
  | _ => []

/-- Which picture a six-bit number has: capital letters begin with the second one, small ones with the second one
too, digits with the first, and `+` and `/` have the fourth and the last. -/
def pictureOf (n : ℕ) : Fin 8 :=
  Fin.ofNat 8 (if n < 26 then n + 1 else if n < 52 then n - 26 + 1 else if n < 62 then n - 52
    else if n = 62 then 3 else 7)

/-- The pictures of a hash are those of its first twelve bytes. -/
def KeyHash.pictures (hash : KeyHash) : List (Fin 8) := (sextets (hash.bytes.take 12)).map pictureOf

/-! ## What is shown -/

/-- The picture of a character of base64. -/
lemma pictureOf_character {n : ℕ} (h : n < 64) :
    (base64Character false n).toUInt16.toNat % emojis.length = pictureOf n := by
  have hall : ∀ n < 64, (base64Character false n).toUInt16.toNat % emojis.length = pictureOf n := by decide
  exact hall n h

lemma prefixFree_emoji : PrefixFree emoji where
  ne_nil := by decide
  eq_of_prefix := by decide

lemma lt_of_mem_sextets {bytes : Bytes} {n : ℕ} (h : n ∈ sextets bytes) : n < 64 := by
  induction bytes using sextets.induct with
  | case1 a b c s ih =>
      have ha := a.toNat_lt
      have hb := b.toNat_lt
      have hc := c.toNat_lt
      simp only [sextets, List.mem_cons] at h
      rcases h with rfl | rfl | rfl | rfl | h
      · omega
      · omega
      · omega
      · omega
      · exact ih h
  | case2 bytes hshort =>
      rw [sextets] at h
      · cases h
      · exact hshort

/-- Whole groups of three bytes are written without padding. -/
lemma base64Encode_of_dvd {bytes : Bytes} (h : bytes.length % 3 = 0) :
    base64Encode bytes = (sextets bytes).map (base64Character false) := by
  induction bytes using base64Encode.induct with
  | case1 a b c s ih =>
      have hs : s.length % 3 = 0 := by
        simp only [List.length_cons] at h
        omega
      rw [base64Encode, sextets, ih hs]
      rfl
  | case2 a b => cases h
  | case3 a => cases h
  | case4 => rfl

/-- Four six-bit numbers come from three bytes. -/
lemma take_sextets (bytes : Bytes) (n : ℕ) : (sextets bytes).take (4 * n) = sextets (bytes.take (3 * n)) := by
  induction bytes using sextets.induct generalizing n with
  | case1 a b c s ih =>
      cases n with
      | zero => rfl
      | succ n =>
          rw [Nat.mul_succ, Nat.mul_succ, sextets, List.take_succ_cons, List.take_succ_cons, List.take_succ_cons,
            List.take_succ_cons, List.take_succ_cons, List.take_succ_cons, List.take_succ_cons, sextets, ih n]
  | case2 bytes hshort =>
      have htake : ∀ a b c s, bytes.take (3 * n) = a :: b :: c :: s → False := fun a b c s h =>
        hshort a b c (s ++ bytes.drop (3 * n)) ((List.take_append_drop (3 * n) bytes).symm.trans (by rw [h]; rfl))
      rw [sextets, sextets, List.take_nil]
      · exact htake
      · exact hshort

/-- The text of a hash begins with the characters of its first twelve bytes. -/
lemma take_text (hash : KeyHash) :
    hash.text.take 16 = (sextets (hash.bytes.take 12)).map fun n => (base64Character false n).toUInt16 := by
  have hlength : hash.bytes.length % 3 = 0 := by rw [hash.length_eq]
  rw [KeyHash.text, base64Encode_of_dvd hlength, List.map_map, ← List.map_take, take_sextets hash.bytes 4]
  rfl

lemma bytesToEmojiKey_text (hash : KeyHash) :
    bytesToEmojiKey (some hash.text) = hash.pictures.flatMap emoji := by
  have hkey (value : Str) : bytesToEmojiKey (some value) =
      (value.take 16).flatMap fun byte => emojis.getD (byte.toNat % emojis.length) [] := by
    rw [bytesToEmojiKey]
    split_ifs with hempty
    · rw [hempty]
      rfl
    · rfl
  rw [hkey, take_text, KeyHash.pictures, List.flatMap_map, List.flatMap_map]
  refine List.flatMap_congr fun n hn => ?_
  rw [pictureOf_character (lt_of_mem_sextets hn), emoji]

/-- Devices show the same pictures exactly if the first twelve bytes have the same. -/
lemma keyHash_eq_iff {a b : KeyHash} {mine theirs : SecretChat} (hmine : mine.keyHash = some a.text)
    (htheirs : theirs.keyHash = some b.text) :
    (parseSecretChat mine).keyHash = (parseSecretChat theirs).keyHash ↔ a.pictures = b.pictures := by
  rw [parseSecretChat, parseSecretChat, hmine, htheirs, bytesToEmojiKey_text, bytesToEmojiKey_text]
  exact prefixFree_emoji.flatMap_injective.eq_iff

/-- **When pictures compare keys**: the hashes are the same, or their first twelve bytes have other pictures. -/
theorem comparesKeys_iff (a b : KeyHash) : ComparesKeys a b ↔ a = b ∨ a.pictures ≠ b.pictures := by
  constructor
  · intro h
    have hcompares := h { keyHash := some a.text } { keyHash := some b.text } rfl rfl
    rw [keyHash_eq_iff rfl rfl] at hcompares
    by_cases hpictures : a.pictures = b.pictures
    · exact .inl (hcompares.mp hpictures)
    · exact .inr hpictures
  · intro h mine theirs hmine htheirs
    rw [keyHash_eq_iff hmine htheirs]
    rcases h with rfl | hpictures
    · exact iff_of_true rfl rfl
    · refine iff_of_false hpictures ?_
      rintro rfl
      exact hpictures rfl

/-- The hash with one number first and one last. -/
def hashOf (first last : UInt8) : KeyHash where
  bytes := first :: (List.replicate 34 0 ++ [last])
  length_eq := rfl

/-- Hashes that differ in the last byte, or in a bit of the first one, have the same pictures. -/
theorem other_key_same_pictures :
    (parseSecretChat { keyHash := some (hashOf 0 0).text }).keyHash =
        (parseSecretChat { keyHash := some (hashOf 0 1).text }).keyHash ∧
      (parseSecretChat { keyHash := some (hashOf 0 0).text }).keyHash =
        (parseSecretChat { keyHash := some (hashOf 32 0).text }).keyHash ∧
      ¬ComparesKeys (hashOf 0 0) (hashOf 0 1) ∧ ¬ComparesKeys (hashOf 0 0) (hashOf 32 0) := by
  have hlast : (parseSecretChat { keyHash := some (hashOf 0 0).text }).keyHash =
      (parseSecretChat { keyHash := some (hashOf 0 1).text }).keyHash := by decide +kernel
  have hfirst : (parseSecretChat { keyHash := some (hashOf 0 0).text }).keyHash =
      (parseSecretChat { keyHash := some (hashOf 32 0).text }).keyHash := by decide +kernel
  refine ⟨hlast, hfirst, fun h => ?_, fun h => ?_⟩
  · exact absurd ((h _ _ rfl rfl).mp hlast) (by decide)
  · exact absurd ((h _ _ rfl rfl).mp hfirst) (by decide)

end RioGram.Secret
