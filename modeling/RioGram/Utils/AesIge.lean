import RioGram.Core.BlockChaining
import RioGram.Core.Wire

/-!
# AES in IGE mode

`AesIgeStateImpl` encrypts through the CBC mode that OpenSSL has: up to 31 blocks at a time are masked with each other,
encrypted in one call, and masked again.  It decrypts block by block.  The cipher itself is a parameter.

* `encrypt_eq`: what the masked blocks give is IGE, however long the text is.
* `aesIgeDecrypt_encrypt`, `aesIgeEncrypt_decrypt`: the two functions are inverse to each other, and leave the same
  `iv` behind.
* `aesIge_spec`: all of it for texts.
-/

namespace RioGram

open Wire BlockChaining

/-- Sixteen bytes. -/
abbrev AesBlock := Fin 16 → UInt8

instance : XorOp AesBlock := ⟨fun a b i => a i ^^^ b i⟩

lemma lawful_aesBlock : Maskable AesBlock where
  assoc _ _ _ := funext fun _ => UInt8.xor_assoc ..
  comm _ _ := funext fun _ => UInt8.xor_comm ..
  cancel a b := funext fun i => by
    show a i ^^^ b i ^^^ b i = a i
    rw [UInt8.xor_assoc, UInt8.xor_self, UInt8.xor_zero]

namespace AesBlock

/-- `load`. -/
def load (s : Bytes) : AesBlock := fun i => s.getD i 0

/-- `store`. -/
def store (block : AesBlock) : Bytes := List.ofFn block

@[simp] lemma length_store (block : AesBlock) : block.store.length = 16 := List.length_ofFn

lemma store_load {s : Bytes} (h : s.length = 16) : (load s).store = s := by
  refine List.ext_getElem? fun i => ?_
  rw [store, List.getElem?_ofFn]
  split_ifs with hi
  · rw [load, List.getD_eq_getElem?_getD, List.getElem?_eq_getElem (by omega), Option.getD_some]
  · rw [List.getElem?_eq_none (by omega)]

lemma load_store (block : AesBlock) (rest : Bytes) : load (block.store ++ rest) = block := by
  funext i
  have hi : i.val < block.store.length := by rw [length_store]; exact i.isLt
  rw [load, List.getD_eq_getElem?_getD, List.getElem?_append_left hi, store, List.getElem?_ofFn, dif_pos i.isLt]
  rfl

lemma load_append {s : Bytes} (h : 16 ≤ s.length) (t : Bytes) : load (s ++ t) = load s := by
  funext i
  rw [load, load, List.getD_eq_getElem?_getD, List.getD_eq_getElem?_getD,
    List.getElem?_append_left (Nat.lt_of_lt_of_le i.isLt h)]

/-- The blocks one after another. -/
def loadAll : ℕ → Bytes → List AesBlock
  | 0, _ => []
  | n + 1, s => load s :: loadAll n (s.drop 16)

def storeAll (blocks : List AesBlock) : Bytes := blocks.flatMap store

@[simp] lemma length_loadAll (n : ℕ) (s : Bytes) : (loadAll n s).length = n := by
  induction n generalizing s with
  | zero => rfl
  | succ n ih => rw [loadAll, List.length_cons, ih]

@[simp] lemma length_storeAll (blocks : List AesBlock) : (storeAll blocks).length = 16 * blocks.length := by
  induction blocks with
  | nil => rfl
  | cons block blocks ih =>
      rw [storeAll, List.flatMap_cons, List.length_append, length_store, ← storeAll, ih, List.length_cons]
      omega

lemma storeAll_loadAll {n : ℕ} {s : Bytes} (h : s.length = 16 * n) : storeAll (loadAll n s) = s := by
  induction n generalizing s with
  | zero =>
      rw [List.length_eq_zero_iff.mp h]
      rfl
  | succ n ih =>
      have hrest : (s.drop 16).length = 16 * n := by
        rw [List.length_drop]
        omega
      have hfirst : (s.take 16).length = 16 := by
        rw [List.length_take]
        omega
      have hload : load s = load (s.take 16) := by
        rw [← load_append (Nat.le_of_eq hfirst.symm) (s.drop 16), List.take_append_drop]
      rw [loadAll, storeAll, List.flatMap_cons, ← storeAll, ih hrest, hload, store_load hfirst, List.take_append_drop]

lemma loadAll_append {s : Bytes} {n m : ℕ} (h : s.length = 16 * n) (t : Bytes) :
    loadAll (n + m) (s ++ t) = loadAll n s ++ loadAll m t := by
  induction n generalizing s with
  | zero => rw [List.length_eq_zero_iff.mp h, Nat.zero_add, loadAll, List.nil_append, List.nil_append]
  | succ n ih =>
      have hrest : (s.drop 16).length = 16 * n := by
        rw [List.length_drop]
        omega
      rw [show n + 1 + m = n + m + 1 by omega, loadAll, loadAll, load_append (by omega),
        List.drop_append_of_le_length (by omega), ih hrest, List.cons_append]

lemma loadAll_storeAll (blocks : List AesBlock) : loadAll blocks.length (storeAll blocks) = blocks := by
  induction blocks with
  | nil => rfl
  | cons block blocks ih =>
      rw [List.length_cons, loadAll, storeAll, List.flatMap_cons, load_store, List.drop_left' (length_store block),
        ← storeAll, ih]

lemma storeAll_append (blocks blocks' : List AesBlock) :
    storeAll (blocks ++ blocks') = storeAll blocks ++ storeAll blocks' := List.flatMap_append

end AesBlock

/-- A block cipher with a key, both ways. -/
structure Aes where
  encrypt : Bytes → AesBlock → AesBlock
  decrypt : Bytes → AesBlock → AesBlock

/-- With one key, each way undoes the other. -/
structure Aes.Lawful (aes : Aes) : Prop where
  decrypt_encrypt : ∀ key block, aes.decrypt key (aes.encrypt key block) = block
  encrypt_decrypt : ∀ key block, aes.encrypt key (aes.decrypt key block) = block

/-- `AesIgeStateImpl`, without the key. -/
structure AesIgeState where
  encryptedIv : AesBlock
  plaintextIv : AesBlock

namespace AesIgeState

/-- `init`. -/
def init (iv : Bytes) : AesIgeState := { encryptedIv := .load iv, plaintextIv := .load (iv.drop 16) }

/-- `get_iv`. -/
def getIv (state : AesIgeState) : Bytes := state.encryptedIv.store ++ state.plaintextIv.store

/-- `BLOCK_COUNT`. -/
def blockCount : ℕ := 31

/-- A round of `encrypt`, for up to `BLOCK_COUNT` blocks. -/
def encryptSome (e : AesBlock → AesBlock) (state : AesIgeState) (data : List AesBlock) : List AesBlock × AesIgeState :=
  let masked := data.take 1 ++ List.zipWith (· ^^^ ·) (state.plaintextIv :: data) (data.drop 1)
  let out := List.zipWith (· ^^^ ·) (cbc e state.encryptedIv masked) (state.plaintextIv :: data)
  (out,
    { encryptedIv := out.getLastD state.encryptedIv
      plaintextIv := data.getLastD state.plaintextIv })

def encryptLoop (e : AesBlock → AesBlock) : (fuel : ℕ) → AesIgeState → List AesBlock → List AesBlock × AesIgeState
  | 0, state, _ => ([], state)
  | fuel + 1, state, data =>
      if data.length = 0 then ([], state)
      else
        let r := encryptSome e state (data.take blockCount)
        let r' := encryptLoop e fuel r.2 (data.drop blockCount)
        (r.1 ++ r'.1, r'.2)

/-- `encrypt`. -/
def encrypt (e : AesBlock → AesBlock) (state : AesIgeState) (data : List AesBlock) : List AesBlock × AesIgeState :=
  encryptLoop e data.length state data

/-- `decrypt`. -/
def decrypt (d : AesBlock → AesBlock) : AesIgeState → List AesBlock → List AesBlock × AesIgeState
  | state, [] => ([], state)
  | state, encrypted :: data =>
      let plain := d (state.plaintextIv ^^^ encrypted) ^^^ state.encryptedIv
      let r := decrypt d { encryptedIv := encrypted, plaintextIv := plain } data
      (plain :: r.1, r.2)

end AesIgeState

/-- `aes_ige_encrypt`: what is written to `to`, and to `aes_iv`. -/
def aesIgeEncrypt (aes : Aes) (key iv text : Bytes) : Bytes × Bytes :=
  let r := AesIgeState.encrypt (aes.encrypt key) (.init iv) (AesBlock.loadAll (text.length / 16) text)
  (AesBlock.storeAll r.1, r.2.getIv)

/-- `aes_ige_decrypt`. -/
def aesIgeDecrypt (aes : Aes) (key iv text : Bytes) : Bytes × Bytes :=
  let r := AesIgeState.decrypt (aes.decrypt key) (.init iv) (AesBlock.loadAll (text.length / 16) text)
  (AesBlock.storeAll r.1, r.2.getIv)

/-! ## Masked blocks -/

namespace AesIgeState

/-- The state after a text and what has been made of it. -/
def after (state : AesIgeState) (data out : List AesBlock) : AesIgeState :=
  { encryptedIv := out.getLastD state.encryptedIv
    plaintextIv := data.getLastD state.plaintextIv }

lemma after_append (state : AesIgeState) (data out data' out' : List AesBlock) :
    (state.after data out).after data' out' = state.after (data ++ data') (out ++ out') := by
  have hlast (a : AesBlock) (l l' : List AesBlock) : l'.getLastD (l.getLastD a) = (l ++ l').getLastD a := by
    cases l' using List.reverseRecOn with
    | nil => rw [List.append_nil]; rfl
    | append_singleton l' b => rw [List.getLastD_concat, ← List.append_assoc, List.getLastD_concat]
  simp only [after, hlast]

lemma encryptSome_eq (e : AesBlock → AesBlock) (state : AesIgeState) (data : List AesBlock) :
    encryptSome e state data =
      (ige e state.encryptedIv state.plaintextIv data,
        state.after data (ige e state.encryptedIv state.plaintextIv data)) := by
  simp only [encryptSome, cbc_masked lawful_aesBlock, after]

lemma encryptLoop_eq (e : AesBlock → AesBlock) {fuel : ℕ} (state : AesIgeState) {data : List AesBlock}
    (hfuel : data.length ≤ fuel) :
    encryptLoop e fuel state data =
      (ige e state.encryptedIv state.plaintextIv data,
        state.after data (ige e state.encryptedIv state.plaintextIv data)) := by
  induction fuel generalizing state data with
  | zero =>
      rw [List.length_eq_zero_iff.mp (Nat.le_zero.mp hfuel)]
      rfl
  | succ fuel ih =>
      rw [encryptLoop]
      split_ifs with hempty
      · rw [List.length_eq_zero_iff.mp hempty]
        rfl
      · have hrest : (data.drop blockCount).length ≤ fuel := by
          rw [List.length_drop, blockCount]
          omega
        simp only [encryptSome_eq, ih _ hrest, after_append]
        have happend := @ige_append _ _ e state.encryptedIv state.plaintextIv (data.take blockCount)
          (data.drop blockCount)
        rw [List.take_append_drop] at happend
        rw [List.take_append_drop, happend]
        rfl

/-- **What the masked blocks give is IGE**, however many rounds it takes. -/
lemma encrypt_eq (e : AesBlock → AesBlock) (state : AesIgeState) (data : List AesBlock) :
    encrypt e state data =
      (ige e state.encryptedIv state.plaintextIv data,
        state.after data (ige e state.encryptedIv state.plaintextIv data)) :=
  encryptLoop_eq e state le_rfl

lemma decrypt_eq (d : AesBlock → AesBlock) (state : AesIgeState) (data : List AesBlock) :
    decrypt d state data =
      (igeInverse d state.encryptedIv state.plaintextIv data,
        state.after (igeInverse d state.encryptedIv state.plaintextIv data) data) := by
  induction data generalizing state with
  | nil => rfl
  | cons encrypted data ih =>
      rw [decrypt, ih, igeInverse, lawful_aesBlock.comm encrypted]
      simp only [after, List.getLastD_cons]

end AesIgeState

lemma AesIgeState.init_getIv (state : AesIgeState) : .init state.getIv = state := by
  have hrest := AesBlock.load_store state.plaintextIv []
  rw [List.append_nil] at hrest
  rw [init, getIv, AesBlock.load_store, List.drop_left' (AesBlock.length_store _), hrest]

/-! ## Texts -/

/-- The texts that IGE is for: `encrypt` and `decrypt` check that they are whole blocks. -/
def Blocks (text : Bytes) : Prop := 16 ∣ text.length

section

variable (aes : Aes) (key iv : Bytes) {text : Bytes}

/-- **IGE, as it is defined**: each block is added to the encrypted block before it, encrypted, and added to the plain
block before it; `iv` stands for the blocks before the first. -/
lemma aesIgeEncrypt_eq (text : Bytes) :
    (aesIgeEncrypt aes key iv text).1 =
      AesBlock.storeAll
        (ige (aes.encrypt key) (.load iv) (.load (iv.drop 16)) (AesBlock.loadAll (text.length / 16) text)) := by
  rw [aesIgeEncrypt, AesIgeState.encrypt_eq]
  rfl

@[simp] lemma length_aesIgeEncrypt (htext : Blocks text) : (aesIgeEncrypt aes key iv text).1.length = text.length := by
  rw [aesIgeEncrypt_eq, AesBlock.length_storeAll, length_ige, AesBlock.length_loadAll, Nat.mul_div_cancel' htext]

lemma aesIgeDecrypt_eq (text : Bytes) :
    (aesIgeDecrypt aes key iv text).1 =
      AesBlock.storeAll
        (igeInverse (aes.decrypt key) (.load iv) (.load (iv.drop 16)) (AesBlock.loadAll (text.length / 16) text)) := by
  rw [aesIgeDecrypt, AesIgeState.decrypt_eq]
  rfl

@[simp] lemma length_aesIgeDecrypt (htext : Blocks text) : (aesIgeDecrypt aes key iv text).1.length = text.length := by
  rw [aesIgeDecrypt_eq, AesBlock.length_storeAll, length_igeInverse, AesBlock.length_loadAll,
    Nat.mul_div_cancel' htext]

/-- **A text may be encrypted in pieces** of whole blocks, each with the `iv` that the last one has left. -/
lemma aesIgeEncrypt_append {text' : Bytes} (htext : Blocks text) (htext' : Blocks text') :
    aesIgeEncrypt aes key iv (text ++ text') =
      ((aesIgeEncrypt aes key iv text).1 ++ (aesIgeEncrypt aes key (aesIgeEncrypt aes key iv text).2 text').1,
        (aesIgeEncrypt aes key (aesIgeEncrypt aes key iv text).2 text').2) := by
  have hload : AesBlock.loadAll ((text ++ text').length / 16) (text ++ text') =
      AesBlock.loadAll (text.length / 16) text ++ AesBlock.loadAll (text'.length / 16) text' := by
    rcases htext with ⟨n, hn⟩
    rcases htext' with ⟨m, hm⟩
    rw [List.length_append, hn, hm, ← Nat.mul_add, Nat.mul_div_cancel_left _ (by decide : 0 < 16),
      Nat.mul_div_cancel_left _ (by decide : 0 < 16), Nat.mul_div_cancel_left _ (by decide : 0 < 16),
      AesBlock.loadAll_append hn]
  simp only [aesIgeEncrypt, AesIgeState.encrypt_eq, hload, AesIgeState.init_getIv, ige_append, AesBlock.storeAll_append,
    ← AesIgeState.after_append]
  rfl

variable {aes}

/-- **What has been encrypted is decrypted**, and the same `iv` is left. -/
lemma aesIgeDecrypt_encrypt (h : aes.Lawful) (htext : Blocks text) :
    aesIgeDecrypt aes key iv (aesIgeEncrypt aes key iv text).1 = (text, (aesIgeEncrypt aes key iv text).2) := by
  have hwhole := Nat.mul_div_cancel' htext
  simp only [aesIgeDecrypt, aesIgeEncrypt, AesIgeState.encrypt_eq, AesIgeState.decrypt_eq]
  rw [AesBlock.length_storeAll, Nat.mul_div_cancel_left _ (by decide : 0 < 16), AesBlock.loadAll_storeAll,
    igeInverse_ige lawful_aesBlock (h.decrypt_encrypt key), AesBlock.storeAll_loadAll hwhole.symm]

/-- Every text of whole blocks has been made of some text. -/
lemma aesIgeEncrypt_decrypt (h : aes.Lawful) (htext : Blocks text) :
    aesIgeEncrypt aes key iv (aesIgeDecrypt aes key iv text).1 = (text, (aesIgeDecrypt aes key iv text).2) := by
  have hwhole := Nat.mul_div_cancel' htext
  simp only [aesIgeDecrypt, aesIgeEncrypt, AesIgeState.encrypt_eq, AesIgeState.decrypt_eq]
  rw [AesBlock.length_storeAll, Nat.mul_div_cancel_left _ (by decide : 0 < 16), AesBlock.loadAll_storeAll,
    ige_igeInverse lawful_aesBlock (h.encrypt_decrypt key), AesBlock.storeAll_loadAll hwhole.symm]

end

/-- **What `aes_ige_encrypt` gives is IGE**, however long the text is: `aes_ige_decrypt` reads it, leaving the same
`iv`, and a text may be encrypted in pieces of whole blocks. -/
theorem aesIge_spec {aes : Aes} (h : aes.Lawful) (key iv : Bytes) {text : Bytes} (htext : Blocks text) {text' : Bytes}
    (htext' : Blocks text') :
    (aesIgeEncrypt aes key iv text).1 =
        AesBlock.storeAll
          (ige (aes.encrypt key) (.load iv) (.load (iv.drop 16)) (AesBlock.loadAll (text.length / 16) text)) ∧
      aesIgeDecrypt aes key iv (aesIgeEncrypt aes key iv text).1 = (text, (aesIgeEncrypt aes key iv text).2) ∧
      aesIgeEncrypt aes key iv (text ++ text') =
        ((aesIgeEncrypt aes key iv text).1 ++ (aesIgeEncrypt aes key (aesIgeEncrypt aes key iv text).2 text').1,
          (aesIgeEncrypt aes key (aesIgeEncrypt aes key iv text).2 text').2) :=
  ⟨aesIgeEncrypt_eq aes key iv text, aesIgeDecrypt_encrypt key iv h htext, aesIgeEncrypt_append aes key iv htext htext'⟩

/-- A cipher that adds its key. -/
def keyAdding : Aes where
  encrypt key block i := block i + key.getD i 0
  decrypt key block i := block i - key.getD i 0

lemma keyAdding_lawful : keyAdding.Lawful where
  decrypt_encrypt _ _ := funext fun _ => by simp [keyAdding]
  encrypt_decrypt _ _ := funext fun _ => by simp [keyAdding]

theorem aesIge_spec_two :
    (aesIgeEncrypt keyAdding [1, 2] [3] (List.replicate 32 7)).1 =
        AesBlock.storeAll
          (ige (keyAdding.encrypt [1, 2]) (.load [3]) (.load []) (AesBlock.loadAll 2 (List.replicate 32 7))) ∧
      aesIgeDecrypt keyAdding [1, 2] [3] (aesIgeEncrypt keyAdding [1, 2] [3] (List.replicate 32 7)).1 =
        (List.replicate 32 7, (aesIgeEncrypt keyAdding [1, 2] [3] (List.replicate 32 7)).2) :=
  have hspec := @aesIge_spec keyAdding keyAdding_lawful [1, 2] [3] (List.replicate 32 7) ⟨2, rfl⟩ [] ⟨0, rfl⟩
  ⟨hspec.1, hspec.2.1⟩

end RioGram
