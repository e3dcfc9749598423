import RioGram.Tls.Hello

/-!
# The two interpreters of the op language

`TlsHelloCalcLength` walks the ops to find how long the hello will be; `TlsHelloStore` walks them
again and writes into a buffer of that length, patching the length of a scope once the scope is
closed.  They are separate programs with separate formulas, and nothing in the source makes them
agree: a `CHECK` fails at run time if they do not.

A failed `CHECK`, and a write past the end of the buffer, is `none` here.
-/

namespace RioGram

open Wire DpiBypass

/-! ## The context -/

/-- `Grease::init` on the drawn bytes: every byte becomes `0x?A`, and of each pair the second is
changed if it equals the first. -/
def greaseInit (drawn : Bytes) : Bytes :=
  go (drawn.map fun c => (c &&& 0xf0) + 0x0a)
where
  go : Bytes → Bytes
    | a :: b :: s => a :: (if b = a then b ^^^ 0x10 else b) :: go s
    | s => s

/-- `TlsHelloContext`.  The grease bytes are those `Grease::init` produces, so their low half is
always `0xA`. -/
structure TlsHelloContext where
  grease : Bytes
  domain : Bytes
  grease_low : ∀ b ∈ grease, b.toNat % 16 = 10

namespace TlsHelloContext

/-- `get_grease`. -/
def getGrease (ctx : TlsHelloContext) (i : ℕ) : Option UInt8 := ctx.grease[i]?

/-- `get_domain`: at most `MAX_DOMAIN_LENGTH` bytes. -/
def getDomain (ctx : TlsHelloContext) : Bytes := ctx.domain.take ProxySecret.maxDomainLength

lemma getDomain_length_le (ctx : TlsHelloContext) : ctx.getDomain.length ≤ 182 := by
  simp only [getDomain, List.length_take, ProxySecret.maxDomainLength]
  exact Nat.min_le_left _ _

end TlsHelloContext

lemma greaseByte_low (c : UInt8) : ((c &&& 0xf0) + 0x0a).toNat % 16 = 10 := by
  have h : ∀ n : Fin 256, ((UInt8.ofNat n &&& 0xf0) + 0x0a).toNat % 16 = 10 := by decide +kernel
  simpa using h ⟨c.toNat, c.toNat_lt⟩

lemma greaseFlip_low {b : UInt8} (hb : b.toNat % 16 = 10) : (b ^^^ 0x10).toNat % 16 = 10 := by
  have h : ∀ n : Fin 256, (UInt8.ofNat n).toNat % 16 = 10 →
      (UInt8.ofNat n ^^^ 0x10).toNat % 16 = 10 := by decide +kernel
  simpa using h ⟨b.toNat, b.toNat_lt⟩ (by simpa using hb)

lemma length_greaseInit_go : ∀ s : Bytes, (greaseInit.go s).length = s.length
  | [] => rfl
  | [_] => rfl
  | _ :: _ :: s => by simp [greaseInit.go, length_greaseInit_go s]

lemma length_greaseInit (s : Bytes) : (greaseInit s).length = s.length := by
  rw [greaseInit, length_greaseInit_go, List.length_map]

lemma greaseInit_go_low : ∀ s : Bytes, (∀ b ∈ s, b.toNat % 16 = 10) →
    ∀ b ∈ greaseInit.go s, b.toNat % 16 = 10
  | [], h => h
  | [_], h => h
  | a :: b :: s, h => by
      intro c hc
      simp only [greaseInit.go, List.mem_cons] at hc
      rcases hc with rfl | rfl | hc
      · exact h c (by simp)
      · split_ifs
        · exact greaseFlip_low (h b (by simp))
        · exact h b (by simp)
      · exact greaseInit_go_low s (fun d hd => h d (by simp [hd])) c hc

lemma greaseInit_low (s : Bytes) : ∀ b ∈ greaseInit s, b.toNat % 16 = 10 := by
  refine greaseInit_go_low _ fun b hb => ?_
  obtain ⟨c, -, rfl⟩ := List.mem_map.mp hb
  exact greaseByte_low c

/-- The constructor of `TlsHelloContext`, which draws the grease bytes. -/
def TlsHelloContext.create (greaseSize : ℕ) (domain : Bytes) (rng : Rng) : TlsHelloContext × Rng :=
  let (drawn, rng) := rng.secureBytes greaseSize
  ({ grease := greaseInit drawn, domain := domain, grease_low := greaseInit_low drawn }, rng)

/-! ## `TlsHelloCalcLength` -/

/-- The state of the length calculation; `status` is `none` while no error has been met. -/
structure TlsHelloCalcLength where
  size : ℕ := 0
  status : Option String := none
  scopeOffset : List ℕ := []

namespace TlsHelloCalcLength

def onError (c : TlsHelloCalcLength) (error : String) : TlsHelloCalcLength :=
  if c.status = none then { c with status := some error } else c

mutual

/-- `TlsHelloCalcLength::do_op`. -/
def doOp (ctx : TlsHelloContext) : Op → TlsHelloCalcLength → TlsHelloCalcLength
  | op, c =>
    if c.status.isSome then c
    else match op with
    | .string data => { c with size := c.size + data.length }
    | .random length =>
        if length ≤ 0 ∨ length > 2048 then c.onError "Invalid random length"
        else { c with size := c.size + length }
    | .zero length =>
        if length ≤ 0 ∨ length > 2048 then c.onError "Invalid zero length"
        else { c with size := c.size + length }
    | .domain => { c with size := c.size + ctx.getDomain.length }
    | .grease seed =>
        if seed ≥ ctx.grease.length then c.onError "Invalid grease seed"
        else { c with size := c.size + 2 }
    | .key => { c with size := c.size + 32 }
    | .mlKem768Key => { c with size := c.size + 1184 }
    | .beginScope => { c with size := c.size + 2, scopeOffset := (c.size + 2) :: c.scopeOffset }
    | .endScope =>
        match c.scopeOffset with
        | [] => c.onError "Unbalanced scopes"
        | beginOffset :: rest =>
            let c := { c with scopeOffset := rest }
            if c.size - beginOffset ≥ 2 ^ 14 then c.onError "Scope is too big" else c
    | .permutation parts => doParts ctx parts c
    | .randomValue value => doOps ctx value c
    | .padding => if c.size < 513 then { c with size := 517 } else c

/-- `do_op` over a list of ops. -/
def doOps (ctx : TlsHelloContext) : List Op → TlsHelloCalcLength → TlsHelloCalcLength
  | [], c => c
  | op :: ops, c => doOps ctx ops (doOp ctx op c)

/-- `do_op` over the parts of a permutation, in template order. -/
def doParts (ctx : TlsHelloContext) : List (List Op) → TlsHelloCalcLength → TlsHelloCalcLength
  | [], c => c
  | part :: parts, c => doParts ctx parts (doOps ctx part c)

end

/-- `finish`. -/
def finish (c : TlsHelloCalcLength) : Except String ℕ :=
  match c.status with
  | some error => .error error
  | none =>
      if c.scopeOffset ≠ [] then .error "Unbalanced scopes"
      else if c.size < 11 + 32 then .error "Too small for hash"
      else .ok c.size

end TlsHelloCalcLength

/-! ## `TlsHelloStore` -/

/-- The state of the writer: the whole buffer `data_`, how much of it is filled (`get_offset`;
`dest_` is the rest), and the offsets of the open scopes. -/
structure TlsHelloStore where
  data : Bytes
  offset : ℕ := 0
  scopeOffset : List ℕ := []

namespace TlsHelloStore

/-- The buffer after `bs` has been copied to the front of `dest_`. -/
def write (st : TlsHelloStore) (bs : Bytes) : TlsHelloStore :=
  { st with
    data := st.data.take st.offset ++ bs ++ st.data.drop (st.offset + bs.length)
    offset := st.offset + bs.length }

/-- `dest_.copy_from(bs); dest_.remove_prefix(bs.size())`, which has to fit. -/
def put (st : TlsHelloStore) (bs : Bytes) : Option TlsHelloStore :=
  if st.offset + bs.length ≤ st.data.length then some (st.write bs) else none

/-- `BeginScope`: leave two bytes for the length. -/
def openScope (st : TlsHelloStore) : Option TlsHelloStore :=
  if st.offset + 2 ≤ st.data.length then
    some { st with scopeOffset := st.offset :: st.scopeOffset, offset := st.offset + 2 }
  else none

/-- `EndScope`: patch the length of the innermost scope. -/
def closeScope (st : TlsHelloStore) : Option TlsHelloStore :=
  match st.scopeOffset with
  | [] => none
  | beginOffset :: rest =>
      let size := st.offset - beginOffset - 2
      if size < 2 ^ 14 then
        some { st with
          data := (st.data.set beginOffset (UInt8.ofNat (size / 256))).set (beginOffset + 1)
            (UInt8.ofNat size)
          scopeOffset := rest }
      else none

/-- The padding extension: filled up to offset 517 if fewer than 513 bytes have been written. -/
def pad (st : TlsHelloStore) : Option TlsHelloStore :=
  let size := 513 - st.offset
  if size > 0 then
    (st.put [0x00, 0x15]).bind fun st => st.openScope.bind fun st =>
      (st.put (List.replicate size 0)).bind closeScope
  else some st

/-- The `n` packed pairs of coefficients of `MlKem768Key`. -/
def mlKemPairs : ℕ → Rng → Bytes × Rng
  | 0, rng => ([], rng)
  | n + 1, rng =>
      let (x, rng) := rng.secureUint32
      let a := x % 3329
      let (y, rng) := rng.secureUint32
      let b := y % 3329
      let (rest, rng) := mlKemPairs n rng
      (UInt8.ofNat (a % 256) :: UInt8.ofNat (a / 256 + b % 16 * 16) :: UInt8.ofNat (b / 16) :: rest,
        rng)

/-- An ML-KEM key of `n` packed pairs, and its 32 random bytes. -/
def putMlKemKey (n : ℕ) (st : TlsHelloStore) (rng : Rng) : Option (TlsHelloStore × Rng) :=
  let (pairs, rng) := mlKemPairs n rng
  let (drawn, rng) := rng.secureBytes 32
  ((st.put pairs).bind fun st => st.put drawn).map (·, rng)

/-- Copies the parts of a permutation one after another. -/
def putAll : List Bytes → TlsHelloStore → Option TlsHelloStore
  | [], st => some st
  | part :: parts, st => (st.put part).bind (putAll parts)

mutual

/-- `TlsHelloStore::do_op`. -/
def doOp (ctx : TlsHelloContext) : Op → TlsHelloStore × Rng → Option (TlsHelloStore × Rng)
  | .string data, (st, rng) => (st.put data).map (·, rng)
  | .random length, (st, rng) =>
      let (drawn, rng) := rng.secureBytes length
      (st.put drawn).map (·, rng)
  | .zero length, (st, rng) => (st.put (List.replicate length 0)).map (·, rng)
  | .domain, (st, rng) => (st.put ctx.getDomain).map (·, rng)
  | .grease seed, (st, rng) =>
      (ctx.getGrease seed).bind fun g => (st.put [g, g]).map (·, rng)
  | .key, (st, rng) =>
      let (key, rng) := rng.key
      (st.put key).map (·, rng)
  | .mlKem768Key, (st, rng) => putMlKemKey 384 st rng
  | .beginScope, (st, rng) => st.openScope.map (·, rng)
  | .endScope, (st, rng) => st.closeScope.map (·, rng)
  | .permutation parts, (st, rng) =>
      (storeParts ctx parts rng).bind fun (parts, rng) =>
        let (parts, rng) := rng.shuffle parts
        (putAll parts st).map (·, rng)
  | .randomValue value, (st, rng) => doOps ctx value (st, rng)
  | .padding, (st, rng) => st.pad.map (·, rng)

/-- `do_op` over a list of ops. -/
def doOps (ctx : TlsHelloContext) : List Op → TlsHelloStore × Rng → Option (TlsHelloStore × Rng)
  | [], p => some p
  | op :: ops, p => (doOp ctx op p).bind (doOps ctx ops)

/-- Each part of a permutation is stored into a string of its own, whose length is what
`TlsHelloCalcLength` says, and which it has to fill. -/
def storeParts (ctx : TlsHelloContext) : List (List Op) → Rng → Option (List Bytes × Rng)
  | [], rng => some ([], rng)
  | part :: parts, rng =>
      let length := (TlsHelloCalcLength.doOps ctx part {}).size
      (doOps ctx part ({ data := List.replicate length 0 }, rng)).bind fun (storer, rng) =>
        if storer.offset = storer.data.length then
          (storeParts ctx parts rng).map fun (rest, rng) => (storer.data :: rest, rng)
        else none

end

end TlsHelloStore

end RioGram
