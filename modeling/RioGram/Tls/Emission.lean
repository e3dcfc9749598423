import RioGram.Tls.Interpreters

/-!
# What a stretch of ops writes

`Emits ctx k ops n L` says what running `ops` does when `k` bytes have been written already: the
length calculation advances by exactly `n`, and the writer, given room for `n` more bytes, appends
a string of the language `L` of length `n` and touches nothing else.  So each judgement is at the
same time a statement about both interpreters, and their agreement is never argued about again.

There is one rule per op, a rule for concatenation (`Emits.append`), one for a bracketed scope
(`Emits.scope`, where the back-patching is accounted for once), one for a permutation
(`Emits.permutation`) and the rule of consequence (`Emits.mono`).
-/

namespace RioGram

open Wire

/-! ## The buffer -/

namespace TlsHelloStore

variable {st : TlsHelloStore} {v w : Bytes}

lemma length_write (h : st.offset + w.length ≤ st.data.length) :
    (st.write w).data.length = st.data.length := by
  simp only [write, List.length_append, List.length_take, List.length_drop]
  omega

@[simp] lemma offset_write : (st.write w).offset = st.offset + w.length := rfl

@[simp] lemma scopeOffset_write : (st.write w).scopeOffset = st.scopeOffset := rfl

@[simp] lemma write_nil : st.write [] = st := by
  simp [write]

/-- Two writes in a row are one write. -/
lemma write_write (h : st.offset + v.length + w.length ≤ st.data.length) :
    (st.write v).write w = st.write (v ++ w) := by
  have hoff : (st.data.take st.offset).length = st.offset := by
    rw [List.length_take]; omega
  have htake : (st.data.take st.offset ++ v ++ st.data.drop (st.offset + v.length)).take
      (st.offset + v.length) = st.data.take st.offset ++ v := by
    rw [List.take_append_of_le_length (by simp only [List.length_append, hoff]; omega)]
    exact List.take_of_length_le (by simp only [List.length_append, hoff]; omega)
  have hdrop : (st.data.take st.offset ++ v ++ st.data.drop (st.offset + v.length)).drop
      (st.offset + v.length + w.length) = st.data.drop (st.offset + v.length + w.length) := by
    rw [List.drop_append, List.drop_eq_nil_of_le (by simp only [List.length_append, hoff]; omega),
      List.nil_append, List.drop_drop]
    congr 1
    simp only [List.length_append, hoff]
    omega
  rw [write, write, write]
  simp only [htake, hdrop]
  simp only [List.length_append, List.append_assoc, Nat.add_assoc]

lemma put_eq (h : st.offset + w.length ≤ st.data.length) : st.put w = some (st.write w) :=
  if_pos h

lemma put_append : st.put (v ++ w) = (st.put v).bind fun st => st.put w := by
  by_cases hv : st.offset + v.length ≤ st.data.length
  · rw [put_eq hv, Option.bind_some]
    by_cases hw : st.offset + v.length + w.length ≤ st.data.length
    · rw [put_eq (by rw [List.length_append]; omega), put_eq, write_write hw]
      rw [length_write hv, offset_write]
      exact hw
    · rw [put, put, if_neg (by rw [List.length_append]; omega), if_neg]
      rw [length_write hv, offset_write]
      exact hw
  · rw [put, put, if_neg hv, if_neg (by rw [List.length_append]; omega), Option.bind_none]

lemma putAll_eq : ∀ {ws : List Bytes} {st : TlsHelloStore},
    st.offset + ws.flatten.length ≤ st.data.length → putAll ws st = some (st.write ws.flatten)
  | [], st, _ => by simp [putAll]
  | w :: ws, st, h => by
      simp only [List.flatten_cons, List.length_append] at h
      have hw : st.offset + w.length ≤ st.data.length := by omega
      rw [putAll, put_eq hw, Option.bind_some, putAll_eq, write_write (by omega), List.flatten_cons]
      rw [length_write hw, offset_write]
      omega

/-- Closing a scope patches the length of what was written since it was opened. -/
lemma closeScope_write (h : st.offset + 2 + w.length ≤ st.data.length) (hw : w.length < 2 ^ 14) :
    closeScope (write { st with scopeOffset := st.offset :: st.scopeOffset, offset := st.offset + 2 }
      w) = some (st.write (be16 w.length ++ w)) := by
  obtain ⟨data, offset, scopes⟩ := st
  simp only at h ⊢
  -- split the buffer at the two bytes that were left for the length
  obtain ⟨A, R, rfl, rfl⟩ : ∃ A R : Bytes, data = A ++ R ∧ A.length = offset :=
    ⟨data.take offset, data.drop offset, (List.take_append_drop _ _).symm, by
      rw [List.length_take]; omega⟩
  obtain ⟨x, y, R, rfl⟩ : ∃ x y R', R = x :: y :: R' := by
    match R with
    | [] => simp at h; omega
    | [_] => simp at h; omega
    | x :: y :: R' => exact ⟨x, y, R', rfl⟩
  have hsize : A.length + 2 + w.length - A.length - 2 = w.length := by omega
  have htake : (A ++ x :: y :: R).take (A.length + 2) = A ++ [x, y] := by
    rw [List.take_append]; simp
  have hdrop : (A ++ x :: y :: R).drop (A.length + 2 + w.length) = R.drop w.length := by
    rw [show A.length + 2 + w.length = A.length + (2 + w.length) by omega, List.drop_append]
    simp [show 2 + w.length = w.length + 1 + 1 by omega]
  have hdrop' : (A ++ x :: y :: R).drop (A.length + (be16 w.length ++ w).length)
      = R.drop w.length := by
    rw [← hdrop]; congr 1; simp; omega
  simp only [closeScope, write, hsize, if_pos hw, htake, hdrop, hdrop']
  simp [be16]
  omega

end TlsHelloStore

/-! ## The judgement -/

/-- Running `ops` with `k` bytes already written emits `n` bytes, forming a string of `L`. -/
structure Emits (ctx : TlsHelloContext) (k : ℕ) (ops : List Op) (n : ℕ) (L : Language UInt8) :
    Prop where
  store : ∀ (st : TlsHelloStore) (rng : Rng), st.offset = k → k + n ≤ st.data.length →
    ∃ w ∈ L, w.length = n ∧ ∃ rng', TlsHelloStore.doOps ctx ops (st, rng) = some (st.write w, rng')
  count : ∀ c : TlsHelloCalcLength, c.status = none → c.size = k →
    TlsHelloCalcLength.doOps ctx ops c = { c with size := k + n }

namespace TlsHelloCalcLength

lemma doOps_append (ctx : TlsHelloContext) : ∀ (as bs : List Op) (c : TlsHelloCalcLength),
    doOps ctx (as ++ bs) c = doOps ctx bs (doOps ctx as c)
  | [], _, _ => by simp [doOps]
  | a :: as, bs, c => by
      rw [List.cons_append, doOps, doOps, doOps_append ctx as bs]

lemma doOps_split (ctx : TlsHelloContext) (v w : Bytes) (ops : List Op) (c : TlsHelloCalcLength) :
    doOps ctx (.string (v ++ w) :: ops) c = doOps ctx (.string v :: .string w :: ops) c := by
  by_cases hc : c.status.isSome
  · simp [doOps, doOp, hc]
  · simp [doOps, doOp, hc, Nat.add_assoc]

end TlsHelloCalcLength

namespace TlsHelloStore

lemma doOps_append (ctx : TlsHelloContext) : ∀ (as bs : List Op) (p : TlsHelloStore × Rng),
    doOps ctx (as ++ bs) p = (doOps ctx as p).bind (doOps ctx bs)
  | [], _, _ => by simp [doOps]
  | a :: as, bs, p => by
      rw [List.cons_append, doOps, doOps, Option.bind_assoc]
      exact congrArg _ (funext fun q => doOps_append ctx as bs q)

lemma doOps_split (ctx : TlsHelloContext) (v w : Bytes) (ops : List Op)
    (p : TlsHelloStore × Rng) :
    doOps ctx (.string (v ++ w) :: ops) p = doOps ctx (.string v :: .string w :: ops) p := by
  obtain ⟨st, rng⟩ := p
  simp only [doOps, doOp, put_append]
  rcases st.put v with _ | st₁
  · rfl
  · simp only [Option.bind_some, Option.map_some]

lemma doOps_singleton (ctx : TlsHelloContext) (op : Op) (p : TlsHelloStore × Rng) :
    doOps ctx [op] p = doOp ctx op p := by
  rw [doOps]
  cases doOp ctx op p <;> simp [doOps]

lemma length_mlKemPairs : ∀ (n : ℕ) (rng : Rng), (mlKemPairs n rng).1.length = 3 * n
  | 0, _ => rfl
  | n + 1, rng => by
      simp only [mlKemPairs, List.length_cons, length_mlKemPairs n]
      omega

lemma putMlKemKey_eq (n : ℕ) (rng : Rng) (h : st.offset + (3 * n + 32) ≤ st.data.length) :
    ∃ w : Bytes, w.length = 3 * n + 32 ∧ ∃ rng', putMlKemKey n st rng = some (st.write w, rng') := by
  have hpairs := length_mlKemPairs n rng
  have hfit : st.offset + (mlKemPairs n rng).1.length ≤ st.data.length := by omega
  refine ⟨(mlKemPairs n rng).1 ++ ((mlKemPairs n rng).2.secureBytes 32).1, ?_,
    ((mlKemPairs n rng).2.secureBytes 32).2, ?_⟩
  · rw [List.length_append, hpairs, Rng.length_secureBytes]
  · simp only [putMlKemKey]
    rw [put_eq hfit, Option.bind_some, put_eq, Option.map_some, write_write]
    · rw [hpairs, Rng.length_secureBytes]
      omega
    · rw [length_write hfit, offset_write, hpairs, Rng.length_secureBytes]
      omega

end TlsHelloStore

namespace Emits

variable {ctx : TlsHelloContext} {k n m : ℕ} {as bs : List Op} {L M : Language UInt8}

/-! ## Structural rules -/

/-- The rule of consequence. -/
lemma mono (h : Emits ctx k as n L) (hn : n = m) (hL : ∀ w ∈ L, w.length = m → w ∈ M) :
    Emits ctx k as m M := by
  subst hn
  refine ⟨fun st rng hk hfit => ?_, h.count⟩
  obtain ⟨w, hw, hlen, hrun⟩ := h.store st rng hk hfit
  exact ⟨w, hL w hw hlen, hlen, hrun⟩

/-- One stretch after another. -/
lemma append (ha : Emits ctx k as n L) (hb : Emits ctx (k + n) bs m M) :
    Emits ctx k (as ++ bs) (n + m) (L * M) := by
  refine ⟨fun st rng hk hfit => ?_, fun c hc hk => ?_⟩
  · obtain ⟨v, hv, hvlen, rng₁, hrun₁⟩ := ha.store st rng hk (by omega)
    have hfit₁ : st.offset + v.length ≤ st.data.length := by omega
    obtain ⟨w, hw, hwlen, rng₂, hrun₂⟩ := hb.store (st.write v) rng₁ (by simp [hk, hvlen])
      (by rw [TlsHelloStore.length_write hfit₁]; omega)
    refine ⟨v ++ w, Language.append_mem_mul hv hw, by simp [hvlen, hwlen], rng₂, ?_⟩
    rw [TlsHelloStore.doOps_append, hrun₁, Option.bind_some, hrun₂,
      TlsHelloStore.write_write (by omega)]
  · rw [TlsHelloCalcLength.doOps_append, ha.count c hc hk,
      hb.count { c with size := k + n } hc rfl, Nat.add_assoc]

/-- One op and what comes after it. -/
lemma cons {op : Op} (ha : Emits ctx k [op] n L) (hb : Emits ctx (k + n) bs m M) :
    Emits ctx k (op :: bs) (n + m) (L * M) :=
  append ha hb

/-- **A scope** is its contents behind their two-byte length. -/
lemma scope (h : Emits ctx (k + 2) as n L) (hn : n < 2 ^ 14) :
    Emits ctx k (.beginScope :: (as ++ [.endScope])) (n + 2) (vector16 L) := by
  refine ⟨fun st rng hk hfit => ?_, fun c hc hk => ?_⟩
  · -- run the contents on the store with the scope open
    let st₀ : TlsHelloStore :=
      { st with scopeOffset := st.offset :: st.scopeOffset, offset := st.offset + 2 }
    have hopen : st.openScope = some st₀ := if_pos (by omega)
    obtain ⟨w, hw, hwlen, rng₁, hrun⟩ := h.store st₀ rng (by simp [st₀, hk])
      (by show k + 2 + n ≤ st.data.length; omega)
    refine ⟨be16 w.length ++ w, ⟨w, hw, rfl⟩, by simp [hwlen]; omega, rng₁, ?_⟩
    simp only [TlsHelloStore.doOps, TlsHelloStore.doOp, hopen, Option.map_some, Option.bind_some,
      TlsHelloStore.doOps_append, hrun]
    rw [TlsHelloStore.closeScope_write (by omega) (by omega)]
    rfl
  · subst hk
    let c₀ : TlsHelloCalcLength :=
      { c with size := c.size + 2, scopeOffset := (c.size + 2) :: c.scopeOffset }
    have hopen : TlsHelloCalcLength.doOp ctx .beginScope c = c₀ := by
      simp only [TlsHelloCalcLength.doOp, hc, Option.isSome_none, Bool.false_eq_true, if_false, c₀]
    have hsize : ¬ c.size + 2 + n - (c.size + 2) ≥ 2 ^ 14 := by omega
    rw [TlsHelloCalcLength.doOps, hopen, TlsHelloCalcLength.doOps_append, h.count c₀ hc rfl]
    simp only [TlsHelloCalcLength.doOps, TlsHelloCalcLength.doOp, hc, Option.isSome_none,
      Bool.false_eq_true, if_false, c₀, if_neg hsize, TlsHelloCalcLength.mk.injEq, and_true]
    omega

/-! ## Rules for the ops that write bytes -/

/-- An op that appends `n` drawn or fixed bytes and counts `n`. -/
lemma of_put {op : Op} (f : Rng → Bytes × Rng) (hlen : ∀ rng, (f rng).1.length = n)
    (hstore : ∀ st rng, TlsHelloStore.doOp ctx op (st, rng) = (st.put (f rng).1).map (·, (f rng).2))
    (hcalc : ∀ c : TlsHelloCalcLength, c.status = none →
      TlsHelloCalcLength.doOp ctx op c = { c with size := c.size + n }) :
    Emits ctx k [op] n {w | ∃ rng, w = (f rng).1} := by
  refine ⟨fun st rng hk hfit => ?_, fun c hc hk => ?_⟩
  · refine ⟨(f rng).1, ⟨rng, rfl⟩, hlen rng, (f rng).2, ?_⟩
    rw [TlsHelloStore.doOps_singleton, hstore,
      TlsHelloStore.put_eq (by rw [hlen rng]; omega), Option.map_some]
  · subst hk
    rw [TlsHelloCalcLength.doOps, TlsHelloCalcLength.doOps, hcalc c hc]

lemma string (data : Bytes) : Emits ctx k [.string data] data.length {data} :=
  (of_put (fun rng => (data, rng)) (fun _ => rfl) (fun _ _ => by simp only [TlsHelloStore.doOp])
    (fun c hc => by simp [TlsHelloCalcLength.doOp, hc])).mono rfl
    (by rintro w ⟨rng, rfl⟩ _; rfl)

lemma zero (h0 : 0 < n) (h1 : n ≤ 2048) : Emits ctx k [.zero n] n {List.replicate n 0} :=
  (of_put (fun rng => (List.replicate n 0, rng)) (fun _ => List.length_replicate)
    (fun _ _ => by simp only [TlsHelloStore.doOp])
    (fun c hc => by
      simp only [TlsHelloCalcLength.doOp, hc, Option.isSome_none, Bool.false_eq_true, if_false]
      exact if_neg (by omega))).mono rfl (by rintro w ⟨rng, rfl⟩ _; rfl)

lemma random (h0 : 0 < n) (h1 : n ≤ 2048) : Emits ctx k [.random n] n (anyOf n) :=
  (of_put (fun rng => rng.secureBytes n) (fun _ => by simp)
    (fun _ _ => by simp only [TlsHelloStore.doOp])
    (fun c hc => by
      simp only [TlsHelloCalcLength.doOp, hc, Option.isSome_none, Bool.false_eq_true, if_false]
      exact if_neg (by omega))).mono rfl (fun _ _ hlen => hlen)

lemma domain : Emits ctx k [.domain] ctx.getDomain.length {ctx.getDomain} :=
  (of_put (fun rng => (ctx.getDomain, rng)) (fun _ => rfl) 
    (fun _ _ => by simp only [TlsHelloStore.doOp])
    (fun c hc => by simp [TlsHelloCalcLength.doOp, hc])).mono rfl
    (by rintro w ⟨rng, rfl⟩ _; rfl)

lemma key : Emits ctx k [.key] 32 (anyOf 32) :=
  (of_put Rng.key (fun _ => by simp) (fun _ _ => by simp only [TlsHelloStore.doOp])
    (fun c hc => by simp [TlsHelloCalcLength.doOp, hc])).mono rfl
    (fun _ _ hlen => hlen)

/-- The two equal bytes of a grease value, whose low half is `0xA`. -/
def greaseWords : Language UInt8 := {w | ∃ g : UInt8, g.toNat % 16 = 10 ∧ w = [g, g]}

lemma grease {seed : ℕ} (h : seed < ctx.grease.length) : Emits ctx k [.grease seed] 2 greaseWords :=
  (of_put (fun rng => ([ctx.grease.get ⟨seed, h⟩, ctx.grease.get ⟨seed, h⟩], rng)) (fun _ => rfl)
    (fun _ _ => by
      simp only [TlsHelloStore.doOp, TlsHelloContext.getGrease, List.getElem?_eq_getElem h]
      rfl)
    (fun c hc => by
      simp only [TlsHelloCalcLength.doOp, hc, Option.isSome_none, Bool.false_eq_true, if_false]
      exact if_neg (by omega))).mono rfl
    (by
      rintro w ⟨rng, rfl⟩ _
      exact ⟨_, ctx.grease_low _ (List.get_mem _ _), rfl⟩)

lemma mlKem768Key : Emits ctx k [.mlKem768Key] 1184 (anyOf 1184) := by
  refine ⟨fun st rng hk hfit => ?_, fun c hc hk => ?_⟩
  · have hroom : st.offset + (3 * 384 + 32) ≤ st.data.length := by omega
    obtain ⟨w, hlen, rng', hput⟩ := TlsHelloStore.putMlKemKey_eq 384 rng hroom
    refine ⟨w, hlen, hlen, rng', ?_⟩
    rw [TlsHelloStore.doOps_singleton, TlsHelloStore.doOp]
    exact hput
  · subst hk
    simp [TlsHelloCalcLength.doOps, TlsHelloCalcLength.doOp, hc]

/-- `Op::random_value` runs the alternative it has picked. -/
lemma randomValue (h : Emits ctx k as n L) : Emits ctx k [.randomValue as] n L := by
  refine ⟨fun st rng hk hfit => ?_, fun c hc hk => ?_⟩
  · obtain ⟨w, hw, hlen, rng', hrun⟩ := h.store st rng hk hfit
    exact ⟨w, hw, hlen, rng', by
      simp only [TlsHelloStore.doOps_singleton, TlsHelloStore.doOp, hrun]⟩
  · simp only [TlsHelloCalcLength.doOps, TlsHelloCalcLength.doOp, hc, Option.isSome_none,
      Bool.false_eq_true, if_false, h.count c hc hk]

/-- A literal may be cut in two, wherever it stands. -/
lemma split (pre : List Op) (v w : Bytes)
    (h : Emits ctx k (pre ++ .string v :: .string w :: as) n L) :
    Emits ctx k (pre ++ .string (v ++ w) :: as) n L := by
  refine ⟨fun st rng hk hfit => ?_, fun c hc hk => ?_⟩
  · obtain ⟨u, hu, hlen, rng', hrun⟩ := h.store st rng hk hfit
    refine ⟨u, hu, hlen, rng', ?_⟩
    rw [← hrun, TlsHelloStore.doOps_append, TlsHelloStore.doOps_append]
    exact congrArg _ (funext fun p => TlsHelloStore.doOps_split ctx v w as p)
  · rw [← h.count c hc hk, TlsHelloCalcLength.doOps_append, TlsHelloCalcLength.doOps_append,
      TlsHelloCalcLength.doOps_split]

/-! ## Padding and permutations -/

/-- The padding extension, for whatever offset it starts at. -/
def paddingLanguage (k : ℕ) : Language UInt8 :=
  if k < 513 then
    {[0x00, 0x15] ++ (be16 (513 - k) ++ List.replicate (513 - k) 0)}
  else 1

/-- **The two formulas for padding agree**: the calculation sets the size to 517, the writer fills
up with an extension of `513 - k` zero bytes. -/
lemma padding : Emits ctx k [.padding] (if k < 513 then 517 - k else 0) (paddingLanguage k) := by
  refine ⟨fun st rng hk hfit => ?_, fun c hc hk => ?_⟩
  · simp only [TlsHelloStore.doOps_singleton, TlsHelloStore.doOp]
    by_cases h : k < 513
    · rw [if_pos h] at hfit
      set z := List.replicate (513 - k) (0 : UInt8) with hz
      have hzlen : z.length = 513 - k := by rw [hz, List.length_replicate]
      have hfit₁ : st.offset + ([0x00, 0x15] : Bytes).length ≤ st.data.length := by
        show st.offset + 2 ≤ _
        omega
      -- the store when the extension's body is about to be written
      let st₁ := st.write [0x00, 0x15]
      have hdata₁ : st₁.data.length = st.data.length := TlsHelloStore.length_write hfit₁
      have hoff₁ : st₁.offset = st.offset + 2 := rfl
      have hopen : st₁.openScope = some
          { st₁ with scopeOffset := st₁.offset :: st₁.scopeOffset, offset := st₁.offset + 2 } :=
        if_pos (by omega)
      have hroom : st₁.offset + 2 + z.length ≤ st₁.data.length := by omega
      have hclose := TlsHelloStore.closeScope_write hroom (by omega)
      have hpad : st.pad = some (st.write ([0x00, 0x15] ++ (be16 (513 - k) ++ z))) := by
        rw [TlsHelloStore.pad, if_pos (by omega), TlsHelloStore.put_eq hfit₁, Option.bind_some,
          hopen, Option.bind_some, hk,
          TlsHelloStore.put_eq hroom,
          Option.bind_some, hclose, hzlen, TlsHelloStore.write_write]
        simp only [List.length_append, length_be16, hzlen, List.length_cons, List.length_nil]
        omega
      refine ⟨_, ?_, ?_, rng, by rw [hpad, Option.map_some]⟩
      · rw [paddingLanguage, if_pos h]
        rfl
      · rw [if_pos h]
        simp only [List.length_append, length_be16, hzlen, List.length_cons, List.length_nil]
        omega
    · refine ⟨[], ?_, by rw [if_neg h]; rfl, rng, ?_⟩
      · rw [paddingLanguage, if_neg h]
        rfl
      · rw [TlsHelloStore.pad, if_neg (by omega), Option.map_some, TlsHelloStore.write_nil]
  · subst hk
    simp only [TlsHelloCalcLength.doOps, TlsHelloCalcLength.doOp, hc, Option.isSome_none,
      Bool.false_eq_true, if_false]
    split_ifs
    · simp only [TlsHelloCalcLength.mk.injEq, and_true]
      omega
    · simp [← hc]

end Emits

/-- Parts of a permutation that each emit the same whatever was written before them. -/
inductive EmitsParts (ctx : TlsHelloContext) :
    List (List Op) → ℕ → List (Language UInt8) → Prop where
  | nil : EmitsParts ctx [] 0 []
  | cons {part : List Op} {parts : List (List Op)} {n m : ℕ} {L : Language UInt8}
      {Ls : List (Language UInt8)} :
      (∀ k, Emits ctx k part n L) → EmitsParts ctx parts m Ls →
        EmitsParts ctx (part :: parts) (n + m) (L :: Ls)

namespace EmitsParts

variable {ctx : TlsHelloContext} {parts : List (List Op)} {n : ℕ} {Ls : List (Language UInt8)}

lemma count (h : EmitsParts ctx parts n Ls) : ∀ c : TlsHelloCalcLength, c.status = none →
    TlsHelloCalcLength.doParts ctx parts c = { c with size := c.size + n } := by
  induction h with
  | nil => intro c _; rw [TlsHelloCalcLength.doParts]; rfl
  | cons hpart _ ih =>
      intro c hc
      rw [TlsHelloCalcLength.doParts, (hpart c.size).count c hc rfl]
      exact (ih { c with size := c.size + _ } hc).trans (by rw [Nat.add_assoc])

/-- Every part fills the string made for it exactly. -/
lemma store (h : EmitsParts ctx parts n Ls) : ∀ rng : Rng, ∃ ws rng',
    TlsHelloStore.storeParts ctx parts rng = some (ws, rng') ∧
      List.Forall₂ (· ∈ ·) ws Ls ∧ ws.flatten.length = n := by
  induction h with
  | nil => intro rng; exact ⟨[], rng, by rw [TlsHelloStore.storeParts], .nil, rfl⟩
  | @cons part parts n m L Ls hpart _ ih =>
      intro rng
      have hsize : (TlsHelloCalcLength.doOps ctx part {}).size = n := by
        rw [(hpart 0).count {} rfl rfl, Nat.zero_add]
      obtain ⟨w, hw, hlen, rng₁, hrun⟩ :=
        (hpart 0).store { data := List.replicate n 0 } rng rfl (by simp)
      obtain ⟨ws, rng₂, hstore, hws, hsum⟩ := ih rng₁
      have hdata : (TlsHelloStore.write { data := List.replicate n 0 } w).data = w := by
        simp [TlsHelloStore.write, hlen]
      refine ⟨w :: ws, rng₂, ?_, .cons hw hws, by simp [hlen, hsum]⟩
      rw [TlsHelloStore.storeParts, hsize, hrun, Option.bind_some]
      simp only [hdata, TlsHelloStore.offset_write, hstore, Option.map_some]
      rw [if_pos (Nat.zero_add _)]

end EmitsParts

/-- A permutation emits its parts in some order. -/
lemma Emits.permutation {ctx : TlsHelloContext} {k n : ℕ} {parts : List (List Op)}
    {Ls : List (Language UInt8)} (h : EmitsParts ctx parts n Ls) :
    Emits ctx k [.permutation parts] n (shuffled Ls) := by
  refine ⟨fun st rng hk hfit => ?_, fun c hc hk => ?_⟩
  · obtain ⟨ws, rng₁, hstore, hws, hlen⟩ := h.store rng
    have hperm := Rng.shuffle_perm ws rng₁
    have hlen' : (rng₁.shuffle ws).1.flatten.length = n := by
      rw [hperm.flatten.length_eq, hlen]
    refine ⟨_, ⟨ws, hws, _, hperm, rfl⟩, hlen', (rng₁.shuffle ws).2, ?_⟩
    simp only [TlsHelloStore.doOps_singleton, TlsHelloStore.doOp, hstore, Option.bind_some]
    rw [TlsHelloStore.putAll_eq (by omega), Option.map_some]
  · simp only [TlsHelloCalcLength.doOps, TlsHelloCalcLength.doOp, hc, Option.isSome_none,
      Bool.false_eq_true, if_false, h.count c hc, hk]

end RioGram
