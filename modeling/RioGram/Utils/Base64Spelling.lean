import Mathlib.Data.List.DropRight
import RioGram.Utils.Base64

/-!
# The spellings of a byte string in base64

A decoder of base64 is pinned down by what it accepts.  A byte string has its groups of characters
(`base64Groups`), which padding may complete to a multiple of four; the URL alphabet also goes without.

* `base64Decode_eq_some_iff` — a text is decoded to a byte string exactly if it spells it.
* `base64Decode_agree` — what both alphabets decode, they decode alike.
-/

namespace RioGram

open Wire

/-- Base64 without padding, which is what `base64url_encode` gives. -/
@[grind =]
def base64Groups (isUrl : Bool) : Bytes → Bytes
  | a :: b :: c :: s =>
      base64Character isUrl (a.toNat / 4) ::
      base64Character isUrl (a.toNat % 4 * 16 + b.toNat / 16) ::
      base64Character isUrl (b.toNat % 16 * 4 + c.toNat / 64) ::
      base64Character isUrl (c.toNat % 64) :: base64Groups isUrl s
  | [a, b] =>
      [base64Character isUrl (a.toNat / 4),
        base64Character isUrl (a.toNat % 4 * 16 + b.toNat / 16),
        base64Character isUrl (b.toNat % 16 * 4)]
  | [a] => [base64Character isUrl (a.toNat / 4), base64Character isUrl (a.toNat % 4 * 16)]
  | [] => []

/-- What completes the groups to a multiple of four characters. -/
def base64Padding (raw : Bytes) : Bytes := List.replicate ((3 - raw.length % 3) % 3) 61

/-- The texts that stand for a byte string. -/
def Spells (isUrl : Bool) (text raw : Bytes) : Prop :=
  text = base64Groups isUrl raw ++ base64Padding raw ∨ isUrl ∧ text = base64Groups isUrl raw

/-! ## Characters -/

lemma base64Value_character (isUrl : Bool) {n : ℕ} (h : n < 64) :
    base64Value isUrl (base64Character isUrl n) = some n := by
  have hall : ∀ isUrl : Bool, ∀ n < 64, base64Value isUrl (base64Character isUrl n) = some n := by
    decide
  exact hall isUrl n h

lemma base64Character_value {isUrl : Bool} {c : UInt8} {n : ℕ} (h : base64Value isUrl c = some n) :
    n < 64 ∧ base64Character isUrl n = c := by
  have hmem := List.mem_of_find?_eq_some h
  have hfound := List.find?_some h
  exact ⟨List.mem_range.mp hmem, by simpa using hfound⟩

lemma base64Character_ne_padding (isUrl : Bool) {n : ℕ} (h : n < 64) :
    base64Character isUrl n ≠ 61 := by
  have hall : ∀ isUrl : Bool, ∀ n < 64, base64Character isUrl n ≠ 61 := by decide
  exact hall isUrl n h

/-- The alphabets share sixty-two characters, and disagree on no other one. -/
lemma base64Value_agree {c : UInt8} {n m : ℕ} (hn : base64Value true c = some n)
    (hm : base64Value false c = some m) : n = m := by
  have hall : ∀ n < 64, ∀ m ∈ base64Value false (base64Character true n), n = m := by decide
  rcases base64Character_value hn with ⟨hn, hcn⟩
  rw [← hcn] at hm
  exact hall n hn m hm

/-! ## Groups -/

lemma base64DecodeGroups_groups (isUrl : Bool) (raw : Bytes) :
    base64DecodeGroups isUrl (base64Groups isUrl raw) = some raw := by
  induction raw using base64Groups.induct with
  | case1 a b c s ih =>
      have ha := a.toNat_lt
      have hb := b.toNat_lt
      have hc := c.toNat_lt
      simp only [base64Groups, base64DecodeGroups,
        base64Value_character isUrl (show a.toNat / 4 < 64 by omega),
        base64Value_character isUrl (show a.toNat % 4 * 16 + b.toNat / 16 < 64 by omega),
        base64Value_character isUrl (show b.toNat % 16 * 4 + c.toNat / 64 < 64 by omega),
        base64Value_character isUrl (show c.toNat % 64 < 64 by omega), ih, Option.bind_eq_bind,
        Option.bind_some, Option.pure_def]
      rw [show a.toNat / 4 * 4 + (a.toNat % 4 * 16 + b.toNat / 16) / 16 = a.toNat by omega,
        show (a.toNat % 4 * 16 + b.toNat / 16) % 16 * 16 +
          (b.toNat % 16 * 4 + c.toNat / 64) / 4 = b.toNat by omega,
        show (b.toNat % 16 * 4 + c.toNat / 64) % 4 * 64 + c.toNat % 64 = c.toNat by omega]
      simp
  | case2 a b =>
      have ha := a.toNat_lt
      have hb := b.toNat_lt
      simp only [base64Groups, base64DecodeGroups,
        base64Value_character isUrl (show a.toNat / 4 < 64 by omega),
        base64Value_character isUrl (show a.toNat % 4 * 16 + b.toNat / 16 < 64 by omega),
        base64Value_character isUrl (show b.toNat % 16 * 4 < 64 by omega), Option.bind_eq_bind,
        Option.bind_some, Option.pure_def]
      rw [if_neg (by omega),
        show a.toNat / 4 * 4 + (a.toNat % 4 * 16 + b.toNat / 16) / 16 = a.toNat by omega,
        show (a.toNat % 4 * 16 + b.toNat / 16) % 16 * 16 + b.toNat % 16 * 4 / 4 = b.toNat by omega]
      simp
  | case3 a =>
      have ha := a.toNat_lt
      simp only [base64Groups, base64DecodeGroups,
        base64Value_character isUrl (show a.toNat / 4 < 64 by omega),
        base64Value_character isUrl (show a.toNat % 4 * 16 < 64 by omega), Option.bind_eq_bind,
        Option.bind_some, Option.pure_def]
      rw [if_neg (by omega), show a.toNat / 4 * 4 + a.toNat % 4 * 16 / 16 = a.toNat by omega]
      simp
  | case4 => rfl

lemma base64Groups_decodeGroups {isUrl : Bool} {text raw : Bytes}
    (h : base64DecodeGroups isUrl text = some raw) : base64Groups isUrl raw = text := by
  induction text using base64DecodeGroups.induct generalizing raw with
  | case1 =>
      cases h
      rfl
  | case2 c => cases h
  | case3 a b =>
      simp only [base64DecodeGroups, Option.bind_eq_bind, Option.bind_eq_some_iff] at h
      rcases h with ⟨x, hx, y, hy, h⟩
      rcases base64Character_value hx with ⟨hx, rfl⟩
      rcases base64Character_value hy with ⟨hy, rfl⟩
      split_ifs at h with hrest
      cases h
      have hbyte : (UInt8.ofNat (x * 4 + y / 16)).toNat = x * 4 + y / 16 :=
        UInt8.toNat_ofNat_of_lt' (show _ < 256 by omega)
      simp only [base64Groups, hbyte]
      rw [show (x * 4 + y / 16) / 4 = x by omega, show (x * 4 + y / 16) % 4 * 16 = y by omega]
  | case4 a b c =>
      simp only [base64DecodeGroups, Option.bind_eq_bind, Option.bind_eq_some_iff] at h
      rcases h with ⟨x, hx, y, hy, z, hz, h⟩
      rcases base64Character_value hx with ⟨hx, rfl⟩
      rcases base64Character_value hy with ⟨hy, rfl⟩
      rcases base64Character_value hz with ⟨hz, rfl⟩
      split_ifs at h with hrest
      cases h
      have hfirst : (UInt8.ofNat (x * 4 + y / 16)).toNat = x * 4 + y / 16 :=
        UInt8.toNat_ofNat_of_lt' (show _ < 256 by omega)
      have hsecond : (UInt8.ofNat (y % 16 * 16 + z / 4)).toNat = y % 16 * 16 + z / 4 :=
        UInt8.toNat_ofNat_of_lt' (show _ < 256 by omega)
      simp only [base64Groups, hfirst, hsecond]
      rw [show (x * 4 + y / 16) / 4 = x by omega,
        show (x * 4 + y / 16) % 4 * 16 + (y % 16 * 16 + z / 4) / 16 = y by omega,
        show (y % 16 * 16 + z / 4) % 16 * 4 = z by omega]
  | case5 a b c d s ih =>
      simp only [base64DecodeGroups, Option.bind_eq_bind, Option.bind_eq_some_iff] at h
      rcases h with ⟨x, hx, y, hy, z, hz, w, hw, rest, hrest, h⟩
      rcases base64Character_value hx with ⟨hx, rfl⟩
      rcases base64Character_value hy with ⟨hy, rfl⟩
      rcases base64Character_value hz with ⟨hz, rfl⟩
      rcases base64Character_value hw with ⟨hw, rfl⟩
      cases h
      have hfirst : (UInt8.ofNat (x * 4 + y / 16)).toNat = x * 4 + y / 16 :=
        UInt8.toNat_ofNat_of_lt' (show _ < 256 by omega)
      have hsecond : (UInt8.ofNat (y % 16 * 16 + z / 4)).toNat = y % 16 * 16 + z / 4 :=
        UInt8.toNat_ofNat_of_lt' (show _ < 256 by omega)
      have hthird : (UInt8.ofNat (z % 4 * 64 + w)).toNat = z % 4 * 64 + w :=
        UInt8.toNat_ofNat_of_lt' (show _ < 256 by omega)
      simp only [base64Groups, hfirst, hsecond, hthird, ih hrest]
      rw [show (x * 4 + y / 16) / 4 = x by omega,
        show (x * 4 + y / 16) % 4 * 16 + (y % 16 * 16 + z / 4) / 16 = y by omega,
        show (y % 16 * 16 + z / 4) % 16 * 4 + (z % 4 * 64 + w) / 64 = z by omega,
        show (z % 4 * 64 + w) % 64 = w by omega]

lemma length_base64Groups (isUrl : Bool) (raw : Bytes) :
    (base64Groups isUrl raw).length = (4 * raw.length + 2) / 3 := by
  induction raw using base64Groups.induct with
  | case1 a b c s ih =>
      simp only [base64Groups, List.length_cons, ih]
      omega
  | case2 a b => simp [base64Groups]
  | case3 a => simp [base64Groups]
  | case4 => rfl

/-- How many characters of padding complete the groups. -/
lemma padded_iff {n k : ℕ} (hk : k < 3) :
    ((4 * n + 2) / 3 + k) % 4 = 0 ↔ k = (3 - n % 3) % 3 := by
  have hrest : n % 3 = 0 ∨ n % 3 = 1 ∨ n % 3 = 2 := by omega
  rcases hrest with h | h | h <;> rw [h] <;> omega

lemma base64Groups_ne_padding (isUrl : Bool) (raw : Bytes) :
    ∀ c ∈ base64Groups isUrl raw, c ≠ 61 := by
  induction raw using base64Groups.induct with
  | case1 a b c s ih =>
      have ha := a.toNat_lt
      have hb := b.toNat_lt
      have hc := c.toNat_lt
      simp only [base64Groups, List.forall_mem_cons]
      exact ⟨base64Character_ne_padding isUrl (by omega), base64Character_ne_padding isUrl (by omega),
        base64Character_ne_padding isUrl (by omega), base64Character_ne_padding isUrl (by omega), ih⟩
  | case2 a b =>
      have ha := a.toNat_lt
      have hb := b.toNat_lt
      simp only [base64Groups, List.forall_mem_cons]
      exact ⟨base64Character_ne_padding isUrl (by omega), base64Character_ne_padding isUrl (by omega),
        base64Character_ne_padding isUrl (by omega), by simp⟩
  | case3 a =>
      have ha := a.toNat_lt
      simp only [base64Groups, List.forall_mem_cons]
      exact ⟨base64Character_ne_padding isUrl (by omega), base64Character_ne_padding isUrl (by omega),
        by simp⟩
  | case4 => simp [base64Groups]

/-! ## Padding -/

/-- What `base64_drop_padding` looks at. -/
def unpadded (text : Bytes) : Bytes := text.rdropWhile (· == 61)

lemma exists_padding (text : Bytes) : ∃ k, text = unpadded text ++ List.replicate k 61 := by
  refine ⟨(text.rtakeWhile (· == 61)).length, ?_⟩
  have hall : ∀ c ∈ text.rtakeWhile (· == 61), c = 61 := by
    intro c hc
    simpa using List.mem_rtakeWhile_imp hc
  rw [← List.eq_replicate_of_mem hall]
  exact List.rdropWhile_append_rtakeWhile.symm

lemma unpadded_append_padding {groups : Bytes} (h : ∀ c ∈ groups, c ≠ 61) (k : ℕ) :
    unpadded (groups ++ List.replicate k 61) = groups := by
  induction k with
  | zero =>
      rw [List.replicate_zero, List.append_nil]
      apply List.rdropWhile_eq_self_iff.mpr
      intro hne
      simpa using h _ (List.getLast_mem hne)
  | succ k ih =>
      rw [List.replicate_succ', ← List.append_assoc, unpadded, List.rdropWhile_concat_pos _ _ _ (by rfl)]
      exact ih

/-- What is unpadded is what comes out, and the number of characters has to be right. -/
lemma base64DropPadding_append {isUrl : Bool} {groups : Bytes} {k : ℕ} (h : ∀ c ∈ groups, c ≠ 61) :
    base64DropPadding isUrl (groups ++ List.replicate k 61) =
      if k ≥ 3 then none
      else if (!isUrl || 0 < k) && (groups.length + k) % 4 != 0 then none
      else if isUrl && groups.length % 4 == 1 then none
      else some groups := by
  have hunpadded := unpadded_append_padding h k
  rw [unpadded, List.rdropWhile] at hunpadded
  simp only [base64DropPadding, hunpadded, List.length_append, List.length_replicate,
    Nat.add_sub_cancel_left]

/-- **The decoder accepts the spellings of a byte string**, and nothing else. -/
theorem base64Decode_eq_some_iff {isUrl : Bool} {text raw : Bytes} :
    base64Decode isUrl text = some raw ↔ Spells isUrl text raw := by
  have hlength := length_base64Groups isUrl raw
  have hne := base64Groups_ne_padding isUrl raw
  constructor
  · intro h
    rcases exists_padding text with ⟨k, htext⟩
    rcases Option.bind_eq_some_iff.mp h with ⟨groups, hgroups, hdecode⟩
    have hraw := base64Groups_decodeGroups hdecode
    have hunpadded : groups = unpadded text := by
      simp only [base64DropPadding] at hgroups
      split_ifs at hgroups
      exact (Option.some.inj hgroups).symm
    rw [← hunpadded, ← hraw] at htext
    rw [htext, base64DropPadding_append hne] at hgroups
    split_ifs at hgroups with hk hfour
    simp only [Bool.and_eq_true, Bool.or_eq_true, bne_iff_ne, Bool.not_eq_true', decide_eq_true_eq,
      not_and, not_not] at hfour
    have hpadding : isUrl = true ∧ k = 0 ∨ k = (3 - raw.length % 3) % 3 := by
      cases isUrl with
      | true =>
          by_cases hzero : k = 0
          · exact .inl ⟨rfl, hzero⟩
          · have hfull := hfour (.inr (by omega))
            rw [hlength] at hfull
            exact .inr ((padded_iff (by omega)).mp hfull)
      | false =>
          have hfull := hfour (.inl rfl)
          rw [hlength] at hfull
          exact .inr ((padded_iff (by omega)).mp hfull)
    rcases hpadding with ⟨hurl, rfl⟩ | rfl
    · exact .inr ⟨hurl, by simpa using htext⟩
    · exact .inl htext
  · rintro (rfl | ⟨hurl, rfl⟩)
    · rw [base64Decode, base64Padding, base64DropPadding_append hne, if_neg (by omega), if_neg,
        if_neg, Option.bind_some, base64DecodeGroups_groups]
      · simp only [Bool.and_eq_true, beq_iff_eq, not_and]
        omega
      · simp only [Bool.and_eq_true, bne_iff_ne, not_and, not_not]
        intro _
        rw [hlength]
        exact (padded_iff (by omega)).mpr rfl
    · have hdrop := @base64DropPadding_append isUrl (base64Groups isUrl raw) 0 hne
      rw [List.replicate_zero, List.append_nil, if_neg (by omega), if_neg (by simp [hurl]), if_neg]
        at hdrop
      · rw [base64Decode, hdrop, Option.bind_some, base64DecodeGroups_groups]
      · simp only [Bool.and_eq_true, beq_iff_eq, not_and]
        omega

/-! ## Both alphabets -/

lemma base64DecodeGroups_agree {groups raw raw' : Bytes}
    (h : base64DecodeGroups true groups = some raw)
    (h' : base64DecodeGroups false groups = some raw') : raw = raw' := by
  induction groups using base64DecodeGroups.induct generalizing raw raw' with
  | case1 =>
      cases h
      cases h'
      rfl
  | case2 c => cases h
  | case3 a b =>
      simp only [base64DecodeGroups, Option.bind_eq_bind, Option.bind_eq_some_iff] at h h'
      rcases h with ⟨x, hx, y, hy, h⟩
      rcases h' with ⟨x', hx', y', hy', h'⟩
      cases base64Value_agree hx hx'
      cases base64Value_agree hy hy'
      exact Option.some.inj (h.symm.trans h')
  | case4 a b c =>
      simp only [base64DecodeGroups, Option.bind_eq_bind, Option.bind_eq_some_iff] at h h'
      rcases h with ⟨x, hx, y, hy, z, hz, h⟩
      rcases h' with ⟨x', hx', y', hy', z', hz', h'⟩
      cases base64Value_agree hx hx'
      cases base64Value_agree hy hy'
      cases base64Value_agree hz hz'
      exact Option.some.inj (h.symm.trans h')
  | case5 a b c d s ih =>
      simp only [base64DecodeGroups, Option.bind_eq_bind, Option.bind_eq_some_iff] at h h'
      rcases h with ⟨x, hx, y, hy, z, hz, w, hw, rest, hrest, h⟩
      rcases h' with ⟨x', hx', y', hy', z', hz', w', hw', rest', hrest', h'⟩
      cases base64Value_agree hx hx'
      cases base64Value_agree hy hy'
      cases base64Value_agree hz hz'
      cases base64Value_agree hw hw'
      cases ih hrest hrest'
      exact Option.some.inj (h.symm.trans h')

/-- What both decoders accept, they decode alike. -/
lemma base64Decode_agree {text raw raw' : Bytes} (h : base64Decode true text = some raw)
    (h' : base64Decode false text = some raw') : raw = raw' := by
  rcases Option.bind_eq_some_iff.mp h with ⟨groups, hgroups, hdecode⟩
  rcases Option.bind_eq_some_iff.mp h' with ⟨groups', hgroups', hdecode'⟩
  have hsame : groups = groups' := by
    simp only [base64DropPadding] at hgroups hgroups'
    split_ifs at hgroups hgroups'
    exact Option.some.inj (hgroups.symm.trans hgroups')
  cases hsame
  exact base64DecodeGroups_agree hdecode hdecode'

end RioGram
