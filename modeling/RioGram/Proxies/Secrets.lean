import RioGram.Net.Proxy
import RioGram.Proxies.Models
import RioGram.Utils.Base64Spelling

/-!
# The check of a secret, in the app and in TDLib

`ProxyConfig.hasValidSecret` is the app's version of `ProxySecret::from_link`: it decides which of the
configured proxies are sent to TDLib at all.  It reads hexadecimal only, and knows no longest domain.

* `hasValidSecret_iff` — the two checks agree on all but overlong secrets and secrets in base64.
-/

namespace RioGram.Proxies

open Wire

/-! ## Characters and bytes -/

lemma utf8_eq (s : String) : utf8 s = s.toList.flatMap String.utf8EncodeChar := by
  have hbytes : s.toByteArray = s.toList.utf8Encode := (String.utf8Encode_toList).symm
  simp [utf8, hbytes, List.utf8Encode]

lemma hexDigit_eq (c : Char) :
    hexDigit c =
      if 48 ≤ c.toNat ∧ c.toNat ≤ 57 then some (c.toNat - 48)
      else if 97 ≤ c.toNat ∧ c.toNat ≤ 102 then some (c.toNat - 97 + 10)
      else if 65 ≤ c.toNat ∧ c.toNat ≤ 70 then some (c.toNat - 65 + 10)
      else none := rfl

/-- A hexadecimal digit is one byte, which TDLib reads as the same number. -/
lemma utf8EncodeChar_digit {c : Char} {n : ℕ} (h : hexDigit c = some n) :
    ∃ b, String.utf8EncodeChar c = [b] ∧ hexToInt b = some n ∧ n < 16 := by
  rw [hexDigit_eq] at h
  have hbyte (hc : c.toNat ≤ 127) : String.utf8EncodeChar c = [UInt8.ofNat c.toNat] := by
    simp only [String.utf8EncodeChar, ← Char.toNat_val, ite_eq_left_iff]
    intro hn
    exact absurd hc hn
  split_ifs at h with hdigit hlower hupper
  · cases h
    refine ⟨_, hbyte (by omega), ?_, by omega⟩
    simp only [hexToInt, UInt8.toNat_ofNat', Nat.mod_eq_of_lt (show c.toNat < 2 ^ 8 by omega)]
    rw [if_pos hdigit]
  · cases h
    refine ⟨_, hbyte (by omega), ?_, by omega⟩
    simp only [hexToInt, UInt8.toNat_ofNat', Nat.mod_eq_of_lt (show c.toNat < 2 ^ 8 by omega)]
    rw [if_neg hdigit, if_pos hlower]
    congr 1
    omega
  · cases h
    refine ⟨_, hbyte (by omega), ?_, by omega⟩
    simp only [hexToInt, UInt8.toNat_ofNat', Nat.mod_eq_of_lt (show c.toNat < 2 ^ 8 by omega)]
    rw [if_neg hdigit, if_neg hlower, if_pos hupper]
    congr 1
    omega

lemma hexToInt_of_ge {b : UInt8} (h : 128 ≤ b.toNat) : hexToInt b = none := by
  simp only [hexToInt]
  rw [if_neg (by omega), if_neg (by omega), if_neg (by omega)]

/-- Any other character has a byte that is none. -/
lemma utf8EncodeChar_other {c : Char} (h : hexDigit c = none) :
    ∃ b ∈ String.utf8EncodeChar c, hexToInt b = none := by
  rw [hexDigit_eq] at h
  simp only [String.utf8EncodeChar]
  split_ifs with hone htwo hthree
  · refine ⟨_, List.mem_singleton_self _, ?_⟩
    have hsmall : c.toNat < 2 ^ 8 := by
      have : c.toNat ≤ 127 := hone
      omega
    split_ifs at h with hdigit hlower hupper
    simp only [hexToInt, Char.toNat_val, UInt8.toNat_ofNat', Nat.mod_eq_of_lt hsmall]
    rw [if_neg hdigit, if_neg hlower, if_neg hupper]
  all_goals
    refine ⟨_, List.mem_cons_self, hexToInt_of_ge ?_⟩
    rw [UInt8.toNat_ofNat']
    omega

/-! ## Hexadecimal -/

lemma hexDecode_eq_none {text : Bytes} (h : ∃ b ∈ text, hexToInt b = none) :
    RioGram.hexDecode text = none := by
  induction text using RioGram.hexDecode.induct with
  | case1 => simp at h
  | case2 b => rfl
  | case3 a b s ih =>
      rcases h with ⟨c, hc, hnone⟩
      simp only [List.mem_cons] at hc
      rcases hc with rfl | rfl | hc
      · simp [RioGram.hexDecode, hnone]
      · simp [RioGram.hexDecode, hnone]
      · simp [RioGram.hexDecode, ih ⟨c, hc, hnone⟩]

/-- The app and TDLib decode hexadecimal alike. -/
lemma hexDecode_utf8EncodeChar (chars : List Char) :
    RioGram.hexDecode (chars.flatMap String.utf8EncodeChar) =
      (hexDecode chars).map fun decoded => decoded.map UInt8.ofNat := by
  induction chars using hexDecode.induct with
  | case1 => rfl
  | case2 c =>
      cases hc : hexDigit c with
      | none =>
          rcases utf8EncodeChar_other hc with ⟨b, hb, hnone⟩
          exact hexDecode_eq_none ⟨b, by simpa using hb, hnone⟩
      | some n =>
          rcases utf8EncodeChar_digit hc with ⟨b, hb, -, -⟩
          simp [hb, RioGram.hexDecode, hexDecode]
  | case3 high low rest ih =>
      cases hhigh : hexDigit high with
      | none =>
          rcases utf8EncodeChar_other hhigh with ⟨b, hb, hnone⟩
          rw [hexDecode_eq_none ⟨b, by simp [hb], hnone⟩]
          simp [hexDecode, hhigh]
      | some n =>
          cases hlow : hexDigit low with
          | none =>
              rcases utf8EncodeChar_other hlow with ⟨b, hb, hnone⟩
              rw [hexDecode_eq_none ⟨b, by simp [hb], hnone⟩]
              simp [hexDecode, hhigh, hlow]
          | some m =>
              rcases utf8EncodeChar_digit hhigh with ⟨x, hx, hn, -⟩
              rcases utf8EncodeChar_digit hlow with ⟨y, hy, hm, -⟩
              simp only [List.flatMap_cons, hx, hy, List.cons_append, List.nil_append,
                RioGram.hexDecode, hn, hm, ih, hexDecode, hhigh, hlow]
              cases hexDecode rest with
              | none => rfl
              | some decoded => simp [Nat.mul_comm]

/-- What is decoded are bytes, one for two characters. -/
lemma hexDecode_bytes {chars : List Char} {decoded : List ℕ} (h : hexDecode chars = some decoded) :
    (∀ byte ∈ decoded, byte < 256) ∧ chars.length = 2 * decoded.length := by
  induction chars using hexDecode.induct generalizing decoded with
  | case1 =>
      cases h
      simp
  | case2 c => cases h
  | case3 high low rest ih =>
      simp only [hexDecode, Option.bind_eq_bind, Option.bind_eq_some_iff] at h
      rcases h with ⟨n, hn, m, hm, others, hothers, h⟩
      cases h
      rcases utf8EncodeChar_digit hn with ⟨-, -, -, hn⟩
      rcases utf8EncodeChar_digit hm with ⟨-, -, -, hm⟩
      rcases ih hothers with ⟨hbytes, hlength⟩
      refine ⟨?_, ?_⟩
      · intro byte hbyte
        rcases List.mem_cons.mp hbyte with rfl | hbyte
        · omega
        · exact hbytes byte hbyte
      · simp only [List.length_cons, hlength]
        omega

lemma hexDigit_eq_fourteen {c : Char} : hexDigit c = some 14 ↔ c = 'e' ∨ c = 'E' := by
  constructor
  · intro h
    rw [hexDigit_eq] at h
    split_ifs at h with hdigit hlower hupper
    · have hcode := Option.some.inj h
      omega
    · have hcode := Option.some.inj h
      exact .inl (Char.ext (UInt32.toNat_inj.mp (show c.toNat = 101 by omega)))
    · have hcode := Option.some.inj h
      exact .inr (Char.ext (UInt32.toNat_inj.mp (show c.toNat = 69 by omega)))
  · rintro (rfl | rfl) <;> rfl

/-- The first byte is `0xee` exactly if the text begins so. -/
lemma head?_hexDecode {chars : List Char} {decoded : List ℕ} (h : hexDecode chars = some decoded)
    (hne : decoded ≠ []) :
    decoded.head? = some 0xEE ↔ ∀ c ∈ chars.take 2, c = 'e' ∨ c = 'E' := by
  cases chars using hexDecode.fun_cases with
  | case1 =>
      cases h
      exact absurd rfl hne
  | case2 c => cases h
  | case3 high low rest =>
      simp only [hexDecode, Option.bind_eq_bind, Option.bind_eq_some_iff] at h
      rcases h with ⟨n, hn, m, hm, others, hothers, h⟩
      cases h
      rcases utf8EncodeChar_digit hn with ⟨-, -, -, hn16⟩
      rcases utf8EncodeChar_digit hm with ⟨-, -, -, hm16⟩
      have hvalue : 16 * n + m = 0xEE ↔ n = 14 ∧ m = 14 := by omega
      simp only [List.head?_cons, Option.some_inj, hvalue, List.take_succ_cons, List.take_zero,
        List.forall_mem_cons, ← hexDigit_eq_fourteen, hn, hm, List.not_mem_nil, false_imp_iff,
        implies_true, and_true]

/-! ## Secrets -/

/-- An even number of hexadecimal digits. -/
def IsHex (text : String) : Prop :=
  text.length % 2 = 0 ∧ ∀ c ∈ text.toList, (hexDigit c).isSome

/-- A TLS secret in hexadecimal with a domain that is longer than TDLib takes. -/
def IsOverlong (text : String) : Prop :=
  IsHex text ∧ (∀ c ∈ text.toList.take 2, c = 'e' ∨ c = 'E') ∧
    2 * (17 + ProxySecret.maxDomainLength) < text.length

/-- A secret that is not too long, in base64 with either alphabet. -/
def IsBase64Secret (text : String) : Prop :=
  ¬ IsHex text ∧ ∃ isUrl raw, Spells isUrl (utf8 text) raw ∧ ProxySecret.accepted raw ∧
    raw.length ≤ 17 + ProxySecret.maxDomainLength

lemma isSome_hexDecode (chars : List Char) :
    (hexDecode chars).isSome ↔ chars.length % 2 = 0 ∧ ∀ c ∈ chars, (hexDigit c).isSome := by
  induction chars using hexDecode.induct with
  | case1 => simp [hexDecode]
  | case2 c => simp [hexDecode]
  | case3 high low rest ih =>
      cases hhigh : hexDigit high with
      | none => simp [hexDecode, hhigh]
      | some n =>
          cases hlow : hexDigit low with
          | none => simp [hexDecode, hhigh, hlow]
          | some m =>
              have hsome : (hexDecode (high :: low :: rest)).isSome = (hexDecode rest).isSome := by
                cases hrest : hexDecode rest <;> simp [hexDecode, hhigh, hlow, hrest]
              have hlength : (high :: low :: rest).length % 2 = rest.length % 2 := by
                simp only [List.length_cons]
                omega
              rw [hsome, hlength, ih]
              simp [hhigh, hlow]

lemma isHex_iff {text : String} : IsHex text ↔ (hexDecode text.toList).isSome :=
  (isSome_hexDecode text.toList).symm

lemma fromBinary_isOk {raw : Bytes} :
    (∃ secret, ProxySecret.fromBinary raw false = .ok secret) ↔
      ProxySecret.accepted raw ∧ raw.length ≤ 17 + ProxySecret.maxDomainLength := by
  simp only [ProxySecret.fromBinary, Bool.not_false, Bool.and_true, decide_eq_true_eq]
  by_cases hlong : raw.length > 17 + ProxySecret.maxDomainLength
  · rw [if_pos hlong]
    simp [hlong]
  · rw [if_neg hlong, List.take_of_length_le (by omega)]
    by_cases haccepted : ProxySecret.accepted raw
    · rw [if_pos haccepted]
      simp [haccepted, Nat.not_lt.mp hlong]
    · rw [if_neg haccepted]
      split_ifs <;> simp [haccepted]

/-- TDLib takes a text that is not hexadecimal if it is a secret in base64. -/
lemma fromLink_isOk_of_not_hex {text : String} (h : ¬ IsHex text) :
    (∃ secret, ProxySecret.fromLink (utf8 text) false = .ok secret) ↔ IsBase64Secret text := by
  have hnone : RioGram.hexDecode (utf8 text) = none := by
    rw [utf8_eq, hexDecode_utf8EncodeChar, Option.not_isSome_iff_eq_none.mp (mt isHex_iff.mpr h), Option.map_none]
  simp only [ProxySecret.fromLink, hnone, IsBase64Secret, ← base64Decode_eq_some_iff]
  cases hurl : base64Decode true (utf8 text) with
  | some raw =>
      simp only [Option.orElse_eq_orElse, Option.orElse_none, Option.orElse_some]
      rw [fromBinary_isOk]
      constructor
      · exact fun hraw => ⟨h, true, raw, hurl, hraw⟩
      · rintro ⟨-, isUrl, raw', hdecode, hraw⟩
        cases isUrl with
        | true =>
            cases hurl.symm.trans hdecode
            exact hraw
        | false =>
            cases base64Decode_agree hurl hdecode
            exact hraw
  | none =>
      cases hplain : base64Decode false (utf8 text) with
      | some raw =>
          simp only [Option.orElse_eq_orElse, Option.orElse_none]
          rw [fromBinary_isOk]
          constructor
          · exact fun hraw => ⟨h, false, raw, hplain, hraw⟩
          · rintro ⟨-, isUrl, raw', hdecode, hraw⟩
            cases isUrl with
            | true => simp [hurl] at hdecode
            | false =>
                cases hplain.symm.trans hdecode
                exact hraw
      | none =>
          refine iff_of_false (by simp) ?_
          rintro ⟨-, isUrl, raw', hdecode, -⟩
          cases isUrl with
          | true => simp [hurl] at hdecode
          | false => simp [hplain] at hdecode

/-- The app looks at the bytes as TDLib does. -/
lemma hasValidSecret_of_hex {proxy : ProxyConfig} {decoded : List ℕ}
    (h : hexDecode proxy.secret.toList = some decoded) :
    proxy.hasValidSecret ↔ ProxySecret.accepted (decoded.map UInt8.ofNat) := by
  have hhead (byte : ℕ) (hbyte : byte < 256) :
      (decoded.map UInt8.ofNat).head? = some (UInt8.ofNat byte) ↔ decoded.head? = some byte := by
    cases decoded with
    | nil => simp
    | cons first rest =>
        have hfirst := (hexDecode_bytes h).1 first List.mem_cons_self
        simp only [List.map_cons, List.head?_cons, Option.some_inj, ← UInt8.toNat_inj,
          UInt8.toNat_ofNat']
        omega
  have hdd := hhead 0xDD (by omega)
  have hee := hhead 0xEE (by omega)
  simp only [ProxyConfig.hasValidSecret, h, ProxySecret.accepted, List.length_map, Bool.or_eq_true,
    Bool.and_eq_true, beq_iff_eq, decide_eq_true_eq, ge_iff_le]
  exact or_congr (or_congr Iff.rfl (and_congr Iff.rfl hdd.symm)) (and_congr Iff.rfl hee.symm)

/-- **The app's check of a secret agrees with TDLib's** unless the secret is overlong or in base64. -/
theorem hasValidSecret_iff (proxy : ProxyConfig) :
    (proxy.hasValidSecret ↔ ∃ secret, ProxySecret.fromLink (utf8 proxy.secret) false = .ok secret) ↔
      ¬ IsOverlong proxy.secret ∧ ¬ IsBase64Secret proxy.secret := by
  by_cases hhex : IsHex proxy.secret
  · rcases Option.isSome_iff_exists.mp (isHex_iff.mp hhex) with ⟨decoded, hdecoded⟩
    have hbase64 : ¬ IsBase64Secret proxy.secret := fun h => h.1 hhex
    have hlink : ProxySecret.fromLink (utf8 proxy.secret) false =
        ProxySecret.fromBinary (decoded.map UInt8.ofNat) false := by
      simp [ProxySecret.fromLink, utf8_eq, hexDecode_utf8EncodeChar, hdecoded]
    rw [hlink, fromBinary_isOk, hasValidSecret_of_hex hdecoded, iff_true_intro hbase64, and_true,
      List.length_map]
    have hlength : proxy.secret.length = 2 * decoded.length := (hexDecode_bytes hdecoded).2
    by_cases hlong : decoded.length ≤ 17 + ProxySecret.maxDomainLength
    · refine iff_of_true (by simp [hlong]) ?_
      rintro ⟨-, -, h⟩
      omega
    · -- of the long ones only those that begin with `ee` pass the app's check
      have hne : decoded ≠ [] := by
        rintro rfl
        simp at hlong
      have haccepted : ProxySecret.accepted (decoded.map UInt8.ofNat) ↔
          ∀ c ∈ proxy.secret.toList.take 2, c = 'e' ∨ c = 'E' := by
        rw [← head?_hexDecode hdecoded hne, ← hasValidSecret_of_hex hdecoded]
        have hmax : ProxySecret.maxDomainLength = 182 := rfl
        simp only [ProxyConfig.hasValidSecret, hdecoded, Bool.or_eq_true, Bool.and_eq_true,
          beq_iff_eq, decide_eq_true_eq]
        constructor
        · rintro ((hshort | ⟨hshort, -⟩) | ⟨-, hee⟩)
          · omega
          · omega
          · exact hee
        · exact fun hee => .inr ⟨by omega, hee⟩
      rw [haccepted]
      simp only [hlong, and_false, iff_false, IsOverlong, hhex, true_and, not_and]
      constructor
      · exact fun h hee => absurd hee h
      · exact fun h hee => h hee (by omega)
  · have hoverlong : ¬ IsOverlong proxy.secret := fun h => hhex h.1
    have hinvalid : ¬ proxy.hasValidSecret := by
      simp [ProxyConfig.hasValidSecret, Option.not_isSome_iff_eq_none.mp (mt isHex_iff.mpr hhex)]
    rw [fromLink_isOk_of_not_hex hhex, iff_false_left hinvalid, iff_true_intro hoverlong, true_and]

/-- A TLS secret as TDLib itself writes it is refused by the app. -/
theorem base64_secret_refused :
    let proxy : ProxyConfig :=
      { name := "Phantom", host := "proxy.example", port := 443,
        secret := "7gAAAAAAAAAAAAAAAAAAAABnb29nbGUuY29t" }
    ¬ (proxy.hasValidSecret ↔
      ∃ secret, ProxySecret.fromLink (utf8 proxy.secret) false = .ok secret) := by
  intro proxy h
  have hvalid : ∃ secret, ProxySecret.fromLink (utf8 proxy.secret) false = .ok secret :=
    ⟨⟨0xee :: List.replicate 16 0 ++ utf8 "google.com"⟩, by decide +kernel⟩
  exact absurd (h.mpr hvalid) (by decide +kernel)

end RioGram.Proxies
