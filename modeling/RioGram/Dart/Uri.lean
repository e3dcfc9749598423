import Mathlib.Data.List.DropRight
import RioGram.Js.Strings

/-!
# URIs of Dart

`decodeComponent` takes the percent encoding away and reads what is left as UTF-8.  Of `Uri.tryParse` this is what
it makes of a plain URL: a scheme, a host of letters, digits, dots and hyphens, and maybe a port.  What it makes of
any other text is a parameter.

* `count_decodeComponent` — decoding keeps what there is of an ASCII character.
* `tryParseInt_intToString`, `tryParseInt_toInt` — a number is read as it is written.
* `tryParse_plain` — the parts of a plain URL.
-/

namespace Dart

open Js Wire

/-! ## UTF-8 -/

def isContinuation (b : UInt8) : Bool := 0x80 ≤ b && b < 0xc0

/-- The units of a code point. -/
def codeUnits (n : ℕ) : Str :=
  if n < 0x10000 then [UInt16.ofNat n]
  else [UInt16.ofNat (0xd800 + (n - 0x10000) / 0x400), UInt16.ofNat (0xdc00 + (n - 0x10000) % 0x400)]

/-- The code point of a first byte, less `base`, and the bytes that continue it. -/
def codePoint (base : ℕ) (first : UInt8) (others : Bytes) : ℕ :=
  others.foldl (fun n b => n * 0x40 + (b.toNat - 0x80)) (first.toNat - base)

/-- The character that a sequence of more than one byte stands for, and what comes after it.  It has to need all its
bytes, and it is no surrogate. -/
def decodeSequence (base size least : ℕ) (first : UInt8) (s : Bytes) : Option (Str × Bytes) :=
  let others := s.take size
  let n := codePoint base first others
  if others.length = size ∧ others.all isContinuation ∧ least ≤ n ∧ n < 0x110000 ∧ ¬(0xd800 ≤ n ∧ n < 0xe000) then
    some (codeUnits n, s.drop size)
  else none

def decodeOne : Bytes → Option (Str × Bytes)
  | [] => none
  | first :: s =>
      if first < 0x80 then some ([first.toUInt16], s)
      else if first < 0xe0 then decodeSequence 0xc0 1 0x80 first s
      else if first < 0xf0 then decodeSequence 0xe0 2 0x800 first s
      else decodeSequence 0xf0 3 0x10000 first s

/-- At most so many characters. -/
def decodeUpTo : ℕ → Bytes → Option Str
  | _, [] => some []
  | 0, _ :: _ => none
  | most + 1, b :: s => (decodeOne (b :: s)).bind fun (units, rest) => (decodeUpTo most rest).map (units ++ ·)

/-- Well-formed UTF-8. -/
def decodeUtf8 (bytes : Bytes) : Option Str := decodeUpTo bytes.length bytes

/-- `utf8.decode`, which takes a byte order mark away. -/
def utf8Decode (bytes : Bytes) : Option Str :=
  decodeUtf8 (if bytes.take 3 = [0xef, 0xbb, 0xbf] then bytes.drop 3 else bytes)

/-! ## Percent encoding -/

/-- The bytes that a text with percent encoding stands for; it has only ASCII units. -/
def percentDecode : Str → Option Bytes
  | [] => some []
  | c :: s =>
      if 0x80 ≤ c then none
      else if c = 37 then
        match s with
        | x :: y :: s =>
            (digitValue x).bind fun high => (digitValue y).bind fun low =>
              (percentDecode s).map (UInt8.ofNat (high * 16 + low) :: ·)
        | _ => none
      else (percentDecode s).map (c.toUInt8 :: ·)

/-- `Uri.decodeComponent`; there is no value where it throws. -/
def decodeComponent (s : Str) : Option Str := (percentDecode s).bind utf8Decode

lemma percentDecode_cons {c : UInt16} (hc : ¬0x80 ≤ c) (hne : c ≠ 37) (s : Str) :
    percentDecode (c :: s) = (percentDecode s).map (c.toUInt8 :: ·) := by
  simp only [percentDecode.eq_def (c :: s), if_neg hc, if_neg hne]

lemma percentDecode_percent (x y : UInt16) (s : Str) :
    percentDecode (37 :: x :: y :: s) = (digitValue x).bind fun high => (digitValue y).bind fun low =>
      (percentDecode s).map (UInt8.ofNat (high * 16 + low) :: ·) := by
  simp [percentDecode]

/-- What can be decoded is decoded whatever comes after it. -/
lemma percentDecode_append {s : Str} {bytes : Bytes} (h : percentDecode s = some bytes) (t : Str) :
    percentDecode (s ++ t) = (percentDecode t).map (bytes ++ ·) := by
  induction s using percentDecode.induct generalizing bytes with
  | case1 =>
      cases h
      simp
  | case2 c s hc =>
      simp only [percentDecode.eq_def (c :: s), if_pos hc] at h
      cases h
  | case3 x y s _ ih =>
      rw [percentDecode_percent] at h
      rw [List.cons_append, List.cons_append, List.cons_append, percentDecode_percent]
      cases hx : digitValue x with
      | none => simp [hx] at h
      | some high =>
          cases hy : digitValue y with
          | none => simp [hx, hy] at h
          | some low =>
              simp only [hx, hy, Option.bind_some, Option.map_eq_some_iff] at h
              rcases h with ⟨others, hothers, rfl⟩
              simp [ih hothers, Function.comp_def]
  | case4 s hshort _ =>
      rcases s with - | ⟨x, - | ⟨y, s⟩⟩
      · simp [percentDecode] at h
      · simp [percentDecode] at h
      · exact (hshort x y s rfl).elim
  | case5 c s hc hne ih =>
      rw [percentDecode_cons hc hne, Option.map_eq_some_iff] at h
      rcases h with ⟨others, hothers, rfl⟩
      rw [List.cons_append, percentDecode_cons hc hne, ih hothers]
      simp [Function.comp_def]

/-! ## What decoding keeps -/

/-- A code point beyond ASCII has no ASCII units. -/
lemma not_mem_codeUnits {n : ℕ} {c : UInt16} (hc : c.toNat < 0x80) (hn : 0x80 ≤ n) (hmax : n < 0x110000) :
    c ∉ codeUnits n := by
  intro h
  rw [codeUnits] at h
  split_ifs at h with hsmall
  · rw [List.mem_singleton] at h
    rw [h, UInt16.toNat_ofNat'] at hc
    omega
  · simp only [List.mem_cons, List.not_mem_nil, or_false] at h
    rcases h with h | h
    · rw [h, UInt16.toNat_ofNat'] at hc
      omega
    · rw [h, UInt16.toNat_ofNat'] at hc
      omega

lemma toUInt16_inj {a b : UInt8} : a.toUInt16 = b.toUInt16 ↔ a = b := by
  rw [← UInt16.toNat_inj, ← UInt8.toNat_inj, UInt8.toNat_toUInt16, UInt8.toNat_toUInt16]

/-- The bytes of a character have as many `c` as its units. -/
def KeepsCount (c : UInt8) (s : Bytes) (decoded : Str × Bytes) : Prop :=
  decoded.1.count c.toUInt16 + decoded.2.count c = s.count c

lemma decodeSequence_count {base size least : ℕ} {first c : UInt8} {s : Bytes} {decoded : Str × Bytes}
    (hc : c.toNat < 0x80) (hfirst : ¬first < 0x80)
    (h : decodeSequence base size least first s = some decoded) (hleast : 0x80 ≤ least) :
    KeepsCount c (first :: s) decoded := by
  rw [decodeSequence] at h
  split_ifs at h with hok
  cases h
  rcases hok with ⟨-, hothers, hmin, hmax, -⟩
  have hunit : c.toUInt16.toNat < 0x80 := by simpa using hc
  have hne : first ≠ c := by
    rintro rfl
    exact hfirst (UInt8.lt_iff_toNat_lt.mpr hc)
  have hnot : c ∉ s.take size := by
    intro hmem
    have hcont := List.all_eq_true.mp hothers c hmem
    rw [isContinuation, Bool.and_eq_true, decide_eq_true_eq, UInt8.le_iff_toNat_le] at hcont
    have hge : 128 ≤ c.toNat := hcont.1
    omega
  have hsplit : s.count c = (s.drop size).count c := by
    conv_lhs => rw [← List.take_append_drop size s]
    rw [List.count_append, List.count_eq_zero_of_not_mem hnot, Nat.zero_add]
  have hunits := List.count_eq_zero_of_not_mem (not_mem_codeUnits hunit (hleast.trans hmin) hmax)
  rw [KeepsCount, hunits, Nat.zero_add, List.count_cons_of_ne hne, hsplit]

lemma decodeOne_count {c : UInt8} {s : Bytes} {decoded : Str × Bytes} (hc : c.toNat < 0x80)
    (h : decodeOne s = some decoded) : KeepsCount c s decoded := by
  cases s with
  | nil => cases h
  | cons first s =>
      rw [decodeOne] at h
      split_ifs at h with hascii htwo hthree
      · cases h
        rw [KeepsCount, List.count_singleton, List.count_cons, Nat.add_comm]
        simp [toUInt16_inj]
      · exact decodeSequence_count hc hascii h (by omega)
      · exact decodeSequence_count hc hascii h (by omega)
      · exact decodeSequence_count hc hascii h (by omega)

/-- **An ASCII character is as often in a text as in its bytes.** -/
lemma decodeUpTo_count {most : ℕ} {bytes : Bytes} {s : Str} {c : UInt8} (hc : c.toNat < 0x80)
    (h : decodeUpTo most bytes = some s) : s.count c.toUInt16 = bytes.count c := by
  induction most generalizing bytes s with
  | zero =>
      cases bytes with
      | nil =>
          cases h
          rfl
      | cons b bytes => cases h
  | succ most ih =>
      cases bytes with
      | nil =>
          cases h
          rfl
      | cons b bytes =>
          simp only [decodeUpTo, Option.bind_eq_some_iff, Option.map_eq_some_iff] at h
          rcases h with ⟨decoded, hone, t, ht, rfl⟩
          have hfirst := decodeOne_count hc hone
          rw [List.count_append, ih ht]
          exact hfirst

lemma utf8Decode_count {bytes : Bytes} {s : Str} {c : UInt8} (hc : c.toNat < 0x80) (h : utf8Decode bytes = some s) :
    s.count c.toUInt16 = bytes.count c := by
  rw [utf8Decode, decodeUtf8] at h
  rw [decodeUpTo_count hc h]
  split_ifs with hmark
  · conv_rhs => rw [← List.take_append_drop 3 bytes, hmark]
    have hnot : c ∉ [0xef, 0xbb, 0xbf] := by
      intro hmem
      simp only [List.mem_cons, List.not_mem_nil, or_false] at hmem
      rcases hmem with rfl | rfl | rfl <;> exact absurd hc (by decide)
    rw [List.count_append, List.count_eq_zero_of_not_mem hnot, Nat.zero_add]
  · rfl

/-- Decoding keeps what there is of an ASCII character. -/
theorem count_decodeComponent {s t : Str} {c : UInt8} (hc : c.toNat < 0x80) (h : decodeComponent s = some t) :
    ∃ bytes, percentDecode s = some bytes ∧ t.count c.toUInt16 = bytes.count c := by
  rw [decodeComponent, Option.bind_eq_some_iff] at h
  rcases h with ⟨bytes, hbytes, ht⟩
  exact ⟨bytes, hbytes, utf8Decode_count hc ht⟩

/-! ## Numbers -/

def isDecimal (c : UInt16) : Bool := 48 ≤ c && c ≤ 57

/-- The unit of a character. -/
def unit (c : Char) : UInt16 := UInt16.ofNat c.toNat

lemma toNat_unit {c : Char} (hc : c.isDigit) : (unit c).toNat = c.toNat ∧ 48 ≤ c.toNat ∧ c.toNat ≤ 57 := by
  rw [Char.isDigit, Bool.and_eq_true, decide_eq_true_eq, decide_eq_true_eq] at hc
  have hmin : 48 ≤ c.toNat := UInt32.le_iff_toNat_le.mp hc.1
  have hmax : c.toNat ≤ 57 := UInt32.le_iff_toNat_le.mp hc.2
  refine ⟨?_, hmin, hmax⟩
  rw [unit, UInt16.toNat_ofNat']
  omega

lemma isDecimal_unit {c : Char} (hc : c.isDigit) : isDecimal (unit c) := by
  rcases toNat_unit hc with ⟨hunit, hmin, hmax⟩
  simp only [isDecimal, Bool.and_eq_true, decide_eq_true_eq, UInt16.le_iff_toNat_le, UInt16.reduceToNat]
  omega

lemma digitValue_of_isDecimal {c : UInt16} (hc : isDecimal c) : digitValue c = some (c.toNat - 48) := by
  rw [isDecimal] at hc
  rw [digitValue, if_pos hc]

lemma foldlM_digits {digits : List Char} (h : ∀ c ∈ digits, c.isDigit) (n : ℕ) :
    (digits.map unit).foldlM (fun n c => ((digitValue c).filter (· < 10)).map (n * 10 + ·)) n =
      some (Nat.ofDigitChars 10 digits n) := by
  induction digits generalizing n with
  | nil => simp
  | cons c digits ih =>
      have hc := h c List.mem_cons_self
      rcases toNat_unit hc with ⟨hunit, hmin, hmax⟩
      have hvalue : (digitValue (unit c)).filter (· < 10) = some (c.toNat - 48) := by
        rw [digitValue_of_isDecimal (isDecimal_unit hc), hunit, Option.filter_some, if_pos]
        exact decide_eq_true (by omega)
      rw [List.map_cons, List.foldlM_cons, hvalue, Option.map_some, Nat.ofDigitChars_cons, Nat.mul_comm 10]
      exact ih (fun d hd => h d (List.mem_cons_of_mem _ hd)) _

lemma intToString_natCast (n : ℕ) : intToString n = (Nat.toDigits 10 n).map unit := by
  rw [intToString, if_neg (by omega), List.nil_append]
  rfl

lemma isDecimal_of_mem {n : ℕ} {c : UInt16} (h : c ∈ intToString n) : isDecimal c := by
  rw [intToString_natCast, List.mem_map] at h
  rcases h with ⟨d, hd, rfl⟩
  exact isDecimal_unit (Nat.isDigit_of_mem_toDigits (by decide) (by decide) hd)

lemma intToString_ne_nil (n : ℕ) : intToString n ≠ [] := by
  simp [intToString_natCast, Nat.toDigits_ne_nil]

lemma parseDigits_intToString (n : ℕ) : parseDigits 10 (intToString n) = some n := by
  have hdigits : ∀ c ∈ Nat.toDigits 10 n, c.isDigit :=
    fun c hc => Nat.isDigit_of_mem_toDigits (by decide) (by decide) hc
  rw [parseDigits, if_neg (intToString_ne_nil n), intToString_natCast, foldlM_digits hdigits,
    Nat.ofDigitChars_ten_toDigits]

lemma toNat_of_isDecimal {c : UInt16} (hc : isDecimal c) : 48 ≤ c.toNat ∧ c.toNat ≤ 57 := by
  simpa [isDecimal, UInt16.le_iff_toNat_le] using hc

/-- Digits are no hexadecimal number. -/
lemma not_hex_intToString (n : ℕ) :
    ¬((intToString n).take 2 = ascii "0x" ∨ (intToString n).take 2 = ascii "0X") := by
  have hbase : ∀ x : UInt16, 57 < x.toNat → (intToString (n : ℤ)).take 2 ≠ [48, x] := by
    intro x hx h
    have hmem : x ∈ (intToString (n : ℤ)).take 2 := by simp [h]
    exact absurd (toNat_of_isDecimal (isDecimal_of_mem (List.mem_of_mem_take hmem))).2 (by omega)
  rintro (h | h)
  · exact hbase 120 (by decide) h
  · exact hbase 88 (by decide) h

/-- **A number is read as it is written.** -/
theorem tryParseInt_intToString {n : ℕ} (hn : n < 9223372036854775808) :
    tryParseInt (intToString n) = some (n : ℤ) := by
  have hdecimal : ∀ c ∈ intToString (n : ℤ), 48 ≤ c.toNat ∧ c.toNat ≤ 57 :=
    fun c hc => toNat_of_isDecimal (isDecimal_of_mem hc)
  have htrim : trimDart (intToString n) = intToString n := trimDart_eq_self fun c hc => by
    have h := hdecimal c hc
    exact isSpaceDart_eq_false (by omega) (by omega)
  have hsign : ∀ c, (intToString (n : ℤ)).head? = some c → c ≠ 45 ∧ c ≠ 43 := by
    intro c hc
    have h := hdecimal c (List.mem_of_head? hc)
    constructor
    · rintro rfl
      exact absurd h.1 (by decide)
    · rintro rfl
      exact absurd h.1 (by decide)
  have hneg : ¬(intToString (n : ℤ)).head? = some 45 := fun h => (hsign 45 h).1 rfl
  have hpos : ¬(intToString (n : ℤ)).head? = some 43 := fun h => (hsign 43 h).2 rfl
  have hrange : (n : ℤ) < 9223372036854775808 := by omega
  simp only [tryParseInt, htrim, hneg, hpos, or_self, if_false, if_neg (not_hex_intToString n),
    parseDigits_intToString]
  simp [hrange]

lemma intToString_neg {n : ℕ} (hn : 0 < n) : intToString (-n) = 45 :: intToString n := by
  rw [intToString_natCast, intToString, if_pos (by omega), Int.natAbs_neg]
  rfl

/-- A negative number too. -/
lemma tryParseInt_intToString_neg {n : ℕ} (hpos : 0 < n) (hn : n ≤ 9223372036854775808) :
    tryParseInt (intToString (-n)) = some (-n : ℤ) := by
  have htrim : trimDart (45 :: intToString n) = 45 :: intToString n := by
    refine trimDart_eq_self fun c hc => ?_
    rcases List.mem_cons.mp hc with rfl | hc
    · decide
    · have h := toNat_of_isDecimal (isDecimal_of_mem hc)
      exact isSpaceDart_eq_false (by omega) (by omega)
  have hrange : (n : ℤ) ≤ 9223372036854775808 := by omega
  have hnegative : -(n : ℤ) < 9223372036854775808 := by omega
  simp only [tryParseInt, intToString_neg hpos, htrim, List.head?_cons, true_or, if_true, List.tail_cons,
    if_neg (not_hex_intToString n), parseDigits_intToString]
  simp [hrange, hnegative]

/-- **All integers of 64 bits are read as they are written.** -/
theorem tryParseInt_toInt (i : Int64) : tryParseInt (intToString i.toInt) = some i.toInt := by
  have hmin := i.le_toInt
  have hmax := i.toInt_lt
  rcases Int.lt_or_le i.toInt 0 with hneg | hpos
  · rcases Int.exists_eq_neg_ofNat (Int.le_of_lt hneg) with ⟨n, hn⟩
    rw [hn]
    exact tryParseInt_intToString_neg (by omega) (by omega)
  · rcases Int.eq_ofNat_of_zero_le hpos with ⟨n, hn⟩
    rw [hn]
    exact tryParseInt_intToString (by omega)

/-! ## Plain URLs -/

/-- What is used of a `Uri`. -/
structure Uri where
  scheme : Str
  userInfo : Str := []
  host : Str
  port : ℤ
deriving DecidableEq

def isLetter (c : UInt16) : Bool := (97 ≤ c && c ≤ 122) || (65 ≤ c && c ≤ 90)

def isSchemeChar (c : UInt16) : Bool := isLetter c || isDecimal c || c = 43 || c = 45 || c = 46

/-- Letters, digits, and `-._~` -/
def isHostChar (c : UInt16) : Bool := isLetter c || isDecimal c || c = 45 || c = 46 || c = 95 || c = 126

/-- The `port` of a URL without one. -/
def Uri.defaultPort (scheme : Str) : ℤ :=
  if scheme = ascii "http" then 80 else if scheme = ascii "https" then 443 else 0

/-- A scheme, a host and maybe a port, and nothing else.  Schemes and hosts are in lower case. -/
def plainUri (text : Str) : Option Uri :=
  let scheme := text.takeWhile isSchemeChar
  let rest := text.dropWhile isSchemeChar
  let host := (rest.drop 3).takeWhile isHostChar
  if scheme.head?.any isLetter ∧ rest.take 3 = ascii "://" ∧ host ≠ [] then
    let uri : Uri :=
      { scheme := scheme.map toLower, host := host.map toLower, port := Uri.defaultPort (scheme.map toLower) }
    match (rest.drop 3).dropWhile isHostChar with
    | [] => some uri
    | c :: port =>
        if c = 58 ∧ port.all isDecimal then
          ((tryParseInt port).filter (· ≤ 65535)).map fun port => { uri with port }
        else none
  else none

/-- `Uri.tryParse`, which gives `other` for what is no plain URL. -/
def tryParse (other : Str → Option Uri) (text : Str) : Option Uri := plainUri text <|> other text

lemma takeWhile_append_cons {p : UInt16 → Bool} {front : Str} (h : ∀ c ∈ front, p c) {c : UInt16} (hc : p c = false)
    (rest : Str) : (front ++ c :: rest).takeWhile p = front ∧ (front ++ c :: rest).dropWhile p = c :: rest := by
  rw [List.takeWhile_append_of_pos h, List.dropWhile_append_of_pos h]
  simp [hc]

/-- **The parts of a plain URL.** -/
theorem tryParse_plain (other : Str → Option Uri) {scheme host : Str} {port : ℕ}
    (hscheme : ∀ c ∈ scheme, isSchemeChar c) (hletter : scheme.head?.any isLetter)
    (hhost : ∀ c ∈ host, isHostChar c) (hne : host ≠ []) (hport : port ≤ 65535) :
    tryParse other (scheme ++ (ascii "://" ++ (host ++ 58 :: intToString port))) =
      some { scheme := scheme.map toLower, host := host.map toLower, port } := by
  have hfront := takeWhile_append_cons hscheme (c := 58) (by decide) (ascii "//" ++ (host ++ 58 :: intToString port))
  have hback := takeWhile_append_cons hhost (c := 58) (by decide) (intToString port)
  have hdecimal : (intToString (port : ℤ)).all isDecimal := List.all_eq_true.mpr fun c hc => isDecimal_of_mem hc
  have hparse := tryParseInt_intToString (n := port) (by omega)
  have hplain : plainUri (scheme ++ 58 :: (ascii "//" ++ (host ++ 58 :: intToString port))) =
      some { scheme := scheme.map toLower, host := host.map toLower, port } := by
    have hdrop : (58 :: (ascii "//" ++ (host ++ 58 :: intToString port))).drop 3 = host ++ 58 :: intToString port := rfl
    have htake : (58 :: (ascii "//" ++ (host ++ 58 :: intToString port))).take 3 = ascii "://" := rfl
    simp only [plainUri, hfront.1, hfront.2, hdrop, htake, hback.1, hback.2]
    rw [if_pos ⟨hletter, trivial, hne⟩, if_pos ⟨trivial, hdecimal⟩, hparse, Option.filter_some, if_pos]
    · rfl
    · exact decide_eq_true (by omega)
  exact (congrArg (· <|> other _) hplain).trans rfl

end Dart
