import Mathlib.Algebra.Group.Int.Defs
import RioGram.Core.Trimming
import RioGram.Core.Wire

/-!
# Strings of UTF-16 units

Strings as JavaScript and Dart have them, which trim them differently, and their bytes.

* `trimDart_eq_of_count` — the two trim alike unless Dart takes a `NEL` away.
* `encodeUtf8_append` — the bytes of a string that is cut before an ASCII unit.
-/

namespace Js

open Wire Trimming

/-- A string, which may contain surrogates that are not paired. -/
abbrev Str := List UInt16

/-- The units of an ASCII string. -/
def ascii (s : String) : Str := s.toUTF8.data.toList.map UInt8.toUInt16

/-- The units of a string of the basic plane. -/
def units (s : String) : Str := s.toList.map fun c => UInt16.ofNat c.toNat

def hexDigit (n : ℕ) : UInt16 := if n < 10 then 48 + UInt16.ofNat n else 87 + UInt16.ofNat n

/-- ASCII lower case. -/
def toLower (c : UInt16) : UInt16 := if 65 ≤ c && c ≤ 90 then c + 32 else c

/-! ## Trimming -/

/-- White space and line terminators of ECMAScript. -/
def isSpace (c : UInt16) : Bool :=
  (9 ≤ c && c ≤ 13) || (0x2000 ≤ c && c ≤ 0x200a) ||
    [32, 0xa0, 0x1680, 0x2028, 0x2029, 0x202f, 0x205f, 0x3000, 0xfeff].contains c

/-- White space of Dart, which is that of Unicode: the control character `NEL` is one more. -/
def isSpaceDart (c : UInt16) : Bool := isSpace c || c = 0x85

/-- `String.prototype.trim`. -/
def trim (s : Str) : Str := trimBy isSpace s

/-- `String.trim` of Dart. -/
def trimDart (s : Str) : Str := trimBy isSpaceDart s

lemma isSpaceDart_of_isSpace {c : UInt16} (h : isSpace c) : isSpaceDart c := by
  simp [isSpaceDart, h]

lemma trimDart_eq_nil {s : Str} (h : trim s = []) : trimDart s = [] := by
  rw [trim, trimBy_eq_nil_iff] at h
  rw [trimDart, trimBy_eq_nil_iff]
  exact fun c hc => isSpaceDart_of_isSpace (h c hc)

lemma count_trim (s : Str) : (trim s).count 0x85 = s.count 0x85 := count_trimBy rfl s

/-- **The two trim alike** unless Dart takes a `NEL` away. -/
lemma trimDart_eq_of_count {s : Str} (h : (trimDart s).count 0x85 = s.count 0x85) :
    trimDart s = trim s := by
  refine trimBy_eq_of_count (fun c => isSpaceDart_of_isSpace) ?_ h
  intro c hdart hjs
  simpa [isSpaceDart, hjs] using hdart

/-- What is printed of ASCII is no white space. -/
lemma isSpaceDart_eq_false {c : UInt16} (hmin : 32 < c.toNat) (hmax : c.toNat < 127) : isSpaceDart c = false := by
  rw [Bool.eq_false_iff]
  intro h
  simp only [isSpaceDart, isSpace, Bool.or_eq_true, Bool.and_eq_true, decide_eq_true_eq, List.contains_iff_mem,
    List.mem_cons, List.not_mem_nil, or_false, UInt16.le_iff_toNat_le, ← UInt16.toNat_inj, UInt16.reduceToNat] at h
  omega

/-- A text without white space is trimmed already. -/
lemma trimDart_eq_self {s : Str} (h : ∀ c ∈ s, isSpaceDart c = false) : trimDart s = s := by
  cases s with
  | nil => rfl
  | cons c s =>
      have htrim := trimBy_append (List.cons_ne_nil c s) h []
      rwa [List.append_nil, List.rdropWhile_nil, List.append_nil] at htrim

/-! ## Numbers -/

def digitValue (c : UInt16) : Option ℕ :=
  if 48 ≤ c && c ≤ 57 then some (c.toNat - 48)
  else if 97 ≤ c && c ≤ 102 then some (c.toNat - 87)
  else if 65 ≤ c && c ≤ 70 then some (c.toNat - 55)
  else none

def parseDigits (base : ℕ) (digits : Str) : Option ℕ :=
  if digits = [] then none
  else digits.foldlM (fun n c => ((digitValue c).filter (· < base)).map (n * base + ·)) 0

/-- `int.tryParse`: 64 bits, with a sign, in decimal or with `0x`. -/
def tryParseInt (source : Str) : Option ℤ :=
  let text := trimDart source
  let negative := text.head? = some 45
  let digits := if text.head? = some 45 ∨ text.head? = some 43 then text.tail else text
  let signed := fun n : ℤ => if negative then -n else n
  if digits.take 2 = ascii "0x" ∨ digits.take 2 = ascii "0X" then
    ((parseDigits 16 (digits.drop 2)).filter (· < 2 ^ 64)).map fun n => (signed n).bmod (2 ^ 64)
  else ((parseDigits 10 digits).map fun n => signed n).filter fun n => -2 ^ 63 ≤ n ∧ n < 2 ^ 63

/-- `int.toString`. -/
def intToString (i : ℤ) : Str :=
  (if i < 0 then [45] else []) ++ (Nat.toDigits 10 i.natAbs).map fun c => UInt16.ofNat c.toNat

/-! ## The bytes of a string -/

def isHighSurrogate (c : UInt16) : Bool := 0xd800 ≤ c && c ≤ 0xdbff

def isLowSurrogate (c : UInt16) : Bool := 0xdc00 ≤ c && c ≤ 0xdfff

/-- A byte of a sequence of more than one. -/
def continuation (n : Nat) : UInt8 := UInt8.ofNat (0x80 + n % 0x40)

/-- The bytes of a unit that is not part of a pair.  A surrogate becomes the replacement character. -/
def encodeUnit (c : UInt16) : Bytes :=
  let n := c.toNat
  if n < 0x80 then [UInt8.ofNat n]
  else if n < 0x800 then [UInt8.ofNat (0xc0 + n / 0x40), continuation n]
  else if isHighSurrogate c || isLowSurrogate c then [0xef, 0xbf, 0xbd]
  else [UInt8.ofNat (0xe0 + n / 0x1000), continuation (n / 0x40), continuation n]

/-- The bytes of a pair of surrogates. -/
def encodePair (high low : UInt16) : Bytes :=
  let n := 0x10000 + (high.toNat - 0xd800) * 0x400 + (low.toNat - 0xdc00)
  [UInt8.ofNat (0xf0 + n / 0x40000), continuation (n / 0x1000), continuation (n / 0x40), continuation n]

/-- The UTF-8 encoding. -/
def encodeUtf8 : Str → Bytes
  | [] => []
  | [c] => encodeUnit c
  | c :: d :: s =>
      if isHighSurrogate c && isLowSurrogate d then encodePair c d ++ encodeUtf8 s
      else encodeUnit c ++ encodeUtf8 (d :: s)

lemma continuation_ge (n : Nat) : 0x80 ≤ continuation n := by
  rw [UInt8.le_iff_toNat_le, continuation, UInt8.toNat_ofNat']
  simp only [UInt8.reduceToNat]
  omega

/-- A unit beyond ASCII has no byte of ASCII. -/
lemma encodeUnit_ge {c : UInt16} (h : ¬ c.toNat < 0x80) {b : UInt8} (hb : b ∈ encodeUnit c) :
    0x80 ≤ b := by
  have hc := c.toNat_lt
  simp only [encodeUnit, if_neg h] at hb
  split_ifs at hb with htwo hsurrogate
  · simp only [List.mem_cons, List.not_mem_nil, or_false] at hb
    rcases hb with rfl | rfl
    · rw [UInt8.le_iff_toNat_le, UInt8.toNat_ofNat']
      simp only [UInt8.reduceToNat]
      omega
    · exact continuation_ge _
  · simp only [List.mem_cons, List.not_mem_nil, or_false] at hb
    rcases hb with rfl | rfl | rfl <;> decide
  · simp only [List.mem_cons, List.not_mem_nil, or_false] at hb
    rcases hb with rfl | rfl | rfl
    · rw [UInt8.le_iff_toNat_le, UInt8.toNat_ofNat']
      simp only [UInt8.reduceToNat]
      omega
    · exact continuation_ge _
    · exact continuation_ge _

lemma encodePair_ge {high low : UInt16} (hhigh : isHighSurrogate high) {b : UInt8}
    (hb : b ∈ encodePair high low) : 0x80 ≤ b := by
  simp only [isHighSurrogate, Bool.and_eq_true, decide_eq_true_eq, UInt16.le_iff_toNat_le] at hhigh
  have hlow := low.toNat_lt
  simp only [encodePair, List.mem_cons, List.not_mem_nil, or_false] at hb
  simp only [UInt16.reduceToNat] at hhigh
  rcases hb with rfl | rfl | rfl | rfl
  · rw [UInt8.le_iff_toNat_le, UInt8.toNat_ofNat']
    simp only [UInt8.reduceToNat]
    omega
  · exact continuation_ge _
  · exact continuation_ge _
  · exact continuation_ge _

lemma encodeUnit_ascii {c : UInt16} (h : c.toNat < 0x80) : encodeUnit c = [c.toUInt8] := by
  simp only [encodeUnit, if_pos h]
  rfl

lemma encodeUnit_ne_nil (c : UInt16) : encodeUnit c ≠ [] := by
  simp only [encodeUnit]
  split_ifs <;> simp

lemma not_high_of_ascii {c : UInt16} (h : c.toNat < 0x80) : isHighSurrogate c = false := by
  simp only [isHighSurrogate, Bool.and_eq_false_iff, decide_eq_false_iff_not, UInt16.le_iff_toNat_le,
    UInt16.reduceToNat]
  omega

lemma not_low_of_ascii {c : UInt16} (h : c.toNat < 0x80) : isLowSurrogate c = false := by
  simp only [isLowSurrogate, Bool.and_eq_false_iff, decide_eq_false_iff_not, UInt16.le_iff_toNat_le,
    UInt16.reduceToNat]
  omega

lemma encodeUtf8_cons {c : UInt16} (h : c.toNat < 0x80) (s : Str) :
    encodeUtf8 (c :: s) = c.toUInt8 :: encodeUtf8 s := by
  cases s with
  | nil => simp [encodeUtf8, encodeUnit_ascii h]
  | cons d s => simp [encodeUtf8, encodeUnit_ascii h, not_high_of_ascii h]

/-- **The bytes of a string that is cut** before an ASCII unit. -/
lemma encodeUtf8_append (s : Str) {c : UInt16} (h : c.toNat < 0x80) (t : Str) :
    encodeUtf8 (s ++ c :: t) = encodeUtf8 s ++ encodeUtf8 (c :: t) := by
  induction s using encodeUtf8.induct with
  | case1 => rfl
  | case2 d => simp [encodeUtf8, not_low_of_ascii h]
  | case3 d e s hpair ih =>
      simp only [List.cons_append, encodeUtf8, hpair, if_true, ih, List.append_assoc]
  | case4 d e s hpair ih =>
      rw [List.cons_append] at ih
      simp only [List.cons_append, encodeUtf8, if_neg hpair, ih, List.append_assoc]

/-- An ASCII string in front. -/
lemma encodeUtf8_ascii_append {front : Str} (h : ∀ c ∈ front, c.toNat < 0x80) (s : Str) :
    encodeUtf8 (front ++ s) = front.map UInt16.toUInt8 ++ encodeUtf8 s := by
  induction front with
  | nil => rfl
  | cons c front ih =>
      rw [List.cons_append, encodeUtf8_cons (h c List.mem_cons_self),
        ih fun d hd => h d (List.mem_cons_of_mem _ hd)]
      rfl

/-- A unit has a byte in the encoding, which is the unit or not ASCII. -/
lemma exists_mem_encodeUtf8 {s : Str} {c : UInt16} (h : c ∈ s) :
    ∃ b ∈ encodeUtf8 s, b = c.toUInt8 ∧ c.toNat < 0x80 ∨ 0x80 ≤ b := by
  have hunit (d : UInt16) : ∃ b ∈ encodeUnit d, b = d.toUInt8 ∧ d.toNat < 0x80 ∨ 0x80 ≤ b := by
    by_cases hd : d.toNat < 0x80
    · exact ⟨d.toUInt8, by simp [encodeUnit_ascii hd], .inl ⟨rfl, hd⟩⟩
    · obtain ⟨b, hb⟩ := List.exists_mem_of_ne_nil _ (encodeUnit_ne_nil d)
      exact ⟨b, hb, .inr (encodeUnit_ge hd hb)⟩
  induction s using encodeUtf8.induct with
  | case1 => exact nomatch h
  | case2 d =>
      rw [List.mem_singleton] at h
      subst h
      exact hunit c
  | case3 d e s hpair ih =>
      simp only [encodeUtf8, hpair, if_true, List.mem_append]
      rw [Bool.and_eq_true] at hpair
      have hfirst : ∃ b, b ∈ encodePair d e ∧ 0x80 ≤ b :=
        ⟨_, List.mem_cons_self, encodePair_ge hpair.1 List.mem_cons_self⟩
      rcases hfirst with ⟨first, hmem, hge⟩
      exact ⟨first, .inl hmem, .inr hge⟩
  | case4 d e s hpair ih =>
      simp only [encodeUtf8, if_neg hpair, List.mem_append]
      rcases List.mem_cons.mp h with rfl | h
      · rcases hunit c with ⟨b, hb, hc⟩
        exact ⟨b, .inl hb, hc⟩
      · rcases ih h with ⟨b, hb, hc⟩
        exact ⟨b, .inr hb, hc⟩

lemma encodeUtf8_ne_nil {s : Str} (h : s ≠ []) : encodeUtf8 s ≠ [] := by
  obtain ⟨c, others, rfl⟩ := List.exists_cons_of_ne_nil h
  rcases exists_mem_encodeUtf8 (List.mem_cons_self (a := c) (l := others)) with ⟨b, hb, -⟩
  exact List.ne_nil_of_mem hb

/-- The last byte is that of the last unit. -/
lemma getLast?_encodeUtf8 {s : Str} {c : UInt16} (h : c.toNat < 0x80) :
    (encodeUtf8 s).getLast? = some c.toUInt8 ↔ s.getLast? = some c := by
  constructor
  · intro hlast
    have hsmall : ¬ 0x80 ≤ c.toUInt8 := by
      simp only [UInt8.le_iff_toNat_le, UInt16.toNat_toUInt8, UInt8.reduceToNat]
      omega
    have hunit (d : UInt16) (hd : (encodeUnit d).getLast? = some c.toUInt8) : d = c := by
      by_cases hascii : d.toNat < 0x80
      · rw [encodeUnit_ascii hascii, List.getLast?_singleton, Option.some_inj] at hd
        have hsame := congrArg UInt8.toNat hd
        simp only [UInt16.toNat_toUInt8] at hsame
        apply UInt16.toNat_inj.mp
        omega
      · exact absurd (encodeUnit_ge hascii (List.mem_of_getLast? hd)) hsmall
    induction s using encodeUtf8.induct with
    | case1 => exact nomatch hlast
    | case2 d => rw [hunit d hlast, List.getLast?_singleton]
    | case3 d e s hpair ih =>
        simp only [encodeUtf8, hpair, if_true, List.getLast?_append] at hlast
        rw [Bool.and_eq_true] at hpair
        rcases s with _ | ⟨f, s⟩
        · exact absurd (encodePair_ge hpair.1 (List.mem_of_getLast? hlast)) hsmall
        · rw [List.getLast?_eq_some_getLast (encodeUtf8_ne_nil (List.cons_ne_nil f s)),
            Option.some_or] at hlast
          rw [List.getLast?_cons_cons, List.getLast?_cons_cons]
          apply ih
          rw [List.getLast?_eq_some_getLast (encodeUtf8_ne_nil (List.cons_ne_nil f s)), hlast]
    | case4 d e s hpair ih =>
        simp only [encodeUtf8, if_neg hpair, List.getLast?_append] at hlast
        rw [List.getLast?_eq_some_getLast (encodeUtf8_ne_nil (List.cons_ne_nil e s)),
          Option.some_or] at hlast
        rw [List.getLast?_cons_cons]
        apply ih
        rw [List.getLast?_eq_some_getLast (encodeUtf8_ne_nil (List.cons_ne_nil e s)), hlast]
  · intro hlast
    rcases List.getLast?_eq_some_iff.mp hlast with ⟨front, rfl⟩
    rw [encodeUtf8_append front h, encodeUtf8_cons h, encodeUtf8, List.getLast?_append]
    rfl

end Js
