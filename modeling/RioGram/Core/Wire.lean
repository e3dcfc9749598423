import Mathlib.Computability.Language

/-!
# Byte strings and length-driven readers

The vocabulary of binary formats whose fields announce their own length: big-endian lengths,
readers that consume a prefix of the input, and `Reads`, the statement that a reader gives a
value back from one particular encoding *whatever follows it*.

`Reads` is the form every round-trip fact takes here, because it composes: two encodings in a
row are read by the two readers in a row, and a list of encodings is read by `many`.  A reader
that must consume the input to its last byte is `whole`.

`vector16` and `shuffled` are the languages of length-prefixed strings and of strings whose
parts come in an arbitrary order; they describe what a writer may produce, as `Reads` describes
what a reader accepts.
-/

namespace Wire

/-- A byte string. -/
abbrev Bytes := List UInt8

/-- A reader takes a value off the front of its input, or fails. -/
abbrev Reader (α : Type*) := Bytes → Option (α × Bytes)

/-! ## Big-endian numbers -/

/-- The two-byte big-endian form of a length. -/
def be16 (n : ℕ) : Bytes := [UInt8.ofNat (n / 256), UInt8.ofNat n]

@[simp] lemma length_be16 (n : ℕ) : (be16 n).length = 2 := rfl

/-! ## Readers -/

/-- One byte. -/
def u8 : Reader ℕ
  | [] => none
  | a :: s => some (a.toNat, s)

/-- The number two bytes stand for. -/
def word (a b : UInt8) : ℕ := a.toNat * 256 + b.toNat

/-- Two bytes, big-endian. -/
def u16 : Reader ℕ
  | a :: b :: s => some (word a b, s)
  | _ => none

/-- Three bytes, big-endian. -/
def u24 : Reader ℕ
  | a :: b :: c :: s => some (a.toNat * 65536 + b.toNat * 256 + c.toNat, s)
  | _ => none

/-- Exactly `n` bytes. -/
def bytes : ℕ → Reader Bytes
  | 0, s => some ([], s)
  | _ + 1, [] => none
  | n + 1, a :: s => (bytes n s).map fun p => (a :: p.1, p.2)

/-- A string announced by a length that the reader `len` gives. -/
def vec (len : Reader ℕ) : Reader Bytes := fun s => (len s).bind fun p => bytes p.1 p.2

/-- Two readers in a row. -/
def pair {α β : Type*} (r : Reader α) (q : Reader β) : Reader (α × β) := fun s =>
  (r s).bind fun p => (q p.2).map fun p' => ((p.1, p'.1), p'.2)

/-- A reader whose value has to pass the check `f`, which also says what to make of it. -/
def checked {α β : Type*} (r : Reader α) (f : α → Option β) : Reader β := fun s =>
  (r s).bind fun p => (f p.1).map (·, p.2)

/-- Exactly the string `w`. -/
def lit (w : Bytes) : Reader Unit :=
  checked (bytes w.length) fun s => if s = w then some () else none

/-- The check that a list has at least one element. -/
def nonempty {α : Type*} : List α → Option (List α)
  | [] => none
  | a :: as => some (a :: as)

/-- A reader that has to consume its whole input. -/
def whole {α : Type*} (r : Reader α) (s : Bytes) : Option α :=
  (r s).bind fun p => if p.2 = [] then some p.1 else none

/-- `r` again and again until the input is empty.  Every reader in use consumes at least one
byte, so as many rounds as there are bytes are enough. -/
def many {α : Type*} (r : Reader α) (s : Bytes) : Option (List α) := go s.length s
where
  go : ℕ → Bytes → Option (List α)
    | _, [] => some []
    | 0, _ :: _ => none
    | n + 1, s@(_ :: _) => (r s).bind fun p => (go n p.2).map (p.1 :: ·)

/-! ## Reading back an encoding -/

/-- `r` reads `a` off the encoding `w`, whatever follows `w`. -/
def Reads {α : Type*} (r : Reader α) (w : Bytes) (a : α) : Prop :=
  ∀ rest, r (w ++ rest) = some (a, rest)

lemma reads_u16 {n : ℕ} (h : n < 65536) : Reads u16 (be16 n) n := by
  intro rest
  have hhi : n / 256 % 256 = n / 256 := Nat.mod_eq_of_lt (by omega)
  simp only [be16, List.cons_append, List.nil_append, u16, word, UInt8.toNat_ofNat', Option.some.injEq,
    Prod.mk.injEq, and_true]
  omega

lemma reads_u24 {n : ℕ} (h : n < 65536) : Reads u24 (0 :: be16 n) n := by
  intro rest
  have hhi : n / 256 % 256 = n / 256 := Nat.mod_eq_of_lt (by omega)
  simp only [be16, List.cons_append, List.nil_append, u24, UInt8.toNat_ofNat', UInt8.toNat_zero,
    Option.some.injEq, Prod.mk.injEq, and_true]
  omega

lemma reads_u8 (a : UInt8) : Reads u8 [a] a.toNat := fun _ => rfl

lemma reads_bytes (w : Bytes) : Reads (bytes w.length) w w := by
  intro rest
  induction w with
  | nil => rfl
  | cons a w ih => simp only [List.length_cons, List.cons_append, bytes, ih, Option.map_some]

lemma reads_vec {len : Reader ℕ} {l w : Bytes} (h : Reads len l w.length) :
    Reads (vec len) (l ++ w) w := by
  intro rest
  rw [List.append_assoc, vec, h (w ++ rest)]
  exact reads_bytes w rest

lemma reads_vec16 {w : Bytes} (h : w.length < 65536) : Reads (vec u16) (be16 w.length ++ w) w :=
  reads_vec (reads_u16 h)

lemma reads_pair {α β : Type*} {r : Reader α} {q : Reader β} {v w : Bytes} {a : α} {b : β}
    (hr : Reads r v a) (hq : Reads q w b) : Reads (pair r q) (v ++ w) (a, b) := by
  intro rest
  rw [List.append_assoc, pair, hr (w ++ rest), Option.bind_some, hq rest, Option.map_some]

/-- Once the first component has been read, the pair is what the second reader does. -/
lemma pair_append {α β : Type*} {r : Reader α} {q : Reader β} {v : Bytes} {a : α}
    (hr : Reads r v a) (s : Bytes) :
    pair r q (v ++ s) = (q s).map fun p => ((a, p.1), p.2) := by
  rw [pair, hr s, Option.bind_some]

lemma reads_checked {α β : Type*} {r : Reader α} {f : α → Option β} {w : Bytes} {a : α} {b : β}
    (hr : Reads r w a) (hf : f a = some b) : Reads (checked r f) w b := by
  intro rest
  rw [checked, hr rest, Option.bind_some, hf, Option.map_some]

/-- A value that does not pass its check makes the reader fail. -/
lemma checked_eq_none {α β : Type*} {r : Reader α} {f : α → Option β} {w s : Bytes} {a : α}
    (hr : Reads r w a) (hf : f a = none) : checked r f (w ++ s) = none := by
  rw [checked, hr s, Option.bind_some, hf, Option.map_none]

lemma reads_lit (w : Bytes) : Reads (lit w) w () :=
  reads_checked (reads_bytes w) (if_pos rfl)

lemma nonempty_eq_some {α : Type*} {as : List α} (h : as ≠ []) : nonempty as = some as := by
  obtain ⟨a, as, rfl⟩ := List.exists_cons_of_ne_nil h
  rfl

lemma whole_eq_none {α : Type*} {r : Reader α} {s : Bytes} (h : r s = none) : whole r s = none := by
  rw [whole, h, Option.bind_none]

/-- What is left to be read whole behind a component that has been read. -/
lemma whole_pair_append {α β : Type*} {r : Reader α} {q : Reader β} {v : Bytes} {a : α}
    (hr : Reads r v a) (s : Bytes) : whole (pair r q) (v ++ s) = (whole q s).map (a, ·) := by
  rw [whole, whole, pair_append hr]
  rcases q s with _ | ⟨b, t⟩
  · rfl
  · by_cases ht : t = [] <;> simp [ht]

lemma whole_checked {α β : Type*} (r : Reader α) (f : α → Option β) (s : Bytes) :
    whole (checked r f) s = (whole r s).bind f := by
  rw [whole, whole, checked]
  rcases r s with _ | ⟨a, t⟩
  · rfl
  · by_cases ht : t = [] <;> cases hf : f a <;> simp [ht, hf]

lemma whole_of_reads {α : Type*} {r : Reader α} {w : Bytes} {a : α} (h : Reads r w a) :
    whole r w = some a := by
  have h' := h []
  rw [List.append_nil] at h'
  rw [whole, h', Option.bind_some, if_pos rfl]

/-! ### Lists of encodings -/

section Many

variable {α : Type*} {r : Reader α}

/-- The encodings `ws` are read as the values `as`, one by one; none of them is empty. -/
def ReadsList (r : Reader α) : List Bytes → List α → Prop :=
  List.Forall₂ fun w a => w ≠ [] ∧ Reads r w a

lemma many_go_flatten : ∀ {ws : List Bytes} {as : List α}, ReadsList r ws as →
    ∀ (n : ℕ) (s : Bytes), ws.flatten.length ≤ n →
      many.go r (n + s.length) (ws.flatten ++ s) = (many.go r (n + s.length - ws.length) s).map
        (as ++ ·)
  | _, _, .nil, n, s, _ => by
      simp
  | w :: ws, a :: as, .cons ⟨hne, hw⟩ hrest, n, s, hn => by
      obtain ⟨b, w', rfl⟩ := List.exists_cons_of_ne_nil hne
      simp only [List.flatten_cons, List.length_append, List.length_cons] at hn
      obtain ⟨m, rfl⟩ : ∃ m, n = m + 1 := ⟨n - 1, by omega⟩
      have ih := many_go_flatten hrest m s (by omega)
      have hread := hw (ws.flatten ++ s)
      rw [List.flatten_cons, List.append_assoc, show m + 1 + s.length = m + s.length + 1 by omega]
      rw [List.cons_append] at hread ⊢
      rw [many.go, hread, Option.bind_some, ih, Option.map_map]
      simp only [List.length_cons, Function.comp_def, List.cons_append]
      congr 2
      omega

/-- **`many` inverts concatenation**: it reads a string of encodings as the list of values. -/
theorem many_flatten {ws : List Bytes} {as : List α} (h : ReadsList r ws as) :
    many r ws.flatten = some as := by
  have hgo := many_go_flatten h ws.flatten.length [] le_rfl
  simpa [many, many.go] using hgo

/-- After good encodings, one that cannot be read makes `many` fail. -/
lemma many_eq_none {ws : List Bytes} {as : List α} {s : Bytes} (h : ReadsList r ws as)
    (hne : s ≠ []) (hs : r s = none) : many r (ws.flatten ++ s) = none := by
  obtain ⟨b, s, rfl⟩ := List.exists_cons_of_ne_nil hne
  rw [many, List.length_append, many_go_flatten h _ _ le_rfl]
  cases ws.flatten.length + (b :: s).length - ws.length with
  | zero => rfl
  | succ n => rw [many.go, hs]; rfl

end Many

/-! ## Languages of what a writer may produce -/

/-- The strings of `n` arbitrary bytes. -/
def anyOf (n : ℕ) : Language UInt8 := {w | w.length = n}

/-- A string of `L` behind its own two-byte length. -/
def vector16 (L : Language UInt8) : Language UInt8 := {w | ∃ x ∈ L, w = be16 x.length ++ x}

/-- One string of each language, in any order. -/
def shuffled (Ls : List (Language UInt8)) : Language UInt8 :=
  {w | ∃ ws, List.Forall₂ (· ∈ ·) ws Ls ∧ ∃ vs : List Bytes, vs.Perm ws ∧ w = vs.flatten}

end Wire
