import RioGram.Core.Cuts
import RioGram.Tls.TlsInit

/-!
# The response to the hello, arrival by arrival

`wait_hello_response` runs after each arrival on all the bytes that the server has sent so far.  It walks
over a clone of the input buffer, cuts the buffer only when both records are there, and calls
`on_tls_handshake_failure` where it rejects.  Here a run also says what is left in the buffer and how often
the failure has been reported; `waitHelloResponse_eq` is the link to the run that only gives the answer.

**Framing.**  The walk ends behind the records exactly when the buffer starts with them
(`skipParts_eq_ok_iff`).

**More bytes.**  What has been skipped or refused stays so whatever arrives behind it
(`skipParts_append`), so two arrivals are as good as one: `arrive_append`.
-/

namespace RioGram

open Wire Cuts

namespace TlsInit

/-- What a run has come to. -/
inductive Verdict where
  | waiting | prefixError | hashMismatch | accepted
  deriving DecidableEq, Repr

/-- The actor while it waits for the response. -/
structure Waiting where
  /-- `fd_.input_buffer()` -/
  input : Bytes := []
  verdict : Verdict := .waiting
  /-- how often `on_tls_handshake_failure` has been called -/
  failures : ℕ := 0
  deriving DecidableEq, Repr

/-- The response after `std::fill` of the slice at 11 that holds `responseRand`. -/
def zeroed (response responseRand : Bytes) : Bytes :=
  response.take 11 ++ List.replicate responseRand.length 0 ++ response.drop (11 + responseRand.length)

section Arrivals

variable (hmacSha256 : Bytes → Bytes → Bytes) (password helloRand : Bytes)

/-- `wait_hello_response`; `none` is a failed `CHECK`. -/
def waitForResponse (w : Waiting) : Option Waiting :=
  match skipParts responsePrefixes w.input with
  | .error (.failed _) => some { w with verdict := .prefixError, failures := w.failures + 1 }
  | .error _ => some w
  | .ok it => do
      let response := w.input.take (w.input.length - it.length)
      let responseRand ← substr response 11 32
      if hmacSha256 password (helloRand ++ zeroed response responseRand) = responseRand then
        some { w with input := it, verdict := .accepted }
      else some { w with input := it, verdict := .hashMismatch, failures := w.failures + 1 }

/-- The server's next bytes.  An actor that has come to a verdict has stopped: what arrives later stays in
the buffer. -/
def arrive (w : Waiting) (chunk : Bytes) : Option Waiting :=
  let w := { w with input := w.input ++ chunk }
  if w.verdict = .waiting then waitForResponse hmacSha256 password helloRand w else some w

end Arrivals

/-! ## Framing -/

/-- A record that starts with `start`: its length in two bytes, and as many bytes. -/
def IsRecord (start record : Bytes) : Prop :=
  ∃ high low body, record = start ++ high :: low :: body ∧ body.length = high.toNat * 256 + low.toNat

/-- The records that start with `starts`, one behind the other. -/
def AreRecords : List Bytes → Bytes → Prop
  | [], bytes => bytes = []
  | start :: starts, bytes => ∃ record rest, bytes = record ++ rest ∧ IsRecord start record ∧ AreRecords starts rest

/-- The answer to a part that does not start as it should. -/
def invalidPart : HelloResponse := .failed "First part of response to hello is invalid"

/-- Bytes that are enough for a header are one, with what is behind it. -/
lemma exists_header {it start : Bytes} (h : ¬ it.length < start.length + 2) :
    ∃ front high low tail, it = front ++ high :: low :: tail ∧ front.length = start.length := by
  have hlength : (it.drop start.length).length = it.length - start.length := List.length_drop
  match hdrop : it.drop start.length with
  | [] => rw [hdrop, List.length_nil] at hlength; omega
  | [_] => rw [hdrop, List.length_singleton] at hlength; omega
  | high :: low :: tail =>
      refine ⟨it.take start.length, high, low, tail, ?_, ?_⟩
      · rw [← hdrop, List.take_append_drop]
      · rw [List.length_take]
        omega

lemma skipParts_short {it start : Bytes} (starts : List Bytes) (h : it.length < start.length + 2) :
    skipParts (start :: starts) it = .error .incomplete := by
  rw [skipParts, if_pos h]

/-- One round of the loop, at a header. -/
lemma skipParts_header {front start : Bytes} (starts : List Bytes) (high low : UInt8) (tail : Bytes)
    (h : front.length = start.length) :
    skipParts (start :: starts) (front ++ high :: low :: tail) =
      if front ≠ start then .error invalidPart
      else if tail.length < high.toNat * 256 + low.toNat then .error .incomplete
      else skipParts starts (tail.drop (high.toNat * 256 + low.toNat)) := by
  have hlong : ¬ (front ++ high :: low :: tail).length < start.length + 2 := by
    simp only [List.length_append, List.length_cons]
    omega
  rw [skipParts, if_neg hlong, ← h, List.take_left, List.drop_left]
  rfl

/-- **The walk ends behind the records.** -/
lemma skipParts_eq_ok_iff (starts : List Bytes) (it rest : Bytes) :
    skipParts starts it = .ok rest ↔ ∃ records, AreRecords starts records ∧ it = records ++ rest := by
  induction starts generalizing it with
  | nil =>
      constructor
      · intro h
        exact ⟨[], rfl, Except.ok.inj h⟩
      · rintro ⟨_, rfl, rfl⟩
        rfl
  | cons start starts ih =>
      constructor
      · intro h
        by_cases hshort : it.length < start.length + 2
        · rw [skipParts_short starts hshort] at h
          cases h
        · obtain ⟨front, high, low, tail, rfl, hfront⟩ := exists_header hshort
          rw [skipParts_header starts high low tail hfront] at h
          split_ifs at h with hstart hbody
          rw [ne_eq, not_not] at hstart
          subst hstart
          obtain ⟨records, hrecords, htail⟩ := (ih _).mp h
          have hbodylength : (tail.take (high.toNat * 256 + low.toNat)).length = high.toNat * 256 + low.toNat := by
            rw [List.length_take]
            omega
          refine ⟨_, ⟨_, records, rfl, ⟨high, low, _, rfl, hbodylength⟩, hrecords⟩, ?_⟩
          simp only [List.append_assoc, List.cons_append, ← htail, List.take_append_drop]
      · rintro ⟨_, ⟨_, records, rfl, ⟨high, low, body, rfl, hbody⟩, hrecords⟩, rfl⟩
        rw [List.append_assoc, List.append_assoc, List.cons_append, List.cons_append,
          skipParts_header starts high low _ rfl, if_neg (by simp),
          if_neg (by simp only [List.length_append]; omega), ← hbody, List.drop_left]
        exact (ih _).mpr ⟨records, hrecords, rfl⟩

/-- The two records of a response have room for the five bytes before each length and more. -/
lemma AreRecords.length_le {records : Bytes} (h : AreRecords responsePrefixes records) : 16 ≤ records.length := by
  obtain ⟨_, _, rfl, ⟨_, _, _, rfl, -⟩, ⟨_, _, rfl, ⟨_, _, _, rfl, -⟩, -⟩⟩ := h
  simp only [List.length_append, List.length_cons, List.length_nil]
  omega

/-! ## More bytes -/

/-- A part that is skipped or refused stays so when more bytes arrive, and a skipped one leaves them. -/
lemma skipParts_append (starts : List Bytes) (it more : Bytes) :
    (∀ rest, skipParts starts it = .ok rest → skipParts starts (it ++ more) = .ok (rest ++ more)) ∧
      (skipParts starts it = .error invalidPart → skipParts starts (it ++ more) = .error invalidPart) := by
  induction starts generalizing it with
  | nil =>
      refine ⟨fun rest h => ?_, fun h => (by cases h)⟩
      rw [skipParts, Except.ok.inj h]
  | cons start starts ih =>
      by_cases hshort : it.length < start.length + 2
      · rw [skipParts_short starts hshort]
        exact ⟨fun _ h => (by cases h), fun h => (by cases h)⟩
      · obtain ⟨front, high, low, tail, rfl, hfront⟩ := exists_header hshort
        rw [List.append_assoc, List.cons_append, List.cons_append, skipParts_header starts _ _ _ hfront,
          skipParts_header starts _ _ _ hfront]
        by_cases hstart : front ≠ start
        · rw [if_pos hstart, if_pos hstart]
          exact ⟨fun _ h => (by cases h), fun _ => rfl⟩
        · rw [if_neg hstart, if_neg hstart]
          by_cases hbody : tail.length < high.toNat * 256 + low.toNat
          · rw [if_pos hbody]
            exact ⟨fun _ h => (by cases h), fun h => (by cases h)⟩
          · rw [if_neg hbody, if_neg (by rw [List.length_append]; omega),
              List.drop_append_of_le_length (by omega)]
            exact ih _

/-- The walk by itself only waits or refuses. -/
lemma skipParts_error {starts : List Bytes} {it : Bytes} {response : HelloResponse}
    (h : skipParts starts it = .error response) : response = .incomplete ∨ response = invalidPart := by
  induction starts generalizing it with
  | nil => cases h
  | cons start starts ih =>
      by_cases hshort : it.length < start.length + 2
      · rw [skipParts_short starts hshort] at h
        exact Or.inl (Except.error.inj h).symm
      · obtain ⟨front, high, low, tail, rfl, hfront⟩ := exists_header hshort
        rw [skipParts_header starts _ _ _ hfront] at h
        split_ifs at h
        · exact Or.inr (Except.error.inj h).symm
        · exact Or.inl (Except.error.inj h).symm
        · exact ih h

/-! ## Runs -/

section Runs

variable (hmacSha256 : Bytes → Bytes → Bytes) (password helloRand : Bytes)

/-- The digest in the response is the right one. -/
def DigestMatches (response : Bytes) : Prop :=
  hmacSha256 password (helloRand ++ zeroed response ((response.drop 11).take 32)) = (response.drop 11).take 32

instance (response : Bytes) : Decidable (DigestMatches hmacSha256 password helloRand response) :=
  inferInstanceAs (Decidable (_ = _))

/-- What becomes of a whole response, with `it` behind it. -/
def judge (w : Waiting) (response it : Bytes) : Waiting :=
  if DigestMatches hmacSha256 password helloRand response then { w with input := it, verdict := .accepted }
  else { w with input := it, verdict := .hashMismatch, failures := w.failures + 1 }

lemma judge_cases (w : Waiting) (response it : Bytes) :
    judge hmacSha256 password helloRand w response it = { w with input := it, verdict := .accepted } ∨
      judge hmacSha256 password helloRand w response it =
        { w with input := it, verdict := .hashMismatch, failures := w.failures + 1 } := by
  rw [judge]
  split_ifs
  · exact Or.inl rfl
  · exact Or.inr rfl

/-- The judgement does not depend on what is behind the response. -/
lemma arrive_judge (w : Waiting) (response it input more : Bytes) :
    arrive hmacSha256 password helloRand (judge hmacSha256 password helloRand { w with input } response it) more =
      some (judge hmacSha256 password helloRand w response (it ++ more)) := by
  by_cases h : DigestMatches hmacSha256 password helloRand response
  · rw [judge, if_pos h, judge, if_pos h]
    rfl
  · rw [judge, if_neg h, judge, if_neg h]
    rfl

/-- The slice of the response's random bytes is inside the response. -/
lemma substr_records {records : Bytes} (h : AreRecords responsePrefixes records) :
    substr records 11 32 = some ((records.drop 11).take 32) :=
  if_pos (le_trans (by omega) h.length_le)

/-- With both records in the buffer the run cuts them off and judges them. -/
lemma waitForResponse_records (w : Waiting) {records it : Bytes} (h : AreRecords responsePrefixes records)
    (hinput : w.input = records ++ it) :
    waitForResponse hmacSha256 password helloRand w =
      some (judge hmacSha256 password helloRand w records it) := by
  have hparts : skipParts responsePrefixes w.input = .ok it :=
    (skipParts_eq_ok_iff _ _ _).mpr ⟨records, h, hinput⟩
  have hresponse : w.input.take (w.input.length - it.length) = records := by
    rw [hinput, List.length_append, Nat.add_sub_cancel, List.take_left]
  rw [waitForResponse, hparts]
  simp only [hresponse, substr_records h, Option.bind_eq_bind, Option.bind_some]
  by_cases hdigest : DigestMatches hmacSha256 password helloRand records
  · rw [judge, if_pos hdigest]
    exact if_pos hdigest
  · rw [judge, if_neg hdigest]
    exact if_neg hdigest

/-- Without them it leaves the buffer as it is: it waits, or it refuses. -/
lemma waitForResponse_cases (w : Waiting) :
    skipParts responsePrefixes w.input = .error .incomplete ∧
        waitForResponse hmacSha256 password helloRand w = some w ∨
      skipParts responsePrefixes w.input = .error invalidPart ∧
        waitForResponse hmacSha256 password helloRand w =
          some { w with verdict := .prefixError, failures := w.failures + 1 } ∨
      ∃ records it, AreRecords responsePrefixes records ∧ w.input = records ++ it := by
  cases hparts : skipParts responsePrefixes w.input with
  | error response =>
      rcases skipParts_error hparts with rfl | rfl
      · exact Or.inl ⟨rfl, by rw [waitForResponse, hparts]⟩
      · exact Or.inr (Or.inl ⟨rfl, by rw [waitForResponse, hparts, invalidPart]⟩)
  | ok it =>
      obtain ⟨records, hrecords, hinput⟩ := (skipParts_eq_ok_iff _ _ _).mp hparts
      exact Or.inr (Or.inr ⟨records, it, hrecords, hinput⟩)

/-- **Two arrivals are as good as one.** -/
lemma arrive_append (w : Waiting) (first second : Bytes) :
    (arrive hmacSha256 password helloRand w first).bind (arrive hmacSha256 password helloRand · second) =
      arrive hmacSha256 password helloRand w (first ++ second) := by
  by_cases hwaiting : w.verdict = .waiting
  · have hfirst : arrive hmacSha256 password helloRand w first =
        waitForResponse hmacSha256 password helloRand { w with input := w.input ++ first } := if_pos hwaiting
    have hboth : arrive hmacSha256 password helloRand w (first ++ second) =
        waitForResponse hmacSha256 password helloRand { w with input := w.input ++ first ++ second } := by
      rw [List.append_assoc]
      exact if_pos hwaiting
    have hmore := skipParts_append responsePrefixes (w.input ++ first) second
    rw [hfirst, hboth]
    rcases waitForResponse_cases hmacSha256 password helloRand { w with input := w.input ++ first } with
      ⟨-, hrun⟩ | ⟨hparts, hrun⟩ | ⟨records, it, hrecords, hinput⟩
    · rw [hrun]
      exact if_pos hwaiting
    · rw [hrun, waitForResponse, hmore.2 hparts]
      rfl
    · have hinput' : w.input ++ first ++ second = records ++ (it ++ second) := by
        rw [← List.append_assoc, ← hinput]
      rw [waitForResponse_records hmacSha256 password helloRand _ hrecords hinput,
        waitForResponse_records hmacSha256 password helloRand _ hrecords hinput', Option.bind_some, arrive_judge]
      rfl
  · rw [arrive, if_neg hwaiting, arrive, if_neg hwaiting, Option.bind_some, arrive, if_neg hwaiting,
      List.append_assoc]

/-- So a run is as good as one arrival of all it has got. -/
lemma foldlM_arrive (w : Waiting) (chunk : Bytes) (chunks : List Bytes) :
    (chunk :: chunks).foldlM (arrive hmacSha256 password helloRand) w =
      arrive hmacSha256 password helloRand w (chunk :: chunks).flatten := by
  induction chunks generalizing w chunk with
  | nil =>
      rw [List.foldlM_cons, List.flatten_cons, List.flatten_nil, List.append_nil]
      exact bind_pure _
  | cons next chunks ih =>
      have hrest : ∀ w, (next :: chunks).foldlM (arrive hmacSha256 password helloRand) w =
          arrive hmacSha256 password helloRand w (next :: chunks).flatten := fun w => ih w next
      rw [List.foldlM_cons, List.flatten_cons, ← arrive_append]
      simp only [hrest, Option.bind_eq_bind]

/-- The first whole response is cut off, accepted or rejected, and the rejection is reported. -/
lemma judge_first (input records it : Bytes) :
    let final := judge hmacSha256 password helloRand { input } records it
    final.input = it ∧ (final.verdict = .accepted ∨ final.verdict = .hashMismatch) ∧
      final.failures = if final.verdict = .prefixError ∨ final.verdict = .hashMismatch then 1 else 0 := by
  rcases judge_cases hmacSha256 password helloRand { input } records it with h | h
  · rw [h]
    exact ⟨rfl, Or.inl rfl, rfl⟩
  · rw [h]
    exact ⟨rfl, Or.inr rfl, rfl⟩

end Runs

/-- The answer that a run stands for. -/
def Waiting.response (w : Waiting) : HelloResponse :=
  match w.verdict with
  | .waiting => .incomplete
  | .prefixError => invalidPart
  | .hashMismatch => .failed "Response hash mismatch"
  | .accepted => .accepted w.input

/-- **Without the buffer and the reports, a run is the one that only gives the answer.** -/
theorem waitHelloResponse_eq (hmacSha256 : Bytes → Bytes → Bytes) (password helloRand input : Bytes) :
    (waitForResponse hmacSha256 password helloRand { input }).map Waiting.response =
      some (waitHelloResponse hmacSha256 password helloRand input) := by
  rcases waitForResponse_cases hmacSha256 password helloRand { input } with
    ⟨hparts, hrun⟩ | ⟨hparts, hrun⟩ | ⟨records, it, hrecords, hinput⟩
  · rw [hrun, waitHelloResponse, hparts]
    rfl
  · rw [hrun, waitHelloResponse, hparts]
    rfl
  · change input = records ++ it at hinput
    subst hinput
    have hparts : skipParts responsePrefixes (records ++ it) = .ok it :=
      (skipParts_eq_ok_iff _ _ _).mpr ⟨records, hrecords, rfl⟩
    have hresponse : (records ++ it).take ((records ++ it).length - it.length) = records := by
      rw [List.length_append, Nat.add_sub_cancel, List.take_left]
    rw [waitForResponse_records hmacSha256 password helloRand _ hrecords rfl, waitHelloResponse, hparts]
    simp only [hresponse, Option.map_some]
    by_cases hdigest : DigestMatches hmacSha256 password helloRand records
    · rw [judge, if_pos hdigest]
      exact congrArg some (if_pos hdigest).symm
    · rw [judge, if_neg hdigest]
      exact congrArg some (if_neg hdigest).symm

end TlsInit

end RioGram
