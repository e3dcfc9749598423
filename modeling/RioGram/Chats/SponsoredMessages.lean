import RioGram.Chats.Models
import RioGram.Dart.Integers

/-!
# Sponsored messages on the platforms

The numbers of messages tell what they are, and `AdBlockFilter` reads them as TDLib does, but with the integers that
the platform has.  On the web the bounds of the range do not fit.

* `AgreesWithTdlib` — the sponsored messages are detected and removed, and the valid ones are kept.
* `agreesWithTdlib_iff` says when, and `no_message_is_sponsored_on_web` that on the web none is.
-/

namespace RioGram.Chats

open Dart

/-! ## TDLib -/

namespace MessageId

/-- `static_cast<int64>(std::numeric_limits<int32>::max()) << SERVER_ID_SHIFT`. -/
def max : ℤ := (BitVec.ofInt 64 2147483647 <<< 20).toInt

/-- `id & TYPE_MASK`. -/
def typeOf (id : ℤ) : ℤ := (BitVec.ofInt 64 id &&& 7#64).toInt

/-- `id & FULL_TYPE_MASK`. -/
def fullTypeOf (id : ℤ) : ℤ := (BitVec.ofInt 64 id &&& 1048575#64).toInt

def typeYetUnsent : ℤ := 1

def typeLocal : ℤ := 2

def isValid (id : ℤ) : Bool :=
  if id ≤ 0 ∨ max < id then false
  else if fullTypeOf id = 0 then true
  else typeOf id = typeYetUnsent ∨ typeOf id = typeLocal

def isValidSponsored (id : ℤ) : Bool :=
  if id ≤ max ∨ (BitVec.ofInt 64 1 <<< 51).toInt < id then false else typeOf id = typeLocal

end MessageId

/-! ## The filter -/

namespace AdBlockFilter

variable (runtime : Runtime)

def maxServerMessageIdOn : ℤ := runtime.shl 2147483647 20

def maxSponsoredMessageIdOn : ℤ := runtime.shl 1 51

def sponsoredMessageTypeMask : ℤ := 2

def isSponsoredMessageOn (message : ChatMessage) : Bool :=
  if message.id ≤ maxServerMessageIdOn runtime ∨ maxSponsoredMessageIdOn runtime < message.id then false
  else runtime.land message.id 7 = sponsoredMessageTypeMask

def filterMessagesOn (messages : List ChatMessage) : List ChatMessage :=
  messages.filter (!isSponsoredMessageOn runtime ·)

/-- The filter agrees with TDLib about the messages of a list. -/
structure AgreesWithTdlib (messages : List ChatMessage) : Prop where
  detects : ∀ message ∈ messages, isSponsoredMessageOn runtime message = MessageId.isValidSponsored message.id
  removes : filterMessagesOn runtime messages = messages.filter (!MessageId.isValidSponsored ·.id)
  keeps : ∀ message ∈ messages, MessageId.isValid message.id → message ∈ filterMessagesOn runtime messages

variable {runtime} {message : ChatMessage} {messages : List ChatMessage}

/-! ## When they agree -/

/-- Where integers have 64 bits, the code is that of TDLib. -/
lemma isSponsoredMessageOn_native (message : ChatMessage) :
    isSponsoredMessageOn .native message = MessageId.isValidSponsored message.id := rfl

/-- It is the filter of the other components. -/
lemma isSponsoredMessage_eq (message : ChatMessage) :
    isSponsoredMessage message = isSponsoredMessageOn .native message := by
  rw [isSponsoredMessageOn_native, isSponsoredMessage, isSponsored, MessageId.isValidSponsored, MessageId.typeOf,
    and_seven]
  have hserver : MessageId.max = maxServerMessageId := by decide
  have hsponsored : (BitVec.ofInt 64 1 <<< 51).toInt = maxSponsoredMessageId := by decide
  rw [hserver, hsponsored]
  split_ifs with hrange
  · simp only [Bool.and_eq_false_iff, decide_eq_false_iff_not]
    omega
  · rw [not_or, Int.not_le, Int.not_lt] at hrange
    simp only [hrange, decide_true, Bool.true_and, MessageId.typeLocal]
    rfl

/-- No number is above the one bound of the web and below the other, which is zero. -/
lemma isSponsoredMessageOn_web (message : ChatMessage) : isSponsoredMessageOn .web message = false := by
  have hserver : maxServerMessageIdOn .web = 4293918720 := by decide
  have hsponsored : maxSponsoredMessageIdOn .web = 0 := by decide
  rw [isSponsoredMessageOn, hserver, hsponsored, if_pos]
  omega

/-- A valid message is below the sponsored ones. -/
lemma not_isValidSponsored_of_isValid {id : ℤ} (h : MessageId.isValid id) : MessageId.isValidSponsored id = false := by
  refine if_pos (.inl ?_)
  by_contra hmax
  rw [MessageId.isValid, if_pos (.inr (Int.not_le.mp hmax))] at h
  cases h

lemma isSponsoredMessageOn_of_isValid (h : MessageId.isValid message.id) :
    isSponsoredMessageOn runtime message = false := by
  cases runtime with
  | native => exact (isSponsoredMessageOn_native message).trans (not_isValidSponsored_of_isValid h)
  | web => exact isSponsoredMessageOn_web message

/-- **The platforms on which the filter agrees with TDLib**: where integers have 64 bits, or nothing is sponsored. -/
theorem agreesWithTdlib_iff (runtime : Runtime) (messages : List ChatMessage) :
    AgreesWithTdlib runtime messages ↔
      runtime = .native ∨ ∀ message ∈ messages, MessageId.isValidSponsored message.id = false := by
  have hall : (∀ message ∈ messages, isSponsoredMessageOn runtime message = MessageId.isValidSponsored message.id) ↔
      runtime = .native ∨ ∀ message ∈ messages, MessageId.isValidSponsored message.id = false := by
    cases runtime with
    | native => exact iff_of_true (fun message _ => isSponsoredMessageOn_native message) (.inl rfl)
    | web =>
        simp only [isSponsoredMessageOn_web, reduceCtorEq, false_or]
        exact forall₂_congr fun _ _ => eq_comm
  constructor
  · exact fun h => hall.mp h.detects
  · intro h
    have hdetects := hall.mpr h
    refine ⟨hdetects, List.filter_congr fun message hmem => by rw [hdetects message hmem], ?_⟩
    intro message hmem hvalid
    rw [filterMessagesOn, List.mem_filter, isSponsoredMessageOn_of_isValid hvalid]
    exact ⟨hmem, rfl⟩

/-- A message with the number. -/
def messageWithId (id : ℤ) : ChatMessage where
  id := id
  chatId := 42
  content := { kind := .text, preview := "Реклама" }
  date := 0
  isOutgoing := false

/-- The message of the tests, with the number after the largest of the server: on the web it is not sponsored. -/
theorem no_message_is_sponsored_on_web :
    let message := messageWithId (MessageId.max + 10)
    MessageId.isValidSponsored message.id = true ∧ isSponsoredMessageOn .web message = false ∧
      filterMessagesOn .web [message] = [message] ∧ ¬AgreesWithTdlib .web [message] := by
  refine ⟨by decide, by decide, by decide, fun h => ?_⟩
  exact absurd (h.detects _ List.mem_cons_self) (by decide)

end AdBlockFilter

end RioGram.Chats
