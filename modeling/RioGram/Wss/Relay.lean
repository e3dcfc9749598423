import RioGram.Wss.Proxy

/-!
# The relay of the WSS proxy

What `proxyWebSocket` does once the client's handshake is done.  It connects to the other side, and two goroutines
copy messages, one in each direction, while the handler waits for the first of them to end; then it closes both
connections, and the goroutine that is left ends on its own.  All sessions change one counter, which `/health`
shows.

A session is run with the steps of its goroutines, of the handler and of the two sides in any order, and reading and
writing may fail at any time.

* `relay_spec`: in each direction what has been sent is what has been received, at most one message on its way, and
  what nothing has read yet; and the counter is right.
* `closed_stays`: nothing gets through when a session has ended.
* `relay_delivers`: everything that has been sent can get through.
-/

namespace RioGram.Wss

open Wire

/-- The types of messages that `ReadMessage` returns. -/
inductive MessageType where
  | text
  | binary
  deriving DecidableEq

structure Message where
  messageType : MessageType
  payload : Bytes
  deriving DecidableEq

/-- The two sides of a session. -/
inductive Side where
  | client
  | upstream
  deriving DecidableEq

def Side.other : Side → Side
  | .client => .upstream
  | .upstream => .client

@[simp] lemma Side.other_other (side : Side) : side.other.other = side := by cases side <;> rfl

/-- `websocket.Conn`: what the side has sent, what of it has not been read, what has been written to it, and whether it
has been closed here. -/
structure Conn where
  sent : List Message := []
  unread : List Message := []
  received : List Message := []
  closed : Bool := false

/-- Where a goroutine is in `copyFrames`; one that has ended may have lost the message that it could not write. -/
inductive Copy where
  | reading
  | writing (message : Message)
  | ended (lost : Option Message)
  deriving DecidableEq

/-- The message that is on its way. -/
def Copy.inFlight : Copy → List Message
  | .reading => []
  | .writing message => [message]
  | .ended lost => lost.toList

def Copy.hasEnded : Copy → Bool
  | .ended _ => true
  | _ => false

/-- Where the handler is: it has connected, or not, waits for an error, or closes the connections. -/
inductive Phase where
  | dialing
  | refused
  | relaying
  | closing
  | returned
  deriving DecidableEq

/-- The goroutines have been started. -/
def Phase.started : Phase → Bool
  | .dialing | .refused => false
  | _ => true

/-- The session has been counted. -/
def Phase.counted : Phase → Bool
  | .relaying | .closing => true
  | _ => false

/-- A call of `proxyWebSocket` with the connection of the client; `copy side` is the goroutine that reads from a side,
and `errc` how many values are in the channel. -/
structure Session where
  host : Bytes
  phase : Phase := .dialing
  conn : Side → Conn := fun _ => {}
  copy : Side → Copy := fun _ => .reading
  errc : ℕ := 0

/-- What the client is told when the other side cannot be reached. -/
def upstreamFailed (host : Bytes) : Message :=
  { messageType := .text
    payload := utf8 "\x7b\"error\":\"upstream_failed\",\"host\":\"" ++ host ++ utf8 "\"\x7d" }

namespace Session

/-- A step of the handler, of a goroutine, or of one of the sides. -/
inductive Event where
  | dialFails (written : Bool)
  | dialSucceeds
  | sends (side : Side) (message : Message)
  | reads (side : Side)
  | readFails (side : Side)
  | writes (side : Side)
  | writeFails (side : Side)
  | receives
  | closes (side : Side)
  | leaves

def setConn (s : Session) (side : Side) (conn : Conn) : Session :=
  { s with conn := Function.update s.conn side conn }

def setCopy (s : Session) (side : Side) (copy : Copy) : Session :=
  { s with copy := Function.update s.copy side copy }

/-- The session after a step, and what is added to `activeConns`.  A step that is not possible changes nothing. -/
def step (s : Session) : Event → Session × ℤ
  | .dialFails written =>
      if s.phase = .dialing then
        let received := if written then (s.conn .client).received ++ [upstreamFailed s.host]
          else (s.conn .client).received
        ({ s with phase := .refused }.setConn .client { s.conn .client with received := received, closed := true }, 0)
      else (s, 0)
  | .dialSucceeds => if s.phase = .dialing then ({ s with phase := .relaying }, 1) else (s, 0)
  | .sends side message =>
      if side = .client ∨ s.phase.started then
        (s.setConn side { s.conn side with
          sent := (s.conn side).sent ++ [message], unread := (s.conn side).unread ++ [message] }, 0)
      else (s, 0)
  | .reads side =>
      if s.phase.started ∧ s.copy side = .reading then
        match (s.conn side).unread with
        | [] => (s, 0)
        | message :: unread =>
            ((s.setConn side { s.conn side with unread := unread }).setCopy side (.writing message), 0)
      else (s, 0)
  | .readFails side =>
      if s.phase.started ∧ s.copy side = .reading then
        ({ s with errc := s.errc + 1 }.setCopy side (.ended none), 0)
      else (s, 0)
  | .writes side =>
      match s.copy side with
      | .writing message =>
          if (s.conn side.other).closed then (s, 0)
          else
            ((s.setConn side.other { s.conn side.other with
              received := (s.conn side.other).received ++ [message] }).setCopy side .reading, 0)
      | _ => (s, 0)
  | .writeFails side =>
      match s.copy side with
      | .writing message => ({ s with errc := s.errc + 1 }.setCopy side (.ended (some message)), 0)
      | _ => (s, 0)
  | .receives =>
      if s.phase = .relaying ∧ 0 < s.errc then ({ s with phase := .closing, errc := s.errc - 1 }, 0) else (s, 0)
  | .closes side =>
      if s.phase = .closing ∧ (side = .client ∨ (s.conn .client).closed) then
        (s.setConn side { s.conn side with closed := true }, 0)
      else (s, 0)
  | .leaves =>
      if s.phase = .closing ∧ (s.conn .upstream).closed then ({ s with phase := .returned }, -1) else (s, 0)

end Session

/-- `Proxy`, with the sessions that there have been. -/
structure Proxy where
  sessions : List Session := []
  activeConns : ℤ := 0

namespace Proxy

/-- The client's handshake is done, or a session takes a step. -/
inductive Event where
  | upgrade (host : Bytes)
  | session (i : ℕ) (event : Session.Event)

def step (p : Proxy) : Event → Proxy
  | .upgrade host => { p with sessions := p.sessions ++ [{ host := host }] }
  | .session i event =>
      match p.sessions[i]? with
      | none => p
      | some s =>
          { sessions := p.sessions.set i (s.step event).1, activeConns := p.activeConns + (s.step event).2 }

end Proxy

/-! ## One session -/

namespace Session

/-- One for a goroutine that has ended. -/
def endedCount (s : Session) : ℕ := (s.copy .client).hasEnded.toNat + (s.copy .upstream).hasEnded.toNat

/-- What holds of a session at any time. -/
structure Sound (s : Session) : Prop where
  conserved : s.phase ≠ .refused → ∀ side,
    (s.conn side).sent = (s.conn side.other).received ++ ((s.copy side).inFlight ++ (s.conn side).unread)
  refused : s.phase = .refused →
    (s.conn .client).received = [] ∨ (s.conn .client).received = [upstreamFailed s.host]
  idle : s.phase.started = false → ∀ side, s.copy side = .reading
  unanswered : s.phase = .dialing → (s.conn .client).received = []
  errc : s.errc + (s.phase = .closing ∨ s.phase = .returned : Bool).toNat = s.endedCount
  opened : s.phase = .dialing ∨ s.phase = .relaying → ∀ side, (s.conn side).closed = false
  closed : s.phase = .returned → ∀ side, (s.conn side).closed = true
  order : (s.conn .upstream).closed = true → (s.conn .client).closed = true

lemma sound_start (host : Bytes) : Sound { host := host } where
  conserved _ _ := rfl
  refused h := by cases h
  idle _ _ := rfl
  unanswered _ := rfl
  errc := rfl
  opened _ _ := rfl
  closed h := by cases h
  order h := by cases h

lemma Sound.dialFails {s : Session} (h : s.Sound) (written : Bool) : (s.step (.dialFails written)).1.Sound := by
  rw [step]
  split_ifs with hphase
  all_goals try exact h
  all_goals
    have herrc := h.errc
    have hreceived := h.unanswered hphase
    refine ⟨fun hne => absurd rfl hne, fun _ => ?_, fun _ => h.idle (by rw [hphase]; rfl), ?_, ?_, ?_, ?_, ?_⟩
    · simp [setConn, hreceived]
    · simp [setConn]
    · simpa [setConn, endedCount, hphase] using herrc
    · simp [setConn]
    · simp [setConn]
    · simp [setConn]

lemma Sound.dialSucceeds {s : Session} (h : s.Sound) : (s.step .dialSucceeds).1.Sound := by
  rw [step]
  split_ifs with hphase
  · have herrc := h.errc
    refine ⟨fun _ => h.conserved (by simp [hphase]), by simp, by simp [Phase.started], by simp, ?_,
      fun _ => h.opened (.inl hphase), by simp, h.order⟩
    simpa [endedCount, hphase] using herrc
  · exact h

lemma Sound.sends {s : Session} (h : s.Sound) (side : Side) (message : Message) :
    (s.step (.sends side message)).1.Sound := by
  rw [step]
  split_ifs with hsends
  · refine ⟨fun hne side' => ?_, ?_, h.idle, ?_, h.errc, ?_, ?_, ?_⟩
    · have hconserved := h.conserved hne side'
      cases side <;> cases side' <;> simp_all [setConn, Side.other]
    · have hrefused := h.refused
      cases side <;> simpa [setConn] using hrefused
    · have hunanswered := h.unanswered
      cases side <;> simpa [setConn] using hunanswered
    · intro hphase side'
      have hopened := h.opened hphase side'
      cases side <;> cases side' <;> simpa [setConn] using hopened
    · intro hphase side'
      have hclosed := h.closed hphase side'
      cases side <;> cases side' <;> simpa [setConn] using hclosed
    · have horder := h.order
      cases side <;> simpa [setConn] using horder
  · exact h

/-- A step of a goroutine, which closes nothing. -/
lemma Sound.of_started {s s' : Session} (h : s.Sound) (hstarted : s.phase.started) (hphase : s'.phase = s.phase)
    (hclosed : ∀ side, (s'.conn side).closed = (s.conn side).closed)
    (hconserved : ∀ side,
      (s'.conn side).sent = (s'.conn side.other).received ++ ((s'.copy side).inFlight ++ (s'.conn side).unread))
    (herrc : s'.errc + s.endedCount = s.errc + s'.endedCount) : s'.Sound where
  conserved _ := hconserved
  refused hrefused := by
    rw [hphase] at hrefused
    rw [hrefused] at hstarted
    cases hstarted
  idle hidle := by
    rw [hphase, hstarted] at hidle
    cases hidle
  unanswered hdialing := by
    rw [hphase] at hdialing
    rw [hdialing] at hstarted
    cases hstarted
  errc := by
    have hcount := h.errc
    rw [hphase]
    omega
  opened hopen side := by
    rw [hphase] at hopen
    rw [hclosed]
    exact h.opened hopen side
  closed hreturned side := by
    rw [hphase] at hreturned
    rw [hclosed]
    exact h.closed hreturned side
  order := by
    rw [hclosed, hclosed]
    exact h.order

/-- The goroutines run after they have been started. -/
lemma Sound.started_of_copy {s : Session} (h : s.Sound) {side : Side} (hcopy : s.copy side ≠ .reading) :
    s.phase.started := by
  by_contra hidle
  exact hcopy (h.idle (by simpa using hidle) side)

lemma Sound.conserved_of_started {s : Session} (h : s.Sound) (hstarted : s.phase.started) (side : Side) :
    (s.conn side).sent = (s.conn side.other).received ++ ((s.copy side).inFlight ++ (s.conn side).unread) := by
  refine h.conserved ?_ side
  intro hrefused
  rw [hrefused] at hstarted
  cases hstarted

lemma Sound.reads {s : Session} (h : s.Sound) (side : Side) : (s.step (.reads side)).1.Sound := by
  rw [step]
  split_ifs with hreads
  · cases hunread : (s.conn side).unread with
    | nil => exact h
    | cons message unread =>
        refine h.of_started hreads.1 rfl ?_ ?_ ?_
        · intro side'
          cases side <;> cases side' <;> rfl
        · intro side'
          have hconserved := h.conserved_of_started hreads.1 side'
          have hcopy := hreads.2
          cases side <;> cases side' <;> simp_all [setConn, setCopy, Side.other, Copy.inFlight]
        · have hcopy := hreads.2
          cases side <;> simp [setConn, setCopy, endedCount, hcopy, Copy.hasEnded]
  · exact h

lemma Sound.readFails {s : Session} (h : s.Sound) (side : Side) : (s.step (.readFails side)).1.Sound := by
  rw [step]
  split_ifs with hreads
  · refine h.of_started hreads.1 rfl (fun _ => rfl) ?_ ?_
    · intro side'
      have hconserved := h.conserved_of_started hreads.1 side'
      have hcopy := hreads.2
      cases side <;> cases side' <;> simp_all [setCopy, Side.other, Copy.inFlight]
    · have hcopy := hreads.2
      cases side <;> simp [setCopy, endedCount, hcopy, Copy.hasEnded] <;> omega
  · exact h

lemma Sound.writes {s : Session} (h : s.Sound) (side : Side) : (s.step (.writes side)).1.Sound := by
  rw [step]
  cases hcopy : s.copy side with
  | reading => exact h
  | ended lost => exact h
  | writing message =>
      have hstarted : s.phase.started := h.started_of_copy (by rw [hcopy]; simp)
      simp only
      split_ifs
      · exact h
      · refine h.of_started hstarted rfl ?_ ?_ ?_
        · intro side'
          cases side <;> cases side' <;> rfl
        · intro side'
          have hconserved := h.conserved_of_started hstarted side'
          cases side <;> cases side' <;> simp_all [setConn, setCopy, Side.other, Copy.inFlight]
        · cases side <;> simp [setConn, setCopy, endedCount, hcopy, Copy.hasEnded]

lemma Sound.writeFails {s : Session} (h : s.Sound) (side : Side) : (s.step (.writeFails side)).1.Sound := by
  rw [step]
  cases hcopy : s.copy side with
  | reading => exact h
  | ended lost => exact h
  | writing message =>
      have hstarted : s.phase.started := h.started_of_copy (by rw [hcopy]; simp)
      refine h.of_started hstarted rfl (fun _ => rfl) ?_ ?_
      · intro side'
        have hconserved := h.conserved_of_started hstarted side'
        cases side <;> cases side' <;> simp_all [setCopy, Side.other, Copy.inFlight]
      · cases side <;> simp [setCopy, endedCount, hcopy, Copy.hasEnded] <;> omega

lemma Sound.receives {s : Session} (h : s.Sound) : (s.step .receives).1.Sound := by
  rw [step]
  split_ifs with hreceives
  · have herrc := h.errc
    have hconserved := h.conserved_of_started (by rw [hreceives.1]; rfl)
    refine ⟨fun _ => hconserved, by simp, by simp [Phase.started], by simp, ?_, by simp, by simp, h.order⟩
    simp [hreceives.1, endedCount] at herrc ⊢
    omega
  · exact h

lemma Sound.closes {s : Session} (h : s.Sound) (side : Side) : (s.step (.closes side)).1.Sound := by
  rw [step]
  split_ifs with hcloses
  · have hconserved := h.conserved_of_started (by rw [hcloses.1]; rfl)
    have horder := h.order
    refine ⟨fun _ side' => ?_, by simp [setConn, hcloses.1], by simp [setConn, hcloses.1, Phase.started],
      by simp [setConn, hcloses.1], h.errc, by simp [setConn, hcloses.1], by simp [setConn, hcloses.1], ?_⟩
    · have hside := hconserved side'
      cases side <;> cases side' <;> simpa [setConn, Side.other] using hside
    · cases side <;> simp_all [setConn]
  · exact h

lemma Sound.leaves {s : Session} (h : s.Sound) : (s.step .leaves).1.Sound := by
  rw [step]
  split_ifs with hleaves
  · have herrc := h.errc
    have hconserved := h.conserved_of_started (by rw [hleaves.1]; rfl)
    refine ⟨fun _ => hconserved, by simp, by simp [Phase.started], by simp, ?_, by simp, fun _ side => ?_, h.order⟩
    · simpa [hleaves.1, endedCount] using herrc
    · cases side
      · exact h.order hleaves.2
      · exact hleaves.2
  · exact h

lemma Sound.step {s : Session} (h : s.Sound) (event : Event) : (s.step event).1.Sound := by
  cases event with
  | dialFails written => exact h.dialFails written
  | dialSucceeds => exact h.dialSucceeds
  | sends side message => exact h.sends side message
  | reads side => exact h.reads side
  | readFails side => exact h.readFails side
  | writes side => exact h.writes side
  | writeFails side => exact h.writeFails side
  | receives => exact h.receives
  | closes side => exact h.closes side
  | leaves => exact h.leaves

/-- What is added to the counter is what the session is counted for. -/
lemma step_counted (s : Session) (event : Event) :
    ((s.step event).1.phase.counted.toNat : ℤ) = s.phase.counted.toNat + (s.step event).2 := by
  cases event with
  | dialFails written =>
      by_cases hphase : s.phase = .dialing
      · simp [step, setConn, hphase, Phase.counted]
      · simp [step, hphase]
  | dialSucceeds =>
      rw [step]
      split_ifs with hphase
      · simp [hphase, Phase.counted]
      · simp
  | sends side message => rw [step]; split_ifs <;> simp [setConn]
  | reads side =>
      rw [step]
      split_ifs
      · cases (s.conn side).unread <;> simp [setConn, setCopy]
      · simp
  | readFails side => rw [step]; split_ifs <;> simp [setCopy]
  | writes side =>
      rw [step]
      rcases s.copy side with _ | message | lost
      · simp
      · simp only
        split_ifs <;> simp [setConn, setCopy]
      · simp
  | writeFails side => rw [step]; rcases s.copy side with _ | message | lost <;> simp [setCopy]
  | receives =>
      rw [step]
      split_ifs with hreceives
      · simp [hreceives.1, Phase.counted]
      · simp
  | closes side => rw [step]; split_ifs <;> simp [setConn]
  | leaves =>
      rw [step]
      split_ifs with hleaves
      · simp [hleaves.1, Phase.counted]
      · simp

/-- What has been closed stays closed, and receives nothing. -/
lemma Sound.closed_step {s : Session} (h : s.Sound) {side : Side} (hclosed : (s.conn side).closed = true)
    (event : Event) :
    ((s.step event).1.conn side).closed = true ∧ ((s.step event).1.conn side).received = (s.conn side).received := by
  cases event with
  | dialFails written =>
      rw [Session.step]
      split_ifs with hphase
      all_goals try exact ⟨hclosed, rfl⟩
      all_goals
        rw [h.opened (.inl hphase)] at hclosed
        cases hclosed
  | dialSucceeds => rw [Session.step]; split_ifs <;> exact ⟨hclosed, rfl⟩
  | sends side' message =>
      rw [Session.step]
      split_ifs
      · cases side <;> cases side' <;> simpa [setConn] using hclosed
      · exact ⟨hclosed, rfl⟩
  | reads side' =>
      rw [Session.step]
      split_ifs
      · cases (s.conn side').unread
        · exact ⟨hclosed, rfl⟩
        · cases side <;> cases side' <;> simpa [setConn, setCopy] using hclosed
      · exact ⟨hclosed, rfl⟩
  | readFails side' => rw [Session.step]; split_ifs <;> exact ⟨hclosed, rfl⟩
  | writes side' =>
      rw [Session.step]
      rcases s.copy side' with _ | message | lost
      · exact ⟨hclosed, rfl⟩
      · simp only
        split_ifs with hother
        · exact ⟨hclosed, rfl⟩
        · cases side <;> cases side' <;> simp_all [setConn, setCopy, Side.other]
      · exact ⟨hclosed, rfl⟩
  | writeFails side' => rw [Session.step]; rcases s.copy side' with _ | message | lost <;> exact ⟨hclosed, rfl⟩
  | receives => rw [Session.step]; split_ifs <;> exact ⟨hclosed, rfl⟩
  | closes side' =>
      rw [Session.step]
      split_ifs
      · cases side <;> cases side' <;> simp_all [setConn]
      · exact ⟨hclosed, rfl⟩
  | leaves => rw [Session.step]; split_ifs <;> exact ⟨hclosed, rfl⟩

/-- What a goroutine does if nothing fails. -/
def rounds (side : Side) (n : ℕ) : List Event := (List.replicate n [Event.reads side, Event.writes side]).flatten

/-- Rounds of reading and writing get everything through. -/
lemma Sound.rounds {s : Session} (h : s.Sound) {side : Side} (hphase : s.phase = .relaying)
    (hcopy : s.copy side = .reading) :
    let s' := (rounds side (s.conn side).unread.length).foldl (fun s event => (s.step event).1) s
    (s'.conn side.other).received = (s.conn side).sent := by
  generalize hunread : (s.conn side).unread = unread
  induction unread generalizing s with
  | nil =>
      have hconserved := h.conserved_of_started (by rw [hphase]; rfl) side
      rw [hunread, hcopy, Copy.inFlight, List.append_nil, List.append_nil] at hconserved
      exact hconserved.symm
  | cons message unread ih =>
      set s₁ := (s.step (.reads side)).1 with hs₁
      set s₂ := (s₁.step (.writes side)).1 with hs₂
      have hsound : s₂.Sound := (h.step _).step _
      have hread : s₁ = (s.setConn side { s.conn side with unread := unread }).setCopy side (.writing message) := by
        rw [hs₁, Session.step, if_pos ⟨by rw [hphase]; rfl, hcopy⟩, hunread]
      have hopened : (s₁.conn side.other).closed = false := by
        have hopen := h.opened (.inr hphase) side.other
        rw [hread]
        cases side <;> simpa [setConn, setCopy, Side.other] using hopen
      have hwriting : s₁.copy side = .writing message := by rw [hread]; simp [setCopy]
      have hwritten : s₂ = (s₁.setConn side.other { s₁.conn side.other with
          received := (s₁.conn side.other).received ++ [message] }).setCopy side .reading := by
        rw [hs₂, Session.step, hwriting]
        simp [hopened]
      have hsent : (s₂.conn side).sent = (s.conn side).sent := by
        rw [hwritten, hread]
        cases side <;> simp [setConn, setCopy, Side.other]
      have hrest : (s₂.conn side).unread = unread := by
        rw [hwritten, hread]
        cases side <;> simp [setConn, setCopy, Side.other]
      have hrun := ih hsound (by rw [hwritten, hread]; exact hphase) (by rw [hwritten]; simp [setCopy]) hrest
      rw [hsent] at hrun
      rw [← hrun]
      rfl

end Session

/-! ## All sessions -/

namespace Proxy

open Session (Sound rounds)

/-- The sessions are sound, and the counter is right. -/
structure Sound (p : Proxy) : Prop where
  sessions : ∀ s ∈ p.sessions, s.Sound
  activeConns : p.activeConns = p.sessions.countP (·.phase.counted)

lemma Sound.step {p : Proxy} (h : p.Sound) (event : Event) : (p.step event).Sound := by
  cases event with
  | upgrade host =>
      refine ⟨fun s hs => ?_, ?_⟩
      · rcases List.mem_append.mp hs with hs | hs
        · exact h.sessions s hs
        · rw [List.mem_singleton.mp hs]
          exact Session.sound_start host
      · rw [Proxy.step, List.countP_append, h.activeConns]
        simp [Phase.counted]
  | session i event =>
      rw [Proxy.step]
      cases hi : p.sessions[i]? with
      | none => exact h
      | some s =>
          rcases List.getElem?_eq_some_iff.mp hi with ⟨hlt, hs⟩
          have hsound : s.Sound := h.sessions s (hs ▸ List.getElem_mem hlt)
          refine ⟨fun s' hs' => ?_, ?_⟩
          · rcases List.mem_or_eq_of_mem_set hs' with hs' | rfl
            · exact h.sessions s' hs'
            · exact hsound.step event
          · have hcounted := s.step_counted event
            have hpos : s.phase.counted = true → 0 < p.sessions.countP (·.phase.counted) := by
              intro hs'
              exact List.countP_pos_iff.mpr ⟨s, hs ▸ List.getElem_mem hlt, hs'⟩
            show p.activeConns + (s.step event).2 = _
            rw [h.activeConns, List.countP_set hlt, hs]
            cases hbefore : s.phase.counted with
            | true =>
                have hone := hpos hbefore
                rw [hbefore] at hcounted
                cases hafter : (s.step event).1.phase.counted <;> simp [hafter] at hcounted ⊢ <;> omega
            | false =>
                rw [hbefore] at hcounted
                cases hafter : (s.step event).1.phase.counted <;> simp [hafter] at hcounted ⊢ <;> omega

lemma sound_run (events : List Event) : (events.foldl Proxy.step {}).Sound := by
  induction events using List.reverseRecOn with
  | nil => exact ⟨by simp, rfl⟩
  | append_singleton events event ih =>
      rw [List.foldl_append]
      exact ih.step event

/-- **The relay keeps what is sent**, and in order: in each direction what has been sent is what has been received, at
most one message on its way or lost when it could not be written, and what has not been read.  The goroutines never
wait for the channel, which holds two values, and the counter is the number of the sessions that have connected and
have not ended.  A client whose session has not connected gets the message that says so, or nothing. -/
theorem relay_spec (events : List Event) :
    let p := events.foldl step {}
    p.activeConns = p.sessions.countP (·.phase.counted) ∧
    ∀ s ∈ p.sessions, s.errc ≤ 2 ∧
      (s.phase ≠ .refused → ∀ side, (s.conn side).sent =
        (s.conn side.other).received ++ ((s.copy side).inFlight ++ (s.conn side).unread)) ∧
      (s.phase = .refused →
        (s.conn .client).received = [] ∨ (s.conn .client).received = [upstreamFailed s.host]) := by
  intro p
  have hsound := sound_run events
  refine ⟨hsound.activeConns, fun s hs => ?_⟩
  have h := hsound.sessions s hs
  refine ⟨?_, h.conserved, h.refused⟩
  have hended : s.endedCount ≤ 2 := by
    rw [Session.endedCount]
    cases (s.copy .client).hasEnded <;> cases (s.copy .upstream).hasEnded <;> simp
  have herrc := h.errc
  omega

/-- A session stays where it is. -/
lemma getElem?_step {p : Proxy} {i : ℕ} {s : Session} (hi : p.sessions[i]? = some s) (event : Event) :
    (p.step event).sessions[i]? = some s ∨ ∃ e, (p.step event).sessions[i]? = some (s.step e).1 := by
  rcases List.getElem?_eq_some_iff.mp hi with ⟨hlt, hs⟩
  cases event with
  | upgrade host =>
      left
      rw [Proxy.step, List.getElem?_append_left hlt]
      exact hi
  | session j e =>
      rw [Proxy.step]
      cases hj : p.sessions[j]? with
      | none => exact .inl hi
      | some s' =>
          by_cases hij : j = i
          · subst hij
            cases hi.symm.trans hj
            exact .inr ⟨e, List.getElem?_set_self hlt⟩
          · exact .inl ((List.getElem?_set_ne hij).trans hi)

lemma foldl_session {p : Proxy} {i : ℕ} {s : Session} (hi : p.sessions[i]? = some s) (es : List Session.Event) :
    ((es.map (.session i)).foldl step p).sessions[i]? = some (es.foldl (fun s e => (s.step e).1) s) := by
  induction es generalizing p s with
  | nil => exact hi
  | cons e es ih =>
      rcases List.getElem?_eq_some_iff.mp hi with ⟨hlt, -⟩
      refine ih ?_
      rw [step, hi]
      exact List.getElem?_set_self hlt

/-- **Everything that has been sent can get through**, as long as the session goes on and the goroutine of the direction
has nothing to write: it gets through if nothing fails. -/
theorem relay_delivers (events : List Event) {i : ℕ} {s : Session} {side : Side}
    (hi : (events.foldl step {}).sessions[i]? = some s) (hphase : s.phase = .relaying)
    (hcopy : s.copy side = .reading) :
    ∃ s', ((events ++ (rounds side (s.conn side).unread.length).map (Event.session i)).foldl step {}).sessions[i]? =
      some s' ∧ (s'.conn side.other).received = (s.conn side).sent := by
  have hsound : s.Sound := (sound_run events).sessions s (List.mem_of_getElem? hi)
  refine ⟨_, ?_, hsound.rounds hphase hcopy⟩
  rw [List.foldl_append]
  exact foldl_session hi _

/-- The client has sent a message, and nothing has read it yet. -/
theorem relay_delivers_one :
    let events := [Event.upgrade (utf8 "venus.web.telegram.org"), .session 0 (.sends .client ⟨.binary, [1]⟩),
      .session 0 .dialSucceeds]
    let later := [Event.session 0 (.reads .client), .session 0 (.writes .client)]
    ∃ s', ((events ++ later).foldl step {}).sessions[0]? = some s' ∧
      (s'.conn .upstream).received = [⟨.binary, [1]⟩] := by
  intro events later
  have hsession : (events.foldl step {}).sessions[0]? = some _ := rfl
  exact @relay_delivers events 0 _ .client hsession rfl rfl

end Proxy

end RioGram.Wss
