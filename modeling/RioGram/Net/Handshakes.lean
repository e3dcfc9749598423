import RioGram.Net.Socks5

/-!
# Handshakes with a proxy

What a `TransparentProxy` has read and written when it gives its callback the socket.  The bytes of the other side
arrive in pieces, `loop_impl` runs once for each event, and timeouts, hangups and errors of the socket may come at any
time.

* `Accounts` say what has been read and written in each state, and `socket_accounted` that they hold of the whole
  handshake; `one_result` is that the callback is called once.
* `run_reply`: a reply that is waited for may be cut into any pieces.
* `socks5_socket`, `socks5_connects`: a SOCKS5 handshake gives the socket for the replies of a proxy that accepts, and
  for nothing else.
-/

namespace RioGram

open Wire

namespace TransparentProxy

variable {σ : Type} {loopImpl : σ → Bytes → Except String (LoopResult σ)}

/-! ## What has been read and written -/

/-- The event makes the actor read. -/
def reads (io : SocketIo) : ActorEvent → Bool
  | .start => io.canWrite && io.readError.isNone
  | .yield => io.readError.isNone
  | .timeout => false
  | .hangup => false

/-- The bytes that have been read in a run. -/
def arrived (loopImpl : σ → Bytes → Except String (LoopResult σ)) (ios : ℕ → SocketIo) (p : TransparentProxy σ) :
    List ActorEvent → Bytes
  | [] => []
  | e :: es =>
      if p.stopped then []
      else
        (if reads (ios 0) e then (ios 0).received else []) ++
          arrived loopImpl (fun n => ios (n + 1)) (p.handle loopImpl (ios 0) e).1 es

/-- What `loop_impl` takes of the input, and what it has written for it: `Seen` while it goes on, `Done` when it
stops. -/
structure Accounts (loopImpl : σ → Bytes → Except String (LoopResult σ)) where
  Seen : Bytes → Bytes → σ → Prop
  Done : Bytes → Bytes → Prop
  step : ∀ ⦃taken output state input result⦄, Seen taken output state → loopImpl state input = .ok result →
    ∃ part, input = part ++ result.input ∧
      (if result.stop then Done (taken ++ part) (output ++ result.output)
        else Seen (taken ++ part) (output ++ result.output) result.state)

/-- The accounts of an actor that has read `all`: it has given an error, or it goes on, or it is done. -/
def Accounts.Hold (a : Accounts loopImpl) (all : Bytes) (p : TransparentProxy σ) : Prop :=
  (p.hasCallback = false ∧ p.stopped = true) ∨
    p.hasCallback = true ∧ ∃ taken, all = taken ++ p.input ∧
      if p.stopped then a.Done taken p.output else a.Seen taken p.output p.state

lemma Accounts.Hold.onError (a : Accounts loopImpl) (all : Bytes) (p : TransparentProxy σ) (error : String) :
    a.Hold all (p.onError error).1 := .inl ⟨rfl, rfl⟩

lemma Accounts.Hold.loop {a : Accounts loopImpl} {all : Bytes} {p : TransparentProxy σ} (h : a.Hold all p)
    (hstopped : p.stopped = false) (io : SocketIo) :
    a.Hold (all ++ if io.readError.isNone then io.received else []) (p.loop loopImpl io).1 := by
  rw [TransparentProxy.loop]
  rcases h with ⟨-, hstop⟩ | ⟨hcallback, taken, hall, hseen⟩
  · rw [hstopped] at hstop
    cases hstop
  rw [hstopped] at hseen
  cases io.readError with
  | some error => exact .inl ⟨rfl, rfl⟩
  | none =>
      simp only [Option.isNone_none, if_true]
      cases hresult : loopImpl p.state (p.input ++ io.received) with
      | error error => exact .inl ⟨rfl, rfl⟩
      | ok result =>
          rcases a.step hseen hresult with ⟨part, hpart, hnext⟩
          cases io.writeError with
          | some error => exact .inl ⟨rfl, rfl⟩
          | none =>
              simp only
              split_ifs
              · exact .inl ⟨rfl, rfl⟩
              · refine .inr ⟨hcallback, taken ++ part, ?_, ?_⟩
                · show all ++ io.received = taken ++ part ++ result.input
                  rw [hall, List.append_assoc, hpart, List.append_assoc]
                · simp only [hstopped, Bool.false_or]
                  exact hnext

lemma Accounts.Hold.handle {a : Accounts loopImpl} {all : Bytes} {p : TransparentProxy σ} (h : a.Hold all p)
    (hstopped : p.stopped = false) (io : SocketIo) (e : ActorEvent) :
    a.Hold (all ++ if reads io e then io.received else []) (p.handle loopImpl io e).1 := by
  cases e with
  | start =>
      rw [TransparentProxy.handle, reads]
      cases io.canWrite with
      | true => exact h.loop hstopped io
      | false =>
          rw [Bool.false_and, if_neg Bool.false_ne_true, if_neg Bool.false_ne_true, List.append_nil]
          exact h
  | yield => exact h.loop hstopped io
  | timeout => exact .onError a _ p _
  | hangup => exact .onError a _ p _

/-- The accounts hold all along. -/
lemma Accounts.Hold.run {a : Accounts loopImpl} {all : Bytes} {p : TransparentProxy σ} (h : a.Hold all p)
    (ios : ℕ → SocketIo) (events : List ActorEvent) :
    a.Hold (all ++ arrived loopImpl ios p events) (p.flushMailbox loopImpl ios events).1 := by
  induction events generalizing p ios all with
  | nil =>
      rw [arrived, List.append_nil]
      exact h
  | cons e es ih =>
      rw [arrived, flushMailbox]
      cases hstopped : p.stopped with
      | true =>
          rw [if_pos rfl, if_pos rfl, List.append_nil]
          exact h
      | false =>
          rw [if_neg Bool.false_ne_true, if_neg Bool.false_ne_true, ← List.append_assoc]
          exact ih (h.handle hstopped (ios 0) e) _

lemma tearDown_socket {p : TransparentProxy σ} (h : p.tearDown = some (.ok ())) :
    p.hasCallback = true ∧ p.input = [] := by
  rw [tearDown] at h
  by_cases hcallback : p.hasCallback = true
  · by_cases hinput : p.input = []
    · exact ⟨hcallback, hinput⟩
    · rw [if_neg (not_not.mpr hcallback), if_pos hinput] at h
      cases h
  · rw [if_pos hcallback] at h
    cases h

/-- **The socket is given for what the accounts say**, and for no byte more. -/
theorem socket_accounted (a : Accounts loopImpl) {state : σ} (hstart : a.Seen [] [] state) (ios : ℕ → SocketIo)
    (events : List ActorEvent) :
    let q := (flushMailbox loopImpl ios { state := state } events).1
    q.stopped = true → q.tearDown = some (.ok ()) →
      a.Done (arrived loopImpl ios { state := state } events) q.output := by
  intro q hstopped hsocket
  have hhold : a.Hold [] ({ state := state } : TransparentProxy σ) := .inr ⟨rfl, [], rfl, hstart⟩
  have hrun := hhold.run ios events
  rw [List.nil_append] at hrun
  rcases tearDown_socket hsocket with ⟨hcallback, hinput⟩
  rcases hrun with ⟨hnone, -⟩ | ⟨-, taken, hall, hdone⟩
  · rw [show q.hasCallback = false from hnone] at hcallback
    cases hcallback
  · rw [if_pos hstopped] at hdone
    rw [hall, show (flushMailbox loopImpl ios { state := state } events).1.input = [] from hinput, List.append_nil]
    exact hdone

/-! ## The callback -/

/-- Either nothing has been reported and the callback is there, or an error has been reported and the actor stops. -/
def Reports (r : TransparentProxy σ × Option SocketResult) : Prop :=
  r.2 = none ∧ r.1.hasCallback = true ∨ r.2.isSome = true ∧ r.1.hasCallback = false ∧ r.1.stopped = true

lemma reports_onError (error : String) {p : TransparentProxy σ} (hcallback : p.hasCallback = true) :
    Reports (p.onError error) := by
  rw [onError, if_pos hcallback]
  exact .inr ⟨rfl, rfl, rfl⟩

lemma reports_loop (io : SocketIo) {p : TransparentProxy σ} (hcallback : p.hasCallback = true) :
    Reports (p.loop loopImpl io) := by
  rw [loop]
  cases io.readError with
  | some error => exact reports_onError error hcallback
  | none =>
      simp only
      cases loopImpl p.state (p.input ++ io.received) with
      | error error => exact reports_onError error hcallback
      | ok result =>
          cases io.writeError with
          | some error => exact reports_onError error hcallback
          | none =>
              simp only
              split_ifs
              · exact reports_onError _ hcallback
              · exact .inl ⟨rfl, hcallback⟩

lemma reports_handle (io : SocketIo) (e : ActorEvent) {p : TransparentProxy σ} (hcallback : p.hasCallback = true) :
    Reports (p.handle loopImpl io e) := by
  cases e with
  | start =>
      rw [handle]
      split_ifs
      · exact reports_loop io hcallback
      · exact .inl ⟨rfl, hcallback⟩
  | yield => exact reports_loop io hcallback
  | timeout => exact reports_onError _ hcallback
  | hangup => exact reports_onError _ hcallback

lemma flushMailbox_stopped (ios : ℕ → SocketIo) {p : TransparentProxy σ} (hstopped : p.stopped = true)
    (events : List ActorEvent) : p.flushMailbox loopImpl ios events = (p, []) := by
  cases events with
  | nil => rfl
  | cons e es => rw [flushMailbox, if_pos hstopped]

/-- **The callback is called once**, while the events are handled or when the actor is torn down. -/
theorem one_result (ios : ℕ → SocketIo) {p : TransparentProxy σ} (hcallback : p.hasCallback = true)
    (events : List ActorEvent) :
    let q := p.flushMailbox loopImpl ios events
    q.2.length + q.1.tearDown.toList.length = 1 := by
  intro q
  show (p.flushMailbox loopImpl ios events).2.length + (p.flushMailbox loopImpl ios events).1.tearDown.toList.length = 1
  induction events generalizing p ios with
  | nil =>
      rw [flushMailbox, tearDown, if_neg (not_not.mpr hcallback)]
      split_ifs <;> rfl
  | cons e es ih =>
      rw [flushMailbox]
      split_ifs with hstopped
      · rw [tearDown, if_neg (not_not.mpr hcallback)]
        split_ifs <;> rfl
      · rcases @reports_handle σ loopImpl (ios 0) e p hcallback with ⟨hnone, hstays⟩ | ⟨hsome, hgone, hstop⟩
        · simp only [hnone]
          exact ih _ hstays
        · rcases Option.isSome_iff_exists.mp hsome with ⟨result, hresult⟩
          simp only [hresult, flushMailbox_stopped _ hstop, tearDown, hgone]
          rfl

/-! ## Replies -/

/-- A socket that reads `chunk` and works. -/
def working (chunk : Bytes) : SocketIo :=
  { canWrite := true, readError := none, received := chunk, writeError := none, canClose := false }

/-- Chunks arrive, one for each event. -/
def receive (loopImpl : σ → Bytes → Except String (LoopResult σ)) (p : TransparentProxy σ) (chunks : List Bytes) :
    TransparentProxy σ :=
  (p.flushMailbox loopImpl (fun n => working (chunks.getD n [])) (List.replicate chunks.length .yield)).1

/-- The actor starts, and chunks arrive. -/
def connect (loopImpl : σ → Bytes → Except String (LoopResult σ)) (state : σ) (chunks : List Bytes) :
    TransparentProxy σ :=
  receive loopImpl (({ state } : TransparentProxy σ).handle loopImpl (working []) .start).1 chunks

lemma receive_stopped {p : TransparentProxy σ} (hstopped : p.stopped = true) (chunks : List Bytes) :
    receive loopImpl p chunks = p := by
  rw [receive, flushMailbox_stopped _ hstopped]

lemma receive_cons {p : TransparentProxy σ} (hstopped : p.stopped = false) (chunk : Bytes) (chunks : List Bytes) :
    receive loopImpl p (chunk :: chunks) = receive loopImpl (p.loop loopImpl (working chunk)).1 chunks := by
  rw [receive, List.length_cons, List.replicate_succ, flushMailbox, if_neg (by simp [hstopped])]
  rfl

lemma receive_append (p : TransparentProxy σ) (chunks chunks' : List Bytes) :
    receive loopImpl p (chunks ++ chunks') = receive loopImpl (receive loopImpl p chunks) chunks' := by
  induction chunks generalizing p with
  | nil => rfl
  | cons chunk chunks ih =>
      cases hstopped : p.stopped with
      | true => rw [receive_stopped hstopped, receive_stopped hstopped, receive_stopped hstopped]
      | false => rw [List.cons_append, receive_cons hstopped, receive_cons hstopped, ih]

lemma loop_working {p : TransparentProxy σ} {chunk : Bytes} {result : LoopResult σ}
    (hresult : loopImpl p.state (p.input ++ chunk) = .ok result) :
    (p.loop loopImpl (working chunk)).1 =
      { p with
        state := result.state
        input := result.input
        output := p.output ++ result.output
        stopped := p.stopped || result.stop } := by
  simp only [loop, working, hresult, Bool.false_eq_true, if_false]

/-- Nothing happens if nothing arrives. -/
lemma receive_nothing {p : TransparentProxy σ} (hstopped : p.stopped = false)
    (hidle : loopImpl p.state p.input = .ok { state := p.state, input := p.input }) {chunks : List Bytes}
    (hchunks : chunks.flatten = []) : receive loopImpl p chunks = p := by
  induction chunks with
  | nil => rfl
  | cons chunk chunks ih =>
      rw [List.flatten_cons, List.append_eq_nil_iff] at hchunks
      have hresult : loopImpl p.state (p.input ++ chunk) = .ok { state := p.state, input := p.input } := by
        rw [hchunks.1, List.append_nil, hidle]
      rw [receive_cons hstopped, loop_working hresult]
      simp only [List.append_nil, Bool.or_false]
      exact ih hchunks.2

/-- **A reply may be cut into any pieces**, if nothing is done with a part of it. -/
lemma receive_reply {p : TransparentProxy σ} (result : LoopResult σ) {reply : Bytes} (hstopped : p.stopped = false)
    (hpart : ∀ s, s <+: reply → s ≠ reply → loopImpl p.state s = .ok { state := p.state, input := s })
    (hwhole : loopImpl p.state reply = .ok result) (hinput : result.input = [])
    (hidle : result.stop = false → loopImpl result.state [] = .ok { state := result.state, input := [] })
    {chunks : List Bytes} (hchunks : p.input ++ chunks.flatten = reply) (hne : p.input ≠ reply) :
    receive loopImpl p chunks =
      { p with state := result.state, input := [], output := p.output ++ result.output, stopped := result.stop } := by
  induction chunks generalizing p with
  | nil =>
      rw [List.flatten_nil, List.append_nil] at hchunks
      exact absurd hchunks hne
  | cons chunk chunks ih =>
      rw [List.flatten_cons, ← List.append_assoc] at hchunks
      rw [receive_cons hstopped]
      by_cases hlast : p.input ++ chunk = reply
      · have hrest : chunks.flatten = [] := by
          rw [hlast] at hchunks
          exact List.append_right_eq_self.mp hchunks
        rw [loop_working (hlast ▸ hwhole), hinput, hstopped, Bool.false_or]
        cases hstop : result.stop with
        | true => exact receive_stopped rfl chunks
        | false => exact receive_nothing rfl (hidle hstop) hrest
      · have hfront : p.input ++ chunk <+: reply := ⟨_, hchunks⟩
        rw [loop_working (hpart _ hfront hlast)]
        simp only [List.append_nil, Bool.or_false]
        exact ih hstopped hpart hwhole hchunks hlast

lemma arrived_receive (p : TransparentProxy σ) (chunks : List Bytes) :
    ∃ n, arrived loopImpl (fun n => working (chunks.getD n [])) p (List.replicate chunks.length .yield) =
      (chunks.take n).flatten := by
  induction chunks generalizing p with
  | nil => exact ⟨0, rfl⟩
  | cons chunk chunks ih =>
      rw [List.length_cons, List.replicate_succ, arrived]
      split_ifs with hstopped hreads
      · exact ⟨0, rfl⟩
      · rcases ih (p.handle loopImpl (working chunk) .yield).1 with ⟨n, hn⟩
        refine ⟨n + 1, ?_⟩
        rw [List.take_succ_cons, List.flatten_cons, ← hn]
        rfl
      · exact absurd rfl hreads

/-- The socket is given for the first few chunks, if it is given. -/
lemma connect_accounted (a : Accounts loopImpl) {state : σ} (hstart : a.Seen [] [] state) (chunks : List Bytes) :
    let q := connect loopImpl state chunks
    q.stopped = true → q.tearDown = some (.ok ()) → ∃ n, a.Done (chunks.take n).flatten q.output := by
  intro q hstopped hsocket
  have hdone := socket_accounted a hstart (fun n => working (([] :: chunks).getD n []))
    (.start :: List.replicate chunks.length .yield) hstopped hsocket
  rw [arrived, if_neg Bool.false_ne_true] at hdone
  rcases arrived_receive (({ state } : TransparentProxy σ).handle loopImpl (working []) .start).1 chunks with ⟨n, hn⟩
  refine ⟨n, ?_⟩
  rw [← hn]
  exact hdone

end TransparentProxy

/-! ## SOCKS5 -/

namespace Socks5

open TransparentProxy

/-- The proxy says that it has connected: an address of either type and a port follow. -/
def Connected (reply : Bytes) : Prop :=
  ∃ type address, reply = [5, 0, 0, type] ++ address ∧
    (type = 1 ∧ address.length = 6 ∨ type = 4 ∧ address.length = 18)

/-- What `send_username_password` writes. -/
def usernamePassword (username password : Bytes) : Bytes :=
  [1, UInt8.ofNat username.length] ++ username ++ [UInt8.ofNat password.length] ++ password

/-- The replies before that to the request to connect, and what has been written by then: the username and the password,
if the proxy has asked for them. -/
def Admitted (username password request taken output : Bytes) : Prop :=
  taken = [5, 0] ∧ output = greeting username ++ request ∨
    taken = [5, 2, 1, 0] ∧ username.length < 128 ∧ password.length < 128 ∧
      output = greeting username ++ usernamePassword username password ++ request

/-- What has been taken and written in each state. -/
def Seen (username password request taken output : Bytes) : State → Prop
  | .sendGreeting => taken = [] ∧ output = []
  | .waitGreetingResponse => taken = [] ∧ output = greeting username
  | .waitPasswordResponse =>
      taken = [5, 2] ∧ username.length < 128 ∧ password.length < 128 ∧
        output = greeting username ++ usernamePassword username password
  | .waitIpAddressResponse => Admitted username password request taken output

variable {username password request : Bytes}

lemma sendUsernamePassword_eq (husername : username.length < 128) (hpassword : password.length < 128) (input : Bytes) :
    sendUsernamePassword username password input =
      .ok { state := .waitPasswordResponse, input, output := usernamePassword username password } := by
  rw [sendUsernamePassword, if_neg (Nat.not_le.mpr husername), if_neg (Nat.not_le.mpr hpassword)]
  rfl

/-- A username and a password are sent only if their lengths fit in a `char`. -/
lemma sendUsernamePassword_ok {input : Bytes} {result : LoopResult State}
    (h : sendUsernamePassword username password input = .ok result) :
    username.length < 128 ∧ password.length < 128 ∧
      result = { state := .waitPasswordResponse, input, output := usernamePassword username password } := by
  rw [sendUsernamePassword] at h
  split_ifs at h with husername hpassword
  cases h
  exact ⟨Nat.lt_of_not_le husername, Nat.lt_of_not_le hpassword, rfl⟩

/-- The replies of a whole handshake, and all that has been written. -/
def Completed (username password request taken output : Bytes) : Prop :=
  ∃ front reply, taken = front ++ reply ∧ Admitted username password request front output ∧ Connected reply

lemma step_greeting {taken output input : Bytes} {result : LoopResult State}
    (hseen : Seen username password request taken output .waitGreetingResponse)
    (h : loopImpl username password request .waitGreetingResponse input = .ok result) :
    ∃ part, input = part ++ result.input ∧ result.stop = false ∧
      Seen username password request (taken ++ part) (output ++ result.output) result.state := by
  rcases hseen with ⟨rfl, rfl⟩
  match input, h with
  | version :: method :: rest, h =>
      simp only [loopImpl] at h
      split_ifs at h with hversion hnone hpassword
      · cases h
        rw [not_not] at hversion
        exact ⟨[version, method], rfl, rfl, .inl ⟨by rw [hversion, hnone]; rfl, rfl⟩⟩
      · rcases sendUsernamePassword_ok h with ⟨husername, hlength, rfl⟩
        rw [not_not] at hversion
        exact ⟨[version, method], rfl, rfl, by rw [hversion, hpassword]; rfl, husername, hlength, rfl⟩
  | [], h =>
      cases h
      exact ⟨[], rfl, rfl, rfl, by rw [List.append_nil]⟩
  | [_], h =>
      cases h
      exact ⟨[], rfl, rfl, rfl, by rw [List.append_nil]⟩

lemma step_password {taken output input : Bytes} {result : LoopResult State}
    (hseen : Seen username password request taken output .waitPasswordResponse)
    (h : loopImpl username password request .waitPasswordResponse input = .ok result) :
    ∃ part, input = part ++ result.input ∧ result.stop = false ∧
      Seen username password request (taken ++ part) (output ++ result.output) result.state := by
  rcases hseen with ⟨rfl, husername, hpassword, rfl⟩
  match input, h with
  | version :: status :: rest, h =>
      simp only [loopImpl] at h
      split_ifs at h with hversion hstatus
      cases h
      rw [not_not] at hversion hstatus
      refine ⟨[version, status], rfl, rfl, .inr ⟨?_, husername, hpassword, rfl⟩⟩
      rw [hversion, hstatus]
      rfl
  | [], h =>
      cases h
      exact ⟨[], rfl, rfl, rfl, husername, hpassword, by rw [List.append_nil]⟩
  | [_], h =>
      cases h
      exact ⟨[], rfl, rfl, rfl, husername, hpassword, by rw [List.append_nil]⟩

/-- A whole reply is taken, or nothing of it. -/
lemma skipIpAddress_cases (size : ℕ) (type : UInt8) (rest : Bytes) :
    skipIpAddress size (5 :: 0 :: 0 :: type :: rest) =
        { state := .waitIpAddressResponse, input := 5 :: 0 :: 0 :: type :: rest } ∨
      size + 2 ≤ rest.length ∧ skipIpAddress size (5 :: 0 :: 0 :: type :: rest) =
        { state := .waitIpAddressResponse, input := rest.drop (size + 2), stop := true } := by
  rw [skipIpAddress]
  split_ifs with hlength
  · exact .inl rfl
  · refine .inr ⟨?_, ?_⟩
    · simp only [List.length_cons] at hlength
      omega
    · rw [show 4 + size + 2 = size + 2 + 1 + 1 + 1 + 1 by omega]
      rfl

lemma connected_take {size : ℕ} {type : UInt8} {rest : Bytes}
    (hsize : type = 1 ∧ size = 4 ∨ type = 4 ∧ size = 16) (hlength : size + 2 ≤ rest.length) :
    Connected ([5, 0, 0, type] ++ rest.take (size + 2)) := by
  refine ⟨type, rest.take (size + 2), rfl, hsize.imp ?_ ?_⟩ <;> rintro ⟨htype, rfl⟩ <;>
    exact ⟨htype, List.length_take_of_le hlength⟩

lemma step_address {input : Bytes} {result : LoopResult State}
    (h : loopImpl username password request .waitIpAddressResponse input = .ok result) :
    result = { state := .waitIpAddressResponse, input } ∨
      result.stop = true ∧ result.output = [] ∧ ∃ reply, Connected reply ∧ input = reply ++ result.input := by
  have hskip : ∀ (size : ℕ) (type : UInt8) (rest : Bytes), (type = 1 ∧ size = 4 ∨ type = 4 ∧ size = 16) →
      .ok (skipIpAddress size (5 :: 0 :: 0 :: type :: rest)) = Except.ok (ε := String) result →
      result = { state := .waitIpAddressResponse, input := 5 :: 0 :: 0 :: type :: rest } ∨
        result.stop = true ∧ result.output = [] ∧
          ∃ reply, Connected reply ∧ 5 :: 0 :: 0 :: type :: rest = reply ++ result.input := by
    intro size type rest hsize hresult
    rcases skipIpAddress_cases size type rest with hwait | ⟨hlength, htake⟩
    · rw [hwait] at hresult
      cases hresult
      exact .inl rfl
    · rw [htake] at hresult
      cases hresult
      refine .inr ⟨rfl, rfl, _, connected_take hsize hlength, ?_⟩
      show [5, 0, 0, type] ++ rest = _
      rw [List.append_assoc, List.take_append_drop]
  match input, h with
  | version :: code :: zero :: type :: rest, h =>
      simp only [loopImpl] at h
      split_ifs at h with hversion hcode hzero hfour hsixteen
      all_goals
        rw [not_not] at hversion hcode hzero
        subst hversion hcode hzero
      · exact hskip 4 type rest (.inl ⟨hfour, rfl⟩) h
      · exact hskip 16 type rest (.inr ⟨hsixteen, rfl⟩) h
  | [], h => exact .inl (by cases h; rfl)
  | [_], h => exact .inl (by cases h; rfl)
  | [_, _], h => exact .inl (by cases h; rfl)
  | [_, _, _], h => exact .inl (by cases h; rfl)

/-- The accounts of a SOCKS5 handshake. -/
def accounts (username password request : Bytes) : Accounts (loopImpl username password request) where
  Seen := Seen username password request
  Done := Completed username password request
  step := by
    intro taken output state input result hseen h
    cases state with
    | sendGreeting =>
        cases h
        rcases hseen with ⟨rfl, rfl⟩
        exact ⟨[], rfl, rfl, rfl⟩
    | waitGreetingResponse =>
        rcases step_greeting hseen h with ⟨part, hinput, hstop, hnext⟩
        exact ⟨part, hinput, by rw [hstop]; exact hnext⟩
    | waitPasswordResponse =>
        rcases step_password hseen h with ⟨part, hinput, hstop, hnext⟩
        exact ⟨part, hinput, by rw [hstop]; exact hnext⟩
    | waitIpAddressResponse =>
        rcases step_address h with rfl | ⟨hstop, houtput, reply, hreply, hinput⟩
        · refine ⟨[], rfl, ?_⟩
          rw [List.append_nil, List.append_nil]
          exact hseen
        · refine ⟨reply, hinput, ?_⟩
          rw [hstop, houtput, List.append_nil]
          exact ⟨taken, reply, rfl, hseen, hreply⟩

/-- **The socket is given only by a proxy that says it has connected**: all that has arrived is a reply to the greeting,
one to the password where the proxy has asked for it, and one to the request, with nothing after it.  What has been
written are the messages these reply to. -/
theorem socks5_socket (username password request : Bytes) (ios : ℕ → SocketIo) (events : List ActorEvent) :
    let q := (flushMailbox (loopImpl username password request) ios { state := .sendGreeting } events).1
    q.stopped = true → q.tearDown = some (.ok ()) →
      Completed username password request
        (arrived (loopImpl username password request) ios { state := .sendGreeting } events) q.output :=
  have hstart : Seen username password request [] [] .sendGreeting := ⟨rfl, rfl⟩
  @socket_accounted _ _ (accounts username password request) .sendGreeting hstart ios events

/-- Replies to a user without a name, in four pieces after the start. -/
def fourPieces : List Bytes := [[], [5], [0], [5, 0, 0], [1, 0, 0, 0, 0, 0, 0]]

theorem socks5_socket_four_pieces :
    Completed [] [] [5, 1, 0, 1, 4, 3, 2, 1, 1, 187] (fourPieces.flatten) [5, 1, 0, 5, 1, 0, 1, 4, 3, 2, 1, 1, 187] :=
  socks5_socket [] [] [5, 1, 0, 1, 4, 3, 2, 1, 1, 187] (fun n => working (fourPieces.getD n []))
    [.start, .yield, .yield, .yield, .yield] (by decide) (by decide)

/-- Nothing is done with a part of a reply of two bytes. -/
lemma pair_part {α : Type} {a b : α} {s : List α} (hfront : s <+: [a, b]) (hne : s ≠ [a, b]) : s = [] ∨ s = [a] := by
  rcases List.prefix_cons_iff.mp hfront with rfl | ⟨t, rfl, ht⟩
  · exact .inl rfl
  · rcases List.prefix_cons_iff.mp ht with rfl | ⟨u, rfl, hu⟩
    · exact .inr rfl
    · rw [List.prefix_nil.mp hu] at hne
      exact absurd rfl hne

/-- Nothing is done with a part of the reply to the request. -/
lemma connected_part {reply s : Bytes} (hreply : Connected reply) (hfront : s <+: reply) (hne : s ≠ reply) :
    loopImpl username password request .waitIpAddressResponse s =
      .ok { state := .waitIpAddressResponse, input := s } := by
  rcases hreply with ⟨type, address, rfl, hsize⟩
  match s with
  | [] => rfl
  | [_] => rfl
  | [_, _] => rfl
  | [_, _, _] => rfl
  | version :: code :: zero :: type' :: rest =>
      simp only [List.cons_append, List.nil_append, List.cons_prefix_cons] at hfront
      rcases hfront with ⟨rfl, rfl, rfl, rfl, hrest⟩
      have hlength : rest.length < address.length := by
        refine lt_of_le_of_ne hrest.length_le fun heq => hne ?_
        rw [hrest.eq_of_length heq]
        rfl
      have hskip : ∀ size, address.length = size + 2 →
          skipIpAddress size (5 :: 0 :: 0 :: type' :: rest) =
            { state := .waitIpAddressResponse, input := 5 :: 0 :: 0 :: type' :: rest } := by
        intro size haddress
        rw [skipIpAddress, if_pos]
        simp only [List.length_cons]
        omega
      rcases hsize with ⟨rfl, haddress⟩ | ⟨rfl, haddress⟩
      · simp [loopImpl, hskip 4 haddress]
      · simp [loopImpl, hskip 16 haddress]

lemma connected_whole {reply : Bytes} (hreply : Connected reply) :
    loopImpl username password request .waitIpAddressResponse reply =
      .ok { state := .waitIpAddressResponse, input := [], stop := true } := by
  rcases hreply with ⟨type, address, rfl, ⟨rfl, haddress⟩ | ⟨rfl, haddress⟩⟩
  · simp [loopImpl, skipIpAddress, haddress]
  · simp [loopImpl, skipIpAddress, haddress]

/-- The answer to a reply of two bytes. -/
lemma receive_pair {state state' : State} {output output' : Bytes} {a b : UInt8} {chunks : List Bytes}
    (hnone : loopImpl username password request state [] = .ok { state, input := [] })
    (hone : loopImpl username password request state [a] = .ok { state, input := [a] })
    (htwo : loopImpl username password request state [a, b] = .ok { state := state', input := [], output := output' })
    (hidle : loopImpl username password request state' [] = .ok { state := state', input := [] })
    (hchunks : chunks.flatten = [a, b]) :
    receive (loopImpl username password request) { state, output } chunks =
      { state := state', output := output ++ output' } := by
  refine receive_reply { state := state', input := [], output := output' } rfl (fun s hfront hne => ?_) htwo rfl
    (fun _ => hidle) hchunks (List.cons_ne_nil a [b]).symm
  rcases pair_part hfront hne with rfl | rfl
  · exact hnone
  · exact hone

/-- The replies that let the handshake go on to the request, in any pieces. -/
lemma receive_admitted {replies replies' : List Bytes}
    (hreplies : replies.flatten = [5, 0] ∧ replies'.flatten = [] ∨
      replies.flatten = [5, 2] ∧ replies'.flatten = [1, 0] ∧ username.length < 128 ∧ password.length < 128) :
    ∃ output, Admitted username password request (replies ++ replies').flatten output ∧
      connect (loopImpl username password request) .sendGreeting (replies ++ replies') =
        { state := .waitIpAddressResponse, output } := by
  rw [connect, receive_append, List.flatten_append]
  rcases hreplies with ⟨hreply, hreply'⟩ | ⟨hreply, hreply', husername, hpassword⟩
  · refine ⟨greeting username ++ request, .inl ⟨by rw [hreply, hreply']; rfl, rfl⟩, ?_⟩
    calc receive _ (receive _ { state := State.waitGreetingResponse, output := greeting username } replies) replies'
        = receive _ { state := State.waitIpAddressResponse, output := greeting username ++ request } replies' := by
          rw [receive_pair rfl rfl rfl rfl hreply]
      _ = _ := receive_nothing rfl rfl hreply'
  · have hlogin : loopImpl username password request .waitGreetingResponse [5, 2] =
        .ok { state := .waitPasswordResponse, input := [], output := usernamePassword username password } :=
      sendUsernamePassword_eq husername hpassword []
    refine ⟨greeting username ++ usernamePassword username password ++ request,
      .inr ⟨?_, husername, hpassword, rfl⟩, ?_⟩
    · rw [hreply, hreply']
      rfl
    calc receive _ (receive _ { state := State.waitGreetingResponse, output := greeting username } replies) replies'
        = receive _
            { state := State.waitPasswordResponse
              output := greeting username ++ usernamePassword username password } replies' := by
          rw [receive_pair rfl rfl hlogin rfl hreply]
      _ = _ := receive_pair rfl rfl rfl rfl hreply'

/-- **A proxy that accepts is connected to**, in whatever pieces its replies arrive. -/
theorem socks5_connects (username password request : Bytes) {replies replies' replies'' : List Bytes}
    (hreplies : replies.flatten = [5, 0] ∧ replies'.flatten = [] ∨
      replies.flatten = [5, 2] ∧ replies'.flatten = [1, 0] ∧ username.length < 128 ∧ password.length < 128)
    (hconnected : Connected replies''.flatten) :
    let q := connect (loopImpl username password request) .sendGreeting (replies ++ replies' ++ replies'')
    q.stopped = true ∧ q.tearDown = some (.ok ()) ∧
      Admitted username password request (replies ++ replies').flatten q.output := by
  rcases receive_admitted hreplies with ⟨output, hadmitted, hrequested⟩
  have hempty : ([] : Bytes) ≠ replies''.flatten := by
    intro hnil
    rcases hconnected with ⟨type, address, hreply, -⟩
    rw [← hnil] at hreply
    cases hreply
  have hq : connect (loopImpl username password request) .sendGreeting (replies ++ replies' ++ replies'') =
      { state := .waitIpAddressResponse, output := output ++ [], stopped := true } := by
    rw [connect, receive_append, ← connect, hrequested]
    exact receive_reply { state := State.waitIpAddressResponse, input := [], stop := true } rfl
      (fun s => connected_part hconnected) (connected_whole hconnected) rfl (fun h => by cases h) rfl hempty
  rw [List.append_nil] at hq
  rw [hq]
  exact ⟨rfl, rfl, hadmitted⟩

theorem socks5_connects_named :
    (connect (loopImpl [117] [112] [5, 1, 0, 1, 4, 3, 2, 1, 1, 187]) .sendGreeting
      ([[5], [2]] ++ [[1, 0]] ++ [[5, 0, 0, 1, 0, 0], [0, 0, 0, 0]])).tearDown = some (.ok ()) :=
  (socks5_connects [117] [112] [5, 1, 0, 1, 4, 3, 2, 1, 1, 187] (.inr ⟨rfl, rfl, by decide, by decide⟩)
    ⟨1, [0, 0, 0, 0, 0, 0], rfl, .inl ⟨rfl, rfl⟩⟩).2.1

end Socks5

end RioGram
