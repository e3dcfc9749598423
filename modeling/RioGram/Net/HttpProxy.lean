import RioGram.Net.Handshakes
import RioGram.Utils.Base64

/-!
# `HttpProxy`

The request to connect and the wait for its response.  The end of the response is found byte by byte; it is looked for
anew whenever more bytes have arrived.

* `waitConnectResponse_stop_iff`: a response is taken exactly up to its blank line.
* `http_connect_iff`: a socket is given for one response and nothing else, in whatever pieces it arrives.
* `sendConnect_framed`: no user name and no password break the request.
-/

namespace RioGram

open Wire

namespace HttpProxy

open TransparentProxy

inductive State where
  | sendConnect | waitConnectResponse
  deriving DecidableEq, Repr

/-- `is_digit`. -/
def isDigit (c : UInt8) : Bool := 48 ≤ c && c ≤ 57

/-- The `Proxy-Authorization` line of `send_connect`. -/
def proxyAuthorization (username password : Bytes) : Bytes :=
  if username ≠ [] ∨ password ≠ [] then
    utf8 "Proxy-Authorization: Basic " ++ base64Encode (username ++ [58] ++ password) ++ [13, 10]
  else []

/-- `send_connect`, where `host` is the address with its port. -/
def sendConnect (host : String) (username password : Bytes) : Bytes :=
  utf8 "CONNECT " ++ utf8 host ++ utf8 " HTTP/1.1\r\n" ++ utf8 "Host: " ++ utf8 host ++ [13, 10] ++
    proxyAuthorization username password ++ [13, 10]

/-- What follows the line, if its end is there. -/
def skipLine : Bytes → Option Bytes
  | [] => none
  | c :: s => if c = 10 then some s else skipLine s

/-- What follows the blank line, if it is there.  `pos` bytes of the line have been read, the last byte is `prev`. -/
def skipHeaders (pos : ℕ) (prev : UInt8) : Bytes → Option Bytes
  | [] => none
  | c :: s =>
      if c = 10 then if pos = 0 ∨ pos = 1 ∧ prev = 13 then some s else skipHeaders 0 c s
      else skipHeaders (pos + 1) c s

/-- `wait_connect_response`. -/
def waitConnectResponse (host : String) (input : Bytes) : Except String (LoopResult State) :=
  if input.length < 12 + 1 + 1 then .ok { state := .waitConnectResponse, input }
  else
    let start := input.take 12
    if (start.take 10 ≠ utf8 "HTTP/1.1 2" ∧ start.take 10 ≠ utf8 "HTTP/1.0 2") ∨ ¬ isDigit (start.getD 10 0) ∨
        ¬ isDigit (start.getD 11 0) then
      .error s!"Failed to connect to {host}"
    else
      match skipLine (input.drop 12) with
      | none | some [] => .ok { state := .waitConnectResponse, input }
      | some (c :: s) =>
          match skipHeaders 0 10 (c :: s) with
          | none => .ok { state := .waitConnectResponse, input }
          | some rest => .ok { state := .waitConnectResponse, input := rest, stop := true }

/-- `loop_impl`. -/
def loopImpl (host : String) (username password : Bytes) (state : State) (input : Bytes) :
    Except String (LoopResult State) :=
  match state with
  | .sendConnect => .ok { state := .waitConnectResponse, input, output := sendConnect host username password }
  | .waitConnectResponse => waitConnectResponse host input

/-! ## Lines -/

/-- The line is blank, with or without a carriage return. -/
def Blank (line : Bytes) : Prop := line = [] ∨ line = [13]

/-- Lines that are not blank, one after another. -/
def Headers (text : Bytes) : Prop :=
  ∃ lines : List Bytes, (∀ line ∈ lines, (10 : UInt8) ∉ line ∧ ¬ Blank line) ∧ text = lines.flatMap (· ++ [10])

lemma skipLine_line {line : Bytes} (hline : (10 : UInt8) ∉ line) (s : Bytes) :
    skipLine (line ++ 10 :: s) = some s := by
  induction line with
  | nil => rfl
  | cons c line ih =>
      rw [List.mem_cons, not_or] at hline
      rw [List.cons_append, skipLine, if_neg (Ne.symm hline.1), ih hline.2]

lemma skipLine_eq_some_iff {s rest : Bytes} :
    skipLine s = some rest ↔ ∃ line, (10 : UInt8) ∉ line ∧ s = line ++ 10 :: rest := by
  constructor
  · induction s with
    | nil =>
        intro h
        cases h
    | cons c s ih =>
        intro h
        rw [skipLine] at h
        split_ifs at h with hc
        · cases h
          exact ⟨[], List.not_mem_nil, by rw [hc]; rfl⟩
        · rcases ih h with ⟨line, hline, rfl⟩
          exact ⟨c :: line, by simp [hline, Ne.symm hc], rfl⟩
  · rintro ⟨line, hline, rfl⟩
    exact skipLine_line hline rest

lemma blank_iff {line : Bytes} {prev : UInt8} (hprev : line.length = 1 → line = [prev]) :
    Blank line ↔ line.length = 0 ∨ line.length = 1 ∧ prev = 13 := by
  rw [Blank, List.length_eq_zero_iff]
  refine or_congr_right ⟨fun h => ?_, fun ⟨hone, h⟩ => by rw [hprev hone, h]⟩
  have hline := hprev (by rw [h]; rfl)
  rw [h, List.cons.injEq] at hline
  exact ⟨by rw [h]; rfl, hline.1.symm⟩

instance (line : Bytes) : Decidable (Blank line) := inferInstanceAs (Decidable (_ ∨ _))

/-- The end of a line of which `seen` has been read. -/
lemma skipHeaders_seen {line : Bytes} (hline : (10 : UInt8) ∉ line) (seen : Bytes) {prev : UInt8}
    (hprev : seen.length = 1 → seen = [prev]) (s : Bytes) :
    skipHeaders seen.length prev (line ++ 10 :: s) = if Blank (seen ++ line) then some s else skipHeaders 0 10 s := by
  induction line generalizing seen prev with
  | nil =>
      rw [List.nil_append, skipHeaders, if_pos rfl, List.append_nil]
      simp only [blank_iff hprev]
  | cons c line ih =>
      rw [List.mem_cons, not_or] at hline
      have hnext := @ih hline.2 (seen ++ [c]) c fun h => by
        rw [List.length_append, List.length_singleton, Nat.add_eq_right, List.length_eq_zero_iff] at h
        rw [h]
        rfl
      rw [List.length_append, List.length_singleton, List.append_assoc, List.singleton_append] at hnext
      rw [List.cons_append, skipHeaders, if_neg (Ne.symm hline.1), hnext]

lemma skipHeaders_line {line : Bytes} (hline : (10 : UInt8) ∉ line) (s : Bytes) :
    skipHeaders 0 10 (line ++ 10 :: s) = if Blank line then some s else skipHeaders 0 10 s :=
  skipHeaders_seen hline [] (fun h => by cases h) s

lemma skipHeaders_part {line : Bytes} (hline : (10 : UInt8) ∉ line) (pos : ℕ) (prev : UInt8) :
    skipHeaders pos prev line = none := by
  induction line generalizing pos prev with
  | nil => rfl
  | cons c line ih =>
      rw [List.mem_cons, not_or] at hline
      rw [skipHeaders, if_neg (Ne.symm hline.1), ih hline.2]

/-- **The first blank line is found.** -/
lemma skipHeaders_eq_some_iff {s rest : Bytes} :
    skipHeaders 0 10 s = some rest ↔
      ∃ headers blank, Headers headers ∧ Blank blank ∧ s = headers ++ (blank ++ 10 :: rest) := by
  constructor
  · intro h
    induction hn : s.length using Nat.strongRecOn generalizing s with
    | ind n ih =>
        by_cases hend : (10 : UInt8) ∈ s
        · rcases List.eq_append_cons_of_mem hend with ⟨line, t, rfl, hline⟩
          rw [skipHeaders_line hline] at h
          split_ifs at h with hblank
          · cases h
            exact ⟨[], line, ⟨[], by simp, rfl⟩, hblank, rfl⟩
          · have hshorter : t.length < n := by
              rw [← hn, List.length_append, List.length_cons]
              omega
            rcases ih t.length hshorter h rfl with ⟨headers, blank, ⟨lines, hlines, rfl⟩, hblank', rfl⟩
            refine ⟨_, blank, ⟨line :: lines, ?_, rfl⟩, hblank', ?_⟩
            · exact List.forall_mem_cons.mpr ⟨⟨hline, hblank⟩, hlines⟩
            · simp
        · rw [skipHeaders_part hend] at h
          cases h
  · rintro ⟨headers, blank, ⟨lines, hlines, rfl⟩, hblank, rfl⟩
    induction lines with
    | nil =>
        have hline : (10 : UInt8) ∉ blank := by rcases hblank with rfl | rfl <;> decide
        rw [List.flatMap_nil, List.nil_append, skipHeaders_line hline, if_pos hblank]
    | cons line lines ih =>
        rw [List.forall_mem_cons] at hlines
        rw [List.flatMap_cons, List.append_assoc, List.append_assoc, List.singleton_append,
          skipHeaders_line hlines.1.1, if_neg hlines.1.2]
        exact ih hlines.2

/-! ## Responses -/

/-- The response has begun with a code that means success. -/
def Successful (start : Bytes) : Prop :=
  (start.take 10 = utf8 "HTTP/1.1 2" ∨ start.take 10 = utf8 "HTTP/1.0 2") ∧ isDigit (start.getD 10 0) ∧
    isDigit (start.getD 11 0)

instance (start : Bytes) : Decidable (Successful start) := inferInstanceAs (Decidable (_ ∧ _))

/-- A response that means success: the status line, the headers and a blank line. -/
def IsResponse (response : Bytes) : Prop :=
  ∃ start reason headers blank, start.length = 12 ∧ Successful start ∧ (10 : UInt8) ∉ reason ∧ Headers headers ∧
    Blank blank ∧ response = start ++ (reason ++ 10 :: (headers ++ (blank ++ [10])))

/-- What follows the blank line, from the status line on. -/
def skipResponse (s : Bytes) : Option Bytes := (skipLine s).bind (skipHeaders 0 10)

lemma skipResponse_eq_some_iff {s rest : Bytes} :
    skipResponse s = some rest ↔
      ∃ reason headers blank, (10 : UInt8) ∉ reason ∧ Headers headers ∧ Blank blank ∧
        s = reason ++ 10 :: (headers ++ (blank ++ 10 :: rest)) := by
  rw [skipResponse, Option.bind_eq_some_iff]
  constructor
  · rintro ⟨t, hline, hheaders⟩
    rcases skipLine_eq_some_iff.mp hline with ⟨reason, hreason, rfl⟩
    rcases skipHeaders_eq_some_iff.mp hheaders with ⟨headers, blank, hlines, hblank, rfl⟩
    exact ⟨reason, headers, blank, hreason, hlines, hblank, rfl⟩
  · rintro ⟨reason, headers, blank, hreason, hlines, hblank, rfl⟩
    exact ⟨_, skipLine_line hreason _, skipHeaders_eq_some_iff.mpr ⟨headers, blank, hlines, hblank, rfl⟩⟩

/-- What `wait_connect_response` does, whichever of its loops runs out of bytes. -/
lemma waitConnectResponse_eq (host : String) (input : Bytes) :
    waitConnectResponse host input =
      if input.length < 14 then .ok { state := .waitConnectResponse, input }
      else if Successful (input.take 12) then
        match skipResponse (input.drop 12) with
        | none => .ok { state := .waitConnectResponse, input }
        | some rest => .ok { state := .waitConnectResponse, input := rest, stop := true }
      else .error s!"Failed to connect to {host}" := by
  rw [waitConnectResponse, skipResponse]
  refine if_congr Iff.rfl rfl ?_
  rw [← ite_not]
  refine if_congr (by simp only [Successful]; tauto) ?_ rfl
  rcases skipLine (input.drop 12) with _ | _ | ⟨c, s⟩
  · rfl
  · rfl
  · rfl

lemma waitConnectResponse_stop_iff {host : String} {input rest : Bytes} :
    waitConnectResponse host input = .ok { state := .waitConnectResponse, input := rest, stop := true } ↔
      ∃ response, IsResponse response ∧ input = response ++ rest := by
  rw [waitConnectResponse_eq]
  constructor
  · intro h
    split_ifs at h with hshort hstart
    · cases h
    · cases hskip : skipResponse (input.drop 12) with
      | none =>
          rw [hskip] at h
          cases h
      | some rest' =>
          rw [hskip] at h
          cases h
          rcases skipResponse_eq_some_iff.mp hskip with ⟨reason, headers, blank, hreason, hlines, hblank, hinput⟩
          have hlength : (input.take 12).length = 12 := List.length_take_of_le (by omega)
          refine ⟨_, ⟨input.take 12, reason, headers, blank, hlength, hstart, hreason, hlines, hblank, rfl⟩, ?_⟩
          refine (List.take_append_drop 12 input).symm.trans ?_
          rw [hinput]
          simp
  · rintro ⟨_, ⟨start, reason, headers, blank, hlength, hstart, hreason, hlines, hblank, rfl⟩, rfl⟩
    rw [List.append_assoc, List.take_left' hlength, List.drop_left' hlength, if_neg, if_pos hstart]
    · have hskip := (@skipResponse_eq_some_iff _ rest).mpr ⟨reason, headers, blank, hreason, hlines, hblank, rfl⟩
      simp only [List.append_assoc, List.cons_append, List.nil_append]
      rw [hskip]
    · simp only [List.length_append, List.length_cons, hlength]
      omega

lemma waitConnectResponse_cases {host : String} {input : Bytes} {result : LoopResult State}
    (h : waitConnectResponse host input = .ok result) :
    result = { state := .waitConnectResponse, input } ∨
      ∃ rest, result = { state := .waitConnectResponse, input := rest, stop := true } := by
  rw [waitConnectResponse_eq] at h
  split_ifs at h
  · cases h
    exact .inl rfl
  · cases hskip : skipResponse (input.drop 12) with
    | none =>
        rw [hskip] at h
        cases h
        exact .inl rfl
    | some rest =>
        rw [hskip] at h
        cases h
        exact .inr ⟨rest, rfl⟩

/-- Nothing is done with a part of a response. -/
lemma response_part {host : String} {response s : Bytes} (hresponse : IsResponse response) (hfront : s <+: response)
    (hne : s ≠ response) : waitConnectResponse host s = .ok { state := .waitConnectResponse, input := s } := by
  rcases hfront with ⟨t, rfl⟩
  cases h : waitConnectResponse host s with
  | ok result =>
      rcases waitConnectResponse_cases h with rfl | ⟨rest, rfl⟩
      · rfl
      · rcases waitConnectResponse_stop_iff.mp h with ⟨first, hfirst, rfl⟩
        have hrest := (@waitConnectResponse_stop_iff host _ _).mpr ⟨first, hfirst, List.append_assoc first rest t⟩
        have hnone := (@waitConnectResponse_stop_iff host _ _).mpr ⟨_, hresponse, (List.append_nil _).symm⟩
        rw [hnone] at hrest
        cases t with
        | nil => exact absurd (List.append_nil _).symm hne
        | cons c t => simp at hrest
  | error error =>
      rw [waitConnectResponse_eq] at h
      split_ifs at h with hshort hstart
      · cases hskip : skipResponse (s.drop 12) <;> rw [hskip] at h <;> cases h
      · rcases hresponse with ⟨start, reason, headers, blank, hlength, hsuccess, -, -, -, hwhole⟩
        have htake : s.take 12 = start := by
          rw [← List.take_append_of_le_length (by omega : 12 ≤ s.length), hwhole, List.take_left' hlength]
        exact absurd (htake ▸ hsuccess) hstart

/-! ## The handshake -/

section

variable {host : String} {username password : Bytes}

/-- What has been taken and written in each state. -/
def Seen (host : String) (username password taken output : Bytes) : State → Prop
  | .sendConnect => taken = [] ∧ output = []
  | .waitConnectResponse => taken = [] ∧ output = sendConnect host username password

/-- The accounts of a handshake with an HTTP proxy. -/
def accounts (host : String) (username password : Bytes) : Accounts (loopImpl host username password) where
  Seen := Seen host username password
  Done taken output := IsResponse taken ∧ output = sendConnect host username password
  step := by
    rintro taken output state input result hseen h
    cases state with
    | sendConnect =>
        cases h
        rcases hseen with ⟨rfl, rfl⟩
        exact ⟨[], rfl, rfl, rfl⟩
    | waitConnectResponse =>
        rcases hseen with ⟨rfl, rfl⟩
        rcases waitConnectResponse_cases h with rfl | ⟨rest, rfl⟩
        · exact ⟨[], rfl, rfl, List.append_nil _⟩
        · rcases waitConnectResponse_stop_iff.mp h with ⟨response, hresponse, hinput⟩
          exact ⟨response, hinput, hresponse, List.append_nil _⟩

/-- **The socket is given for a response that means success**, for the request that has been written, and for no byte
more. -/
theorem http_socket (host : String) (username password : Bytes) (ios : ℕ → SocketIo) (events : List ActorEvent) :
    let q := (flushMailbox (loopImpl host username password) ios { state := .sendConnect } events).1
    q.stopped = true → q.tearDown = some (.ok ()) →
      IsResponse (arrived (loopImpl host username password) ios { state := .sendConnect } events) ∧
        q.output = sendConnect host username password :=
  have hstart : Seen host username password [] [] .sendConnect := ⟨rfl, rfl⟩
  @socket_accounted _ _ (accounts host username password) .sendConnect hstart ios events

/-- A response in three pieces after the start. -/
def threePieces : List Bytes := [[], utf8 "HTTP/1.1 20", utf8 "0 OK\r\nVia: x\r", utf8 "\n\r\n"]

theorem http_socket_three_pieces :
    IsResponse threePieces.flatten ∧
      (flushMailbox (loopImpl "1.2.3.4:443" [] []) (fun n => working (threePieces.getD n []))
        { state := .sendConnect } [.start, .yield, .yield, .yield]).1.output = sendConnect "1.2.3.4:443" [] [] :=
  http_socket "1.2.3.4:443" [] [] (fun n => working (threePieces.getD n [])) [.start, .yield, .yield, .yield]
    (by decide) (by decide)

/-- A response is read, in any pieces. -/
lemma connect_response {chunks : List Bytes} (hresponse : IsResponse chunks.flatten) :
    connect (loopImpl host username password) .sendConnect chunks =
      { state := .waitConnectResponse, output := sendConnect host username password ++ [], stopped := true } := by
  have hempty : ([] : Bytes) ≠ chunks.flatten := by
    intro hnil
    rw [← hnil] at hresponse
    rcases hresponse with ⟨start, reason, headers, blank, hlength, -, -, -, -, hwhole⟩
    have hwhole := congrArg List.length hwhole
    rw [List.length_append, hlength, List.length_nil] at hwhole
    omega
  refine receive_reply { state := State.waitConnectResponse, input := [], stop := true } rfl
    (fun s => response_part hresponse) ?_ rfl (fun h => by cases h) rfl hempty
  exact waitConnectResponse_stop_iff.mpr ⟨_, hresponse, (List.append_nil _).symm⟩

/-- **One response and nothing else**: as the pieces arrive, the socket is given exactly if those up to one of them are
a response that means success, whatever comes later. -/
theorem http_connect_iff (host : String) (username password : Bytes) (chunks : List Bytes) :
    let q := connect (loopImpl host username password) .sendConnect chunks
    (q.stopped = true ∧ q.tearDown = some (.ok ())) ↔ ∃ n, IsResponse (chunks.take n).flatten := by
  intro q
  constructor
  · rintro ⟨hstopped, hsocket⟩
    have hstart : Seen host username password [] [] .sendConnect := ⟨rfl, rfl⟩
    rcases @connect_accounted _ _ (accounts host username password) .sendConnect hstart chunks hstopped hsocket with
      ⟨n, hresponse, -⟩
    exact ⟨n, hresponse⟩
  · rintro ⟨n, hresponse⟩
    have hq : connect (loopImpl host username password) .sendConnect chunks =
        { state := .waitConnectResponse, output := sendConnect host username password ++ [], stopped := true } := by
      rw [← List.take_append_drop n chunks, connect, receive_append, ← connect, connect_response hresponse]
      exact receive_stopped rfl _
    show (connect _ _ chunks).stopped = true ∧ (connect _ _ chunks).tearDown = _
    rw [hq]
    exact ⟨rfl, rfl⟩

end

/-! ## The request -/

lemma base64Character_ne_newline (n : ℕ) : base64Character false n ≠ 10 := by
  intro h
  have hnat := congrArg UInt8.toNat h
  rw [base64Character] at hnat
  split_ifs at hnat <;> simp only [UInt8.toNat_ofNat', UInt8.reduceToNat] at * <;> omega

lemma base64Encode_newline (s : Bytes) : (10 : UInt8) ∉ base64Encode s := by
  have hne (n : ℕ) : (10 : UInt8) ≠ base64Character false n := (base64Character_ne_newline n).symm
  induction s using base64Encode.induct with
  | case1 a b c s ih => simp [base64Encode, hne, ih]
  | case2 a b => simp [base64Encode, hne]
  | case3 a => simp [base64Encode, hne]
  | case4 => exact List.not_mem_nil

lemma headers_append {text text' : Bytes} (h : Headers text) (h' : Headers text') : Headers (text ++ text') := by
  rcases h with ⟨lines, hlines, rfl⟩
  rcases h' with ⟨lines', hlines', rfl⟩
  refine ⟨lines ++ lines', fun line hline => ?_, List.flatMap_append.symm⟩
  exact (List.mem_append.mp hline).elim (hlines line) (hlines' line)

lemma headers_singleton {line : Bytes} (hline : (10 : UInt8) ∉ line) (hblank : ¬ Blank line) : Headers (line ++ [10]) :=
  ⟨[line], by simp [hline, hblank], by simp⟩

/-- A line that starts with a name is not blank. -/
lemma not_blank {name line : Bytes} (hname : 2 ≤ name.length) : ¬ Blank (name ++ line) := by
  intro h
  have hlength : (name ++ line).length ≤ 1 := by rcases h with h | h <;> rw [h] <;> decide
  rw [List.length_append] at hlength
  omega

lemma headers_proxyAuthorization (username password : Bytes) : Headers (proxyAuthorization username password) := by
  rw [proxyAuthorization]
  split_ifs
  · have hline : (10 : UInt8) ∉
        utf8 "Proxy-Authorization: Basic " ++ (base64Encode (username ++ [58] ++ password) ++ [13]) := by
      rw [List.mem_append, List.mem_append, not_or, not_or]
      exact ⟨by decide, base64Encode_newline _, by decide⟩
    have hheaders := headers_singleton hline (not_blank (by decide))
    rw [List.append_assoc, List.append_assoc] at hheaders
    rw [List.append_assoc]
    exact hheaders
  · exact ⟨[], by simp, rfl⟩

/-- **No user name and no password break the request**: read as the response is, it ends with its own blank line. -/
theorem sendConnect_framed {host : String} (hhost : (10 : UInt8) ∉ utf8 host) (username password : Bytes) :
    skipResponse (sendConnect host username password) = some [] := by
  have hreason : (10 : UInt8) ∉ utf8 "CONNECT " ++ utf8 host ++ (utf8 " HTTP/1.1" ++ [13]) := by
    rw [List.mem_append, List.mem_append, not_or, not_or]
    exact ⟨⟨by decide, hhost⟩, by decide⟩
  have hline : (10 : UInt8) ∉ utf8 "Host: " ++ (utf8 host ++ [13]) := by
    rw [List.mem_append, List.mem_append, not_or, not_or]
    exact ⟨by decide, hhost, by decide⟩
  have hheaders := headers_append (headers_singleton hline (not_blank (by decide)))
    (headers_proxyAuthorization username password)
  refine skipResponse_eq_some_iff.mpr ⟨_, _, [13], hreason, hheaders, .inr rfl, ?_⟩
  rw [sendConnect, show utf8 " HTTP/1.1\r\n" = utf8 " HTTP/1.1" ++ [13, 10] by decide]
  simp only [List.append_assoc, List.cons_append, List.nil_append]

theorem sendConnect_framed_local : skipResponse (sendConnect "127.0.0.1:80" [97, 10] [10, 10]) = some [] :=
  sendConnect_framed (by decide) [97, 10] [10, 10]

end HttpProxy

end RioGram
