import RioGram.Core.Transition
import RioGram.Net.Creator.Housekeeping
import RioGram.Net.Socks5
import RioGram.Tls.TlsInit

/-!
# Connections through the transport proxy

A connection to an MTProto proxy can be chained: the socket is connected to the transport proxy, a
`Socks5` or `HttpProxy` actor makes that one connect to the MTProto proxy, and then a `TlsInit` actor
emulates TLS.  `find_connection` and `prepare_connection` decide this separately, and
`connect_isChained_iff` says when they agree.

`Chain` is what happens to a chained connection afterwards.  The callback of the first actor owns the
second one, and is destroyed as soon as it has been given its result: `run_chain` says what the promise
of `prepare_connection` is set with.
-/

namespace RioGram

open Wire Transition

namespace ConnectionCreator

/-! ## Which connections are chained -/

/-- The socket is connected to `address`, and handed to an actor that makes the transport proxy connect
to `target`; TLS is emulated, with the given domain and secret, when that has been done. -/
def Prepared.IsChained (prepared : Prepared) (transportProxy : Proxy) (address : IpAddress)
    (target : Option IpAddress) (domain secret : Bytes) : Prop :=
  transportProxy.useSocks5Proxy ∧
    prepared = .socks5 ⟨some address⟩ target transportProxy.user transportProxy.password
      (.transportTls target domain secret) ∨
  transportProxy.useHttpTcpProxy ∧
    prepared = .httpProxy ⟨some address⟩ target transportProxy.user transportProxy.password
      (.transportTls target domain secret)

lemma getTransportType_mtproto {proxy : Proxy} (hproxy : proxy.useMtprotoProxy) (net : Net)
    (info : ConnectionInfo) : (getTransportType net proxy info).secret = proxy.secret := by
  simp only [getTransportType, hproxy, if_true]

/-- What `find_connection` does for an MTProto proxy while the transport proxy has an address. -/
lemma findConnection_transport {s : ConnectionCreator} {entry : Proxy × String} {address : IpAddress}
    (hentry : s.proxies[s.transportProxyId]? = some entry) (hid : s.transportProxyId ≠ 0)
    (hip : s.transportProxyIpAddress = some address) {proxy : Proxy} (hproxy : proxy.useMtprotoProxy)
    {net : Net} {target : Option IpAddress} {dcId : ℤ} {allowMediaOnly : Bool} {socket : Socket}
    {extra : FindConnectionExtra} {t : ConnectionCreator}
    (h : s.findConnection net proxy target dcId allowMediaOnly = (.ok socket, extra, t)) :
    socket = ⟨some address⟩ ∧ extra.transportType.secret = proxy.secret ∧
    extra.mtprotoIpAddress = target ∧ extra.useTransportForMtproto ∧
    extra.transportProxy = entry.1 ∧ extra.ipAddress = some address := by
  simp only [findConnection] at h
  split at h
  · cases h
  · rw [if_pos hproxy, if_pos hid, hip, if_neg (by simp)] at h
    simp only [subscript_of_some hentry, hip, Net.openSocket] at h
    split at h
    · cases h
    · cases h
      exact ⟨rfl, getTransportType_mtproto hproxy _ _, rfl, rfl, rfl, rfl⟩

/-- What `prepare_connection` does with a socket connected to the transport proxy. -/
lemma prepareConnection_transport {transportProxy : Proxy} (htype : isTransportType transportProxy)
    {proxy : Proxy} (hproxy : proxy.useMtprotoProxy) (address target : Option IpAddress)
    (socket : Socket) (transportType : TransportType) :
    prepareConnection address socket proxy target transportType transportProxy =
      if transportType.secret.emulateTls then
        if transportProxy.useSocks5Proxy then
          .socks5 socket target transportProxy.user transportProxy.password
            (.transportTls target transportType.secret.getDomain transportType.secret.getProxySecret)
        else
          .httpProxy socket target transportProxy.user transportProxy.password
            (.transportTls target transportType.secret.getDomain transportType.secret.getProxySecret)
      else .direct address socket := by
  have huse : transportProxy.useProxy := by
    cases h : transportProxy.type <;>
      simp_all [isTransportType, Proxy.useProxy, Proxy.useSocks5Proxy, Proxy.useHttpTcpProxy]
  have hsocks5 : proxy.useSocks5Proxy = false := by
    cases h : proxy.type <;> simp_all [Proxy.useMtprotoProxy, Proxy.useSocks5Proxy]
  have hhttp : proxy.useHttpTcpProxy = false := by
    cases h : proxy.type <;> simp_all [Proxy.useMtprotoProxy, Proxy.useHttpTcpProxy]
  cases hemulate : transportType.secret.emulateTls with
  | false => simp [prepareConnection, hemulate, hsocks5, hhttp]
  | true =>
      cases hsocks : transportProxy.useSocks5Proxy with
      | true => simp [prepareConnection, hemulate, huse, hsocks]
      | false =>
          have hhttpTcp : transportProxy.useHttpTcpProxy = true := by
            simpa [isTransportType, hsocks] using htype
          simp [prepareConnection, hemulate, huse, hsocks, hhttpTcp]

/-- **A connection to the transport proxy is chained**, and not passed on as a direct connection,
exactly if the secret of the MTProto proxy is one that emulates TLS.  The promise is not dropped with
either kind of secret. -/
theorem connect_isChained_iff {s : ConnectionCreator} {entry : Proxy × String} {address : IpAddress}
    (hid : s.transportProxyId ≠ 0) (hentry : s.proxies[s.transportProxyId]? = some entry)
    (htype : isTransportType entry.1) (hip : s.transportProxyIpAddress = some address) {proxy : Proxy}
    (hproxy : proxy.useMtprotoProxy) {net : Net} {target : Option IpAddress} {dcId : ℤ}
    {allowMediaOnly : Bool} {prepared : Prepared} {t : ConnectionCreator}
    (hconnect : s.connect net proxy target dcId allowMediaOnly = (.ok prepared, t)) :
    prepared ≠ .dropped ∧
    (prepared.IsChained entry.1 address target proxy.secret.getDomain proxy.secret.getProxySecret ∧
      (∀ ipAddress socket, prepared ≠ .direct ipAddress socket) ↔ proxy.secret.emulateTls) := by
  simp only [connect] at hconnect
  rcases hfind : s.findConnection net proxy target dcId allowMediaOnly with
    ⟨error | socket, extra, u⟩ <;> rw [hfind] at hconnect
  · exact nomatch hconnect
  · rcases findConnection_transport hentry hid hip hproxy hfind with
      ⟨rfl, hsecret, htarget, huse, htransport, haddress⟩
    injection hconnect with hprepared _
    injection hprepared with hprepared
    rw [if_pos huse, htransport, prepareConnection_transport htype hproxy, hsecret, htarget,
      haddress] at hprepared
    subst hprepared
    cases hemulate : proxy.secret.emulateTls with
    | false => simp
    | true =>
        cases hsocks : entry.1.useSocks5Proxy with
        | true => simp [Prepared.IsChained, hsocks]
        | false =>
            have hhttp : entry.1.useHttpTcpProxy = true := by
              simpa [isTransportType, hsocks] using htype
            simp [Prepared.IsChained, hsocks, hhttp]

/-- A state in which the transport proxy has an address. -/
def resolvedTransport : ConnectionCreator where
  proxies := (∅ : ProxyMap).insert (2 : ℤ)
    ({ type := .socks5, server := "10.0.0.1", port := 1080 }, transportProxyComment)
  transportProxyId := 2
  transportProxyIpAddress := some ⟨"10.0.0.1", 1080, false⟩

/-- An MTProto proxy with a secret. -/
def mtprotoProxy (raw : Bytes) : Proxy :=
  { type := .mtproto, server := "10.0.0.9", port := 443, secret := ⟨raw⟩ }

/-- A network in which a data center is found and every socket can be opened. -/
def plainNet : Net :=
  ⟨false, false, 2, fun _ _ _ _ _ => .ok { dcId := 2, ipAddress := ⟨"149.154.167.51", 443, false⟩ },
    fun _ => none⟩

/-- A secret with the domain `a`. -/
def tlsSecret : Bytes := 0xee :: List.replicate 16 1 ++ [97]

/-- With it the connection is chained. -/
theorem connect_isChained_tls : ∃ prepared t,
    resolvedTransport.connect plainNet (mtprotoProxy tlsSecret) (some ⟨"10.0.0.9", 443, false⟩) 2
      false = (.ok prepared, t) ∧
    prepared.IsChained { type := .socks5, server := "10.0.0.1", port := 1080 }
      ⟨"10.0.0.1", 1080, false⟩ (some ⟨"10.0.0.9", 443, false⟩) [97] (List.replicate 16 1) := by
  have hconnect : resolvedTransport.connect plainNet (mtprotoProxy tlsSecret)
      (some ⟨"10.0.0.9", 443, false⟩) 2 false = (.ok _, _) := rfl
  have hid : resolvedTransport.transportProxyId ≠ 0 := nofun
  exact ⟨_, _, hconnect, ((connect_isChained_iff hid rfl rfl rfl rfl hconnect).2.mpr rfl).1⟩

/-- With a secret of 16 bytes the socket connected to the transport proxy is a direct connection. -/
theorem plain_secret_direct : ∃ t, ProxySecret.fromBinary (List.replicate 16 1) false =
      .ok (mtprotoProxy (List.replicate 16 1)).secret ∧
    resolvedTransport.connect plainNet (mtprotoProxy (List.replicate 16 1))
      (some ⟨"10.0.0.9", 443, false⟩) 2 false =
      (.ok (.direct (some ⟨"10.0.0.1", 1080, false⟩) ⟨some ⟨"10.0.0.1", 1080, false⟩⟩), t) :=
  ⟨_, rfl, rfl⟩

end ConnectionCreator

/-! ## What becomes of a chained connection -/

/-- What the promise of `prepare_connection` is set by: the callback of the first actor, or that of the
`TlsInit` actor, while it handles an event or is torn down. -/
inductive SettledBy where
  | transport
  | tlsInit (e : Option ActorEvent)
  deriving DecidableEq, Repr

/-- The `TlsInit` actor as the scheduler knows it. -/
structure TlsInitActor where
  proxy : TransparentProxy TlsInit.State
  mailbox : List ActorEvent
  /-- `tls_child_` is there -/
  isOwned : Bool
  /-- the poll and the timeout know it -/
  isSubscribed : Bool

/-- The actors of a chained connection, and what the promise has been set with, in order. -/
structure Chain (σ : Type) where
  transport : Option (TransparentProxy σ)
  tlsInit : Option TlsInitActor := none
  promise : List (SettledBy × SocketResult) := []

namespace Chain

/-- The parameters of the two actors. -/
structure Parameters (σ : Type) where
  /-- `Socks5::loop_impl` or `HttpProxy::loop_impl` -/
  transportLoop : σ → Bytes → Except String (LoopResult σ)
  hmacSha256 : Bytes → Bytes → Bytes
  /-- the secret of the MTProto proxy -/
  password : Bytes
  /-- the header that `send_hello` generates -/
  hello : Bytes

variable {σ : Type} (params : Parameters σ)

/-- The actor has been created, with its first event sent to it. -/
def createTlsInit : TlsInitActor where
  proxy := { state := .sendHello }
  mailbox := [.start]
  isOwned := true
  isSubscribed := false

/-- `loop_impl` of the `TlsInit` actor. -/
def tlsLoop : TlsInit.State → Bytes → Except String (LoopResult TlsInit.State) :=
  TlsInit.loopImpl params.hmacSha256 params.password params.hello

/-- The scheduler runs the mailbox of the `TlsInit` actor, and tears the actor down if it has stopped. -/
def flushTlsInit (ios : ℕ → SocketIo) (a : TlsInitActor) (c : Chain σ) : Chain σ :=
  let (p, results) := a.proxy.flushMailbox (tlsLoop params) ios a.mailbox
  let promise := c.promise ++ results.map fun r => (.tlsInit (some r.1), r.2)
  if p.stopped then
    { c with
      tlsInit := none
      promise := promise ++ (p.tearDown.map fun r => (.tlsInit none, r)).toList }
  else { c with tlsInit := some { a with proxy := p, mailbox := [], isSubscribed := true }, promise }

/-- `hangup` is sent to the `TlsInit` actor when its owner goes: it is handled at once, with the socket
as it then is, unless other events are waiting. -/
def dropTlsInit (io : SocketIo) (c : Chain σ) : Chain σ :=
  match c.tlsInit with
  | none => c
  | some a =>
      let a := { a with isOwned := false, mailbox := a.mailbox ++ [.hangup] }
      if a.mailbox = [.hangup] then c.flushTlsInit params (fun _ => io) a
      else { c with tlsInit := some a }

/-- `set_result` of the first actor's callback, which is then destroyed. -/
def setResult (io : SocketIo) (c : Chain σ) (result : SocketResult) : Chain σ :=
  match result with
  | .error error => { c with promise := c.promise ++ [(.transport, .error error)] }
  | .ok () => dropTlsInit params io { c with tlsInit := some createTlsInit }

/-- Results that the callback of the first actor may be given. -/
def setResultIf (io : SocketIo) (c : Chain σ) : Option SocketResult → Chain σ
  | none => c
  | some result => c.setResult params io result

/-- The first actor handles an event, and is torn down if it has stopped. -/
def handleTransport (e : ActorEvent) (io : SocketIo) (c : Chain σ) : Chain σ :=
  match c.transport with
  | none => c
  | some p =>
      let (p, result) := p.handle params.transportLoop io e
      let c := setResultIf params io { c with transport := some p } result
      if p.stopped then setResultIf params io { c with transport := none } p.tearDown else c

inductive Event where
  /-- an event of the first actor -/
  | transport (e : ActorEvent) (io : SocketIo)
  /-- the poll or the timeout sends an event to the `TlsInit` actor -/
  | notify (e : ActorEvent)
  /-- the scheduler runs the mailbox of the `TlsInit` actor -/
  | flush (ios : ℕ → SocketIo)

def step (c : Chain σ) : Event → Except Empty (Chain σ)
  | .transport e io => .ok (c.handleTransport params e io)
  | .notify e =>
      match c.tlsInit with
      | none => .ok c
      | some a =>
          if a.isSubscribed then .ok { c with tlsInit := some { a with mailbox := a.mailbox ++ [e] } }
          else .ok c
  | .flush ios =>
      match c.tlsInit with
      | none => .ok c
      | some a => .ok (c.flushTlsInit params ios a)

/-- A chained connection as `prepare_connection` leaves it. -/
def start (state : σ) : Chain σ where
  transport := some { state }

/-! ## Runs of a chained connection -/

/-- The first thing the `TlsInit` actor does fails: reading, writing, or the connection is closed. -/
def StartFails (io : SocketIo) : Prop :=
  io.canWrite ∧ (io.readError.isSome ∨ io.writeError.isSome ∨ io.canClose)

/-- The `TlsInit` actor as it is left by the first actor: its owner is gone before it has started. -/
def abandoned : TlsInitActor :=
  { createTlsInit with isOwned := false, mailbox := [.start, .hangup] }

/-- Handling an event, an actor keeps its callback or gives it an error and stops. -/
lemma handle_cases {τ : Type} (loopImpl : τ → Bytes → Except String (LoopResult τ)) (io : SocketIo)
    (p : TransparentProxy τ) (hcallback : p.hasCallback) (e : ActorEvent) :
    (p.handle loopImpl io e).2 = none ∧ (p.handle loopImpl io e).1.hasCallback ∨
    (∃ error, (p.handle loopImpl io e).2 = some (.error error)) ∧
      (p.handle loopImpl io e).1.hasCallback = false ∧ (p.handle loopImpl io e).1.stopped := by
  have honError : ∀ (q : TransparentProxy τ) (error : String), q.hasCallback →
      (q.onError error).2 = some (.error error) ∧ (q.onError error).1.hasCallback = false ∧
        (q.onError error).1.stopped := by
    intro q error hq
    simp [TransparentProxy.onError, hq]
  have hfails : ∀ (q : TransparentProxy τ) (error : String), q.hasCallback →
      (q.onError error).2 = none ∧ (q.onError error).1.hasCallback ∨
      (∃ error', (q.onError error).2 = some (.error error')) ∧
        (q.onError error).1.hasCallback = false ∧ (q.onError error).1.stopped := by
    intro q error hq
    exact .inr ⟨⟨error, (honError q error hq).1⟩, (honError q error hq).2⟩
  have hloop : (p.loop loopImpl io).2 = none ∧ (p.loop loopImpl io).1.hasCallback ∨
      (∃ error, (p.loop loopImpl io).2 = some (.error error)) ∧
        (p.loop loopImpl io).1.hasCallback = false ∧ (p.loop loopImpl io).1.stopped := by
    simp only [TransparentProxy.loop]
    split
    · exact hfails _ _ hcallback
    · split
      · exact hfails _ _ hcallback
      · split
        · exact hfails _ _ hcallback
        · split_ifs
          · exact hfails _ _ hcallback
          · exact .inl ⟨rfl, hcallback⟩
  cases e with
  | start =>
      simp only [TransparentProxy.handle]
      split_ifs
      · exact hloop
      · exact .inl ⟨rfl, hcallback⟩
  | yield => exact hloop
  | timeout => exact hfails _ _ hcallback
  | hangup => exact hfails _ _ hcallback

/-- **What an abandoned actor does**: it fails at its start, or its callback is given the error of
`hangup`. -/
lemma flushTlsInit_abandoned (ios : ℕ → SocketIo) :
    (StartFails (ios 0) ∧ ∃ error, flushTlsInit params ios abandoned
        ({ transport := none, tlsInit := some abandoned } : Chain σ) =
      { transport := none, promise := [(.tlsInit (some .start), .error error)] }) ∨
    (¬ StartFails (ios 0) ∧ flushTlsInit params ios abandoned
        ({ transport := none, tlsInit := some abandoned } : Chain σ) =
      { transport := none, promise := [(.tlsInit (some .hangup), .error "Canceled")] }) := by
  have hstart : StartFails (ios 0) ∧ (∃ q error,
        createTlsInit.proxy.handle (tlsLoop params) (ios 0) .start = (q, some (.error error)) ∧
        q.stopped ∧ q.hasCallback = false) ∨
      ¬ StartFails (ios 0) ∧ (∃ q,
        createTlsInit.proxy.handle (tlsLoop params) (ios 0) .start = (q, none) ∧
        q.stopped = false ∧ q.hasCallback) := by
    rcases hio : ios 0 with ⟨canWrite, readError, received, writeError, canClose⟩
    cases canWrite with
    | false => exact .inr ⟨by simp [StartFails], _, rfl, rfl, rfl⟩
    | true =>
        rcases readError with _ | error
        · rcases writeError with _ | error
          · cases canClose with
            | false => exact .inr ⟨by simp [StartFails], _, rfl, rfl, rfl⟩
            | true => exact .inl ⟨by simp [StartFails], _, _, rfl, rfl, rfl⟩
          · exact .inl ⟨by simp [StartFails], _, _, rfl, rfl, rfl⟩
        · exact .inl ⟨by simp [StartFails], _, _, rfl, rfl, rfl⟩
  have hproxy : abandoned.proxy = createTlsInit.proxy := rfl
  have hmailbox : abandoned.mailbox = [.start, .hangup] := rfl
  have hrunning : createTlsInit.proxy.stopped = false := rfl
  rcases hstart with ⟨hfails, q, error, hq, hstopped, hcallback⟩ | ⟨hruns, q, hq, hstopped, hcallback⟩
  · refine .inl ⟨hfails, error, ?_⟩
    simp [flushTlsInit, hproxy, hmailbox, TransparentProxy.flushMailbox, hrunning, hq, hstopped,
      TransparentProxy.tearDown, hcallback]
  · refine .inr ⟨hruns, ?_⟩
    have hhangup : q.handle (tlsLoop params) (ios 1) .hangup = q.onError "Canceled" := rfl
    simp [flushTlsInit, hproxy, hmailbox, TransparentProxy.flushMailbox, hrunning, hq, hstopped,
      hhangup, TransparentProxy.onError, TransparentProxy.tearDown, hcallback]

/-- The shapes a chained connection can have. -/
inductive Shape : Chain σ → Prop where
  /-- the first actor shakes hands -/
  | shaking (p : TransparentProxy σ) (hcallback : p.hasCallback) (hrunning : p.stopped = false) :
      Shape { transport := some p }
  /-- the second actor has been created, and its owner has been destroyed -/
  | created : Shape { transport := none, tlsInit := some abandoned }
  /-- the promise has been set -/
  | settled (source : SettledBy) (error : String) :
      Shape { transport := none, promise := [(source, .error error)] }

/-- The `TlsInit` actor is the one that sets the promise, or nothing has yet. -/
def NotCanceled (c : Chain σ) : Prop := ∀ r ∈ c.promise, r.1 ≠ .tlsInit (some .hangup)

/-- The `TlsInit` actor fails at its start whenever its mailbox is run. -/
def OutlivesOwner (c : Chain σ) : Event → Prop
  | .flush ios => c.tlsInit.isSome → StartFails (ios 0)
  | _ => True

/-- The first actor goes from one shape to another. -/
lemma handleTransport_shape {p : TransparentProxy σ} (hcallback : p.hasCallback) (e : ActorEvent)
    (io : SocketIo) :
    Shape (handleTransport params e io { transport := some p }) ∧
      NotCanceled (handleTransport params e io { transport := some p }) := by
  simp only [handleTransport]
  rcases hhandle : p.handle params.transportLoop io e with ⟨q, result⟩
  have hcases := handle_cases params.transportLoop io p hcallback e
  rw [hhandle] at hcases
  rcases hcases with ⟨hnone, hq⟩ | ⟨⟨error, herror⟩, hq, hstopped⟩
  · dsimp only at hnone hq
    subst hnone
    cases hstopped : q.stopped with
    | false =>
        rw [if_neg (by simp)]
        exact ⟨.shaking q hq hstopped, nofun⟩
    | true =>
        rw [if_pos rfl, TransparentProxy.tearDown, if_neg (not_not.mpr hq)]
        split_ifs
        · exact ⟨.settled .transport _, by simp [NotCanceled, setResultIf, setResult]⟩
        · exact ⟨.created, nofun⟩
  · dsimp only at herror hq hstopped
    subst herror
    rw [if_pos hstopped, TransparentProxy.tearDown, if_pos (by simp [hq])]
    exact ⟨.settled .transport error, by simp [NotCanceled, setResultIf, setResult]⟩

/-- **Every step** goes from one shape to another, and an actor that fails at its start is not
canceled. -/
lemma Shape.step {c : Chain σ} (hc : Shape c) (e : Event) :
    Yields (c.step params e) (fun d => Shape d ∧ (NotCanceled c → OutlivesOwner c e → NotCanceled d))
      fun _ => True := by
  cases hc with
  | shaking p hcallback hrunning =>
      cases e with
      | transport e io =>
          have hshape := handleTransport_shape params hcallback e io
          exact ⟨hshape.1, fun _ _ => hshape.2⟩
      | notify e => exact ⟨.shaking p hcallback hrunning, fun h _ => h⟩
      | flush ios => exact ⟨.shaking p hcallback hrunning, fun h _ => h⟩
  | created =>
      cases e with
      | transport e io => exact ⟨.created, fun h _ => h⟩
      | notify e => exact ⟨.created, fun h _ => h⟩
      | flush ios =>
          change Shape (flushTlsInit params ios abandoned _) ∧ _
          rcases flushTlsInit_abandoned params ios with ⟨-, error, h⟩ | ⟨hruns, h⟩
          · rw [h]
            exact ⟨.settled _ error, fun _ _ => by simp [NotCanceled]⟩
          · rw [h]
            exact ⟨.settled _ _, fun _ hfails => absurd (hfails rfl) hruns⟩
  | settled source error =>
      cases e with
      | transport e io => exact ⟨.settled source error, fun h _ => h⟩
      | notify e => exact ⟨.settled source error, fun h _ => h⟩
      | flush ios => exact ⟨.settled source error, fun h _ => h⟩

/-- **What the promise of a chained connection is set with**, in every run.  It is set at most once, and
never by `hangup` if the `TlsInit` actor fails at its start.  Once the first handshake has succeeded
the actor has no owner; what its mailbox is run for then sets the promise with its own error exactly if
it fails at its start, and otherwise the promise is set with `Canceled`. -/
theorem run_chain {state : σ} {es : List Event} {c : Chain σ}
    (hrun : run (step params) (start state) es = .ok c) :
    c.promise.length ≤ 1 ∧
    (Meets (step params) OutlivesOwner (start state) es → NotCanceled c) ∧
    (∀ a, c.tlsInit = some a → a.isOwned = false ∧ ∀ ios d, c.step params (.flush ios) = .ok d →
      (NotCanceled d ↔ StartFails (ios 0)) ∧
      (¬ StartFails (ios 0) → d.promise = [(.tlsInit (some .hangup), .error "Canceled")])) := by
  have hstart : Shape (start state) := .shaking { state } rfl rfl
  have hshape : Shape c := (run_yields (I := Shape) (fun c e hc _ => (hc.step params e).mono
    fun d hd => hd.1) hstart (meets_true _ es)).result hrun
  refine ⟨?_, ?_, ?_⟩
  · cases hshape <;> simp
  · intro hmeets
    have hkept := (run_yields (I := fun c => Shape c ∧ NotCanceled c)
      (fun c e hc he => (hc.1.step params e).mono fun d hd => ⟨hd.1, hd.2 hc.2 he⟩)
      ⟨hstart, nofun⟩ hmeets).result hrun
    exact hkept.2
  · intro a ha
    cases hshape with
    | shaking p _ _ => exact nomatch ha
    | settled source error => exact nomatch ha
    | created =>
        injection ha with ha
        subst ha
        refine ⟨rfl, ?_⟩
        intro ios d hd
        injection hd with hd
        rcases flushTlsInit_abandoned params ios with ⟨hfails, error, h⟩ | ⟨hruns, h⟩
        · rw [h] at hd
          subst hd
          exact ⟨iff_of_true (by simp [NotCanceled]) hfails, fun hruns => absurd hfails hruns⟩
        · rw [h] at hd
          subst hd
          exact ⟨iff_of_false (by simp [NotCanceled]) hruns, fun _ => rfl⟩

/-- A socket that can be written to and receives some bytes. -/
def quiet (received : Bytes) : SocketIo := ⟨true, none, received, none, false⟩

/-- A chain over a `Socks5` actor. -/
def socks5Chain : Parameters Socks5.State where
  transportLoop := Socks5.loopImpl [] [] [5, 1, 0, 1, 10, 0, 0, 9, 1, 187]
  hmacSha256 := fun _ _ => List.replicate 32 0
  password := List.replicate 16 1
  hello := List.replicate 43 0

/-- The handshake of the `Socks5` actor, from its start to its success. -/
def handshake : List Event :=
  [.transport .start (quiet []), .transport .yield (quiet [5, 0]),
    .transport .yield (quiet [5, 0, 0, 1, 10, 0, 0, 9, 1, 187])]

/-- The connection is reset while the `TlsInit` actor starts. -/
theorem run_chain_reset : ∃ c d, run (step socks5Chain) (start .sendGreeting) handshake = .ok c ∧
    c.step socks5Chain (.flush fun _ => ⟨true, some "Connection reset", [], none, false⟩) = .ok d ∧
    NotCanceled d := by
  refine ⟨_, _, rfl, rfl, ?_⟩
  have hchain := @run_chain _ socks5Chain .sendGreeting handshake _ rfl
  exact ((hchain.2.2 _ rfl).2 _ _ rfl).1.mpr ⟨rfl, .inl rfl⟩

/-- The handshake of the `Socks5` actor succeeds, nothing goes wrong with the socket, and the promise is
set with `Canceled`. -/
theorem handshake_canceled : ∃ c,
    run (step socks5Chain) (start .sendGreeting) (handshake ++ [.flush fun _ => quiet []]) = .ok c ∧
    c.promise = [(.tlsInit (some .hangup), .error "Canceled")] :=
  ⟨_, rfl, rfl⟩

end Chain

end RioGram
