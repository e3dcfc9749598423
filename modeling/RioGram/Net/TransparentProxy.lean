import RioGram.Core.Wire

/-!
# `TransparentProxy`

The actors that shake hands over a socket before it is used: `Socks5`, `HttpProxy` and `TlsInit`.  They
differ in `loop_impl`, which is a parameter here.

An actor handles the events of its mailbox one after another; an event that makes it stop is the last
one, and then `tear_down` gives the callback the socket, unless the callback has been given an error
before.  How the socket behaves while an event is handled comes from outside.
-/

namespace RioGram

open Wire

/-- `Event`, as far as these actors get them. -/
inductive ActorEvent where
  | start | yield | timeout | hangup
  deriving DecidableEq, Repr

/-- What the socket does while an event is handled. -/
structure SocketIo where
  /-- `can_write_local` in `start_up` -/
  canWrite : Bool
  /-- the error of `flush_read` -/
  readError : Option String
  /-- what `flush_read` has read -/
  received : Bytes
  /-- the error of `flush_write` -/
  writeError : Option String
  /-- `can_close_local` -/
  canClose : Bool

/-- What a callback is given: a socket or an error. -/
abbrev SocketResult := Except String Unit

/-- What `loop_impl` leaves. -/
structure LoopResult (σ : Type) where
  state : σ
  /-- `fd_.input_buffer()` -/
  input : Bytes
  /-- what is appended to `fd_.output_buffer()` -/
  output : Bytes := []
  /-- `stop` is called -/
  stop : Bool := false

structure TransparentProxy (σ : Type) where
  state : σ
  /-- `fd_.input_buffer()` -/
  input : Bytes := []
  /-- all that has been appended to `fd_.output_buffer()` -/
  output : Bytes := []
  /-- `callback_` is there -/
  hasCallback : Bool := true
  /-- `stop` has been called -/
  stopped : Bool := false

namespace TransparentProxy

variable {σ : Type} (loopImpl : σ → Bytes → Except String (LoopResult σ))

/-- `on_error`. -/
def onError (error : String) (p : TransparentProxy σ) : TransparentProxy σ × Option SocketResult :=
  ({ p with hasCallback := false, stopped := true },
    if p.hasCallback then some (.error error) else none)

/-- `loop`. -/
def loop (io : SocketIo) (p : TransparentProxy σ) : TransparentProxy σ × Option SocketResult :=
  match io.readError with
  | some error => p.onError error
  | none =>
      let p := { p with input := p.input ++ io.received }
      match loopImpl p.state p.input with
      | .error error => p.onError error
      | .ok result =>
          let p :=
            { p with
              state := result.state
              input := result.input
              output := p.output ++ result.output
              stopped := p.stopped || result.stop }
          match io.writeError with
          | some error => p.onError error
          | none => if io.canClose then p.onError "Connection closed" else (p, none)

/-- `do_event`. -/
def handle (io : SocketIo) (p : TransparentProxy σ) :
    ActorEvent → TransparentProxy σ × Option SocketResult
  | .start => if io.canWrite then p.loop loopImpl io else (p, none)
  | .yield => p.loop loopImpl io
  | .timeout => p.onError "Connection timeout expired"
  | .hangup => p.onError "Canceled"

/-- `tear_down`: what the callback is given, if it is there. -/
def tearDown (p : TransparentProxy σ) : Option SocketResult :=
  if ¬ p.hasCallback then none
  else if p.input ≠ [] then some (.error "Proxy has sent too many data")
  else some (.ok ())

/-- `flush_mailbox`: the events are handled up to one that stops the actor.  The results that the
callback is given come with the event that was handled. -/
def flushMailbox (ios : ℕ → SocketIo) (p : TransparentProxy σ) :
    List ActorEvent → TransparentProxy σ × List (ActorEvent × SocketResult)
  | [] => (p, [])
  | e :: es =>
      if p.stopped then (p, [])
      else
        let (q, result) := p.handle loopImpl (ios 0) e
        let (r, results) := q.flushMailbox (fun n => ios (n + 1)) es
        (r, (result.map (e, ·)).toList ++ results)

end TransparentProxy

end RioGram
