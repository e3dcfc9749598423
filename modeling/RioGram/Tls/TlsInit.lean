import RioGram.Net.TransparentProxy

/-!
# `TlsInit`

The client's side of the emulated TLS handshake: `send_hello` writes the header of
`generate_header`, and `wait_hello_response` looks for the two records a proxy answers with and
checks the digest in them.  The keyed digest is an arbitrary function.
-/

namespace RioGram

open Wire

namespace TlsInit

/-- What `wait_hello_response` makes of the input buffer. -/
inductive HelloResponse where
  /-- there are not enough bytes yet -/
  | incomplete
  /-- an error, after `on_tls_handshake_failure` -/
  | failed (error : String)
  /-- the response is the right one; the bytes behind it stay in the buffer -/
  | accepted (rest : Bytes)
  deriving DecidableEq, Repr

/-- What the two parts of a response start with, before their lengths. -/
def responsePrefixes : List Bytes := [[0x16, 3, 3], [0x14, 3, 3, 0, 1, 1, 0x17, 3, 3]]

/-- The loop of `wait_hello_response`: what is left behind the parts. -/
def skipParts : List Bytes → Bytes → Except HelloResponse Bytes
  | [], it => .ok it
  | start :: starts, it =>
      if it.length < start.length + 2 then .error .incomplete
      else if it.take start.length ≠ start then
        .error (.failed "First part of response to hello is invalid")
      else match it.drop start.length with
      | high :: low :: it =>
          let skipSize := high.toNat * 256 + low.toNat
          if it.length < skipSize then .error .incomplete else skipParts starts (it.drop skipSize)
      | _ => .error .incomplete

/-- `wait_hello_response`. -/
def waitHelloResponse (hmacSha256 : Bytes → Bytes → Bytes) (password helloRand input : Bytes) :
    HelloResponse :=
  match skipParts responsePrefixes input with
  | .error response => response
  | .ok rest =>
      let response := input.take (input.length - rest.length)
      let responseRand := (response.drop 11).take 32
      let zeroed :=
        response.take 11 ++ List.replicate responseRand.length 0 ++ response.drop (11 + responseRand.length)
      if hmacSha256 password (helloRand ++ zeroed) = responseRand then .accepted rest
      else .failed "Response hash mismatch"

inductive State where
  | sendHello
  | waitHelloResponse (helloRand : Bytes)
  deriving DecidableEq, Repr

/-- `loop_impl`, where `hello` is the header that `send_hello` generates. -/
def loopImpl (hmacSha256 : Bytes → Bytes → Bytes) (password hello : Bytes) (state : State)
    (input : Bytes) : Except String (LoopResult State) :=
  match state with
  | .sendHello =>
      .ok { state := .waitHelloResponse ((hello.drop 11).take 32), input, output := hello }
  | .waitHelloResponse helloRand =>
      match waitHelloResponse hmacSha256 password helloRand input with
      | .incomplete => .ok { state, input }
      | .failed error => .error error
      | .accepted rest => .ok { state, input := rest, stop := true }

end TlsInit

end RioGram
