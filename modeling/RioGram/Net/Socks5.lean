import RioGram.Net.TransparentProxy

/-!
# `Socks5`

The greeting, the optional authentication and the request to connect, each waiting for its answer.
-/

namespace RioGram

open Wire

namespace Socks5

inductive State where
  | sendGreeting | waitGreetingResponse | waitPasswordResponse | waitIpAddressResponse
  deriving DecidableEq, Repr

/-- A `char` as an `int`. -/
def charToInt (c : UInt8) : ℤ := if c.toNat < 128 then c.toNat else c.toNat - 256

/-- `send_greeting`. -/
def greeting (username : Bytes) : Bytes := if username = [] then [5, 1, 0] else [5, 2, 0, 2]

/-- `send_username_password`. -/
def sendUsernamePassword (username password input : Bytes) : Except String (LoopResult State) :=
  if username.length ≥ 128 then .error "Username is too long"
  else if password.length ≥ 128 then .error "Password is too long"
  else
    .ok
      { state := .waitPasswordResponse
        input
        output := [1, UInt8.ofNat username.length] ++ username ++
          [UInt8.ofNat password.length] ++ password }

/-- `send_ip_address`, where `request` is the request to connect to the address. -/
def sendIpAddress (request input : Bytes) : LoopResult State :=
  { state := .waitIpAddressResponse, input, output := request }

/-- `wait_ip_address_response`, once the type of the address is known to be one of `size` bytes. -/
def skipIpAddress (size : ℕ) (input : Bytes) : LoopResult State :=
  if input.length < 4 + size + 2 then { state := .waitIpAddressResponse, input }
  else { state := .waitIpAddressResponse, input := input.drop (4 + size + 2), stop := true }

/-- `loop_impl`. -/
def loopImpl (username password request : Bytes) (state : State) (input : Bytes) :
    Except String (LoopResult State) :=
  match state with
  | .sendGreeting => .ok { state := .waitGreetingResponse, input, output := greeting username }
  | .waitGreetingResponse =>
      match input with
      | version :: method :: rest =>
          if version ≠ 5 then
            .error s!"Unsupported socks protocol version {charToInt version}"
          else if method = 0 then .ok (sendIpAddress request rest)
          else if method = 2 then sendUsernamePassword username password rest
          else .error "Unsupported authentication mode"
      | _ => .ok { state, input }
  | .waitPasswordResponse =>
      match input with
      | version :: status :: rest =>
          if version ≠ 1 then
            .error s!"Unsupported socks subnegotiation protocol version {charToInt version}"
          else if status ≠ 0 then .error "Wrong username or password"
          else .ok (sendIpAddress request rest)
      | _ => .ok { state, input }
  | .waitIpAddressResponse =>
      match input with
      | version :: code :: zero :: type :: _ =>
          if version ≠ 5 then .error "Invalid response"
          else if code ≠ 0 then .error s!"Receive error code {charToInt code} from server"
          else if zero ≠ 0 then .error "Byte must be zero"
          else if type = 1 then .ok (skipIpAddress 4 input)
          else if type = 4 then .ok (skipIpAddress 16 input)
          else .error "Invalid response"
      | _ => .ok { state, input }

end Socks5

end RioGram
