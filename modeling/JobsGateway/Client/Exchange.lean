import JobsGateway.Client.Outgoing
import JobsGateway.Client.Reply

/-!
# Exchanges with a peer

What the network does is given from outside: for each URL, whether its host can be reached, and what
it sends until it closes the connection, falls silent or the connection is reset. A peer reads a
request as a whole before it sends anything.

A client may go where a reply leads, and it may keep connections for later requests. One that was
kept can turn out to have been closed, and then the request is sent again. `Client.send` says what
comes of a request: how often it was sent, what peers have read, and the reply or why there is none.
The client of the backend follows nothing and keeps nothing; `Outgoing.send` is what it does.
-/

namespace JobsGateway

/-- What comes of contacting a host: the network has no way to it, whatever is sent to it gets lost,
it refuses the connection, or it reads the request and sends octets. -/
inductive Contact where
  | unreachable
  | lost
  | refused
  | sends (octets : Bytes) (parting : Parting)
  deriving Repr, DecidableEq, Inhabited

namespace Contact

/-- The peer answers with octets and closes the connection. -/
abbrev answers (octets : Bytes) : Contact := .sends octets .closes

/-- The peer sends octets, and nothing more while the client waits. -/
abbrev stalls (octets : Bytes) : Contact := .sends octets .stalls

/-- The peer sends octets, and then the connection is reset. -/
abbrev resets (octets : Bytes) : Contact := .sends octets .resets

/-- The peer reads the request and stays silent. -/
abbrev silent : Contact := .stalls []

end Contact

/-- What comes of contacting the host of a URL. -/
abbrev Network := Url → Contact

/-- Why there is no reply to a request. -/
inductive ClientError where
  | notAllowed (url : Url)
  | invalidTarget (url : Url)
  | unreachable (url : Url)
  | refused (url : Url)
  | timeout (url : Url)
  | reset (url : Url)
  | badHead (url : Url) (fault : HeadFault)
  | badBody (fault : BodyFault)
  deriving Repr, DecidableEq, Inhabited

namespace ClientError

/-- A kind of failure with the URL that was asked. -/
def about (kind : String) (url : Url) : Text :=
  kind.toList ++ " for url (".toList ++ url.text ++ [')']

/-- The error and its sources, the outermost first. -/
def chain : ClientError → List Text
  | .notAllowed url => [about "builder error" url, "URL scheme is not allowed".toList]
  | .invalidTarget url => [about "builder error" url, "Parsed Url is not a valid Uri".toList]
  | .unreachable url =>
    [about "error sending request" url, "client error (Connect)".toList,
      "tcp connect error".toList, "Network is unreachable (os error 101)".toList]
  | .refused url =>
    [about "error sending request" url, "client error (Connect)".toList,
      "tcp connect error".toList, "Connection refused (os error 111)".toList]
  | .timeout url => [about "error sending request" url, "operation timed out".toList]
  | .reset url =>
    [about "error sending request" url, "client error (SendRequest)".toList,
      "connection error".toList, "Connection reset by peer (os error 104)".toList]
  | .badHead url fault =>
    [about "error sending request" url, "client error (SendRequest)".toList, fault.text]
  | .badBody .late =>
    ["error decoding response body".toList, "request or response body error".toList,
      BodyFault.late.text]
  | .badBody fault =>
    ["error decoding response body".toList, "request or response body error".toList,
      "error reading a body from connection".toList, fault.text]

/-- The error without its sources. -/
def headline (e : ClientError) : Text :=
  (e.chain.head?).getD []

/-- Whether the time ran out, before the head of a reply or in its body. -/
def isTimeout : ClientError → Bool
  | .timeout _ => true
  | .badBody .late => true
  | _ => false

end ClientError

/-- The error of a reply without a head. Only where the octets run out before the head ends does it
matter what comes after them. -/
def Parting.headError (parting : Parting) (url : Url) : HeadFault → ClientError
  | .closed =>
    match parting with
    | .closes => .badHead url .closed
    | .stalls => .timeout url
    | .resets => .reset url
  | fault => .badHead url fault

/-- The texts of an error and its sources, the outermost first, in one line. -/
def describe (chain : List Text) : Text :=
  [':', ' '].intercalate chain

/-- What came of a request: how often it was sent, what peers have read, and the last reply. -/
structure Exchange where
  tries : Nat
  received : Array Delivery
  outcome : Except ClientError Reply

/-- The longest URL that can be asked for. -/
def targetLimit : Nat := 65534

/-- Whether a URL can be asked for: it is not too long, and its host has no quote. -/
def isAskable (url : Url) : Bool :=
  url.text.length ≤ targetLimit && !((url.authority.map Authority.hostText).getD []).contains '"'

/-- A reply as a response, if its body is whole. -/
def Reply.whole (r : Reply) : Except ClientError Response :=
  match r.body with
  | .ok body => .ok ⟨r.status, r.fields, body⟩
  | .error fault => .error (.badBody fault)

/-- What comes of a request by contacting its peer, after `stale` connections that were kept and
turned out to be closed. -/
def Outgoing.meets (r : Outgoing) (stale : Nat) : Contact → Exchange
  | .unreachable => ⟨stale + 1, #[], .error (.unreachable r.url)⟩
  | .lost => ⟨stale + 1, #[], .error (.timeout r.url)⟩
  | .refused => ⟨stale + 1, #[], .error (.refused r.url)⟩
  | .sends octets parting =>
    ⟨stale + 1, #[r.deliver],
      (Reply.read parting r.method octets).mapError (parting.headError r.url)⟩

/-- How a client goes about its requests: the request that a reply leads it to, how many replies it
follows, and how many connections to a host it keeps when they are not in use. -/
structure Client where
  follow : Outgoing → Reply → Option Outgoing
  redirects : Nat
  idle : Nat

namespace Client

variable (c : Client) (stale : Url → Nat) (network : Network)

/-- Sends a request, and takes the first reply. `stale` says how many connections to the host of a
URL were closed after their last use; the client may have kept some of them. -/
def ask (r : Outgoing) : Exchange :=
  if !r.url.isWeb then ⟨0, #[], .error (.notAllowed r.url)⟩
  else if !isAskable r.url then ⟨0, #[], .error (.invalidTarget r.url)⟩
  else r.meets (min (stale r.url) c.idle) (network r.url)

/-- Sends a request, and goes where a reply leads, so many times. -/
def askOn : Nat → Outgoing → Exchange
  | 0, r => c.ask stale network r
  | times + 1, r =>
    let first := c.ask stale network r
    match first.outcome.toOption.bind (c.follow r) with
    | none => first
    | some next =>
      let rest := askOn times next
      ⟨first.tries + rest.tries, first.received ++ rest.received, rest.outcome⟩

/-- Sends a request. -/
def send (r : Outgoing) : Exchange :=
  c.askOn stale network c.redirects r

/-- The client that goes nowhere and keeps nothing. -/
def steady : Client := ⟨fun _ _ => none, 0, 0⟩

end Client

/-- Sends a request and reads the reply, with the steady client. -/
def Outgoing.send (r : Outgoing) (network : Network) : Exchange :=
  Client.steady.send (fun _ => 0) network r

end JobsGateway
