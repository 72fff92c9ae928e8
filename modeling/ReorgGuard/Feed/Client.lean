import ReorgGuard.Feed.Breaker
import ReorgGuard.Feed.Policy
import ReorgGuard.Feed.Target
import ReorgGuard.Feed.Web
import ReorgGuard.Journal.Record
import ReorgGuard.Json.Reader
import ReorgGuard.Text.Encoding
import ReorgGuard.Value.Whole

/-!
The client that fetches feeds.

A URL that the policy refuses is never requested, nor one whose breaker is open.  A request that
fails in passing is repeated, after a pause that doubles each time up to a cap; any other failure
ends the call at once.  Each URL has its own breaker, by its spelling; what is requested is its target.
A URL with half of a surrogate pair can be judged by the policy, and it has no target.

The options are whatever the operator gave: a value that nothing can be done with breaks a call off
where it is needed.
-/

namespace ReorgGuard.Feed

structure ClientOptions where
  maxRetries : Value
  backoffCap : Value
  limits : BreakerLimits
  allowPrivate : Bool

def ClientOptions.default : ClientOptions :=
  ⟨.int 2, .float 8.0, ⟨.int 5, .float 30.0⟩, false⟩

/-- A client: its options, the breakers of the URLs called so far and whether it is closed. -/
structure Client where
  options : ClientOptions
  breakers : List (Link × Breaker)
  closed : Bool

inductive CallError where
  | failure (failure : Failure)
  | clientClosed
  | noAttempt
  /-- The resolver answered with something that is no address. -/
  | unreadableAddress (address : String)
  /-- The resolver could not be asked for the host. -/
  | unencodableHost (message : String)
  /-- A host in plain form has no everyday form. -/
  | hostname (fault : Hostname.DomainFault)
  /-- A field of a delivery cannot go over the wire. -/
  | field (fault : DeliveryFault)
  | broken (breakdown : Breakdown)

def CallError.message : CallError → String
  | failure f => f.message
  | clientClosed => "Cannot send a request, as the client has been closed."
  | noAttempt => ""
  | unreadableAddress address =>
      Text.quote address ++ " does not appear to be an IPv4 or IPv6 address"
  | unencodableHost message => message
  | hostname fault => fault.message
  | field fault => fault.message
  | broken breakdown => breakdown.message?.getD ""

/-- What surrounds calls that are made one after the other: the resolver and the clock. -/
structure Surroundings where
  resolve : Resolver
  /-- What the clock shows in each call: first when the call comes to its breaker, then behind each request. -/
  readings : Nat → Nat → Float

namespace Surroundings

def entered (here : Surroundings) : Float := here.readings 0 0

/-- The time at which a request of the first call has ended. -/
def ended (here : Surroundings) (request : Nat) : Float := here.readings 0 (request + 1)

/-- The surroundings of the calls behind the first one. -/
def later (here : Surroundings) : Surroundings :=
  { here with readings := fun call => here.readings (call + 1) }

end Surroundings

/-- The attempts of one call: the web and the breaker afterwards, the pauses made, the records written
and the outcome of the last attempt. -/
structure Attempts where
  web : Web
  breaker : Breaker
  pauses : List Float
  records : List Journal.Record
  outcome : Except CallError Response

def clientOrigin : String := "pinchain.core.client"

def ClientOptions.pause (options : ClientOptions) (attempt : Nat) : Except Breakdown Float :=
  let doubled := Value.int (Nat.pow 2 attempt)
  match doubled.magnitude?, options.backoffCap.magnitude? with
  | some d, some cap =>
      .ok (((if cap.below d then options.backoffCap else doubled).asNumber?).getD 0.0)
  | _, _ => .error .unfitKind

def ClientOptions.attempts (options : ClientOptions) : Except Breakdown Nat :=
  match options.maxRetries with
  | .bool b => .ok (if b then 2 else 1)
  | .int n => .ok (n + 1).toNat
  | _ => .error .unfitKind

def attemptRecord (url : String) (attempt : Nat) (failure : Failure) : Journal.Record :=
  let number := attempt + 1
  ⟨.debug, clientOrigin, s!"feed fetch attempt {number} failed for {url}: {failure.message}"⟩

def targetOf (url : Link) : Except CallError Target := do
  let target ← (Target.ofRequest url.text).mapError fun fault => .failure ⟨.invalidUrl, fault.message⟩
  if url.ragged then .error (.broken .unencodable)
  else
    match target.hostFault? with
    | some fault => .error (.hostname fault)
    | none => .ok target

def redirectError? (target : Target) (response : Response) : Option CallError :=
  (response.location?.bind target.redirectFault?).map fun fault =>
    match fault with
    | .location fault =>
        .failure ⟨.remoteProtocolError, s!"Invalid URL in location header: {fault.message}."⟩
    | .hostname fault => .hostname fault
    | .target fault => .failure ⟨.invalidUrl, fault.message⟩

/-- The response in a delivery for a target, if it is a success.  What came for a target without a scheme
belongs to no host and is refused. -/
def Delivery.outcome (target : Target) (delivery : Delivery) : Except CallError Response := do
  let response ← delivery.receive.mapError fun fault =>
    match fault with
    | .fieldKind => .broken .unfitKind
    | .content fault => .failure ⟨.decodingError, fault.message⟩
    | fault => .field fault
  if !target.isAbsolute then
    .error (.broken (.noMeaning ("unknown url type: " ++ Text.quote target.text)))
  else
    match redirectError? target response with
    | some error => .error error
    | none =>
        if response.isSuccess then .ok response
        else .error (.failure ⟨.badStatus, response.complaint target.text⟩)

def Reply.outcome (target : Target) : Reply → Except CallError Response
  | .delivery d => d.outcome target
  | .failure f => .error (.failure f)
  | .broken b => .error (.broken b)

/-- Makes attempts; so many more are left behind the first one.  The clock tells when each of them has ended. -/
def attemptsFrom (options : ClientOptions) (clock : Nat → Float) (url : String) (target : Target) (attempt : Nat)
    (web : Web) (breaker : Breaker) (left : Nat) : Attempts :=
  let (reply, web) := web.request target.text
  match reply.outcome target with
  | .ok response => ⟨web, breaker.succeeded, [], [], .ok response⟩
  | .error (.failure failure) =>
      if failure.trouble.isPassing then
        let (breaker, breakdown) := breaker.failed options.limits (clock attempt)
        match breakdown with
        | some breakdown => ⟨web, breaker, [], [], .error (.broken breakdown)⟩
        | none =>
            let written := attemptRecord url attempt failure
            match left with
            | 0 => ⟨web, breaker, [], [written], .error (.failure failure)⟩
            | left + 1 =>
                match options.pause attempt with
                | .error breakdown => ⟨web, breaker, [], [written], .error (.broken breakdown)⟩
                | .ok pause =>
                    let rest := attemptsFrom options clock url target (attempt + 1) web breaker left
                    { rest with
                      pauses := pause :: rest.pauses
                      records := written :: rest.records }
      else ⟨web, breaker, [], [], .error (.failure failure)⟩
  | .error error => ⟨web, breaker, [], [], .error error⟩

structure Called (α : Type) where
  client : Client
  web : Web
  pauses : List Float
  records : List Journal.Record
  answer : Except CallError α

namespace Client

def new (options : ClientOptions) : Client := ⟨options, [], false⟩

def breaker (client : Client) (url : Link) : Breaker :=
  (client.breakers.lookup url).getD .closed

def setBreaker (client : Client) (url : Link) (breaker : Breaker) : Client :=
  let rec put : List (Link × Breaker) → List (Link × Breaker)
    | [] => [(url, breaker)]
    | entry :: rest => if entry.1 = url then (url, breaker) :: rest else entry :: put rest
  { client with breakers := put client.breakers }

def close (client : Client) : Client := { client with closed := true }

def request (client : Client) (web : Web) (here : Surroundings) (url : Link) (attempts : Nat) :
    Called Response :=
  match attempts with
  | 0 => ⟨client, web, [], [], .error .noAttempt⟩
  | left + 1 =>
      match targetOf url with
      | .error error => ⟨client, web, [], [], .error error⟩
      | .ok target =>
          if client.closed then ⟨client, web, [], [], .error .clientClosed⟩
          else
            let made := attemptsFrom client.options here.ended url.text target 0 web (client.breaker url) left
            ⟨client.setBreaker url made.breaker, made.web, made.pauses, made.records, made.outcome⟩

def get (client : Client) (web : Web) (here : Surroundings) (url : Link) : Called Response :=
  match checkUrl here.resolve client.options.allowPrivate url.text with
  | .unreadableAddress address => ⟨client, web, [], [], .error (.unreadableAddress address)⟩
  | .unencodableHost message => ⟨client, web, [], [], .error (.unencodableHost message)⟩
  | .refused fault _ =>
      ⟨client, web, [], [], .error (.failure ⟨.unsupportedProtocol, s!"blocked_url ({fault.reason})"⟩)⟩
  | .allowed _ =>
      let limits := client.options.limits
      let before := client.breaker url
      let client := client.setBreaker url (before.asked limits here.entered)
      match before.allows limits here.entered with
      | .error breakdown => ⟨client, web, [], [], .error (.broken breakdown)⟩
      | .ok false => ⟨client, web, [], [], .error (.failure ⟨.transport, "circuit breaker open"⟩)⟩
      | .ok true =>
          match client.options.attempts with
          | .error breakdown => ⟨client, web, [], [], .error (.broken breakdown)⟩
          | .ok attempts => client.request web here url attempts

end Client

inductive Shape where
  | list
  | dict
  | text

def Shape.fits : Shape → Value → Bool
  | list, .list _ => true
  | dict, .dict _ => true
  | text, .text _ => true
  | text, .ragged _ => true
  | _, _ => false

structure Expectation where
  shape : Option Shape
  maxBytes : Value
  maxItems : Value

def Expectation.default : Expectation := ⟨none, .int (256 * 1024), .int 10000⟩

def documentError (message : String) : CallError := .failure ⟨.transport, message⟩

def Expectation.document (expected : Expectation) (content : List UInt8) : Except CallError Value := do
  let size := content.length
  let maxBytes ← expected.maxBytes.asWhole.mapError .broken
  if maxBytes < size then .error (documentError s!"response_too_large:{size}")
  else
    let value ← match Text.ofDocument? content with
      | none => .error (documentError "response_not_json")
      | some s =>
          (Json.read .message s).mapError fun fault =>
            match fault with
            | .malformed => documentError "response_not_json"
            | .tooDeep => .broken .tooDeep
    if expected.shape.elim false fun shape => !shape.fits value then
      .error (documentError "response_schema_mismatch")
    else
      match value with
      | .list items => do
          let count := items.length
          let maxItems ← expected.maxItems.asWhole.mapError .broken
          if maxItems < count then .error (documentError s!"response_too_many_items:{count}")
          else .ok value
      | _ => .ok value

/-- Calls a URL and reads the document in the response.  A document that is not as expected leaves the
breaker alone. -/
def Client.getDocument (client : Client) (web : Web) (here : Surroundings) (expected : Expectation)
    (url : Link) : Called Value :=
  let called := client.get web here url
  ⟨called.client, called.web, called.pauses, called.records,
    called.answer.bind fun response => expected.document response.content⟩

end ReorgGuard.Feed
