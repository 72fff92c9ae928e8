import ReorgGuard.Checkpoint.Network
import ReorgGuard.Feed.Client

/-!
Feeds served by endpoints on the web.

The records of all endpoints of a network are pooled in the order of the endpoints.  An endpoint that
fails is passed over; only when all of them fail has the feed failed.
-/

namespace ReorgGuard.Feed

open ReorgGuard.Checkpoint

structure Settings where
  enabled : Bool
  required : Bool
  urls : List (Network × List Link)
  timeout : Float
  maxRetries : Int
  maxBytes : Int
  maxRecords : Int
  allowPrivate : Bool

namespace Settings

def default : Settings := ⟨false, false, [], 10.0, 2, 256 * 1024, 10000, false⟩

def urlsFor (settings : Settings) (network : Network) : List Link :=
  (settings.urls.lookup network).getD []

def clientOptions (settings : Settings) : ClientOptions :=
  { ClientOptions.default with
    maxRetries := .int settings.maxRetries
    allowPrivate := settings.allowPrivate }

def expectation (settings : Settings) : Expectation :=
  ⟨some .list, .int settings.maxBytes, .int settings.maxRecords⟩

end Settings

inductive FeedError where
  | disabled
  | unreachable (message : String)
  /-- A call failed in a way that no other endpoint makes good. -/
  | call (error : CallError)

def feedOrigin : String := "pinchain.checkpoints.sources"

def CallError.isTolerated : CallError → Bool
  | .failure f => f.trouble.isTolerable
  | _ => false

def textItems : Value → List String
  | .list items => items.filterMap fun item => match item with
    | .text s => some s
    | .ragged s => some s
    | _ => none
  | _ => []

/-- The endpoints that are left: client and web afterwards, pauses, records of the journal, and the records
pooled with the number of failed endpoints. -/
def pool (settings : Settings) (here : Surroundings) (client : Client) (web : Web) :
    List Link → Called (List String × Nat)
  | [] => ⟨client, web, [], [], .ok ([], 0)⟩
  | url :: rest =>
      let called := client.getDocument web here settings.expectation url
      let goOn (records : List Journal.Record) (found : List String) (failures : Nat) :
          Called (List String × Nat) :=
        let others := pool settings here.later called.client called.web rest
        { others with
          pauses := called.pauses ++ others.pauses
          records := called.records ++ records ++ others.records
          answer := others.answer.map fun p => (found ++ p.1, failures + p.2) }
      match called.answer with
      | .ok value => goOn [] (textItems value) 0
      | .error e =>
          if e.isTolerated then
            goOn [⟨.warning, feedOrigin, s!"checkpoint feed {url.text} unavailable: {e.message}"⟩] [] 1
          else ⟨called.client, called.web, called.pauses, called.records, .error e⟩

structure Fetched where
  client : Client
  web : Web
  pauses : List Float
  records : List Journal.Record
  answer : Except FeedError (List String)

def fetchEndpoints (settings : Settings) (here : Surroundings) (client : Client) (web : Web)
    (network : Network) : Fetched :=
  match settings.urlsFor network with
  | [] =>
      ⟨client, web, [], [⟨.info, feedOrigin, s!"no feed urls configured for {network.name}"⟩], .ok []⟩
  | urls =>
      let pooled := pool settings here client web urls
      let answer := match pooled.answer with
        | .error e => .error (.call e)
        | .ok (records, failures) =>
            if failures = urls.length then
              .error (.unreachable
                s!"all {failures} checkpoint feed url(s) failed for {network.name}")
            else .ok records
      ⟨pooled.client, pooled.web, pooled.pauses, pooled.records, answer⟩

end ReorgGuard.Feed
