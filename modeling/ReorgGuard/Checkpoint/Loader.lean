import ReorgGuard.Checkpoint.FeedRecord
import ReorgGuard.Checkpoint.Hashfile
import ReorgGuard.Feed.Endpoints

/-!
Loading a table from a hashfile and a feed.

The order of sources is fixed: first what the table already holds, then the hashfile, then the
feed.  Each source may only add heights above everything that came before it.  The hashfile is
trusted and taken in strictly, so one contradiction fails the load; the feed is not trusted,
and what does not fit is dropped.  Unless the feed is required, its failure changes nothing.
-/

namespace ReorgGuard.Checkpoint

open ReorgGuard.Feed (FeedError)

inductive FeedSource where
  | disabled
  | fixed (records : List (Network × List String))
  | unreachable (message : String)
  | endpoints (settings : Feed.Settings) (client : Feed.Client)

structure FeedFetch where
  source : FeedSource
  web : Feed.Web
  records : List Journal.Record
  answer : Except FeedError (List String)

def FeedSource.fetch (here : Feed.Surroundings) (web : Feed.Web) (network : Network) :
    FeedSource → FeedFetch
  | disabled => ⟨disabled, web, [], .error .disabled⟩
  | fixed records => ⟨fixed records, web, [], .ok ((records.lookup network).getD [])⟩
  | unreachable message => ⟨unreachable message, web, [], .error (.unreachable message)⟩
  | endpoints settings client =>
      let fetched := Feed.fetchEndpoints settings here client web network
      ⟨endpoints settings fetched.client, fetched.web, fetched.records, fetched.answer⟩

inductive LoadError where
  | file (error : ReadError)
  | intake (error : IntakeError)
  | call (error : Feed.CallError)

/-- A table with the reports on the sources taken in so far. -/
structure Load where
  table : Table
  reports : List Report

/-- What a step of a load led to; the answer tells whether the source is fine. -/
structure LoadStep where
  load : Load
  records : List Journal.Record
  answer : Except LoadError Bool

namespace Load

def origin : String := "pinchain.checkpoints.loader"

def absorb (load : Load) (intake : Intake) (entries : List Entry) : LoadStep :=
  let absorbed := load.table.absorb intake entries
  match absorbed.answer with
  | .ok report =>
      ⟨⟨absorbed.table, load.reports ++ [report]⟩, absorbed.records, .ok report.ok⟩
  | .error e => ⟨⟨absorbed.table, load.reports⟩, absorbed.records, .error (.intake e)⟩

/-- Takes in what was read of a hashfile, above a floor or, if there is none, above the table. -/
def takeFile (load : Load) (path : String) (floor : Value)
    (found : Except ReadError (Option (List HashLine))) : LoadStep :=
  match found with
  | .error (.source fault) =>
      ⟨{ load with reports := load.reports ++ [{ Report.start path with ok := false }] },
        [⟨.error, origin, s!"error loading checkpoints from {path}: {fault.message}"⟩], .ok false⟩
  | .error e => ⟨load, [], .error (.file e)⟩
  | .ok none => ⟨load, [⟨.info, origin, s!"checkpoints file not found: {path}"⟩], .ok true⟩
  | .ok (some lines) =>
      let floor := match floor with
        | .null => .int load.table.maxHeight
        | floor => floor
      let opening : List Journal.Record := match countText? floor with
        | some above => [⟨.info, origin, s!"adding checkpoints from {path} above height {above}"⟩]
        | none => []
      let step := load.absorb ⟨path, floor, true⟩ (Hashfile.entries lines)
      { step with records := opening ++ step.records }

def takeFileAt (load : Load) (files : Files) (path : Option Path) (floor : Value) : LoadStep :=
  match path with
  | none => ⟨load, [], .ok true⟩
  | some path => load.takeFile path.text floor (Hashfile.read files path)

def takeFeed (load : Load) (network : Network) (fetched : Except FeedError (List String)) : LoadStep :=
  match fetched with
  | .error .disabled => ⟨load, [⟨.info, origin, "remote checkpoint feed disabled"⟩], .ok false⟩
  | .error (.unreachable message) =>
      ⟨load, [⟨.warning, origin, s!"remote checkpoint feed failed: {message}"⟩], .ok false⟩
  | .error (.call e) => ⟨load, [], .error (.call e)⟩
  | .ok records =>
      match FeedRecord.readAll records with
      | .error l => ⟨load, [], .error (.intake (.offer (.limit l)))⟩
      | .ok kept =>
          let step := load.absorb ⟨s!"feed:{network.name}", .int load.table.maxHeight, false⟩
            (FeedRecord.entries kept)
          { step with records := FeedRecord.dropped records kept ++ step.records }

/-- The verdict on a load after its feed, and the record written about a feed that failed without being
required. -/
def weigh (required fileFine feedFine : Bool) : Bool × List Journal.Record :=
  if required then (fileFine && feedFine, [])
  else
    (fileFine,
      if feedFine then [] else [⟨.warning, origin, "continuing without remote checkpoints"⟩])

end Load

structure Loaded where
  load : Load
  feed : FeedSource
  web : Feed.Web
  records : List Journal.Record
  answer : Except LoadError Bool

def Load.takeFeedFrom (load : Load) (feed : FeedSource) (here : Feed.Surroundings) (web : Feed.Web)
    (network : Network) : Loaded :=
  let fetched := feed.fetch here web network
  let step := load.takeFeed network fetched.answer
  ⟨step.load, fetched.source, fetched.web, fetched.records ++ step.records, step.answer⟩

def Load.takeAll (load : Load) (feed : FeedSource) (required : Bool) (files : Files)
    (here : Feed.Surroundings) (web : Feed.Web) (path : Option Path) (network : Network) (remote : Bool) :
    Loaded :=
  let before := load.table.maxHeight
  let opening : Journal.Record :=
    ⟨.debug, Load.origin, s!"hardcoded max checkpoint height is {before}"⟩
  let file := load.takeFileAt files path (.int before)
  let written := opening :: file.records
  match file.answer with
  | .error e => ⟨file.load, feed, web, written, .error e⟩
  | .ok fileFine =>
      if remote then
        let rest := file.load.takeFeedFrom feed here web network
        match rest.answer with
        | .error e => { rest with records := written ++ rest.records, answer := .error e }
        | .ok feedFine =>
            let (answer, closing) := Load.weigh required fileFine feedFine
            { rest with records := written ++ rest.records ++ closing, answer := .ok answer }
      else ⟨file.load, feed, web, written, .ok fileFine⟩

end ReorgGuard.Checkpoint
