import ReorgGuard.Checkpoint.Conflict
import ReorgGuard.Checkpoint.Hardcoded
import ReorgGuard.Checkpoint.Loader
import ReorgGuard.Checkpoint.Verdict
import ReorgGuard.Settings.Config

/-!
The store of checkpoints that a node asks.

A store publishes one frozen table, built from the hardcoded checkpoints, the hashfile and the
feed.  A reload builds a new table from the sources as they are then and publishes it only if
it agrees with the published one at every height that both pin; otherwise everything stays.
-/

namespace ReorgGuard.Checkpoint

open ReorgGuard.Settings (Config)

inductive BuildError where
  | seed (error : SeedError)
  | load (error : LoadError)
  /-- The sources were read and are not fine. -/
  | notLoaded (network : Network)

/-- What surrounds a build: the files, the resolver and the time. -/
structure World where
  files : Files
  here : Feed.Surroundings

structure Built where
  feed : Option FeedSource
  web : Feed.Web
  records : List Journal.Record
  answer : Except BuildError Load

def storeOrigin : String := "pinchain.checkpoints.store"

/-- The feed of a build: the given one, or the endpoints of the configuration if records are wanted. -/
def feedFor (config : Config) (given : Option FeedSource) (remote : Bool) : FeedSource :=
  match given with
  | some feed => feed
  | none => if remote then .endpoints config.feed (.new config.feed.clientOptions) else .disabled

def build (world : World) (web : Feed.Web) (config : Config) (given : Option FeedSource)
    (remote : Option Bool) : Built :=
  let remote := remote.getD config.feed.enabled
  let seeded := Table.empty.seed config.network
  match seeded.answer with
  | .error e => ⟨given, web, seeded.records, .error (.seed e)⟩
  | .ok () =>
      let loaded := (Load.mk seeded.table []).takeAll (feedFor config given remote)
        config.feed.required world.files world.here web config.checkpointsPath config.network remote
      let feed := given.map fun _ => loaded.feed
      let written := seeded.records ++ loaded.records
      match loaded.answer with
      | .error e => ⟨feed, loaded.web, written, .error (.load e)⟩
      | .ok false => ⟨feed, loaded.web, written, .error (.notLoaded config.network)⟩
      | .ok true =>
          let table := loaded.load.table.freeze
          let ready : Journal.Record :=
            ⟨.info, storeOrigin,
              s!"checkpoint table ready: {table.size} points, max height {table.maxHeight}"⟩
          ⟨feed, loaded.web, written ++ [ready], .ok ⟨table, loaded.load.reports⟩⟩

/-- A store: the published table with the reports of its build, and what a reload needs. -/
structure Store where
  table : Table
  reports : List Report
  config : Option Config
  feed : Option FeedSource

inductive ReloadError where
  | noConfig
  | build (error : BuildError)
  | conflict (height : Option Nat)

def BuildError.notLoadedMessage (network : Network) : String :=
  s!"failed to load checkpoints for {network.name}"

def ReloadError.message : ReloadError → String
  | noConfig => "store was built without a config; nothing to reload from"
  | conflict height =>
      let shown := (height.map Numeral.natText).getD "None"
      s!"reloaded checkpoints conflict at height {shown}"
  | build _ => ""

structure Stored (ε α : Type) where
  store : α
  web : Feed.Web
  records : List Journal.Record
  answer : Except ε Table

namespace Store

def wrap (table : Table) (config : Option Config) (feed : Option FeedSource) : Store :=
  ⟨table.freeze, [], config, feed⟩

def bootstrap (world : World) (web : Feed.Web) (config : Config) (feed : Option FeedSource)
    (remote : Option Bool) : Built × Except BuildError Store :=
  let built := build world web config feed remote
  (built, built.answer.map fun load =>
    { wrap load.table (some config) built.feed with reports := load.reports })

/-- Builds a new table and publishes it if it agrees with the published one. -/
def reload (store : Store) (world : World) (web : Feed.Web) (remote : Option Bool) :
    Stored ReloadError Store :=
  match store.config with
  | none => ⟨store, web, [], .error .noConfig⟩
  | some config =>
      let built := Checkpoint.build world web config store.feed remote
      let kept := { store with feed := built.feed }
      match built.answer with
      | .error e => ⟨kept, built.web, built.records, .error (.build e)⟩
      | .ok load =>
          if store.table.agrees load.table then
            let done : Journal.Record :=
              ⟨.info, storeOrigin, s!"checkpoint table reloaded, max height {load.table.maxHeight}"⟩
            ⟨{ kept with table := load.table, reports := load.reports }, built.web,
              built.records ++ [done], .ok load.table⟩
          else
            ⟨kept, built.web, built.records ++ store.table.disagreement load.table,
              .error (.conflict ((store.table.conflicts load.table).head?.map Conflict.height))⟩

end Store

end ReorgGuard.Checkpoint
