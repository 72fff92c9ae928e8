/-!
The networks a node can run on.
-/

namespace ReorgGuard.Checkpoint

inductive Network where
  | mainnet
  | testnet
  | stagenet
  deriving DecidableEq

namespace Network

def name : Network → String
  | mainnet => "mainnet"
  | testnet => "testnet"
  | stagenet => "stagenet"

def all : List Network := [mainnet, testnet, stagenet]

def ofName? (name : String) : Option Network :=
  all.find? (·.name == name)

end Network

end ReorgGuard.Checkpoint
