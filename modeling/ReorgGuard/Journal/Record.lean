/-!
Records of the journal.

Every operation gives back the records that it wrote, in order.  Nothing is lost when an
operation fails: the records up to the failure are part of its outcome.
-/

namespace ReorgGuard.Journal

inductive Level where
  | debug
  | info
  | warning
  | error
  | critical
  deriving DecidableEq

/-- The rank of a level; only the order of the ranks matters. -/
def Level.rank : Level → Nat
  | debug => 10
  | info => 20
  | warning => 30
  | error => 40
  | critical => 50

def Level.name : Level → String
  | debug => "DEBUG"
  | info => "INFO"
  | warning => "WARNING"
  | error => "ERROR"
  | critical => "CRITICAL"

def Level.ofName? (name : String) : Option Level :=
  [debug, info, warning, error, critical].find? (·.name == name)

structure Record where
  level : Level
  origin : String
  message : String

end ReorgGuard.Journal
